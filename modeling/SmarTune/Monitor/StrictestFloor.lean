import SmarTune.Monitor.Selection
import Mathlib.Data.List.MinMax

/-!
# The floor for samples without a breakdown

An app whose traffic is not known per disk is judged against one class, the
first of those with the highest bandwidth figure.  That class decides on
operations per second too, where another class may ask for more.
-/

namespace SmarTune

/-- The classes of the floor table, in its order. -/
def Media.table : List Media := [.nvme, .sataSsd, .mmc, .hdd, .usb, .unknown]

theorem Media.mem_table (media : Media) : media ∈ table := by
  cases media <;> decide

/-- The first of the classes with the highest bandwidth figure. -/
def heaviestMedia (floors : Media → CandidateFloor) : Option Media :=
  Media.table.argmax fun media => (floors media).mbPerSecond

/-- Folding with a first candidate picks one of the candidates. -/
theorem foldl_argAux_some {Item : Type} (beats : Item → Item → Prop)
    [DecidableRel beats] (first : Item) (rest : List Item) :
    rest.foldl (List.argAux beats) (some first) = some (rest.foldl
        (fun best item => if beats item best then item else best) first) := by
  induction rest generalizing first with
  | nil => rfl
  | cons next rest hypothesis =>
    rw [List.foldl_cons, List.foldl_cons, ← hypothesis]
    congr 1
    simp only [List.argAux]
    split <;> rfl

theorem strictestFloor_eq (floors : Media → CandidateFloor) :
    ∃ top, heaviestMedia floors = some top ∧
      strictestFloor floors = floors top := by
  have folded := foldl_argAux_some (fun item best : Media =>
      (floors best).mbPerSecond < (floors item).mbPerSecond)
    .nvme [.sataSsd, .mmc, .hdd, .usb, .unknown]
  refine ⟨_, folded, ?_⟩
  rw [strictestFloor, List.foldl_map]
  apply List.foldl_hom floors
  intro best media
  split <;> rfl

theorem mbPerSecond_le_strictestFloor (floors : Media → CandidateFloor)
    (media : Media) :
    (floors media).mbPerSecond ≤ (strictestFloor floors).mbPerSecond := by
  obtain ⟨top, heaviest, strictest⟩ := strictestFloor_eq floors
  rw [strictest]
  have first : top ∈
      Media.table.argmax fun media => (floors media).mbPerSecond := heaviest
  have below := List.le_of_mem_argmax media.mem_table first
  exact below

/-! ## The two readings -/

/-- Rates are not negative. -/
structure DiskFigures.Nonneg (figures : DiskFigures) : Prop where
  readRate : 0 ≤ figures.readRate
  writeRate : 0 ≤ figures.writeRate
  readIops : 0 ≤ figures.readIops
  writeIops : 0 ≤ figures.writeIops

/-- A sample is judged as meant: without a breakdown only totals that reach
every floor are accepted, with one exactly the samples that reach the floor of
some disk's class. -/
structure JudgedAsMeant (floors : Media → CandidateFloor)
    (mediaForDisk : DiskName → Media) (process : ProcessIo) : Prop where
  totals : process.ioPerDisk = [] →
    qualifiesForThrottle floors mediaForDisk process = true →
    ∀ media, process.totals.reaches (floors media) = true
  breakdown : process.ioPerDisk ≠ [] →
    (qualifiesForThrottle floors mediaForDisk process = true ↔
      ∃ disk ∈ process.ioPerDisk,
        disk.2.reaches (floors (mediaForDisk disk.1)) = true)

/-- The heaviest class also asks for the most operations per second, but for
classes without a bandwidth floor. -/
def HeaviestIsStrictest (floors : Media → CandidateFloor) : Prop :=
  ∀ top, heaviestMedia floors = some top →
    ∀ media, 0 < (floors media).mbPerSecond →
      (floors media).iops ≤ (floors top).iops

/-- The operations alone reach the strictest floor. -/
def onlyOperations (iops : ℚ) : ProcessIo where
  totals := { readIops := iops }

theorem qualifies_onlyOperations (floors : Media → CandidateFloor)
    (mediaForDisk : DiskName → Media) {iops : ℚ}
    (enough : (strictestFloor floors).iops ≤ iops) :
    qualifiesForThrottle floors mediaForDisk (onlyOperations iops) = true := by
  simp [qualifiesForThrottle, onlyOperations, DiskFigures.reaches, enough]

theorem candidateFloors_nonneg (configured : Media → ConfiguredFloor)
    (media : Media) :
    0 ≤ (candidateFloors configured media).mbPerSecond ∧
      0 ≤ (candidateFloors configured media).iops := by
  have merged : ∀ (value : Option ℚ) (fallback : ℚ), 0 ≤ fallback →
      0 ≤ (value.filter fun value => 0 ≤ value).getD fallback := by
    intro value fallback nonneg
    cases value with
    | none => exact nonneg
    | some value =>
      rw [Option.filter_some]
      split
      · next usable => exact of_decide_eq_true usable
      · exact nonneg
  constructor
  · apply merged
    cases media <;> decide
  · apply merged
    cases media <;> decide

/-- Under a configured table every sample is judged as meant exactly when the
class with the highest bandwidth floor is the strictest on operations too. -/
theorem judgedAsMeant_iff (configured : Media → ConfiguredFloor)
    (mediaForDisk : DiskName → Media) :
    (∀ process : ProcessIo, process.totals.Nonneg →
      JudgedAsMeant (candidateFloors configured) mediaForDisk process) ↔
    HeaviestIsStrictest (candidateFloors configured) := by
  obtain ⟨top, heaviest, strictest⟩ :=
    strictestFloor_eq (candidateFloors configured)
  constructor
  · intro judged other otherHeaviest media bandwidth
    obtain rfl := Option.some.inj (heaviest.symm.trans otherHeaviest)
    have nonneg := (candidateFloors_nonneg configured top).2
    have accepted := (judged
      (onlyOperations (candidateFloors configured top).iops)
      ⟨le_rfl, le_rfl, nonneg, le_rfl⟩).totals rfl
      (qualifies_onlyOperations _ _ (strictest ▸ le_rfl)) media
    simpa [onlyOperations, DiskFigures.reaches, not_le.mpr bandwidth]
      using accepted
  · intro ordered process nonneg
    constructor
    · intro unknown accepted media
      rw [qualifiesForThrottle, if_pos (by simp [unknown])] at accepted
      simp only [DiskFigures.reaches, Bool.or_eq_true, decide_eq_true_eq]
        at accepted ⊢
      rcases accepted with bandwidth | operations
      · left
        exact (mbPerSecond_le_strictestFloor _ media).trans bandwidth
      · rcases (candidateFloors_nonneg configured media).1.eq_or_lt with
          free | positive
        · left
          rw [← free]
          exact add_nonneg nonneg.readRate nonneg.writeRate
        · right
          rw [strictest] at operations
          exact (ordered top heaviest media positive).trans operations
    · intro known
      rw [qualifiesForThrottle, if_neg (by simpa using known), List.any_eq_true]

/-- A disk that asks for many operations but little bandwidth: the floor of
hard disks is raised to 5000 operations per second. -/
def raisedHddFloor : Media → ConfiguredFloor
  | .hdd => { iops := some 5000 }
  | _ => {}

/-- An app with 2000 operations per second is accepted, far below the floor of
hard disks. -/
theorem accepted_below_hdd_floor :
    ¬ ∀ process : ProcessIo, process.totals.Nonneg →
      JudgedAsMeant (candidateFloors raisedHddFloor) (fun _ => .unknown)
        process := by
  intro judged
  have reached := (judged (onlyOperations 2000)
    ⟨by decide, by decide, by decide,
      by decide +kernel⟩).totals rfl (by decide +kernel) .hdd
  revert reached
  decide +kernel

end SmarTune
