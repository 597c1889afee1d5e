import SmarTune.Affinity.Pins
import Mathlib.Data.List.TakeWhile

/-!
# The CPU controller over several directories

A request binds or restores one directory after another.  What happens to a
directory is read off the controller before the first of them: the calls for
other directories do not touch it.
-/

namespace SmarTune

/-! ## The controller over several directories -/

namespace CpuController

variable
  (allowed : String → Option (Finset Nat))
  (controller : CpuController)

/-- `restore` of one directory after another. -/
def restoreEach (outcomes : String → RestoreCpusOutcomes)
    (controller : CpuController) :
    List String → List (String × RestoreCpusReply) × CpuController
  | [] => ([], controller)
  | directory :: rest =>
    let result := controller.restore (PinSystem.parent allowed directory)
      directory (outcomes directory)
    let later := restoreEach outcomes result.2 rest
    ((directory, result.1) :: later.1, later.2)

/-- What `set_cpus` over several directories did. -/
structure Bound where
  done : List String
  /-- The first directory that failed. -/
  failed : Option (String × SetCpusReply)
  controller : CpuController

/-- `set_cpus` of one directory after another, up to the first failure. -/
def bindEach (value : String) (outcomes : String → SetCpusOutcomes)
    (controller : CpuController) : List String → Bound
  | [] => ⟨[], none, controller⟩
  | directory :: rest =>
    let result := controller.setCpus (PinSystem.parent allowed directory)
      directory value (outcomes directory)
    if result.1 = .ok then
      let later := bindEach value outcomes result.2 rest
      { later with done := directory :: later.done }
    else ⟨[], some (directory, result.1), result.2⟩

end CpuController

/-- The directories that were restored. -/
def restoredOf (replies : List (String × RestoreCpusReply)) : List String :=
  (replies.filter fun reply => reply.2.ok).map Prod.fst

def failuresOf (replies : List (String × RestoreCpusReply)) :
    List RestoreCpusReply :=
  (replies.filter fun reply => !reply.2.ok).map Prod.snd

/-! ## One directory -/

/-- The kernel refuses to put a value back, and the parent's CPUs in its
place. -/
def RestoreCpusOutcomes.refuses (outcomes : RestoreCpusOutcomes)
    (parent : Option String) (original : String) : Bool :=
  match outcomes.refused with
  | none => false
  | some errno =>
    (unpinFallback parent original errno).isNone ||
      outcomes.fallbackRefused.isSome

namespace CpuController

/-- The directory holds our value and the kernel refuses to undo it. -/
def stuck (allowed : String → Option (Finset Nat)) (controller : CpuController)
    (directory : String) (outcomes : RestoreCpusOutcomes) : Bool :=
  match controller.originals.get? directory, controller.files directory with
  | some original, .present cpus =>
    !changedElsewhere (some (formatCpuList cpus))
        (controller.applied.get? directory) &&
      outcomes.refuses (PinSystem.parent allowed directory) original
  | _, _ => false

/-- Two controllers agree about a directory. -/
structure SameAt (left right : CpuController) (directory : String) : Prop where
  files : left.files directory = right.files directory
  originals :
    left.originals.get? directory = right.originals.get? directory
  applied : left.applied.get? directory = right.applied.get? directory

/-- Every recorded original reads as a set. -/
def Readable (controller : CpuController) : Prop :=
  ∀ directory original, controller.originals.get? directory = some original →
      ∃ set, parseCpuList original = .ok set

variable
  {allowed : String → Option (Finset Nat)}
  {controller left right : CpuController}
  {directory other : String}

theorem SameAt.refl (controller : CpuController) (directory : String) :
    SameAt controller controller directory := ⟨rfl, rfl, rfl⟩

theorem SameAt.trans {middle : CpuController}
    (first : SameAt left middle directory)
    (second : SameAt middle right directory) :
    SameAt left right directory :=
  ⟨first.files.trans second.files, first.originals.trans second.originals,
    first.applied.trans second.applied⟩

theorem SameAt.isBound (same : SameAt left right directory) :
    left.isBound directory = right.isBound directory := by
  rw [CpuController.isBound, CpuController.isBound, same.originals]

theorem SameAt.stuck (same : SameAt left right directory)
    (outcomes : RestoreCpusOutcomes) :
    left.stuck allowed directory outcomes =
      right.stuck allowed directory outcomes := by
  rw [CpuController.stuck, CpuController.stuck, same.files, same.originals,
    same.applied]

theorem stuck_of_not_bound (notBound : controller.isBound directory = false)
    (outcomes : RestoreCpusOutcomes) :
    controller.stuck allowed directory outcomes = false := by
  rw [isBound, Option.isSome_eq_false_iff, Option.isNone_iff_eq_none]
    at notBound
  rw [stuck, notBound]

theorem isBound_of_stuck {outcomes : RestoreCpusOutcomes}
    (held : controller.stuck allowed directory outcomes = true) :
    controller.isBound directory = true := by
  by_contra notBound
  rw [stuck_of_not_bound (Bool.not_eq_true _ ▸ notBound)] at held
  cases held

theorem sameAt_forget (files : CpusetFiles) (elsewhere : other ≠ directory)
    (untouched : files other = controller.files other) :
    SameAt ({ controller with files := files }.forget directory) controller
      other where
  files := untouched
  originals := by simp [forget, OrderedDict.get?_erase_of_ne, elsewhere]
  applied := by simp [forget, OrderedDict.get?_erase_of_ne, elsewhere]

theorem isBound_forget (files : CpusetFiles) :
    ({ controller with files := files }.forget directory).isBound directory =
      false := by
  simp [forget, isBound]

theorem unpinFallback_eq_some {original fallback : String} {errno : Errno}
    (found : unpinFallback (PinSystem.parent allowed directory) original errno =
      some fallback) :
    original = "" ∧ ∃ cpus, allowed directory = some cpus ∧
      formatCpuList cpus = fallback := by
  unfold unpinFallback at found
  split at found
  · cases found
  next clearing =>
  have known : PinSystem.parent allowed directory = some fallback := by
    split at found <;> simp_all
  exact ⟨by tauto, Option.map_eq_some_iff.mp known⟩

theorem restore_spec (allowed : String → Option (Finset Nat))
    (readable : Readable controller) (directory : String)
    (outcomes : RestoreCpusOutcomes) :
    let result := controller.restore (PinSystem.parent allowed directory)
      directory outcomes
    (controller.stuck allowed directory outcomes = true ∧
      result.1.ok = false ∧ result.2 = controller) ∨
    (controller.stuck allowed directory outcomes = false ∧
      result.1.ok = true ∧ result.2.isBound directory = false ∧
      ∀ other ≠ directory, SameAt result.2 controller other) := by
  simp only
  cases bound : controller.originals.get? directory with
  | none =>
    have notBound : controller.isBound directory = false := by
      rw [isBound, bound, Option.isSome_none]
    obtain ⟨ok, same⟩ := restore_of_not_bound bound outcomes
    rw [same]
    exact .inr ⟨stuck_of_not_bound notBound outcomes, ok, notBound,
      fun other _ => SameAt.refl controller other⟩
  | some original =>
  cases file : controller.files directory with
  | gone | disabled =>
    obtain ⟨ok, forgotten⟩ := restore_of_unreadable bound
      (by rw [file]; rfl) outcomes
    rw [forgotten]
    exact .inr ⟨by rw [stuck, bound, file], ok, isBound_forget _,
      fun other elsewhere => sameAt_forget _ elsewhere rfl⟩
  | present cpus =>
  simp only [restore, stuck, bound, file, CpusetFile.read, reduceCtorEq,
    if_false]
  cases changed : changedElsewhere (some (formatCpuList cpus))
      (controller.applied.get? directory) with
  | true =>
    exact .inr ⟨rfl, rfl, isBound_forget _,
      fun other elsewhere => sameAt_forget _ elsewhere rfl⟩
  | false =>
  obtain ⟨set, parses⟩ := readable directory original bound
  simp only [Bool.not_false, Bool.true_and, Bool.false_eq_true, if_false,
    RestoreCpusOutcomes.refuses]
  cases outcomes.refused with
  | none =>
    rw [CpusetFiles.write_accepted parses]
    exact .inr ⟨rfl, rfl, isBound_forget _, fun other elsewhere =>
      sameAt_forget _ elsewhere (Function.update_of_ne elsewhere _ _)⟩
  | some errno =>
  simp only [CpusetFiles.write_refused]
  cases fallback : unpinFallback (PinSystem.parent allowed directory) original
      errno with
  | none => exact .inl ⟨rfl, rfl, rfl⟩
  | some others =>
  obtain ⟨-, cpus, -, rfl⟩ := unpinFallback_eq_some fallback
  cases outcomes.fallbackRefused with
  | some errno => exact .inl ⟨rfl, rfl, rfl⟩
  | none =>
    simp only [CpusetFiles.write_accepted (parseCpuList_formatCpuList cpus)]
    exact .inr ⟨rfl, rfl, isBound_forget _, fun other elsewhere =>
      sameAt_forget _ elsewhere (Function.update_of_ne elsewhere _ _)⟩

theorem readable_restore (allowed : String → Option (Finset Nat))
    (readable : Readable controller) (directory : String)
    (outcomes : RestoreCpusOutcomes) :
    Readable (controller.restore (PinSystem.parent allowed directory)
      directory outcomes).2 := by
  obtain ⟨-, -, same⟩ | ⟨-, -, notBound, elsewhere⟩ :=
    restore_spec allowed readable directory outcomes
  · rwa [same]
  intro other original recorded
  by_cases here : other = directory
  · subst here
    rw [isBound, recorded] at notBound
    cases notBound
  · rw [(elsewhere other here).originals] at recorded
    exact readable other original recorded

theorem stuck_restore (readable : Readable controller)
    (outcomes : String → RestoreCpusOutcomes) (first directory : String) :
    (controller.restore (PinSystem.parent allowed first) first
        (outcomes first)).2.stuck allowed directory (outcomes directory) =
      controller.stuck allowed directory (outcomes directory) := by
  obtain ⟨-, -, same⟩ | ⟨free, -, notBound, elsewhere⟩ :=
    restore_spec allowed readable first (outcomes first)
  · rw [same]
  by_cases here : directory = first
  · subst here
    rw [free, stuck_of_not_bound notBound]
  · exact (elsewhere directory here).stuck _

theorem readable_restoreEach (readable : Readable controller)
    (outcomes : String → RestoreCpusOutcomes) (directories : List String) :
    Readable (controller.restoreEach allowed outcomes directories).2 := by
  induction directories generalizing controller with
  | nil => exact readable
  | cons first rest ih => exact ih (readable_restore allowed readable first _)

theorem isBound_restoreEach (readable : Readable controller)
    (outcomes : String → RestoreCpusOutcomes) (directories : List String)
    (directory : String) :
    (controller.restoreEach allowed outcomes directories).2.isBound directory =
      if directory ∈ directories then
        controller.stuck allowed directory (outcomes directory)
      else controller.isBound directory := by
  induction directories generalizing controller with
  | nil => rfl
  | cons first rest ih =>
  rw [restoreEach,
    ih (readable_restore allowed readable first (outcomes first)),
    stuck_restore readable]
  by_cases later : directory ∈ rest
  · rw [if_pos later, if_pos (List.mem_cons_of_mem first later)]
  rw [if_neg later]
  obtain ⟨held, -, same⟩ | ⟨free, -, notBound, elsewhere⟩ :=
    restore_spec allowed readable first (outcomes first)
  · rw [same]
    by_cases here : directory = first
    · subst here
      rw [if_pos List.mem_cons_self, held, isBound_of_stuck held]
    · rw [if_neg (by simp [here, later])]
  · by_cases here : directory = first
    · subst here
      rw [if_pos List.mem_cons_self, free, notBound]
    · rw [if_neg (by simp [here, later]), (elsewhere directory here).isBound]

theorem sameAt_restoreEach (readable : Readable controller)
    {outcomes : String → RestoreCpusOutcomes} {directories : List String}
    (untouched : directory ∈ directories →
      controller.stuck allowed directory (outcomes directory) = true) :
    SameAt (controller.restoreEach allowed outcomes directories).2 controller
      directory := by
  induction directories generalizing controller with
  | nil => exact SameAt.refl controller directory
  | cons first rest ih =>
  have later := ih
    (readable_restore allowed readable first (outcomes first)) fun member => by
      rw [stuck_restore readable]
      exact untouched (List.mem_cons_of_mem first member)
  refine later.trans ?_
  obtain ⟨-, -, same⟩ | ⟨free, -, -, elsewhere⟩ :=
    restore_spec allowed readable first (outcomes first)
  · rw [same]
    exact SameAt.refl controller directory
  · apply elsewhere
    rintro rfl
    rw [untouched List.mem_cons_self] at free
    cases free

theorem restoredOf_restoreEach (readable : Readable controller)
    (outcomes : String → RestoreCpusOutcomes) (directories : List String) :
    restoredOf (controller.restoreEach allowed outcomes directories).1 =
      directories.filter fun directory =>
        !controller.stuck allowed directory (outcomes directory) := by
  induction directories generalizing controller with
  | nil => rfl
  | cons first rest ih =>
  have later := ih (readable_restore allowed readable first (outcomes first))
  simp only [stuck_restore readable] at later
  rw [restoreEach, List.filter_cons, ← later]
  obtain ⟨held, failed, -⟩ | ⟨free, ok, -⟩ :=
    restore_spec allowed readable first (outcomes first)
  · simp [restoredOf, held, failed]
  · simp [restoredOf, free, ok]

theorem failuresOf_restoreEach_eq_nil_iff (readable : Readable controller)
    (outcomes : String → RestoreCpusOutcomes) (directories : List String) :
    failuresOf (controller.restoreEach allowed outcomes directories).1 = [] ↔
      ∀ directory ∈ directories,
        controller.stuck allowed directory (outcomes directory) = false := by
  induction directories generalizing controller with
  | nil => simp [restoreEach, failuresOf]
  | cons first rest ih =>
  have later := ih (readable_restore allowed readable first (outcomes first))
  simp only [stuck_restore readable] at later
  rw [restoreEach, List.forall_mem_cons, ← later]
  obtain ⟨held, failed, -⟩ | ⟨free, ok, -⟩ :=
    restore_spec allowed readable first (outcomes first)
  · simp [failuresOf, held, failed]
  · simp [failuresOf, free, ok]

/-! ### Binding -/

/-- The kernel takes a write to the directory. -/
def accepts (controller : CpuController) (directory : String)
    (outcomes : SetCpusOutcomes) : Bool :=
  controller.files directory ≠ .gone && outcomes.enabled &&
    (controller.enabledFiles directory outcomes.appears directory).cpus.isSome &&
    outcomes.refused.isNone

/-- `set_cpus` succeeds on the directory. -/
def binds (value : String) (controller : CpuController) (directory : String)
    (outcomes : SetCpusOutcomes) : Bool :=
  controller.accepts directory outcomes && sameCpus outcomes.effective value

theorem setCpus_spec (controller : CpuController) (parent : Option String)
    (directory : String) (cpus : CpuList) (outcomes : SetCpusOutcomes) :
    let result := controller.setCpus parent directory cpus.text outcomes
    (result.1 = .ok ↔ controller.binds cpus.text directory outcomes = true) ∧
    (result.1.wrote = controller.accepts directory outcomes) := by
  simp only [setCpus, binds, accepts]
  by_cases gone : controller.files directory = .gone
  · simp [gone, SetCpusReply.wrote]
  cases outcomes.enabled with
  | false => simp [gone, SetCpusReply.wrote]
  | true =>
  cases controller.enabledFiles directory outcomes.appears directory with
  | gone | disabled =>
    simp [gone, SetCpusReply.wrote, CpusetFile.read, CpusetFile.cpus]
  | present before =>
  cases outcomes.refused with
  | some errno =>
    simp [gone, SetCpusReply.wrote, CpusetFile.read, CpusetFile.cpus]
  | none =>
    rw [CpusetFiles.write_accepted cpus.parses]
    cases sameCpus outcomes.effective cpus.text <;>
      simp [gone, SetCpusReply.wrote, CpusetFile.read, CpusetFile.cpus]

/-- The directory holds the pin and the recorded original. -/
structure PinnedAt (controller : CpuController) (directory : String)
    (cpus : CpuList) (original : String) : Prop where
  files : controller.files directory = .present cpus.cpus
  originals : controller.originals.get? directory = some original
  applied : controller.applied.get? directory = some cpus.text

theorem sameAt_setCpus (controller : CpuController) (parent : Option String)
    (elsewhere : other ≠ directory) (cpus : CpuList)
    (outcomes : SetCpusOutcomes) :
    SameAt (controller.setCpus parent directory cpus.text outcomes).2
      controller other := by
  obtain ⟨-, files, rfl | rfl, same⟩ | ⟨-, before, -, same⟩ :=
    controller.setCpus_cases parent directory cpus outcomes
  · rw [same]
    exact SameAt.refl controller other
  · rw [same]
    exact ⟨enabledFiles_of_ne elsewhere _, rfl, rfl⟩
  · rw [same]
    constructor
    · simp only [recordWrite, Function.update_of_ne elsewhere,
        enabledFiles_of_ne elsewhere]
    · simp only [recordWrite]
      split
      · rfl
      · rw [OrderedDict.get?_set_of_ne _ _ elsewhere]
    · simp only [recordWrite, OrderedDict.get?_set_of_ne _ _ elsewhere]

theorem readable_setCpus (readable : Readable controller) (directory : String)
    (cpus : CpuList) (outcomes : SetCpusOutcomes) :
    Readable (controller.setCpus (PinSystem.parent allowed directory)
      directory cpus.text outcomes).2 := by
  intro other original recorded
  by_cases here : other = directory
  · subst here
    obtain ⟨-, files, -, same⟩ | ⟨-, before, -, same⟩ :=
      controller.setCpus_cases (PinSystem.parent allowed other) other cpus
        outcomes
    · rw [same] at recorded
      exact readable other original recorded
    · rw [same] at recorded
      simp only [recordWrite] at recorded
      split at recorded
      · exact readable other original recorded
      · rw [OrderedDict.get?_set_self] at recorded
        obtain ⟨set, parses, -⟩ :=
          exists_parse_recordedOriginal (allowed other) before
        exact ⟨set, Option.some.inj recorded ▸ parses⟩
  · rw [(sameAt_setCpus _ _ here cpus outcomes).originals] at recorded
    exact readable other original recorded

theorem enabledFiles_self (controller : CpuController) (directory : String)
    (appears : Bool) :
    controller.enabledFiles directory appears directory =
      if appears ∧ controller.files directory = .disabled then .present ∅
      else controller.files directory := by
  unfold enabledFiles
  split
  · exact Function.update_self _ _ _
  · rfl

theorem enabledFiles_of_present {cpus : Finset Nat}
    (present : controller.files directory = .present cpus) (appears : Bool) :
    controller.enabledFiles directory appears = controller.files := by
  rw [enabledFiles, present, if_neg (by simp)]

variable {outcomes : SetCpusOutcomes} {original first : String} {cpus : CpuList}

theorem PinnedAt.isBound
    (pinned : controller.PinnedAt directory cpus original) :
    controller.isBound directory = true := by
  rw [CpuController.isBound, pinned.originals, Option.isSome_some]

theorem PinnedAt.stuck (pinned : controller.PinnedAt directory cpus original)
    (allowed : String → Option (Finset Nat)) (outcomes : RestoreCpusOutcomes) :
    controller.stuck allowed directory outcomes =
      outcomes.refuses (PinSystem.parent allowed directory) original := by
  simp [CpuController.stuck, pinned.originals, pinned.files, pinned.applied,
    changedElsewhere_formatCpuList cpus.parses]

theorem PinnedAt.setCpus (pinned : controller.PinnedAt directory cpus original)
    (parent : Option String) (first : String) (outcomes : SetCpusOutcomes) :
    (controller.setCpus parent first cpus.text outcomes).2.PinnedAt directory
      cpus original := by
  by_cases here : directory = first
  · subst here
    have enabled := enabledFiles_of_present pinned.files outcomes.appears
    have bound := pinned.isBound
    obtain ⟨-, files, rfl | rfl, same⟩ | ⟨-, before, -, same⟩ :=
      controller.setCpus_cases parent directory cpus outcomes
    · rw [same]
      exact pinned
    · rw [same, enabled]
      exact pinned
    · rw [same]
      simp only [recordWrite, bound, if_true]
      exact ⟨Function.update_self _ _ _, pinned.originals,
        OrderedDict.get?_set_self _ _ _⟩
  · have same := sameAt_setCpus controller parent here cpus outcomes
    exact ⟨same.files.trans pinned.files, same.originals.trans pinned.originals,
      same.applied.trans pinned.applied⟩

/-- The original that a first write to the directory would record. -/
def originalOf (allowed : String → Option (Finset Nat))
    (controller : CpuController) (directory : String)
    (appears : Bool) : String :=
  recordedOriginal (allowed directory)
    ((controller.enabledFiles directory appears directory).cpus.getD ∅)

/-- A first write that the kernel takes pins the directory. -/
theorem pinnedAt_setCpus (allowed : String → Option (Finset Nat))
    (notBound : controller.isBound directory = false)
    (accepted : controller.accepts directory outcomes = true) (cpus : CpuList) :
    (controller.setCpus (PinSystem.parent allowed directory) directory
        cpus.text outcomes).2.PinnedAt directory cpus
      (controller.originalOf allowed directory outcomes.appears) := by
  have wrote := (controller.setCpus_spec
    (PinSystem.parent allowed directory) directory cpus outcomes).2
  obtain ⟨refused, -⟩ | ⟨-, before, present, same⟩ :=
    controller.setCpus_cases (PinSystem.parent allowed directory) directory
      cpus outcomes
  · rw [refused, accepted] at wrote
    cases wrote
  · rw [same]
    simp only [recordWrite, notBound, Bool.false_eq_true, if_false]
    refine ⟨Function.update_self _ _ _, ?_, OrderedDict.get?_set_self _ _ _⟩
    rw [OrderedDict.get?_set_self, originalOf, present]
    rfl

/-- Setting keeps what is bound and binds where the kernel takes the write. -/
theorem isBound_setCpus (controller : CpuController) (parent : Option String)
    (first : String) (cpus : CpuList) (outcomes : SetCpusOutcomes)
    (directory : String) :
    (controller.setCpus parent first cpus.text outcomes).2.isBound directory =
      (controller.isBound directory ||
        (directory = first && controller.accepts first outcomes)) := by
  have wrote := (controller.setCpus_spec parent first cpus outcomes).2
  by_cases here : directory = first
  · subst here
    obtain ⟨refused, files, -, same⟩ | ⟨accepted, before, -, same⟩ :=
      controller.setCpus_cases parent directory cpus outcomes
    · rw [refused] at wrote
      rw [same, ← wrote]
      simp [isBound]
    · rw [accepted] at wrote
      rw [same, ← wrote]
      cases bound : controller.isBound directory with
      | true =>
        simp only [recordWrite, bound, if_true, Bool.true_or]
        exact bound
      | false =>
        simp only [recordWrite, bound, Bool.false_eq_true, if_false]
        simp [isBound]
  · rw [(sameAt_setCpus controller parent here cpus outcomes).isBound]
    simp [here]

theorem accepts_congr (same : left.files directory = right.files directory)
    (outcomes : SetCpusOutcomes) :
    left.accepts directory outcomes = right.accepts directory outcomes := by
  simp only [accepts, enabledFiles_self, same]

/-- A successful set changes nothing about which sets succeed. -/
theorem accepts_setCpus {outcomes : String → SetCpusOutcomes}
    (accepted : controller.accepts first (outcomes first) = true)
    (parent : Option String) (directory : String) :
    (controller.setCpus parent first cpus.text (outcomes first)).2.accepts
        directory (outcomes directory) =
      controller.accepts directory (outcomes directory) := by
  by_cases here : directory = first
  · subst here
    have wrote := (controller.setCpus_spec parent directory cpus
      (outcomes directory)).2
    obtain ⟨refused, -⟩ | ⟨-, before, -, same⟩ :=
      controller.setCpus_cases parent directory cpus (outcomes directory)
    · rw [refused, accepted] at wrote
      cases wrote
    · rw [accepted, same]
      simp only [accepts, Bool.and_eq_true] at accepted
      simp [accepts, enabledFiles_self, recordWrite, accepted, CpusetFile.cpus]
  · exact accepts_congr (sameAt_setCpus _ parent here cpus _).files _

theorem accepts_of_binds {value : String}
    (bound : controller.binds value directory outcomes = true) :
    controller.accepts directory outcomes = true := by
  rw [binds, Bool.and_eq_true] at bound
  exact bound.1

theorem binds_setCpus {outcomes : String → SetCpusOutcomes}
    (bound : controller.binds cpus.text first (outcomes first) = true)
    (parent : Option String) (directory : String) :
    (controller.setCpus parent first cpus.text (outcomes first)).2.binds
        cpus.text directory (outcomes directory) =
      controller.binds cpus.text directory (outcomes directory) := by
  rw [binds, binds, accepts_setCpus (accepts_of_binds bound)]

section BindEach

variable
  (allowed : String → Option (Finset Nat))
  (cpus : CpuList)
  (outcomes : String → SetCpusOutcomes)

/-- The directories a request sets one after another, the first that fails
included. -/
def walked (value : String) (controller : CpuController)
    (directories : List String) : List String :=
  directories.takeWhile (fun directory =>
      controller.binds value directory (outcomes directory)) ++
    (directories.find? fun directory =>
      !controller.binds value directory (outcomes directory)).toList

theorem walked_cons (value : String) (controller : CpuController)
    (first : String) (rest : List String) :
    controller.walked outcomes value (first :: rest) =
      first :: if controller.binds value first (outcomes first) then
        controller.walked outcomes value rest else [] := by
  cases bound : controller.binds value first (outcomes first) <;>
    simp [walked, bound]

/-- Which directories `bindEach` sets. -/
theorem bindEach_spec (controller : CpuController) (directories : List String) :
    let result := controller.bindEach allowed cpus.text outcomes directories
    result.done = directories.takeWhile (fun directory =>
        controller.binds cpus.text directory (outcomes directory)) ∧
      result.failed.map Prod.fst = directories.find? fun directory =>
        !controller.binds cpus.text directory (outcomes directory) := by
  induction directories generalizing controller with
  | nil => exact ⟨rfl, rfl⟩
  | cons first rest ih =>
  have spec := (controller.setCpus_spec (PinSystem.parent allowed first) first
    cpus (outcomes first)).1
  cases bound : controller.binds cpus.text first (outcomes first) with
  | false =>
    have failed : ¬(controller.setCpus (PinSystem.parent allowed first) first
        cpus.text (outcomes first)).1 = .ok := by
      rw [spec, bound]
      exact Bool.false_ne_true
    simp [bindEach, failed, bound]
  | true =>
    have later := ih (controller.setCpus
      (PinSystem.parent allowed first) first cpus.text (outcomes first)).2
    simp only [binds_setCpus bound] at later
    simpa [bindEach, spec.mpr bound, bound] using later

variable {allowed cpus outcomes}

theorem walked_setCpus {first : String}
    (bound : controller.binds cpus.text first (outcomes first) = true)
    (parent : Option String) (directories : List String) :
    (controller.setCpus parent first cpus.text (outcomes first)).2.walked
        outcomes cpus.text directories =
      controller.walked outcomes cpus.text directories := by
  simp only [walked, binds_setCpus bound]

theorem bindEach_induction (property : CpuController → Prop)
    (preserved : ∀ controller first, property controller →
      property (controller.setCpus (PinSystem.parent allowed first) first
        cpus.text (outcomes first)).2)
    (initially : property controller)
    (directories : List String) :
    property
      (controller.bindEach allowed cpus.text outcomes directories).controller
      := by
  induction directories generalizing controller with
  | nil => exact initially
  | cons first rest ih =>
    have next := preserved controller first initially
    rw [bindEach]
    simp only
    split
    · exact ih next
    · exact next

theorem readable_bindEach (readable : Readable controller)
    (directories : List String) :
    Readable (controller.bindEach allowed cpus.text outcomes
      directories).controller :=
  bindEach_induction Readable
    (fun _ first readable => readable_setCpus readable first cpus _)
    readable directories

theorem PinnedAt.bindEach {original : String}
    (pinned : controller.PinnedAt directory cpus original)
    (directories : List String) :
    (controller.bindEach allowed cpus.text outcomes
      directories).controller.PinnedAt directory cpus original :=
  bindEach_induction (·.PinnedAt directory cpus original)
    (fun _ first pinned => pinned.setCpus _ first _) pinned directories

theorem isBound_bindEach_of_isBound
    (bound : controller.isBound directory = true) (directories : List String) :
    (controller.bindEach allowed cpus.text outcomes
      directories).controller.isBound directory = true :=
  bindEach_induction (·.isBound directory = true)
    (fun controller first bound => by
      rw [isBound_setCpus, bound, Bool.true_or])
    bound directories

/-- A directory that becomes bound was set, and the kernel took the write. -/
theorem walked_of_isBound_bindEach {directories : List String}
    (bound : (controller.bindEach allowed cpus.text outcomes
      directories).controller.isBound directory = true)
    (notBound : controller.isBound directory = false) :
    directory ∈ controller.walked outcomes cpus.text directories ∧
      controller.accepts directory (outcomes directory) = true := by
  induction directories generalizing controller with
  | nil =>
    rw [bindEach, notBound] at bound
    cases bound
  | cons first rest ih =>
  have spec := (controller.setCpus_spec (PinSystem.parent allowed first) first
    cpus (outcomes first)).1
  have now := controller.isBound_setCpus (PinSystem.parent allowed first) first
    cpus (outcomes first) directory
  rw [notBound, Bool.false_or] at now
  rw [walked_cons]
  cases binding : controller.binds cpus.text first (outcomes first) with
  | false =>
    have failed : ¬(controller.setCpus (PinSystem.parent allowed first) first
        cpus.text (outcomes first)).1 = .ok := by
      rw [spec, binding]
      exact Bool.false_ne_true
    simp only [bindEach, failed, if_false] at bound
    rw [now, Bool.and_eq_true, decide_eq_true_eq] at bound
    obtain ⟨rfl, accepted⟩ := bound
    exact ⟨List.mem_cons_self, accepted⟩
  | true =>
    simp only [bindEach, spec.mpr binding, if_true] at bound
    have accepted := accepts_of_binds binding
    cases already : (controller.setCpus (PinSystem.parent allowed first) first
        cpus.text (outcomes first)).2.isBound directory with
    | true =>
      rw [now, Bool.and_eq_true, decide_eq_true_eq] at already
      obtain ⟨rfl, -⟩ := already
      exact ⟨List.mem_cons_self, accepted⟩
    | false =>
      have later := ih bound already
      rw [walked_setCpus binding, accepts_setCpus accepted] at later
      exact ⟨List.mem_cons_of_mem _ later.1, later.2⟩

/-- A directory that was not bound is pinned once it is set and the kernel
takes the write. -/
theorem pinnedAt_bindEach {directories : List String}
    (notBound : controller.isBound directory = false)
    (reached : directory ∈ controller.walked outcomes cpus.text directories)
    (accepted : controller.accepts directory (outcomes directory) = true) :
    (controller.bindEach allowed cpus.text outcomes
        directories).controller.PinnedAt directory cpus
      (controller.originalOf allowed directory
        (outcomes directory).appears) := by
  induction directories generalizing controller with
  | nil => cases reached
  | cons first rest ih =>
  have spec := (controller.setCpus_spec (PinSystem.parent allowed first) first
    cpus (outcomes first)).1
  rw [walked_cons] at reached
  by_cases here : directory = first
  · subst here
    have pinned := pinnedAt_setCpus allowed notBound accepted cpus
    simp only [bindEach]
    split
    · exact pinned.bindEach rest
    · exact pinned
  cases binding : controller.binds cpus.text first (outcomes first) with
  | false => simp [binding, here] at reached
  | true =>
    have sets := accepts_of_binds binding
    have same := sameAt_setCpus controller (PinSystem.parent allowed first)
      here cpus (outcomes first)
    simp only [binding, if_true, List.mem_cons, here, false_or] at reached
    rw [← walked_setCpus binding (PinSystem.parent allowed first)] at reached
    rw [← accepts_setCpus sets (PinSystem.parent allowed first)] at accepted
    have later := ih (same.isBound.trans notBound) reached accepted
    simp only [bindEach, spec.mpr binding, if_true]
    simpa only [originalOf, enabledFiles_self, same.files] using later

theorem isBound_of_mem_done {directories : List String}
    (member : directory ∈
      (controller.bindEach allowed cpus.text outcomes directories).done) :
    (controller.bindEach allowed cpus.text outcomes
      directories).controller.isBound directory = true := by
  obtain ⟨done, -⟩ := bindEach_spec allowed cpus outcomes controller directories
  rw [done] at member
  cases before : controller.isBound directory with
  | true => exact isBound_bindEach_of_isBound before directories
  | false =>
    have binding := List.mem_takeWhile_imp member
    exact (pinnedAt_bindEach before (List.mem_append_left _ member)
      (accepts_of_binds binding)).isBound

theorem walked_eq (allowed : String → Option (Finset Nat))
    (directories : List String) :
    controller.walked outcomes cpus.text directories =
      (controller.bindEach allowed cpus.text outcomes directories).done ++
        ((controller.bindEach allowed cpus.text outcomes
          directories).failed.map Prod.fst).toList := by
  obtain ⟨done, failed⟩ :=
    bindEach_spec allowed cpus outcomes controller directories
  rw [walked, done, failed]

end BindEach

end CpuController

end SmarTune
