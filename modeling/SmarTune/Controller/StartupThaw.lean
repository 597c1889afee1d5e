import SmarTune.Library.Runs
import SmarTune.Controller.Freeze

/-!
# The start-up thaw among other records

`thaw_recorded` holds the lock of the state file to read it, lets go of it for
the thaws and takes it again to write the file back.  Other calls of `record`
fall between these steps.
-/

namespace SmarTune

/-- Where `thaw_recorded` stands. -/
inductive ThawPhase
  | reading
  | thawing (remaining thawed keep : List CgroupId)
  | done (thawed : List CgroupId)
  deriving DecidableEq, Repr

/-- The state file, the start-up thaw, and the cgroups recorded as frozen
meanwhile that were neither un-recorded nor thawed since. -/
structure ThawState where
  file : FreezeFile
  phase : ThawPhase
  pending : List CgroupId
  deriving DecidableEq, Repr

/-- One step under the lock, or one thaw. -/
inductive ThawMove
  /-- Another thread calls `record`. -/
  | record (cgroup : CgroupId) (frozen : Bool) (access : FileAccess)
  /-- The start-up thaw goes on. -/
  | advance (access : FileAccess) (outcome : FreezeOutcome)
  deriving DecidableEq, Repr

namespace ThawState

/-- The service starts with the file of the last run. -/
def start (file : FreezeFile) : ThawState := ⟨file, .reading, []⟩

/-- The cgroup is no longer owed to the file. -/
def forget (state : ThawState) (cgroup : CgroupId) : List CgroupId :=
  state.pending.filter (· ≠ cgroup)

/-- The next step of `thaw_recorded`: read the file, thaw one cgroup, or write
the file back. -/
def advance (state : ThawState) (access : FileAccess)
    (outcome : FreezeOutcome) : ThawState :=
  match state.phase with
  | .reading =>
    { state with phase := .thawing (state.file.readState access) [] [] }
  | .thawing (cgroup :: rest) thawed keep =>
    if !outcome.exists_ then
      { state with
        phase := .thawing rest thawed keep
        pending := state.forget cgroup }
    else if (freezeCgroup cgroup false outcome).1 then
      { state with
        phase := .thawing rest (thawed ++ [cgroup]) keep
        pending := state.forget cgroup }
    else { state with phase := .thawing rest thawed (keep ++ [cgroup]) }
  | .thawing [] thawed keep =>
    { state with
      file := state.file.writeState keep access
      phase := .done thawed }
  | .done _ => state

def step (state : ThawState) : ThawMove → ThawState
  | .record cgroup frozen access =>
    { state with
      file := state.file.record cgroup frozen access
      pending := if frozen then cgroup :: state.pending
        else state.forget cgroup }
  | .advance access outcome => state.advance access outcome

/-! ## Undisturbed runs -/

def thawMoves :
    List CgroupId → (Nat → FreezeOutcome) → List ThawMove
  | [], _ => []
  | _ :: rest, outcome =>
    .advance .working (outcome 0) :: thawMoves rest fun position =>
      outcome (position + 1)

theorem run_thawMoves (file : FreezeFile)
    (remaining thawed keep : List CgroupId) (outcome : Nat → FreezeOutcome) :
    Runs.run step ⟨file, .thawing remaining thawed keep, []⟩
        (thawMoves remaining outcome) =
      ⟨file, .thawing [] (thawed ++ (thawEachRecorded remaining outcome).1)
        (keep ++ (thawEachRecorded remaining outcome).2), []⟩ := by
  induction remaining generalizing thawed keep outcome with
  | nil => simp [thawMoves, thawEachRecorded]
  | cons cgroup rest ih =>
    rw [thawMoves, Runs.run_cons]
    simp only [step, advance, forget, List.filter_nil, thawEachRecorded]
    split
    · exact ih _ _ _
    · split
      · rw [ih]
        simp
      · rw [ih]
        simp

theorem run_undisturbed (file : FreezeFile) (reading writing : FileAccess)
    (outcome : Nat → FreezeOutcome) :
    Runs.run step (start file) (.advance reading (outcome 0) ::
          (thawMoves (file.readState reading) outcome ++
            [.advance writing (outcome 0)])) =
      ⟨(thawRecorded file reading outcome writing).2,
        .done (thawRecorded file reading outcome writing).1, []⟩ := by
  rw [Runs.run_cons, Runs.run_append]
  have opened : (start file).step (.advance reading (outcome 0)) =
      ⟨file, .thawing (file.readState reading) [] [], []⟩ := rfl
  rw [opened, run_thawMoves]
  rfl

/-! ## Records made meanwhile -/

/-- Every cgroup recorded meanwhile is listed. -/
def Listed (state : ThawState) : Prop :=
  ∀ cgroup ∈ state.pending, state.file.Lists cgroup

/-- The condition on one step, read off the state before it. -/
def KeepsPending (state : ThawState) : ThawMove → Prop
  | .record cgroup frozen access =>
    -- The record lands, and no failed read drops the others.
    (frozen = true → access.replaced = true ∨ state.file.Lists cgroup) ∧
    (access.loses = true → ∀ other ∈ state.pending, other = cgroup)
  | .advance access _ =>
    match state.phase with
    | .thawing [] _ keep =>
      -- The list written back holds what was recorded since the read.
      access.replaced = true → ∀ cgroup ∈ state.pending, cgroup ∈ keep
    | _ => True

variable {state : ThawState}

/-- A record keeps the file complete exactly when it lands whole. -/
theorem listed_record_iff (listed : state.Listed) (cgroup : CgroupId)
    (frozen : Bool) (access : FileAccess) :
    (state.step (.record cgroup frozen access)).Listed ↔
      state.KeepsPending (.record cgroup frozen access) := by
  simp only [step, Listed, KeepsPending, FileAccess.loses, Bool.and_eq_true,
    Bool.not_eq_true']
  cases replaced : access.replaced with
  | false =>
    rw [FreezeFile.record_of_not_replaced frozen replaced]
    cases frozen with
    | false =>
      simp only [Bool.false_eq_true, if_false, false_implies, false_and,
        and_self, iff_true]
      intro other member
      exact listed other (List.mem_of_mem_filter member)
    | true =>
      simp only [if_true, List.forall_mem_cons, Bool.false_eq_true,
        false_or, false_and, false_implies, forall_true_left, and_true]
      exact and_iff_left listed
  | true =>
    cases frozen with
    | false =>
      simp only [FreezeFile.lists_record_false replaced,
        Bool.false_eq_true, if_false, false_implies, true_and, forget,
        List.mem_filter, decide_eq_true_eq]
      constructor
      · intro kept unreadable other member
        by_contra different
        have read := (kept other ⟨member, different⟩).2.1
        rw [unreadable] at read
        cases read
      · rintro alone other ⟨member, different⟩
        cases readable : access.readable with
        | false => exact absurd (alone readable other member) different
        | true => exact ⟨different, rfl, listed other member⟩
    | true =>
      simp only [FreezeFile.lists_record_true replaced, if_true,
        List.forall_mem_cons, true_or, forall_true_left, true_and]
      constructor
      · intro kept unreadable other member
        exact (kept other member).resolve_right (by simp [unreadable])
      · intro alone other member
        cases readable : access.readable with
        | false => exact Or.inl (alone readable other member)
        | true => exact Or.inr ⟨rfl, listed other member⟩

/-- A step of the start-up thaw keeps the file complete exactly when it does
not write an older list back. -/
theorem listed_advance_iff (listed : state.Listed) (access : FileAccess)
    (outcome : FreezeOutcome) :
    (state.step (.advance access outcome)).Listed ↔
      state.KeepsPending (.advance access outcome) := by
  simp only [step, advance, KeepsPending]
  cases state.phase with
  | reading => exact iff_of_true listed trivial
  | thawing remaining thawed keep =>
    cases remaining with
    | cons cgroup rest =>
      have forgotten : ∀ other ∈ state.forget cgroup,
          state.file.Lists other :=
        fun other member => listed other (List.mem_of_mem_filter member)
      refine iff_of_true ?_ trivial
      simp only
      split
      · exact forgotten
      · split
        · exact forgotten
        · exact listed
    | nil =>
      simp only [Listed, FreezeFile.lists_writeState]
      cases replaced : access.replaced with
      | true => simp
      | false => simpa using fun cgroup => listed cgroup
  | done thawed => exact iff_of_true listed trivial

/-- In every interleaving whose steps meet the condition, whatever was recorded
as frozen since the start is listed, unless it was un-recorded or thawed. -/
theorem recorded_meanwhile_listed (file : FreezeFile) {moves : List ThawMove}
    (keeping : Runs.EveryStep step KeepsPending (start file) moves) :
    ∀ cgroup ∈ (Runs.run step (start file) moves).pending,
      (Runs.run step (start file) moves).file.Lists cgroup := by
  have initially : (start file).Listed := by
    intro cgroup member
    cases member
  refine Runs.invariant_run Listed ?_ initially keeping
  intro state move listed keeps
  cases move with
  | record cgroup frozen access =>
    exact (listed_record_iff listed cgroup frozen access).mpr keeps
  | advance access outcome =>
    exact (listed_advance_iff listed access outcome).mpr keeps

/-- A record that lands between the read and the write-back is lost. -/
theorem writeBack_loses_record :
    ¬ ∀ cgroup ∈ (Runs.run step (start ⟨none⟩)
        [.advance .working .accepting, .record "app.scope" true .working,
          .advance .working .accepting]).pending,
      (Runs.run step (start ⟨none⟩)
        [.advance .working .accepting, .record "app.scope" true .working,
          .advance .working .accepting]).file.Lists cgroup := by
  decide

/-- One that lands after the write-back stays. -/
theorem recorded_meanwhile_listed_after :
    (Runs.run step (start ⟨none⟩)
      [.advance .working .accepting, .advance .working .accepting,
        .record "app.scope" true .working]).file.Lists "app.scope" := by
  have keeping : Runs.EveryStep step KeepsPending (start ⟨none⟩)
      [.advance .working .accepting, .advance .working .accepting,
        .record "app.scope" true .working] := by
    refine ⟨trivial, ?_, ?_, trivial⟩
    · intro _ cgroup member
      cases member
    · exact ⟨fun _ => Or.inl rfl, fun loses => by cases loses⟩
  exact recorded_meanwhile_listed ⟨none⟩ keeping "app.scope" List.mem_cons_self

end ThawState

end SmarTune
