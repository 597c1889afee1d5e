import Mathlib.Data.List.Sort
import SmarTune.Controller.ControlManager

/-!
# The freeze state file

A freeze is recorded in a small state file before it is written, so that the
next start can thaw what a dead service left frozen.  A call to the freezer is
cut here into its effects; a crash falls between two of them.
-/

namespace SmarTune

/-! ## The file -/

/-- How one locked access to the state file fares. -/
structure FileAccess where
  /-- The file can be opened, if it exists. -/
  readable : Bool
  /-- The new content is written and moved into place. -/
  replaced : Bool
  deriving DecidableEq, Repr

/-- The file can be read and replaced. -/
def FileAccess.working : FileAccess := ⟨true, true⟩

/-- A rewrite that starts from an empty list because the read failed. -/
def FileAccess.loses (access : FileAccess) : Bool :=
  access.replaced && !access.readable

/-- `STATE_FILE`; no list when it is missing or malformed. -/
structure FreezeFile where
  content : Option (List CgroupId)
  deriving DecidableEq, Repr

namespace FreezeFile

/-- `_read_state`. -/
def readState (file : FreezeFile) (access : FileAccess) : List CgroupId :=
  if access.readable then file.content.getD [] else []

/-- `_write_state`: the sorted set of the cgroups, or the old content. -/
def writeState (file : FreezeFile) (cgroups : List CgroupId)
    (access : FileAccess) : FreezeFile :=
  if access.replaced then
    ⟨some (cgroups.eraseDups.insertionSort (· ≤ ·))⟩
  else file

/-- `record`: remember or forget that a cgroup was frozen by SmarTune. -/
def record (file : FreezeFile) (cgroup : CgroupId) (frozen : Bool)
    (access : FileAccess) : FreezeFile :=
  let current := file.readState access
  file.writeState
    (if frozen then cgroup :: current else current.filter (· ≠ cgroup)) access

def Lists (file : FreezeFile) (cgroup : CgroupId) : Prop :=
  cgroup ∈ file.content.getD []

instance (file : FreezeFile) : DecidablePred file.Lists :=
  fun cgroup => inferInstanceAs (Decidable (cgroup ∈ file.content.getD []))

variable {file : FreezeFile} {cgroup other : CgroupId} {access : FileAccess}

theorem lists_writeState (cgroups : List CgroupId) :
    (file.writeState cgroups access).Lists other ↔
      if access.replaced then other ∈ cgroups else file.Lists other := by
  unfold writeState Lists
  split
  · rw [Option.getD_some, (List.perm_insertionSort _ _).mem_iff,
      List.mem_eraseDups]
  · rfl

theorem mem_readState :
    other ∈ file.readState access ↔
      access.readable = true ∧ file.Lists other := by
  unfold readState Lists
  split
  · next readable => simp [readable]
  · next unreadable => simp [unreadable]

/-- A record that is not moved into place changes nothing. -/
theorem record_of_not_replaced (frozen : Bool)
    (failed : access.replaced = false) :
    file.record cgroup frozen access = file := by
  simp [record, writeState, failed]

theorem lists_record_true (replaced : access.replaced = true) :
    (file.record cgroup true access).Lists other ↔
      other = cgroup ∨ (access.readable = true ∧ file.Lists other) := by
  rw [record, lists_writeState, if_pos replaced, if_pos rfl, List.mem_cons,
    mem_readState]

theorem lists_record_false (replaced : access.replaced = true) :
    (file.record cgroup false access).Lists other ↔
      other ≠ cgroup ∧ access.readable = true ∧ file.Lists other := by
  rw [record, lists_writeState, if_pos replaced, if_neg Bool.false_ne_true,
    List.mem_filter, mem_readState, decide_eq_true_eq, and_comm]

end FreezeFile

/-! ## The effects of a call -/

/-- The freezers SmarTune has written and the state file. -/
structure FreezerState where
  /-- `cgroup.freeze` holds the 1 SmarTune wrote. -/
  freeze : CgroupId → Bool
  file : FreezeFile

/-- What one call to the freezer does, step by step. -/
inductive FreezerEffect
  | record (cgroup : CgroupId) (frozen : Bool) (access : FileAccess)
  | write (cgroup : CgroupId) (frozen : Bool)
  /-- The cgroup is found gone, its freezer with it. -/
  | vanished (cgroup : CgroupId)
  deriving DecidableEq, Repr

def FreezerState.apply (state : FreezerState) : FreezerEffect → FreezerState
  | .record cgroup frozen access =>
    { state with file := state.file.record cgroup frozen access }
  | .write cgroup frozen =>
    { state with freeze := fun other =>
        if other = cgroup then frozen else state.freeze other }
  | .vanished cgroup =>
    { state with freeze := fun other =>
        if other = cgroup then false else state.freeze other }

/-- The effect on the cgroup settings. -/
def FreezerEffect.kernelWrites : FreezerEffect → List KernelWrite
  | .write cgroup frozen => [.freeze cgroup frozen]
  | .record _ _ _ | .vanished _ => []

/-- What the environment answers to the crash record of one call. -/
structure RecordAnswers where
  /-- The record before a freeze. -/
  opening : FileAccess
  /-- `is_frozen` after a freeze that failed. -/
  reread : Option Bool
  /-- The record after the call. -/
  closing : FileAccess
  deriving DecidableEq, Repr

/-- The record is dropped after a thaw and after a freeze that failed and does
not read as frozen. -/
def dropsRecord (ok frozen : Bool) (reread : Option Bool) : Bool :=
  (ok && !frozen) || (!ok && frozen && reread ≠ some true)

/-- `freeze_cgroup` with its crash record: a freeze is recorded before it is
written. -/
def freezeCgroupEffects (cgroup : CgroupId) (frozen : Bool)
    (outcome : FreezeOutcome) (answers : RecordAnswers) : List FreezerEffect :=
  if !outcome.exists_ then
    .vanished cgroup ::
      if frozen then [] else [.record cgroup false answers.closing]
  else
    let ok := (freezeCgroup cgroup frozen outcome).1
    (if frozen then [.record cgroup true answers.opening] else []) ++
    (if outcome.written then [.write cgroup frozen] else []) ++
    if dropsRecord ok frozen answers.reread then
      [.record cgroup false answers.closing]
    else []

theorem freezeCgroupEffects_writes (cgroup : CgroupId) (frozen : Bool)
    (outcome : FreezeOutcome) (answers : RecordAnswers) :
    (freezeCgroupEffects cgroup frozen outcome answers).flatMap
        FreezerEffect.kernelWrites =
      (freezeCgroup cgroup frozen outcome).2 := by
  have silent : ∀ dropped : Bool,
      (if dropped then [FreezerEffect.record cgroup false answers.closing]
        else []).flatMap FreezerEffect.kernelWrites = [] := by
    intro dropped
    cases dropped <;> rfl
  unfold freezeCgroupEffects freezeCgroup
  cases outcome.exists_ with
  | false => cases frozen <;> rfl
  | true =>
    simp only [Bool.not_true, Bool.false_eq_true, if_false,
      List.flatMap_append, silent]
    cases outcome.written <;> cases frozen <;> rfl

/-! ## The start-up thaw -/

/-- The thaws of `thaw_recorded`: the cgroups thawed and those whose record is
kept; a cgroup that is gone is in neither list. -/
def thawEachRecorded :
    List CgroupId → (Nat → FreezeOutcome) → List CgroupId × List CgroupId
  | [], _ => ([], [])
  | cgroup :: rest, outcome =>
    let others := thawEachRecorded rest fun position => outcome (position + 1)
    if !(outcome 0).exists_ then others
    else if (freezeCgroup cgroup false (outcome 0)).1 then
      (cgroup :: others.1, others.2)
    else (others.1, cgroup :: others.2)

/-- `thaw_recorded`, undisturbed: the thawed cgroups and the new file. -/
def thawRecorded (file : FreezeFile) (reading : FileAccess)
    (outcome : Nat → FreezeOutcome)
    (writing : FileAccess) : List CgroupId × FreezeFile :=
  let result := thawEachRecorded (file.readState reading) outcome
  (result.1, file.writeState result.2 writing)

end SmarTune
