import SmarTune.Controller.Freeze
import SmarTune.Balancer.Freezes

/-!
# What a crash leaves frozen

The next start thaws the cgroups of the state file, so a cgroup that holds the
1 SmarTune wrote has to be listed there wherever the service dies.  The calls
of `set_freeze` are followed effect by effect.
-/

namespace SmarTune

open Balancer

/-! ## Covered states -/

namespace FreezerState

/-- Every cgroup SmarTune holds frozen is listed. -/
def Covered (state : FreezerState) : Prop :=
  ∀ cgroup, state.freeze cgroup = true → state.file.Lists cgroup

variable {state : FreezerState} {cgroup : CgroupId} {access : FileAccess}

/-- Remembering a cgroup loses records only through a failed read. -/
theorem covered_record_true_iff (covered : state.Covered) :
    (state.apply (.record cgroup true access)).Covered ↔ (access.loses = true →
        ∀ other, state.freeze other = true → other = cgroup) := by
  cases replaced : access.replaced with
  | false =>
    simpa [apply, FreezeFile.record_of_not_replaced true replaced,
      FileAccess.loses, replaced] using covered
  | true =>
    simp only [Covered, apply, FreezeFile.lists_record_true replaced,
      FileAccess.loses, replaced, Bool.true_and, Bool.not_eq_true']
    constructor
    · intro listed unreadable other held
      exact (listed other held).resolve_right (by simp [unreadable])
    · intro alone other held
      cases readable : access.readable with
      | false => exact Or.inl (alone readable other held)
      | true => exact Or.inr ⟨rfl, covered other held⟩

theorem covered_record_false_iff (covered : state.Covered) :
    (state.apply (.record cgroup false access)).Covered ↔
      (access.replaced = true → state.freeze cgroup = false) ∧
      (access.loses = true →
        ∀ other, state.freeze other = true → other = cgroup) := by
  cases replaced : access.replaced with
  | false =>
    simpa [apply, FreezeFile.record_of_not_replaced false replaced,
      FileAccess.loses, replaced] using covered
  | true =>
    simp only [Covered, apply, FreezeFile.lists_record_false replaced,
      FileAccess.loses, replaced, Bool.true_and, Bool.not_eq_true',
      forall_true_left]
    constructor
    · intro listed
      constructor
      · by_contra held
        exact (listed cgroup (by simpa using held)).1 rfl
      · intro unreadable other held
        have read := (listed other held).2.1
        rw [unreadable] at read
        cases read
    · rintro ⟨thawed, alone⟩ other held
      have different : other ≠ cgroup := by
        rintro rfl
        rw [thawed] at held
        cases held
      cases readable : access.readable with
      | false => exact absurd (alone readable other held) different
      | true => exact ⟨different, rfl, covered other held⟩

theorem covered_write_true_iff (covered : state.Covered) :
    (state.apply (.write cgroup true)).Covered ↔ state.file.Lists cgroup := by
  constructor
  · intro coveredAfter
    exact coveredAfter cgroup (by simp [apply])
  · intro listed other held
    by_cases same : other = cgroup
    · exact same ▸ listed
    · exact covered other (by simpa [apply, same] using held)

theorem lists_self_record :
    (state.apply (.record cgroup true access)).file.Lists cgroup ↔
      access.replaced = true ∨ state.file.Lists cgroup := by
  simp only [apply]
  cases replaced : access.replaced with
  | false => simp [FreezeFile.record_of_not_replaced true replaced]
  | true => simp [FreezeFile.lists_record_true replaced]

theorem holdsOnly_write_true_iff :
    (∀ other, ((state.apply (.record cgroup true access)).apply
        (.write cgroup true)).freeze other = true → other = cgroup) ↔
      ∀ other, state.freeze other = true → other = cgroup := by
  apply forall_congr'
  intro other
  by_cases same : other = cgroup
  · simp [same]
  · simp [apply, same]

theorem Covered.write_false (covered : state.Covered) :
    (state.apply (.write cgroup false)).Covered := by
  intro other held
  by_cases same : other = cgroup
  · simp [apply, same] at held
  · exact covered other (by simpa [apply, same] using held)

theorem Covered.vanished (covered : state.Covered) :
    (state.apply (.vanished cgroup)).Covered := by
  intro other held
  by_cases same : other = cgroup
  · simp [apply, same] at held
  · exact covered other (by simpa [apply, same] using held)

end FreezerState

/-! ## One call -/

/-- A call to the freezer with the answers to its crash record. -/
structure RecordedCall extends FreezeCall where
  answers : RecordAnswers

namespace RecordedCall

def effects (call : RecordedCall) : List FreezerEffect :=
  freezeCgroupEffects call.cgroup call.frozen call.outcome call.answers

def run (state : FreezerState) (call : RecordedCall) : FreezerState :=
  Runs.run FreezerState.apply state call.effects

/-- The record is dropped at the end of the call. -/
def drops (call : RecordedCall) : Bool :=
  dropsRecord call.succeeds call.frozen call.answers.reread

def accesses (call : RecordedCall) : List FileAccess :=
  if !call.outcome.exists_ then
    if call.frozen then [] else [call.answers.closing]
  else
    (if call.frozen then [call.answers.opening] else []) ++
    if call.drops then [call.answers.closing] else []

/-- The call keeps every frozen cgroup in the state file. -/
structure KeepsRecord (state : FreezerState) (call : RecordedCall) : Prop where
  /-- A freeze that is written was recorded. -/
  entered : call.frozen = true → call.wrote = true →
    call.answers.opening.replaced = true ∨ state.file.Lists call.cgroup
  /-- A record dropped by a failed freeze is of a cgroup that was neither
  written now nor held before. -/
  dropped : call.frozen = true → call.outcome.exists_ = true →
    call.drops = true → call.answers.closing.replaced = true →
      call.wrote = false ∧ state.freeze call.cgroup = false
  /-- The file is not rewritten from a failed read while it matters. -/
  rewritten : ∀ access ∈ call.accesses, access.loses = true →
    ∀ other, state.freeze other = true → other = call.cgroup

variable {state : FreezerState} {call : RecordedCall}

open FreezerState

theorem everyPrefix_drop_iff {cgroup : CgroupId} {access : FileAccess}
    (dropped : Bool) :
    Runs.EveryPrefix apply Covered state
        (if dropped then [.record cgroup false access] else []) ↔
      state.Covered ∧ (dropped = true →
        (access.replaced = true → state.freeze cgroup = false) ∧
        (access.loses = true →
          ∀ other, state.freeze other = true → other = cgroup)) := by
  cases dropped with
  | false => simp
  | true =>
    simp only [if_true, Runs.everyPrefix_cons, Runs.everyPrefix_nil,
      forall_true_left]
    exact and_congr_right covered_record_false_iff

theorem keepsRecord_freeze_iff (frozen : call.frozen = true)
    (present : call.outcome.exists_ = true) :
    call.KeepsRecord state ↔ (call.answers.opening.loses = true →
        ∀ other, state.freeze other = true → other = call.cgroup) ∧
      (call.wrote = true → call.answers.opening.replaced = true ∨
          state.file.Lists call.cgroup) ∧
      (call.drops = true → (call.answers.closing.replaced = true →
          call.wrote = false ∧ state.freeze call.cgroup = false) ∧
        (call.answers.closing.loses = true →
          ∀ other, state.freeze other = true → other = call.cgroup)) := by
  have accesses : call.accesses = call.answers.opening ::
      if call.drops then [call.answers.closing] else [] := by
    simp [accesses, present, frozen]
  constructor
  · intro keeps
    refine ⟨?_, keeps.entered frozen, fun drops => ⟨?_, ?_⟩⟩
    · exact keeps.rewritten _ (accesses ▸ List.mem_cons_self)
    · exact keeps.dropped frozen present drops
    · exact keeps.rewritten _ (by simp [accesses, drops])
  · rintro ⟨opened, entered, closed⟩
    refine ⟨fun _ => entered, fun _ _ drops => (closed drops).1, ?_⟩
    rw [accesses]
    intro access member
    rcases List.mem_cons.mp member with rfl | atEnd
    · exact opened
    · split at atEnd
      · next drops =>
        obtain rfl := List.mem_singleton.mp atEnd
        exact (closed drops).2
      · cases atEnd

theorem everyPrefix_freeze_iff (covered : state.Covered)
    (frozen : call.frozen = true) (present : call.outcome.exists_ = true) :
    Runs.EveryPrefix apply Covered state call.effects ↔
      call.KeepsRecord state := by
  have shape : call.effects = .record call.cgroup true call.answers.opening ::
        ((if call.outcome.written then [.write call.cgroup true] else []) ++
          if call.drops then [.record call.cgroup false call.answers.closing]
          else []) := by
    simp [effects, freezeCgroupEffects, present, frozen, drops,
      FreezeCall.succeeds]
  rw [keepsRecord_freeze_iff frozen present, shape, Runs.everyPrefix_cons,
    and_iff_right covered]
  cases written : call.outcome.written with
  | false =>
    have silent : call.wrote = false := by
      simp [FreezeCall.wrote, written]
    simp only [Bool.false_eq_true, if_false, List.nil_append,
      everyPrefix_drop_iff, covered_record_true_iff covered, silent,
      false_implies, true_and]
    rfl
  | true =>
    have wrote : call.wrote = true := by
      simp [FreezeCall.wrote, written, present]
    simp only [if_true, List.singleton_append, Runs.everyPrefix_cons,
      everyPrefix_drop_iff, wrote, forall_true_left, Bool.true_eq_false,
      false_and]
    rw [← covered_record_true_iff covered]
    apply and_congr_right
    intro recorded
    rw [covered_write_true_iff recorded, lists_self_record]
    apply and_congr_right
    intro _
    apply imp_congr_right
    intro _
    -- The cgroup is held now, so its record must not go.
    refine and_congr (by simp [apply]) (imp_congr_right fun _ => ?_)
    exact holdsOnly_write_true_iff

theorem everyPrefix_drop_cleared_iff {cleared : FreezerState}
    {cgroup : CgroupId} {access : FileAccess} (covered : cleared.Covered)
    (clears : ∀ other, cleared.freeze other =
      if other = cgroup then false else state.freeze other)
    (dropped : Bool) :
    Runs.EveryPrefix apply Covered cleared
        (if dropped then [.record cgroup false access] else []) ↔
      (dropped = true → access.loses = true →
        ∀ other, state.freeze other = true → other = cgroup) := by
  rw [everyPrefix_drop_iff, and_iff_right covered]
  apply imp_congr_right
  intro _
  constructor
  · rintro ⟨_, alone⟩ loses other held
    by_contra different
    exact different (alone loses other (by simp [clears, different, held]))
  · intro alone
    refine ⟨fun _ => by simp [clears], ?_⟩
    intro loses other held
    by_contra different
    exact different (alone loses other (by simpa [clears, different] using held))

/-- A thaw does so exactly when no failed read loses other records. -/
theorem everyPrefix_thaw_iff (covered : state.Covered)
    (thaws : call.frozen = false) (present : call.outcome.exists_ = true) :
    Runs.EveryPrefix apply Covered state call.effects ↔
      call.KeepsRecord state := by
  have accesses : call.accesses =
      if call.drops then [call.answers.closing] else [] := by
    simp [accesses, present, thaws]
  have keeps_iff : call.KeepsRecord state ↔
      (call.drops = true → call.answers.closing.loses = true →
        ∀ other, state.freeze other = true → other = call.cgroup) := by
    constructor
    · intro keeps drops
      exact keeps.rewritten _ (by simp [accesses, drops])
    · intro alone
      refine ⟨?_, ?_, ?_⟩
      · simp [thaws]
      · simp [thaws]
      · rw [accesses]
        intro access member
        split at member
        · next drops =>
          obtain rfl := List.mem_singleton.mp member
          exact alone drops
        · cases member
  rw [keeps_iff]
  cases written : call.outcome.written with
  | false =>
    have refused : call.drops = false := by
      simp [drops, dropsRecord, thaws, FreezeCall.succeeds, freezeCgroup,
        present, written]
    have shape : call.effects = [] := by
      simp [effects, freezeCgroupEffects, freezeCgroup, dropsRecord, present,
        thaws, written]
    simp [shape, refused, covered]
  | true =>
    have shape : call.effects = .write call.cgroup false ::
        if call.drops then [.record call.cgroup false call.answers.closing]
        else [] := by
      simp [effects, freezeCgroupEffects, present, thaws, drops, written,
        FreezeCall.succeeds]
    rw [shape, Runs.everyPrefix_cons, and_iff_right covered]
    exact everyPrefix_drop_cleared_iff covered.write_false (fun _ => rfl) _

theorem everyPrefix_gone_iff (covered : state.Covered)
    (gone : call.outcome.exists_ = false) :
    Runs.EveryPrefix apply Covered state call.effects ↔
      call.KeepsRecord state := by
  have shape : call.effects = .vanished call.cgroup ::
      if !call.frozen then [.record call.cgroup false call.answers.closing]
      else [] := by
    cases thaws : call.frozen <;> simp [effects, freezeCgroupEffects, gone, thaws]
  have accesses : call.accesses =
      if !call.frozen then [call.answers.closing] else [] := by
    cases thaws : call.frozen <;> simp [accesses, gone, thaws]
  rw [shape, Runs.everyPrefix_cons, and_iff_right covered,
    everyPrefix_drop_cleared_iff covered.vanished fun _ => rfl]
  constructor
  · intro alone
    refine ⟨?_, ?_, ?_⟩
    · simp [FreezeCall.wrote, gone]
    · simp [gone]
    · rw [accesses]
      intro access member
      split at member
      · next thaws =>
        obtain rfl := List.mem_singleton.mp member
        exact alone thaws
      · cases member
  · intro keeps thaws
    exact keeps.rewritten _ (by rw [accesses, if_pos thaws]; simp)

theorem everyPrefix_effects_iff (covered : state.Covered) :
    Runs.EveryPrefix apply Covered state call.effects ↔
      call.KeepsRecord state := by
  cases present : call.outcome.exists_ with
  | false => exact everyPrefix_gone_iff covered present
  | true =>
    cases frozen : call.frozen with
    | false => exact everyPrefix_thaw_iff covered frozen present
    | true => exact everyPrefix_freeze_iff covered frozen present

end RecordedCall

/-! ## What the calls leave frozen -/

namespace FreezeCall

/-- The call writes the 1. -/
def sets (call : FreezeCall) : Bool :=
  call.wrote && call.frozen

/-- The call writes the 0, or finds the cgroup gone. -/
def clears (call : FreezeCall) : Bool :=
  call.takesEffect && !call.sets

def leaves (held : CgroupId → Bool) (call : FreezeCall) : CgroupId → Bool :=
  fun other =>
    if other = call.cgroup then
      call.sets || (held other && !call.clears)
    else held other

variable {calls : List FreezeCall} {held : CgroupId → Bool}
  {cgroup : CgroupId}

theorem run_leaves_of_no_clears
    (setting : ∀ call ∈ calls, call.clears = false) :
    Runs.run leaves held calls cgroup = true ↔ held cgroup = true ∨
        ∃ call ∈ calls, call.cgroup = cgroup ∧ call.sets = true := by
  induction calls generalizing held with
  | nil => simp
  | cons call calls ih =>
    rw [Runs.run_cons, ih fun other member =>
      setting other (List.mem_cons_of_mem _ member)]
    have keeps := setting call List.mem_cons_self
    by_cases here : cgroup = call.cgroup
    · simp only [leaves, here, if_true, keeps, Bool.not_false, Bool.and_true,
        Bool.or_eq_true, List.exists_mem_cons_iff, true_and]
      tauto
    · simp [leaves, here, Ne.symm here]

theorem run_leaves_of_no_sets (clearing : ∀ call ∈ calls, call.sets = false) :
    Runs.run leaves held calls cgroup = true ↔ held cgroup = true ∧
        ¬ ∃ call ∈ calls, call.cgroup = cgroup ∧ call.clears = true := by
  induction calls generalizing held with
  | nil => simp
  | cons call calls ih =>
    rw [Runs.run_cons, ih fun other member =>
      clearing other (List.mem_cons_of_mem _ member)]
    have keeps := clearing call List.mem_cons_self
    by_cases here : cgroup = call.cgroup
    · simp only [leaves, here, if_true, keeps, Bool.false_or,
        Bool.and_eq_true, Bool.not_eq_true', List.exists_mem_cons_iff,
        true_and, not_or, Bool.not_eq_true]
      tauto
    · simp [leaves, here, Ne.symm here]

theorem exists_split_freezeEachCalls (cgroups : List CgroupId)
    (outcome : Nat → FreezeOutcome) :
    ∃ setting clearing,
      freezeEachCalls true cgroups outcome = setting ++ clearing ∧
      (∀ call ∈ setting, call.clears = false) ∧
      ∀ call ∈ clearing, call.sets = false := by
  induction cgroups generalizing outcome with
  | nil => exact ⟨[], [], rfl, by simp, by simp⟩
  | cons cgroup rest ih =>
    obtain ⟨setting, clearing, split, sets, clears⟩ :=
      ih fun position => outcome (position + 1)
    simp only [freezeEachCalls]
    cases succeeded :
        (⟨cgroup, true, outcome 0⟩ : FreezeCall).succeeds with
    | true =>
      rw [if_pos rfl, split]
      refine ⟨_ :: setting, clearing, rfl, ?_, clears⟩
      intro call member
      rcases List.mem_cons.mp member with rfl | later
      · have wrote := (of_succeeds succeeded).2 rfl
        simp [FreezeCall.clears, FreezeCall.sets, wrote]
      · exact sets call later
    | false =>
      rw [if_neg Bool.false_ne_true]
      cases written : (⟨cgroup, true, outcome 0⟩ : FreezeCall).clears with
      | false => exact ⟨[_], [], rfl, by simpa using written, by simp⟩
      | true =>
        refine ⟨[], [_], rfl, by simp, ?_⟩
        simpa using (Bool.and_eq_true_iff.mp written).2

theorem not_sets_of_mem_thawCalls {cgroups : List CgroupId}
    {outcome : Nat → FreezeOutcome} {call : FreezeCall}
    (member : call ∈ thawCalls cgroups outcome) :
    call.sets = false := by
  simp [FreezeCall.sets, (mem_thawCalls member).2]

end FreezeCall

theorem FreezerState.run_record_freeze (state : FreezerState)
    (cgroup : CgroupId) (frozen recorded : Bool) (access : FileAccess) :
    (Runs.run apply state
      (if recorded then [.record cgroup frozen access] else [])).freeze =
      state.freeze := by
  cases recorded <;> rfl

/-- The cgroups held after a call. -/
theorem RecordedCall.run_freeze (state : FreezerState) (call : RecordedCall) :
    (call.run state).freeze = call.leaves state.freeze := by
  funext other
  cases present : call.outcome.exists_ <;>
    cases written : call.outcome.written <;>
    cases frozen : call.frozen <;>
    by_cases here : other = call.cgroup <;>
    simp [RecordedCall.run, RecordedCall.effects, freezeCgroupEffects,
      FreezeCall.leaves, FreezeCall.sets, FreezeCall.clears,
      FreezeCall.takesEffect, FreezeCall.wrote, FreezerState.apply,
      FreezerState.run_record_freeze, present, written, frozen, here]

/-! ## The request -/

/-- The calls with the answers to their crash records, in order. -/
def recordCalls :
    List FreezeCall → (Nat → RecordAnswers) → List RecordedCall
  | [], _ => []
  | call :: rest, answers =>
    ⟨call, answers 0⟩ :: recordCalls rest fun position =>
      answers (position + 1)

/-- The records do not change what is held. -/
theorem run_recordCalls_freeze (calls : List FreezeCall)
    (answers : Nat → RecordAnswers) (state : FreezerState) :
    (Runs.run RecordedCall.run state (recordCalls calls answers)).freeze =
      Runs.run FreezeCall.leaves state.freeze calls := by
  induction calls generalizing answers state with
  | nil => rfl
  | cons call calls ih =>
    rw [recordCalls, Runs.run_cons, Runs.run_cons, ih, RecordedCall.run_freeze]

theorem recordCalls_writes (calls : List FreezeCall)
    (answers : Nat → RecordAnswers) :
    ((recordCalls calls answers).flatMap RecordedCall.effects).flatMap
        FreezerEffect.kernelWrites =
      calls.flatMap FreezeCall.writes := by
  induction calls generalizing answers with
  | nil => rfl
  | cons call calls ih =>
    rw [recordCalls, List.flatMap_cons, List.flatMap_append,
      List.flatMap_cons, ih]
    exact congrArg (· ++ _) (freezeCgroupEffects_writes _ _ _ _)

def FreezeReply.isFailure : FreezeReply → Bool
  | .noManualLimit | .cgroupFailed => true
  | .unchanged | .done => false

namespace Balancer

/-- The cgroups of the app's manual entry. -/
def freezeTargets (balancer : Balancer) (appId : String) : List CgroupId :=
  match balancer.allLimits.byPublicId appId .manual with
  | none => []
  | some (key, entry) => entry.cgroupsOrKey key

/-- What `set_freeze` does to the freezers and the state file. -/
def setFreezeEffects (balancer : Balancer) (appId : String) (freeze : Bool)
    (outcomes : SetFreezeOutcomes)
    (answers : Nat → RecordAnswers) : List FreezerEffect :=
  (recordCalls (balancer.setFreezeCalls appId freeze outcomes)
    answers).flatMap RecordedCall.effects

variable {balancer : Balancer} {appId : String} {outcomes : SetFreezeOutcomes}
  {answers : Nat → RecordAnswers} {file : FreezeFile}

theorem setFreezeEffects_kernel (freeze : Bool) :
    (balancer.setFreeze appId freeze outcomes).2.kernel =
      balancer.kernel.writeAll
        ((balancer.setFreezeEffects appId freeze outcomes answers).flatMap
          FreezerEffect.kernelWrites) := by
  rw [setFreeze_kernel, setFreezeEffects, recordCalls_writes]

def freezerState (balancer : Balancer) (file : FreezeFile) : FreezerState :=
  ⟨balancer.kernel.freeze, file⟩

/-- Wherever `set_freeze` dies every frozen cgroup is listed, and when it fails
no cgroup of the app is left frozen. -/
def FreezesSafely (balancer : Balancer) (appId : String)
    (outcomes : SetFreezeOutcomes) (answers : Nat → RecordAnswers)
    (file : FreezeFile) : Prop :=
  let effects := balancer.setFreezeEffects appId true outcomes answers
  Runs.EveryPrefix FreezerState.apply FreezerState.Covered
    (balancer.freezerState file) effects ∧
  ((balancer.setFreeze appId true outcomes).1.isFailure = true →
    ∀ cgroup ∈ balancer.freezeTargets appId,
      (Runs.run FreezerState.apply (balancer.freezerState file)
        effects).freeze cgroup = false)

/-- The condition under which `set_freeze` is safe. -/
structure FreezeFollows (balancer : Balancer) (appId : String)
    (outcomes : SetFreezeOutcomes) (answers : Nat → RecordAnswers)
    (file : FreezeFile) : Prop where
  /-- Whatever is frozen before is listed. -/
  covered : (balancer.freezerState file).Covered
  /-- Each call keeps its record. -/
  kept : Runs.EveryStep RecordedCall.run
    (fun state call => call.KeepsRecord state)
    (balancer.freezerState file)
    (recordCalls (balancer.setFreezeCalls appId true outcomes) answers)
  /-- When a freeze fails, each cgroup of the app that was written now or held
  before is thawed again, or gone. -/
  undone : (∃ call ∈ balancer.setFreezeCalls appId true outcomes,
      call.frozen = true ∧ call.succeeds = false) →
    ∀ cgroup ∈ balancer.freezeTargets appId,
      (balancer.kernel.freeze cgroup = true ∨
        ∃ call ∈ balancer.setFreezeCalls appId true outcomes,
          call.cgroup = cgroup ∧ call.sets = true) →
      ∃ call ∈ balancer.setFreezeCalls appId true outcomes,
        call.cgroup = cgroup ∧ call.clears = true

theorem freezeEach_eq_false_iff {freeze : Bool} {cgroups : List CgroupId}
    {outcome : Nat → FreezeOutcome} :
    (freezeEach freeze cgroups outcome).1 = false ↔
      ∃ call ∈ freezeEachCalls freeze cgroups outcome,
        call.succeeds = false := by
  induction cgroups generalizing outcome with
  | nil => simp [freezeEach, freezeEachCalls]
  | cons cgroup rest ih =>
    cases succeeded : (freezeCgroup cgroup freeze (outcome 0)).1 with
    | true =>
      have calls : freezeEachCalls freeze (cgroup :: rest) outcome =
          ⟨cgroup, freeze, outcome 0⟩ :: freezeEachCalls freeze rest
            fun position => outcome (position + 1) := if_pos succeeded
      rw [calls, freezeEach, if_pos succeeded, List.exists_mem_cons_iff, ih]
      exact ⟨Or.inr, fun failing => failing.resolve_left
        (by simp [FreezeCall.succeeds, succeeded])⟩
    | false =>
      have stopped : ¬ (freezeCgroup cgroup freeze (outcome 0)).1 = true :=
        by simp [succeeded]
      have calls : freezeEachCalls freeze (cgroup :: rest) outcome =
          [⟨cgroup, freeze, outcome 0⟩] := if_neg stopped
      rw [calls, freezeEach, if_neg stopped]
      simp [FreezeCall.succeeds, succeeded]

theorem setFreeze_isFailure_iff :
    (balancer.setFreeze appId true outcomes).1.isFailure = true ↔
      balancer.allLimits.byPublicId appId .manual = none ∨
        ∃ call ∈ balancer.setFreezeCalls appId true outcomes,
          call.frozen = true ∧ call.succeeds = false := by
  simp only [setFreeze, setFreezeCalls]
  cases balancer.allLimits.byPublicId appId .manual with
  | none => simp [FreezeReply.isFailure]
  | some target =>
    obtain ⟨key, entry⟩ := target
    simp only [reduceCtorEq, false_or]
    split
    · simp [FreezeReply.isFailure]
    · cases result : (freezeEach true (entry.cgroupsOrKey key)
          outcomes.freeze).1 with
      | true =>
        have succeeding : ¬ ∃ call ∈ freezeEachCalls true
            (entry.cgroupsOrKey key) outcomes.freeze,
            call.succeeds = false := by
          rw [← freezeEach_eq_false_iff, result]
          simp
        simp only [Bool.not_true, Bool.false_eq_true, if_false,
          Bool.and_false, List.append_nil, FreezeReply.isFailure,
          false_iff]
        rintro ⟨call, member, _, failing⟩
        exact succeeding ⟨call, member, failing⟩
      | false =>
        obtain ⟨call, member, failing⟩ := freezeEach_eq_false_iff.mp result
        simp only [Bool.not_false, if_true, Bool.and_true,
          FreezeReply.isFailure, true_iff]
        exact ⟨call, List.mem_append_left _ member,
          (mem_freezeEachCalls member).2, failing⟩

theorem exists_split_setFreezeCalls (balancer : Balancer) (appId : String)
    (outcomes : SetFreezeOutcomes) :
    ∃ setting clearing,
      balancer.setFreezeCalls appId true outcomes = setting ++ clearing ∧
      (∀ call ∈ setting, call.clears = false) ∧
      ∀ call ∈ clearing, call.sets = false := by
  simp only [setFreezeCalls]
  cases balancer.allLimits.byPublicId appId .manual with
  | none => exact ⟨[], [], rfl, by simp, by simp⟩
  | some target =>
    obtain ⟨key, entry⟩ := target
    simp only
    split
    · exact ⟨[], [], rfl, by simp, by simp⟩
    · obtain ⟨setting, clearing, split, sets, clears⟩ :=
        FreezeCall.exists_split_freezeEachCalls (entry.cgroupsOrKey key)
          outcomes.freeze
      rw [split, List.append_assoc]
      refine ⟨setting, _, rfl, sets, ?_⟩
      intro call member
      rcases List.mem_append.mp member with inFreeze | undo
      · exact clears call inFreeze
      · split at undo
        · exact FreezeCall.not_sets_of_mem_thawCalls undo
        · cases undo

theorem held_after_setFreeze_iff (cgroup : CgroupId) :
    (Runs.run FreezerState.apply (balancer.freezerState file)
      (balancer.setFreezeEffects appId true outcomes answers)).freeze cgroup =
        true ↔
      (balancer.kernel.freeze cgroup = true ∨
        ∃ call ∈ balancer.setFreezeCalls appId true outcomes,
          call.cgroup = cgroup ∧ call.sets = true) ∧
      ¬ ∃ call ∈ balancer.setFreezeCalls appId true outcomes,
        call.cgroup = cgroup ∧ call.clears = true := by
  obtain ⟨setting, clearing, split, sets, clears⟩ :=
    exists_split_setFreezeCalls balancer appId outcomes
  have held : (Runs.run FreezerState.apply (balancer.freezerState file)
      (balancer.setFreezeEffects appId true outcomes answers)).freeze =
        Runs.run FreezeCall.leaves (Runs.run FreezeCall.leaves
          balancer.kernel.freeze setting) clearing := by
    rw [setFreezeEffects, Runs.run_flatMap, ← Runs.run_append, ← split]
    exact run_recordCalls_freeze _ _ _
  rw [held, FreezeCall.run_leaves_of_no_sets clears,
    FreezeCall.run_leaves_of_no_clears sets, split]
  have setBefore : (∃ call ∈ setting ++ clearing,
      call.cgroup = cgroup ∧ call.sets = true) ↔
        ∃ call ∈ setting, call.cgroup = cgroup ∧ call.sets = true := by
    constructor
    · rintro ⟨call, member, here, set⟩
      rcases List.mem_append.mp member with first | later
      · exact ⟨call, first, here, set⟩
      · rw [clears call later] at set
        cases set
    · rintro ⟨call, member, on⟩
      exact ⟨call, List.mem_append_left _ member, on⟩
  have clearedAfter : (∃ call ∈ setting ++ clearing,
      call.cgroup = cgroup ∧ call.clears = true) ↔
        ∃ call ∈ clearing, call.cgroup = cgroup ∧ call.clears = true := by
    constructor
    · rintro ⟨call, member, here, cleared⟩
      rcases List.mem_append.mp member with first | later
      · rw [sets call first] at cleared
        cases cleared
      · exact ⟨call, later, here, cleared⟩
    · rintro ⟨call, member, on⟩
      exact ⟨call, List.mem_append_right _ member, on⟩
  rw [setBefore, clearedAfter]

theorem everyPrefix_setFreeze_iff :
    Runs.EveryPrefix FreezerState.apply FreezerState.Covered
        (balancer.freezerState file)
        (balancer.setFreezeEffects appId true outcomes answers) ↔
      (balancer.freezerState file).Covered ∧
      Runs.EveryStep RecordedCall.run (fun state call => call.KeepsRecord state)
        (balancer.freezerState file)
        (recordCalls (balancer.setFreezeCalls appId true outcomes)
          answers) := by
  have calls_iff : (balancer.freezerState file).Covered →
      (Runs.EveryPrefix FreezerState.apply FreezerState.Covered
          (balancer.freezerState file)
          (balancer.setFreezeEffects appId true outcomes answers) ↔
        Runs.EveryStep RecordedCall.run
          (fun state call => call.KeepsRecord state)
          (balancer.freezerState file)
          (recordCalls (balancer.setFreezeCalls appId true outcomes)
            answers)) := by
    intro covered
    exact Runs.everyPrefix_flatMap_iff
      (fun _ _ coveredThen => RecordedCall.everyPrefix_effects_iff coveredThen)
      covered _
  constructor
  · intro holds
    exact ⟨holds.initially, (calls_iff holds.initially).mp holds⟩
  · rintro ⟨covered, kept⟩
    exact (calls_iff covered).mpr kept

/-- `set_freeze` is safe exactly under the condition. -/
theorem freezesSafely_iff (balancer : Balancer) (appId : String)
    (outcomes : SetFreezeOutcomes) (answers : Nat → RecordAnswers)
    (file : FreezeFile) :
    balancer.FreezesSafely appId outcomes answers file ↔
      balancer.FreezeFollows appId outcomes answers file := by
  have released : ∀ cgroup,
      (Runs.run FreezerState.apply (balancer.freezerState file)
        (balancer.setFreezeEffects appId true outcomes answers)).freeze
          cgroup = false ↔ _ :=
    fun cgroup => by
      rw [← Bool.not_eq_true, held_after_setFreeze_iff, not_and, not_not]
  constructor
  · rintro ⟨prefixes, left⟩
    obtain ⟨covered, kept⟩ := everyPrefix_setFreeze_iff.mp prefixes
    refine ⟨covered, kept, ?_⟩
    intro failing cgroup target
    exact (released cgroup).mp
      (left (setFreeze_isFailure_iff.mpr (Or.inr failing)) cgroup target)
  · rintro ⟨covered, kept, undone⟩
    refine ⟨everyPrefix_setFreeze_iff.mpr ⟨covered, kept⟩, ?_⟩
    intro failed cgroup target
    rcases setFreeze_isFailure_iff.mp failed with unlimited | failing
    · rw [freezeTargets, unlimited] at target
      cases target
    · exact (released cgroup).mpr (undone failing cgroup target)

def limitedInTwoCgroups : Balancer :=
  (ManualSystem.initial.step (ManualSystem.limitApp [])).balancer

/-- The first cgroup follows, the second one not before the timeout. -/
def secondTimesOut : SetFreezeOutcomes :=
  ⟨fun position => ⟨true, true, position = 0⟩, fun _ => .accepting, 0⟩

/-- The state file works, and a cgroup that timed out still reads as thawed. -/
def stillThawed : Nat → RecordAnswers :=
  fun _ => ⟨.working, some false, .working⟩

/-- A freeze that times out leaves the 1 it wrote, drops its record and is not
rolled back. -/
theorem timed_out_freeze_forgotten :
    ((limitedInTwoCgroups.setFreeze "app" true secondTimesOut).1.isFailure =
        true ∧
      (Runs.run FreezerState.apply (limitedInTwoCgroups.freezerState ⟨none⟩)
        (limitedInTwoCgroups.setFreezeEffects "app" true secondTimesOut
          stillThawed)).freeze "two.scope" = true ∧
      ¬ (Runs.run FreezerState.apply (limitedInTwoCgroups.freezerState ⟨none⟩)
        (limitedInTwoCgroups.setFreezeEffects "app" true secondTimesOut
          stillThawed)).file.Lists "two.scope") ∧
    ¬ limitedInTwoCgroups.FreezesSafely "app" secondTimesOut stillThawed
      ⟨none⟩ := by
  have left : (limitedInTwoCgroups.setFreeze "app" true
        secondTimesOut).1.isFailure = true ∧
      (Runs.run FreezerState.apply (limitedInTwoCgroups.freezerState ⟨none⟩)
        (limitedInTwoCgroups.setFreezeEffects "app" true secondTimesOut
          stillThawed)).freeze "two.scope" = true ∧
      ¬ (Runs.run FreezerState.apply (limitedInTwoCgroups.freezerState ⟨none⟩)
        (limitedInTwoCgroups.setFreezeEffects "app" true secondTimesOut
          stillThawed)).file.Lists "two.scope" := by
    decide +kernel
  refine ⟨left, ?_⟩
  rintro ⟨prefixes, _⟩
  exact left.2.2 (prefixes.finally "two.scope" left.2.1)

end Balancer

end SmarTune
