import SmarTune.Balancer.LifecycleHistory

/-!
# The verdict of a full restore

`_restore_entry` accumulates the channels that failed over a loop that counts
the primary cgroup only, skips the cgroups that are gone and may be left by an
exception half way; its `finally` block then reports every limited channel as
recovered or as failed.  While nothing raises this is `restoreEntry`.
-/

namespace SmarTune

def LimitParts.flag (parts : LimitParts) : Channel → LimitParts
  | .sys => { parts with cpuMemLimited := true }
  | .diskIo => { parts with ioLimited := true }

/-- The channels of either. -/
def LimitParts.union (first second : LimitParts) : LimitParts :=
  ⟨first.cpuMemLimited || second.cpuMemLimited,
    first.ioLimited || second.ioLimited⟩

/-- Channels that are among others add nothing to them. -/
theorem LimitParts.union_of_within {first second : LimitParts}
    (within : ∀ channel, first.of channel = true → second.of channel = true) :
    first.union second = second := by
  have sys := within .sys
  have disk := within .diskIo
  cases first
  cases second
  simp only [of] at sys disk
  simp only [union, mk.injEq, Bool.or_eq_right_iff_imp]
  exact ⟨sys, disk⟩

/-- A call in the loop of `_restore_entry`. -/
inductive RestoreCall
  | cgroupExists
  | adjustResources
  | restoreDiskIoThrottle
  deriving DecidableEq, Repr

namespace Balancer

/-- What the environment answers to one `_restore_entry` call in which any
call may raise, with how many of its writes landed before. -/
structure RaisingOutcomes extends EntryOutcomes where
  raised : Nat → RestoreCall → Option Nat
  thawRaised : Option Nat

/-- The locals of `_restore_entry`, and whether an exception is under way. -/
structure RestoreProgress where
  writes : List KernelWrite
  failedParts : LimitParts
  restoreSuccess : Bool
  raising : Bool

namespace RestoreProgress

/-- Before the loop. -/
def start : RestoreProgress := ⟨[], .none, true, false⟩

/-- An exception leaves the call after some of its writes. -/
def abort (progress : RestoreProgress)
    (landed : List KernelWrite) : RestoreProgress :=
  { progress with
    writes := progress.writes ++ landed
    raising := true }

def callPart (progress : RestoreProgress) (flagged isPrimary : Bool)
    (channel : Channel) (raised : Option Nat)
    (call : ControllerCall) : RestoreProgress :=
  if progress.raising || !flagged then progress
  else
    match raised with
    | some landed => progress.abort (call.2.take landed)
    | none =>
      if !call.1 && isPrimary then
        { progress with
          writes := progress.writes ++ call.2
          failedParts := progress.failedParts.flag channel
          restoreSuccess := false }
      else { progress with writes := progress.writes ++ call.2 }

/-- One round of the loop. -/
def round (entry : LimitedApp) (outcomes : RaisingOutcomes)
    (progress : RestoreProgress) (target : CgroupId × Nat) : RestoreProgress :=
  let (cgroup, position) := target
  if progress.raising then progress
  else
    match outcomes.raised position .cgroupExists with
    | some _ => progress.abort []
    | none =>
      if !outcomes.cgroupExists position then
        { progress with writes := progress.writes ++ [.removed cgroup] }
      else
        (progress.callPart entry.limitParts.cpuMemLimited (position = 0)
            .sys (outcomes.raised position .adjustResources)
            (adjustResources cgroup .low none none
              (outcomes.adjust position))).callPart
          entry.limitParts.ioLimited (position = 0) .diskIo
          (outcomes.raised position .restoreDiskIoThrottle)
          (restoreDiskIoThrottle cgroup entry.limitDisks (outcomes.io position))

/-- The thaw after the loop. -/
def thaw (entry : LimitedApp) (outcomes : RaisingOutcomes)
    (progress : RestoreProgress) : RestoreProgress :=
  if progress.raising || !entry.frozen then progress
  else
    let call := thawCgroups entry.targets outcomes.thaw
    match outcomes.thawRaised with
    | some landed => progress.abort (call.2.take landed)
    | none =>
      { progress with
        writes := progress.writes ++ call.2
        restoreSuccess := progress.restoreSuccess && call.1 }

/-- The `except` block: every limited channel counts as failed. -/
def recover (entry : LimitedApp)
    (progress : RestoreProgress) : RestoreProgress :=
  if progress.raising then
    { progress with
      failedParts := progress.failedParts.union entry.limitParts
      restoreSuccess := false }
  else progress

end RestoreProgress

/-- The loop, the thaw and the `except` block. -/
def restoreProgress (entry : LimitedApp)
    (outcomes : RaisingOutcomes) : RestoreProgress :=
  .recover entry (.thaw entry outcomes
    (entry.targets.zipIdx.foldl (RestoreProgress.round entry outcomes) .start))

/-- `_restore_entry` with its exceptions: the `finally` block reports every
limited channel. -/
def restoreEntryRaising (balancer : Balancer) (entry : LimitedApp)
    (outcomes : RaisingOutcomes) : Bool × Balancer :=
  let progress := restoreProgress entry outcomes
  let failed := progress.failedParts
  let restored : LimitParts :=
    { cpuMemLimited := entry.limitParts.cpuMemLimited && !failed.cpuMemLimited
      ioLimited := entry.limitParts.ioLimited && !failed.ioLimited }
  let event := fun (balancer : Balancer) action parts =>
    balancer.emit action parts entry.resourceParts entry.publicAppId
      entry.appName entry.protectionId .auto
  (progress.restoreSuccess,
    event (event (balancer.writes progress.writes) .recovered restored)
      .failed failed)

/-! ## What the claim asks -/

/-- The cgroup is listed by the entry and found. -/
def StillExists (entry : LimitedApp) (outcomes : EntryOutcomes)
    (cgroup : CgroupId) : Prop :=
  ∃ position, entry.targets[position]? = some cgroup ∧
    outcomes.cgroupExists position = true

/-- Each limited channel is reported once, as recovered or as failed, and no
other channel is. -/
def ReportsOnce (entry : LimitedApp) (events : List ControlEvent) : Prop :=
  ∀ channel,
    let actions := (events.filter (·.concerns channel)).map (·.action)
    if entry.limitParts.of channel = true
    then actions = [.recovered] ∨ actions = [.failed]
    else actions = []

def Recovers (events : List ControlEvent) (channel : Channel) : Prop :=
  ∃ event ∈ events, event.action = .recovered ∧ event.concerns channel = true

/-- What is reported as recovered is lifted on every cgroup that still
exists. -/
def RecoversLifted (entry : LimitedApp) (outcomes : EntryOutcomes)
    (events : List ControlEvent) (kernel : Kernel) : Prop :=
  ∀ channel, Recovers events channel →
    ∀ cap : Cap, cap.channel = channel → cap.OnDisks entry.limitDisks →
      StillExists entry outcomes cap.cgroup → ¬ kernel.InForce cap

/-- The events one `_restore_entry` call adds. -/
def verdict (balancer : Balancer) (entry : LimitedApp)
    (outcomes : RaisingOutcomes) : List ControlEvent :=
  (balancer.restoreEntryRaising entry outcomes).2.events.drop
    balancer.events.length

/-! ## When a call raises -/

/-- A call of the round raises. -/
def raisesAt (entry : LimitedApp) (outcomes : RaisingOutcomes)
    (position : Nat) : Bool :=
  (outcomes.raised position .cgroupExists).isSome ||
    (outcomes.cgroupExists position && ((entry.limitParts.cpuMemLimited &&
          (outcomes.raised position .adjustResources).isSome) ||
        (entry.limitParts.ioLimited &&
          (outcomes.raised position .restoreDiskIoThrottle).isSome)))

def restoreRaises (entry : LimitedApp) (outcomes : RaisingOutcomes) : Bool :=
  (entry.targets.zipIdx.any fun target => raisesAt entry outcomes target.2) ||
    (entry.frozen && outcomes.thawRaised.isSome)

/-- The channels that fail in one round: those of the primary. -/
def roundFailed (entry : LimitedApp) (outcomes : EntryOutcomes)
    (target : CgroupId × Nat) : LimitParts :=
  if target.2 = 0 then
    { cpuMemLimited := outcomes.cgroupExists 0 &&
        entry.limitParts.cpuMemLimited &&
        !(adjustResources target.1 .low none none (outcomes.adjust 0)).1
      ioLimited := outcomes.cgroupExists 0 && entry.limitParts.ioLimited &&
        !(restoreDiskIoThrottle target.1 entry.limitDisks
          (outcomes.io 0)).1 }
  else .none

namespace RestoreProgress

/-- Add the writes and the failures of a round. -/
def note (progress : RestoreProgress) (writes : List KernelWrite)
    (failed : LimitParts) : RestoreProgress :=
  { progress with
    writes := progress.writes ++ writes
    failedParts := progress.failedParts.union failed
    restoreSuccess := progress.restoreSuccess && !failed.any }

@[simp] theorem note_raising (progress : RestoreProgress)
    (writes : List KernelWrite) (failed : LimitParts) :
    (progress.note writes failed).raising = progress.raising := rfl

theorem note_note_none (progress : RestoreProgress)
    (first second : List KernelWrite) (failed : LimitParts) :
    (progress.note first failed).note second .none =
      progress.note (first ++ second) failed := by
  simp [note, LimitParts.union, LimitParts.none, LimitParts.any]

@[simp] theorem note_nil (progress : RestoreProgress) :
    progress.note [] .none = progress := by
  simp [note, LimitParts.union, LimitParts.none, LimitParts.any]

variable {entry : LimitedApp} {outcomes : RaisingOutcomes}
  {progress : RestoreProgress}

variable {raised : Option Nat} {target : CgroupId × Nat}
  {targets : List (CgroupId × Nat)}

theorem callPart_calm (calm : progress.raising = false)
    (flagged isPrimary : Bool) (channel : Channel)
    (returns : flagged = true → raised = none) (call : ControllerCall) :
    progress.callPart flagged isPrimary channel raised call =
      progress.note (if flagged then call.2 else [])
        (if flagged && isPrimary && !call.1 then .only channel else .none) := by
  cases flagged with
  | false => simp [callPart]
  | true =>
    rw [returns rfl]
    obtain ⟨accepted, writes⟩ := call
    cases accepted <;> cases isPrimary <;> cases channel <;>
      simp [callPart, calm, note, LimitParts.union, LimitParts.none,
        LimitParts.any, LimitParts.only, LimitParts.flag]

theorem round_calm (calm : progress.raising = false)
    (returns : raisesAt entry outcomes target.2 = false) :
    progress.round entry outcomes target = progress.note
        (restoreEntryRound entry outcomes.toEntryOutcomes target.2 target.1)
        (roundFailed entry outcomes.toEntryOutcomes target) := by
  obtain ⟨cgroup, position⟩ := target
  simp only [raisesAt, Bool.or_eq_false_iff, Bool.and_eq_false_iff,
    Option.isSome_eq_false_iff, Option.isNone_iff_eq_none] at returns
  obtain ⟨found, calls⟩ := returns
  simp only [RestoreProgress.round, calm, found, Bool.false_eq_true, if_false]
  cases present : outcomes.cgroupExists position with
  | false =>
    by_cases first : position = 0
    · subst first
      simp [note, restoreEntryRound, roundFailed, present, calm,
        LimitParts.union, LimitParts.any]
    · simp [note, restoreEntryRound, roundFailed, present, first, calm,
        LimitParts.union, LimitParts.any, LimitParts.none]
  | true =>
    obtain ⟨sys, disk⟩ := calls.resolve_left (by simp [present])
    have sysReturns : entry.limitParts.cpuMemLimited = true →
        outcomes.raised position .adjustResources = none :=
      fun flagged => sys.resolve_left (by simp [flagged])
    have diskReturns : entry.limitParts.ioLimited = true →
        outcomes.raised position .restoreDiskIoThrottle = none :=
      fun flagged => disk.resolve_left (by simp [flagged])
    simp only [Bool.not_true, Bool.false_eq_true, if_false]
    rw [callPart_calm calm _ _ _ sysReturns,
      callPart_calm (by simpa using calm) _ _ _ diskReturns]
    by_cases first : position = 0
    · subst first
      simp only [restoreEntryRound, roundFailed, present]
      generalize adjustResources cgroup .low none none (outcomes.adjust 0) =
        sysCall
      generalize restoreDiskIoThrottle cgroup entry.limitDisks
        (outcomes.io 0) = diskCall
      generalize entry.limitParts.cpuMemLimited = sysFlag
      generalize entry.limitParts.ioLimited = diskFlag
      cases sysFlag <;> cases diskFlag <;> cases sysCall.1 <;>
        cases diskCall.1 <;>
        simp [note, LimitParts.union, LimitParts.any, LimitParts.none,
          LimitParts.only]
    · simp [first, note_note_none, restoreEntryRound, present, roundFailed]

/-- Rounds after the primary's that do not raise make their writes. -/
theorem foldl_round_calm (calm : progress.raising = false)
    (extras : ∀ target ∈ targets, target.2 ≠ 0)
    (returns : ∀ target ∈ targets, raisesAt entry outcomes target.2 = false) :
    targets.foldl (RestoreProgress.round entry outcomes) progress =
      progress.note (targets.flatMap fun target =>
        restoreEntryRound entry outcomes.toEntryOutcomes target.2 target.1)
        .none := by
  induction targets generalizing progress with
  | nil => simp
  | cons target rest ih =>
    have extra : roundFailed entry outcomes.toEntryOutcomes target = .none :=
      if_neg (extras target List.mem_cons_self)
    rw [List.foldl_cons, round_calm calm (returns target List.mem_cons_self),
      extra, ih (by simpa using calm)
        (fun other member => extras other (List.mem_cons_of_mem _ member))
        (fun other member => returns other (List.mem_cons_of_mem _ member)),
      note_note_none, List.flatMap_cons]

/-- An exception under way ends the loop. -/
theorem foldl_round_raising (raising : progress.raising = true)
    (targets : List (CgroupId × Nat)) :
    targets.foldl (RestoreProgress.round entry outcomes) progress =
      progress := by
  induction targets with
  | nil => rfl
  | cons target rest ih =>
    have stopped : progress.round entry outcomes target = progress := by
      simp [RestoreProgress.round, raising]
    rw [List.foldl_cons, stopped, ih]

theorem callPart_raising (raising : progress.raising = true)
    (flagged isPrimary : Bool) (channel : Channel) (raised : Option Nat)
    (call : ControllerCall) :
    progress.callPart flagged isPrimary channel raised call = progress := by
  simp [callPart, raising]

/-- A call that is made and raises leaves an exception under way. -/
theorem callPart_raises (isPrimary : Bool) (channel : Channel)
    (raises : raised.isSome = true) (call : ControllerCall) :
    (progress.callPart true isPrimary channel raised call).raising = true := by
  obtain ⟨landed, rfl⟩ := Option.isSome_iff_exists.mp raises
  cases raising : progress.raising <;> simp [callPart, raising, abort]

/-- A round with a raising call leaves an exception under way. -/
theorem round_raises (raises : raisesAt entry outcomes target.2 = true) :
    (progress.round entry outcomes target).raising = true := by
  obtain ⟨cgroup, position⟩ := target
  cases raising : progress.raising with
  | true => simp [RestoreProgress.round, raising]
  | false =>
    cases found : outcomes.raised position .cgroupExists with
    | some landed => simp [RestoreProgress.round, raising, found, abort]
    | none =>
      simp only [raisesAt, found, Option.isSome_none, Bool.false_or,
        Bool.and_eq_true, Bool.or_eq_true] at raises
      obtain ⟨present, ⟨flagged, sys⟩ | ⟨flagged, disk⟩⟩ := raises
      · simp only [RestoreProgress.round, raising, found, present, flagged,
          Bool.false_eq_true, Bool.not_true, if_false]
        have stopped : (progress.callPart true (decide (position = 0)) .sys
            (outcomes.raised position .adjustResources)
            (adjustResources cgroup .low none none
              (outcomes.adjust position))).raising = true :=
          callPart_raises _ _ sys _
        rw [callPart_raising stopped, stopped]
      · simp only [RestoreProgress.round, raising, found, present, flagged,
          Bool.false_eq_true, Bool.not_true, if_false]
        exact callPart_raises _ _ disk _

/-- A raising round anywhere in the loop leaves an exception under way. -/
theorem foldl_round_raises
    (raises : ∃ target ∈ targets, raisesAt entry outcomes target.2 = true) :
    (targets.foldl (RestoreProgress.round entry outcomes)
      progress).raising = true := by
  induction targets generalizing progress with
  | nil => simp at raises
  | cons target rest ih =>
    rw [List.foldl_cons]
    obtain ⟨raiser, member, raises⟩ := raises
    rcases List.mem_cons.mp member with rfl | later
    · rw [foldl_round_raising (round_raises raises), round_raises raises]
    · exact ih ⟨raiser, later, raises⟩

/-! ## Only limited channels fail -/

def FailedLimited (entry : LimitedApp) (progress : RestoreProgress) : Prop :=
  ∀ channel, progress.failedParts.of channel = true →
    entry.limitParts.of channel = true

theorem failedLimited_start : start.FailedLimited entry := by
  intro channel failed
  cases channel <;> simp [start, LimitParts.of, LimitParts.none] at failed

theorem FailedLimited.callPart (limited : progress.FailedLimited entry)
    (isPrimary : Bool) (channel : Channel) (raised : Option Nat)
    (call : ControllerCall) :
    (progress.callPart (entry.limitParts.of channel) isPrimary channel raised
      call).FailedLimited entry := by
  cases flagged : entry.limitParts.of channel with
  | false => simpa [RestoreProgress.callPart] using limited
  | true =>
    simp only [RestoreProgress.callPart]
    split
    · exact limited
    split
    · exact limited
    split
    · intro other failed
      cases channel <;> cases other <;> first
        | exact flagged
        | exact limited _ failed
    · exact limited

theorem FailedLimited.round (limited : progress.FailedLimited entry)
    (target : CgroupId × Nat) :
    (progress.round entry outcomes target).FailedLimited entry := by
  simp only [RestoreProgress.round]
  split
  · exact limited
  split
  · exact limited
  split
  · exact limited
  · exact (limited.callPart _ .sys _ _).callPart _ .diskIo _ _

theorem FailedLimited.foldl (limited : progress.FailedLimited entry)
    (targets : List (CgroupId × Nat)) :
    (targets.foldl (RestoreProgress.round entry outcomes)
      progress).FailedLimited entry := by
  induction targets generalizing progress with
  | nil => exact limited
  | cons target rest ih => exact ih (limited.round target)

theorem FailedLimited.thaw (limited : progress.FailedLimited entry) :
    (progress.thaw entry outcomes).FailedLimited entry := by
  simp only [RestoreProgress.thaw]
  split
  · exact limited
  split <;> exact limited

theorem FailedLimited.recover (limited : progress.FailedLimited entry) :
    (progress.recover entry).FailedLimited entry := by
  simp only [RestoreProgress.recover]
  split
  · simp [FailedLimited, LimitParts.union_of_within limited]
  · exact limited

end RestoreProgress

theorem restoreProgress_failedLimited (entry : LimitedApp)
    (outcomes : RaisingOutcomes) :
    (restoreProgress entry outcomes).FailedLimited entry :=
  ((RestoreProgress.failedLimited_start.foldl _).thaw).recover

/-! ## The restore as a whole -/

section Verdict

variable {balancer : Balancer} {entry : LimitedApp}
  {outcomes : RaisingOutcomes}

theorem targets_ne_nil (entry : LimitedApp) : entry.targets ≠ [] := by
  unfold LimitedApp.targets
  split
  · simp
  · next listed => exact listed

theorem thawCgroups_of_calm {progress : RestoreProgress}
    (calm : progress.raising = false)
    (returns : entry.frozen = true → outcomes.thawRaised = none) :
    progress.thaw entry outcomes =
      { progress with
        writes := progress.writes ++ (if entry.frozen
          then (thawCgroups entry.targets outcomes.thaw).2 else [])
        restoreSuccess := progress.restoreSuccess &&
          (!entry.frozen || (thawCgroups entry.targets outcomes.thaw).1) } := by
  cases frozen : entry.frozen with
  | false => simp [RestoreProgress.thaw, frozen]
  | true => simp [RestoreProgress.thaw, frozen, calm, returns frozen]

/-- While nothing raises the restore makes the writes and reports the failures
of `restoreEntry`. -/
theorem restoreProgress_of_calm
    (returns : restoreRaises entry outcomes = false) :
    restoreProgress entry outcomes =
      ⟨restoreEntryWrites entry outcomes.toEntryOutcomes,
        restoreEntryFailed entry outcomes.toEntryOutcomes,
        restoreEntryResult entry outcomes.toEntryOutcomes, false⟩ := by
  simp only [restoreRaises, Bool.or_eq_false_iff, List.any_eq_false,
    Bool.not_eq_true, Bool.and_eq_false_iff, Option.isSome_eq_false_iff,
    Option.isNone_iff_eq_none] at returns
  obtain ⟨rounds, thaws⟩ := returns
  have thawReturns : entry.frozen = true → outcomes.thawRaised = none :=
    fun frozen => thaws.resolve_left (by simp [frozen])
  cases listed : entry.targets with
  | nil => exact absurd listed (targets_ne_nil entry)
  | cons primary extras =>
    rw [listed, List.zipIdx_cons] at rounds
    have primaryReturns := rounds (primary, 0) List.mem_cons_self
    have extraReturns : ∀ target ∈ extras.zipIdx (0 + 1),
        raisesAt entry outcomes target.2 = false :=
      fun target member => rounds target (List.mem_cons_of_mem _ member)
    have later : ∀ target ∈ extras.zipIdx (0 + 1), target.2 ≠ 0 := by
      intro target member
      have bound := (List.mem_zipIdx member).1
      omega
    have looped : entry.targets.zipIdx.foldl
        (RestoreProgress.round entry outcomes) .start =
        RestoreProgress.start.note (entry.targets.zipIdx.flatMap fun target =>
            restoreEntryRound entry outcomes.toEntryOutcomes target.2 target.1)
          (restoreEntryFailed entry outcomes.toEntryOutcomes) := by
      have failed : restoreEntryFailed entry outcomes.toEntryOutcomes =
          roundFailed entry outcomes.toEntryOutcomes (primary, 0) := by
        simp [restoreEntryFailed, roundFailed, listed]
      rw [listed, List.zipIdx_cons, List.foldl_cons,
        RestoreProgress.round_calm rfl primaryReturns,
        RestoreProgress.foldl_round_calm (by rfl) later extraReturns,
        RestoreProgress.note_note_none, List.flatMap_cons, failed]
    rw [restoreProgress, looped, thawCgroups_of_calm (by rfl) thawReturns]
    simp [RestoreProgress.recover, RestoreProgress.note,
      RestoreProgress.start, restoreEntryWrites, restoreEntryResult,
      LimitParts.union, LimitParts.none]

/-- After an exception every limited channel counts as failed. -/
theorem restoreProgress_failedParts_of_raises
    (raises : restoreRaises entry outcomes = true) :
    (restoreProgress entry outcomes).failedParts = entry.limitParts := by
  have raising : (RestoreProgress.thaw entry outcomes
      (entry.targets.zipIdx.foldl (RestoreProgress.round entry outcomes)
        .start)).raising = true := by
    cases stopped : (entry.targets.zipIdx.foldl
        (RestoreProgress.round entry outcomes) .start).raising with
    | true => simp [RestoreProgress.thaw, stopped]
    | false =>
      rcases Bool.or_eq_true_iff.mp raises with looped | thawed
      · have aborted : (entry.targets.zipIdx.foldl
            (RestoreProgress.round entry outcomes) .start).raising = true :=
          RestoreProgress.foldl_round_raises (List.any_eq_true.mp looped)
        rw [aborted] at stopped
        cases stopped
      · obtain ⟨frozen, raised⟩ := Bool.and_eq_true_iff.mp thawed
        obtain ⟨landed, raised⟩ := Option.isSome_iff_exists.mp raised
        simp [RestoreProgress.thaw, stopped, frozen, raised,
          RestoreProgress.abort]
  simp only [restoreProgress, RestoreProgress.recover, raising, if_true]
  exact LimitParts.union_of_within
    (RestoreProgress.failedLimited_start.foldl _).thaw

/-- The restore with exceptions refines the one without. -/
theorem restoreEntryRaising_of_calm
    (returns : restoreRaises entry outcomes = false) :
    balancer.restoreEntryRaising entry outcomes =
      balancer.restoreEntry entry outcomes.toEntryOutcomes := by
  simp [restoreEntryRaising, restoreEntry, restoreProgress_of_calm returns]

end Verdict

/-! ## What the calls lift -/

theorem clears_restoreDiskIoThrottle_iff (cgroup : CgroupId)
    (diskFilter : List DiskName) (outcome : IoCallOutcome) (cap : Cap) :
    Clears (restoreDiskIoThrottle cgroup diskFilter outcome).2 cap ↔
      ∃ disk, cap = .io cgroup disk ∧ outcome.ClearsDisk diskFilter disk := by
  simp only [Clears, mem_restoreDiskIoThrottle_iff]
  constructor
  · rintro ⟨write, ⟨disk, rfl, clears⟩, lifts⟩
    exact ⟨disk, lifts, clears⟩
  · rintro ⟨disk, rfl, clears⟩
    exact ⟨_, ⟨disk, rfl, clears⟩, rfl⟩

/-! ## The reports -/

section Reports

variable (balancer : Balancer) (entry : LimitedApp)
  (outcomes : RaisingOutcomes)

theorem verdict_eq :
    balancer.verdict entry outcomes =
      let failed := (restoreProgress entry outcomes).failedParts
      (entryEmission entry .recovered (restoredParts entry failed)).events ++
        (entryEmission entry .failed failed).events := by
  simp only [verdict, restoreEntryRaising, emit_events, List.append_assoc]
  exact List.drop_left

theorem actions_verdict (channel : Channel) :
    ((balancer.verdict entry outcomes).filter (·.concerns channel)).map
        (·.action) =
      if entry.limitParts.of channel = true then
        if (restoreProgress entry outcomes).failedParts.of channel = true
        then [.failed] else [.recovered]
      else [] := by
  have limited := restoreProgress_failedLimited entry outcomes channel
  rw [verdict_eq, List.filter_append, List.map_append, Emission.actions_events,
    Emission.actions_events]
  simp only [entryEmission, restoredParts_of]
  split_ifs <;> simp_all

/-- Each limited channel is reported exactly once, whatever raises. -/
theorem reportsOnce_verdict :
    ReportsOnce entry (balancer.verdict entry outcomes) := by
  intro channel
  rw [actions_verdict]
  split
  · split <;> simp
  · rfl

theorem recovers_verdict_iff (channel : Channel) :
    Recovers (balancer.verdict entry outcomes) channel ↔
      entry.limitParts.of channel = true ∧
        (restoreProgress entry outcomes).failedParts.of channel = false := by
  have reported : Recovers (balancer.verdict entry outcomes) channel ↔
      ControlAction.recovered ∈ ((balancer.verdict entry outcomes).filter
        (·.concerns channel)).map (·.action) := by
    simp only [Recovers, List.mem_map, List.mem_filter]
    grind
  rw [reported, actions_verdict]
  split
  · next limited =>
    split
    · next failed => simp [failed]
    · next accepted => simpa [limited] using accepted
  · next unlimited => simp [unlimited]

end Reports

/-! ## When the verdict is true -/

def LiftsAt (entry : LimitedApp) (outcomes : EntryOutcomes)
    (position : Nat) : Cap → Prop
  | .cpuMem _ => (outcomes.adjust position).setProperty = true
  | .io _ disk => (outcomes.io position).ClearsDisk entry.limitDisks disk

/-- The primary cgroup is gone or accepts the restore of the channel. -/
def primaryAccepts (entry : LimitedApp)
    (outcomes : EntryOutcomes) : Channel → Bool
  | .sys => !outcomes.cgroupExists 0 ||
      ((outcomes.adjust 0).governor && (outcomes.adjust 0).setProperty)
  | .diskIo => !outcomes.cgroupExists 0 ||
      (outcomes.io 0).restores entry.limitDisks

/-- Every cap of the channel in force on a cgroup that still exists is lifted
at some position of that cgroup. -/
def LiftsEverywhere
    (balancer : Balancer)
    (entry : LimitedApp)
    (outcomes : EntryOutcomes)
    (channel : Channel) : Prop :=
  ∀ cap : Cap, cap.channel = channel → cap.OnDisks entry.limitDisks →
    StillExists entry outcomes cap.cgroup → balancer.kernel.InForce cap →
    ∃ position, entry.targets[position]? = some cap.cgroup ∧
      (outcomes.cgroupExists position = false ∨
        LiftsAt entry outcomes position cap)

theorem clears_restoreEntryRound_iff (entry : LimitedApp)
    (outcomes : EntryOutcomes) (position : Nat) (cgroup : CgroupId)
    (cap : Cap) :
    Clears (restoreEntryRound entry outcomes position cgroup) cap ↔
      cap.cgroup = cgroup ∧ (outcomes.cgroupExists position = false ∨
        (entry.limitParts.of cap.channel = true ∧
          LiftsAt entry outcomes position cap)) := by
  cases present : outcomes.cgroupExists position with
  | false => simp [restoreEntryRound, present, Clears, KernelWrite.Lifts]
  | true =>
    have sysPart : Clears (adjustResources cgroup .low none none
        (outcomes.adjust position)).2 cap ↔
        cap = .cpuMem cgroup ∧
          (outcomes.adjust position).setProperty = true := by
      rw [adjustResources_low]
      cases (outcomes.adjust position).setProperty <;>
        simp [Clears, KernelWrite.Lifts]
    have diskPart := clears_restoreDiskIoThrottle_iff cgroup
      entry.limitDisks (outcomes.io position) cap
    simp only [restoreEntryRound, present, Bool.not_true, Bool.false_eq_true,
      if_false, clears_append, Bool.true_eq_false, false_or]
    cases cap with
    | cpuMem other =>
      cases sys : entry.limitParts.cpuMemLimited <;>
        cases disk : entry.limitParts.ioLimited <;>
        simp_all [Cap.channel, Cap.cgroup, LimitParts.of, LiftsAt]
    | io other disk =>
      cases sys : entry.limitParts.cpuMemLimited <;>
        cases disk : entry.limitParts.ioLimited <;>
        simp_all [Cap.channel, Cap.cgroup, LimitParts.of, LiftsAt]

theorem clears_restoreEntryWrites_iff (entry : LimitedApp)
    (outcomes : EntryOutcomes) (cap : Cap) :
    Clears (restoreEntryWrites entry outcomes) cap ↔
      ∃ position, entry.targets[position]? = some cap.cgroup ∧
        (outcomes.cgroupExists position = false ∨
          (entry.limitParts.of cap.channel = true ∧
            LiftsAt entry outcomes position cap)) := by
  have thawed : ¬ Clears (if entry.frozen
      then (thawCgroups entry.targets outcomes.thaw).2 else []) cap := by
    split
    · rintro ⟨write, member, lifts⟩
      obtain ⟨_, _, rfl⟩ := neutral_thawCgroups _ _ write member
      exact lifts
    · exact not_clears_nil cap
  rw [restoreEntryWrites, clears_append, or_iff_left thawed]
  have rounds : Clears (entry.targets.zipIdx.flatMap fun target =>
      restoreEntryRound entry outcomes target.2 target.1) cap ↔
      ∃ target ∈ entry.targets.zipIdx,
        Clears (restoreEntryRound entry outcomes target.2 target.1) cap := by
    simp only [Clears, List.mem_flatMap]
    constructor
    · rintro ⟨write, ⟨target, listed, member⟩, lifts⟩
      exact ⟨target, listed, write, member, lifts⟩
    · rintro ⟨target, listed, write, member, lifts⟩
      exact ⟨write, ⟨target, listed, member⟩, lifts⟩
  simp only [rounds, clears_restoreEntryRound_iff, Prod.exists,
    List.mem_zipIdx_iff_getElem?]
  constructor
  · rintro ⟨_, position, located, rfl, lifts⟩
    exact ⟨position, located, lifts⟩
  · rintro ⟨position, located, lifts⟩
    exact ⟨_, position, located, rfl, lifts⟩

theorem restoreEntryFailed_of (entry : LimitedApp) (outcomes : EntryOutcomes)
    (channel : Channel) :
    (restoreEntryFailed entry outcomes).of channel =
      (entry.limitParts.of channel &&
        !primaryAccepts entry outcomes channel) := by
  unfold restoreEntryFailed
  cases listed : entry.targets with
  | nil => exact absurd listed (targets_ne_nil entry)
  | cons primary extras =>
    cases channel <;>
      simp only [LimitParts.of, primaryAccepts, adjustResources_low,
        restoreDiskIoThrottle_result] <;>
      cases outcomes.cgroupExists 0 <;> simp

/-- `_restore_entry` reports each limited channel once, and as recovered only
when it is lifted everywhere, exactly when it raises or the channels that the
primary accepts are lifted everywhere. -/
theorem restoreEntry_verdict_iff (balancer : Balancer) (entry : LimitedApp)
    (outcomes : RaisingOutcomes) :
    (ReportsOnce entry (balancer.verdict entry outcomes) ∧
      RecoversLifted entry outcomes.toEntryOutcomes
        (balancer.verdict entry outcomes)
        (balancer.restoreEntryRaising entry outcomes).2.kernel) ↔
    (restoreRaises entry outcomes = false →
      ∀ channel, entry.limitParts.of channel = true →
        primaryAccepts entry outcomes.toEntryOutcomes channel = true →
        balancer.LiftsEverywhere entry outcomes.toEntryOutcomes channel) := by
  rw [and_iff_right (reportsOnce_verdict balancer entry outcomes)]
  simp only [RecoversLifted, recovers_verdict_iff]
  cases raises : restoreRaises entry outcomes with
  | true =>
    rw [restoreProgress_failedParts_of_raises raises]
    simp
  | false =>
    have kernel : (balancer.restoreEntryRaising entry outcomes).2.kernel =
        balancer.kernel.writeAll
          (restoreEntryWrites entry outcomes.toEntryOutcomes) := by
      rw [restoreEntryRaising_of_calm raises, restoreEntry_kernel]
    simp only [restoreProgress_of_calm raises, kernel,
      inForce_writeAll_of_restoring (restoring_restoreEntryWrites _ _),
      clears_restoreEntryWrites_iff, restoreEntryFailed_of, forall_const]
    apply forall_congr'
    intro channel
    cases flagged : entry.limitParts.of channel with
    | false => simp
    | true =>
      cases primaryAccepts entry outcomes.toEntryOutcomes channel with
      | false => simp
      | true =>
        simp only [Bool.not_true, Bool.and_false, and_self, forall_const,
          LiftsEverywhere, not_and, not_not]
        apply forall_congr'
        intro cap
        apply imp_congr_right
        rintro rfl
        simp only [flagged, true_and]

def twoInstances : LimitedApp where
  publicAppId := "app"
  appName := "App"
  source := .auto
  limitRates := ⟨some (some (3 / 10)), none, none⟩
  limitParts := ⟨true, false⟩
  resourceParts := ⟨true, false⟩
  cgroups := ["one.scope", "two.scope"]
  protectionId := some ⟨.auto, "app", "one.scope", 1⟩

/-- Both cgroups are capped. -/
def twoCapped : Balancer :=
  initial.writes [.quota "one.scope" ⟨some 30, none⟩,
    .quota "two.scope" ⟨some 30, none⟩]

/-- Both cgroups still exist, and only the primary accepts the write. -/
def extraRefuses : RaisingOutcomes where
  cgroupExists := fun _ => true
  adjust := fun position => ⟨true, position = 0⟩
  io := fun _ => .accepting []
  thaw := fun _ => .accepting
  raised := fun _ _ => none
  thawRaised := none

/-- The channel is reported as recovered while the second cgroup keeps its
cap. -/
theorem recovered_while_extra_capped :
    ¬ (ReportsOnce twoInstances (twoCapped.verdict twoInstances extraRefuses) ∧
      RecoversLifted twoInstances extraRefuses.toEntryOutcomes
        (twoCapped.verdict twoInstances extraRefuses)
        (twoCapped.restoreEntryRaising twoInstances extraRefuses).2.kernel) := by
  rintro ⟨-, lifted⟩
  have reported : Recovers (twoCapped.verdict twoInstances extraRefuses)
      .sys := by
    refine ⟨⟨.recovered, "app", "App", some ⟨.auto, "app", "one.scope", 1⟩,
      [.cpu], .auto⟩, ?_, rfl, rfl⟩
    decide
  exact lifted .sys reported (.cpuMem "two.scope") rfl trivial ⟨1, rfl, rfl⟩
    (by decide)

end Balancer

end SmarTune
