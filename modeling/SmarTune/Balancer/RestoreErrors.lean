import SmarTune.Balancer.Restore

/-!
# When a staged restore step raises

A partial step raises on a rate that is present and `None`; every step raises
when another thread has popped its target before the entry is moved in the
queue, except a full step that has nothing left to keep the entry for.
-/

namespace SmarTune

/-- A rate the partial restore of a channel doubles is present and `None`. -/
def LimitRates.holdsNone (rates : LimitRates) : Channel → Bool
  | .sys => rates.cpuRate = some none || rates.memRate = some none
  | .diskIo => rates.diskIoRate = some none

namespace Balancer

/-- An exception left the call. -/
def Raises (result : Except PyError Bool × Balancer) : Prop :=
  ∃ error, result.1 = .error error

@[simp] theorem raises_error (error : PyError) (balancer : Balancer) :
    Raises (.error error, balancer) := ⟨error, rfl⟩

@[simp] theorem not_raises_ok (result : Bool) (balancer : Balancer) :
    ¬ Raises (.ok result, balancer) := by
  rintro ⟨error, raised⟩
  cases raised

/-- The full restore completes and leaves no channel of the entry capped. -/
def finishes (balancer : Balancer) (appId : CgroupId) (entry : LimitedApp)
    (channel : Channel) (outcomes : RestoreOutcomes) : Bool :=
  balancer.lifts appId entry channel outcomes &&
    !(entry.clearPart channel).limitParts.any

def entryStepRaises (balancer : Balancer) (appId : CgroupId)
    (entry : LimitedApp) (channel : Channel) (restoreType : RestoreType)
    (outcomes : RestoreOutcomes) (popped : Option PopPoint) : Bool :=
  (balancer.isRunning && restoreType = .partially &&
      entry.limitRates.holdsNone channel) ||
    match popped with
    | none => false
    | some .beforeLookup => true
    | some .beforeMove =>
      !(restoreType = .full && balancer.finishes appId entry channel outcomes)

def stepRaises (balancer : Balancer) (channel : Channel)
    (restoreType : RestoreType) (step : ChannelStep) : Bool :=
  step.scanDisturbed || (balancer.allLimits.firstAutoWithPart channel
      (restoreType = .partially)).any fun found =>
        balancer.entryStepRaises found.1 found.2 channel restoreType
          step.outcomes step.popped

section Raising

variable {balancer : Balancer} {appId : CgroupId} {entry : LimitedApp}

@[simp] theorem moveToEnd_raises_iff (result : Bool) :
    Raises (balancer.moveToEnd appId result) ↔
      balancer.allLimits.apps.get? appId = none := by
  unfold moveToEnd
  rw [← OrderedDict.moveToEnd_eq_none_iff]
  split
  · next moved => simp [moved]
  · next absent => simp [absent]

theorem restoreResources_raises_iff (limitRates : LimitRates)
    (channel : Channel) (restoreType : RestoreType)
    (outcomes : RestoreOutcomes) :
    Raises (balancer.restoreResources appId limitRates channel restoreType
        outcomes) ↔
      balancer.isRunning = true ∧ restoreType = .partially ∧
        limitRates.holdsNone channel = true := by
  unfold restoreResources
  cases running : balancer.isRunning with
  | false => simp
  | true =>
    cases restoreType with
    | full => cases channel <;> simp [restoreCpuMem, restoreIo]
    | partially =>
      cases channel with
      | sys =>
        rcases cpu : limitRates.cpuRate with _ | _ | cpuRate <;>
          rcases mem : limitRates.memRate with _ | _ | memRate <;>
          simp [restoreCpuMem, doubledRate, LimitRates.holdsNone, cpu, mem]
      | diskIo =>
        rcases disk : limitRates.diskIoRate with _ | _ | diskRate <;>
          simp [restoreIo, LimitRates.holdsNone, disk]

/-- The controller calls of a restore keep the entries of the registry. -/
theorem restoreResources_get?_eq_none_iff (limitRates : LimitRates)
    (channel : Channel) (restoreType : RestoreType)
    (outcomes : RestoreOutcomes) :
    (balancer.restoreResources appId limitRates channel restoreType
        outcomes).2.allLimits.apps.get? appId = none ↔
      balancer.allLimits.apps.get? appId = none := by
  have cleared : (balancer.clearPart appId channel).allLimits.apps.get? appId =
      none ↔ balancer.allLimits.apps.get? appId = none := by
    simp [clearPart_get?]
  unfold restoreResources
  split
  · rfl
  cases restoreType with
  | partially =>
    cases channel with
    | sys =>
      simp only [restoreCpuMem]
      split
      · rfl
      · split <;> simp
    | diskIo =>
      simp only [restoreIo]
      split <;> simp at *
  | full =>
    cases channel with
    | sys =>
      simp only [restoreCpuMem]
      split <;> simp [cleared]
    | diskIo =>
      simp only [restoreIo, writes_allLimits]
      split
      · exact cleared
      · rfl

/-- Once the controller calls are over, the step raises when the entry is gone,
unless it is done with the entry. -/
theorem restoreChannelFor_raises_of_ok {channel : Channel}
    {restoreType : RestoreType} {outcomes : RestoreOutcomes}
    {popped : Option PopPoint} {restored : Bool} {after : Balancer}
    (called : (balancer.popAt appId popped .beforeLookup).restoreResources
      appId entry.limitRates channel restoreType outcomes =
        (.ok restored, after)) :
    Raises (balancer.restoreChannelFor appId entry channel restoreType
        outcomes popped) ↔
      (after.popAt appId popped .beforeMove).allLimits.apps.get? appId = none ∧
        ¬ (restored = true ∧ restoreType = .full ∧
          ((after.allLimits.apps.get? appId).getD
            entry).limitParts.any = false) := by
  simp only [restoreChannelFor, called]
  generalize ((after.allLimits.apps.get? appId).getD entry).limitParts = parts
  generalize after.popAt appId popped .beforeMove = final
  cases restored with
  | false => cases restoreType <;> simp
  | true =>
    cases restoreType with
    | partially => simp [modifyEntry_get?]
    | full => cases capped : parts.any <;> simp [modifyEntry_get?]

/-- What a full restore leaves of the flags: nothing is capped any more exactly
when it finishes. -/
theorem finishes_iff (stored : balancer.allLimits.apps.get? appId = some entry)
    {channel : Channel} (carries : entry.limitParts.of channel = true)
    (outcomes : RestoreOutcomes) :
    ((balancer.fullRestoreCall appId entry channel outcomes).1 = true ∧
      ((((if balancer.lifts appId entry channel outcomes
          then balancer.clearPart appId channel else balancer).writes
            (balancer.fullRestoreCall appId entry channel
              outcomes).2).allLimits.apps.get? appId).getD
            entry).limitParts.any = false) ↔
      balancer.finishes appId entry channel outcomes = true := by
  have capped : entry.limitParts.any = true := by
    cases channel <;> simp_all [LimitParts.of, LimitParts.any]
  unfold finishes
  rw [writes_allLimits]
  cases lifted : balancer.lifts appId entry channel outcomes with
  | false => simp [stored, capped]
  | true =>
    have accepted : (balancer.fullRestoreCall appId entry channel
        outcomes).1 = true := by
      simp only [lifts, Bool.and_eq_true] at lifted
      exact lifted.2
    simp [clearPart_get?, stored, accepted]

theorem restoreChannelFor_raises_iff
    (stored : balancer.allLimits.apps.get? appId = some entry)
    (channel : Channel) (carries : entry.limitParts.of channel = true)
    (restoreType : RestoreType) (outcomes : RestoreOutcomes)
    (popped : Option PopPoint) :
    Raises (balancer.restoreChannelFor appId entry channel restoreType
        outcomes popped) ↔
      balancer.entryStepRaises appId entry channel restoreType outcomes
        popped = true := by
  have arithmetic := @restoreResources_raises_iff
    (balancer.popAt appId popped .beforeLookup) appId entry.limitRates channel
    restoreType outcomes
  have kept := @restoreResources_get?_eq_none_iff
    (balancer.popAt appId popped .beforeLookup) appId entry.limitRates channel
    restoreType outcomes
  rw [popAt_isRunning] at arithmetic
  unfold entryStepRaises
  rcases called : (balancer.popAt appId popped .beforeLookup).restoreResources
    appId entry.limitRates channel restoreType outcomes with ⟨result, after⟩
  rw [called] at arithmetic kept
  cases result with
  | error error =>
    have raised : Raises (balancer.restoreChannelFor appId entry channel
        restoreType outcomes popped) := by
      simp [restoreChannelFor, called]
    obtain ⟨running, isPartial, doubles⟩ :=
      arithmetic.mp (raises_error error after)
    refine iff_of_true raised ?_
    rw [running, isPartial, doubles]
    rfl
  | ok restored =>
    have noArithmetic : (balancer.isRunning && restoreType = .partially &&
        entry.limitRates.holdsNone channel) = false := by
      by_contra doubles
      simp only [Bool.not_eq_false, Bool.and_eq_true, decide_eq_true_eq,
        and_assoc] at doubles
      exact not_raises_ok restored after (arithmetic.mpr doubles)
    rw [restoreChannelFor_raises_of_ok called, noArithmetic, Bool.false_or]
    rcases popped with _ | _ | _
    · -- Nothing pops the entry, so it is there to be moved.
      have present : after.allLimits.apps.get? appId ≠ none := by
        rw [ne_eq, kept, popAt_none, stored]
        simp
      simp [present]
    · -- The flags are read off the picked entry, whose channel is capped.
      have absent : after.allLimits.apps.get? appId = none := by
        rw [kept]
        simp [popAt, popEntry]
      have capped : entry.limitParts.any = true := by
        cases channel <;> simp_all [LimitParts.of, LimitParts.any]
      simp [popAt, absent, capped]
    · -- Only a restore that finishes does not move the entry.
      have unpopped : balancer.popAt appId (some .beforeMove) .beforeLookup =
          balancer := rfl
      rw [unpopped] at called
      cases restoreType with
      | partially => simp [popAt, popEntry]
      | full =>
        rw [restoreResources_full stored] at called
        obtain ⟨accepted, left⟩ := Prod.mk.inj called
        have finishing := finishes_iff stored carries outcomes
        rw [Except.ok.inj accepted, left] at finishing
        simp only [popAt, if_true, popEntry, withApps_apps,
          OrderedDict.get?_erase_self, true_and, decide_true,
          Bool.true_and, Bool.not_eq_true', finishing,
          Bool.not_eq_true]

theorem restoreChannel_raises_iff (channel : Channel)
    (restoreType : RestoreType) (step : ChannelStep) :
    Raises (balancer.restoreChannel channel restoreType step) ↔
      balancer.stepRaises channel restoreType step = true := by
  unfold restoreChannel stepRaises
  cases step.scanDisturbed with
  | true => simp
  | false =>
    rcases found : balancer.allLimits.firstAutoWithPart channel
      (restoreType = .partially) with _ | ⟨appId, entry⟩
    · simp
    · obtain ⟨stored, _, carries, _⟩ :=
        LimitRegistry.firstAutoWithPart_eq_some found
      simp [restoreChannelFor_raises_iff stored channel carries]

end Raising

end Balancer

end SmarTune
