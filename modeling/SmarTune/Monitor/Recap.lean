import SmarTune.Monitor.Exemption

/-!
# Capping a relaxed app again

A partial restore relaxes the CPU/memory cap of an entry and keeps its flag.
When the app leads a critical tick again, the sys arm looks it up and leaves
alone what it finds flagged, relaxed or not.
-/

namespace SmarTune

/-! ## Looking the target up -/

/-- The ids `_target_has_auto_cpu_mem_limit` looks a target up under. -/
def limitLookupIds (target : Candidate) (appId : CgroupId) : List String :=
  ([appId, target.recordId.getD "", target.cgroupId.getD ""].filter (· ≠ "")) ++
    ((target.cgroup.getD "" :: target.extraCgroups).filter (· ≠ "")).map
      fun path => basename (rstripSlash path)

/-- Whatever auto entry answers to an id of the target first, it carries no
CPU/memory cap. -/
def FoundUncapped (registry : LimitRegistry) (target : Candidate)
    (appId : CgroupId) : Prop :=
  ∀ ident ∈ limitLookupIds target appId,
    ∀ key entry, registry.byAnyId ident .auto = some (key, entry) →
      entry.limitParts.cpuMemLimited = false

theorem targetHasAutoCpuMemLimit_eq_false_iff {registry : LimitRegistry}
    {target : Candidate} {appId : CgroupId} :
    targetHasAutoCpuMemLimit registry target appId = false ↔
      FoundUncapped registry target appId := by
  have unfolded : targetHasAutoCpuMemLimit registry target appId =
      (limitLookupIds target appId).any fun ident =>
        (registry.byAnyId ident .auto).any fun app =>
          app.2.limitParts.cpuMemLimited := rfl
  rw [unfolded, List.any_eq_false]
  constructor
  · intro none ident listed key entry found
    simpa [found] using none ident listed
  · intro uncapped ident listed
    cases found : registry.byAnyId ident .auto with
    | none => simp
    | some app => simpa using uncapped ident listed app.1 app.2 found

/-! ## The flags of an entry -/

namespace Balancer

section Flags

variable {balancer : Balancer} {key : CgroupId} {entry : LimitedApp}

/-- A disk cap that yields leaves the sys flag of what stays alone. -/
theorem afterFullRestore_diskIo_partialParts {outcomes : RestoreOutcomes}
    {left : LimitedApp}
    (leaves : balancer.afterFullRestore key entry .diskIo outcomes =
      some left) :
    left.partialParts.of .sys = entry.partialParts.of .sys := by
  simp only [afterFullRestore] at leaves
  split at leaves
  · rw [Option.some.inj leaves]
  -- Whether the flag of the disk channel goes as well does not matter.
  · split at leaves <;> split at leaves
    · rw [← Option.some.inj leaves]
      rfl
    · cases leaves
    · rw [← Option.some.inj leaves]
      rfl
    · cases leaves

theorem yieldIoCap_partialParts {appId : CgroupId} {isDiskIoStressed : Bool}
    {outcomes : ApplyOutcomes} {left : LimitedApp}
    (stored : balancer.allLimits.apps.get? key = some entry)
    (leaves : (balancer.yieldIoCap appId isDiskIoStressed
      outcomes).allLimits.apps.get? key = some left) :
    left.partialParts.of .sys = entry.partialParts.of .sys := by
  have same {other : LimitedApp}
      (found : balancer.allLimits.apps.get? key = some other) :
      other.partialParts.of .sys = entry.partialParts.of .sys := by
    rw [Option.some.inj (found.symm.trans stored)]
  unfold yieldIoCap at leaves
  split at leaves
  · exact same leaves
  rw [clearIoCapBeforeSysLimit_eq] at leaves
  cases yields : balancer.yieldTarget appId with
  | none =>
    rw [yields] at leaves
    exact same leaves
  | some app =>
    obtain ⟨target, carrier⟩ := app
    have storedCarrier := (yieldTarget_eq_some yields).1
    simp only [yields, restoreChannelFor_full_get? storedCarrier] at leaves
    split at leaves
    · next its =>
      rw [afterFullRestore_diskIo_partialParts leaves]
      exact same (its ▸ storedCarrier)
    · exact same leaves

/-- The entry under the key is an auto entry under its full CPU/memory cap. -/
def FullyCapped (balancer : Balancer) (key : CgroupId) : Prop :=
  ∃ entry, balancer.allLimits.apps.get? key = some entry ∧
    entry.source = .auto ∧ entry.limitParts.of .sys = true ∧
    entry.partialParts.of .sys = false

section Apply

variable {target : Candidate} {appId : CgroupId} {limitRates : LimitRates}
  {isControlled : Bool} {pressureLevel : String} {outcomes : ApplyOutcomes}

theorem upsertedEntry_sys {limit : AutoLimit}
    (caps : limit.resourceLimited = true) (now : ℚ) :
    (balancer.upsertedEntry appId limit now).source = .auto ∧
      (balancer.upsertedEntry appId limit now).limitParts.of .sys = true ∧
      (balancer.upsertedEntry appId limit now).partialParts.of .sys =
        false := by
  unfold upsertedEntry
  split
  · simp [AutoLimit.merged, LimitParts.of, PartialParts.of, caps]
  · simp [AutoLimit.fresh, LimitParts.of, PartialParts.of, caps]

theorem fullyCapped_of_records
    (records : balancer.RecordsAuto target appId limitRates false outcomes) :
    (balancer.applyResourceLimits target appId limitRates isControlled false
      pressureLevel outcomes).FullyCapped appId := by
  have stored : Stores _ (balancer.applyResourceLimits target appId limitRates
      isControlled false pressureLevel outcomes) appId _ :=
    stores_applyResourceLimits records
  exact ⟨_, (stored appId).trans (if_pos rfl), upsertedEntry_sys rfl _⟩

theorem not_fullyCapped_of_unrecorded
    (stored : balancer.allLimits.apps.get? key = some entry)
    (relaxed : entry.partialParts.of .sys = true)
    (unrecorded : ¬ (appId = key ∧
      balancer.RecordsAuto target appId limitRates false outcomes)) :
    ¬ (balancer.applyResourceLimits target appId limitRates isControlled false
      pressureLevel outcomes).FullyCapped key := by
  rintro ⟨left, leaves, _, _, full⟩
  have flag : left.partialParts.of .sys = entry.partialParts.of .sys := by
    by_cases owned : balancer.manualLimited target appId = true
    · rw [applyResourceLimits_of_manual owned, stored] at leaves
      rw [Option.some.inj leaves]
    by_cases records :
        balancer.RecordsAuto target appId limitRates false outcomes
    · rw [stores_applyResourceLimits records key] at leaves
      split at leaves
      · next its => exact absurd ⟨its.symm, records⟩ unrecorded
      · exact yieldIoCap_partialParts stored leaves
    · have refused : (applyChannel balancer.isRunning target appId limitRates
          false outcomes).1 = false := by
        by_contra accepted
        exact records ⟨by simpa using owned, by simpa using accepted⟩
      rw [applyResourceLimits, if_neg owned] at leaves
      simp only [yieldIoCap_isRunning, refused, Bool.false_eq_true, if_false,
        writes_allLimits] at leaves
      exact yieldIoCap_partialParts stored leaves
  rw [flag, relaxed] at full
  cases full

theorem fullyCapped_applyResourceLimits_iff
    (stored : balancer.allLimits.apps.get? key = some entry)
    (relaxed : entry.partialParts.of .sys = true) :
    (balancer.applyResourceLimits target appId limitRates isControlled false
      pressureLevel outcomes).FullyCapped key ↔
      appId = key ∧
        balancer.RecordsAuto target appId limitRates false outcomes := by
  constructor
  · intro full
    by_contra unrecorded
    exact not_fullyCapped_of_unrecorded stored relaxed unrecorded full
  · rintro ⟨rfl, records⟩
    exact fullyCapped_of_records records

theorem applyResourceLimits_kernel_of_records
    (records : balancer.RecordsAuto target appId limitRates false outcomes) :
    (balancer.applyResourceLimits target appId limitRates isControlled false
      pressureLevel outcomes).kernel =
      (balancer.yieldIoCap appId false outcomes).kernel.writeAll
        (applyCpuMem balancer.isRunning target appId limitRates outcomes).2 := by
  rw [applyResourceLimits, if_neg (by simp [records.1])]
  simp only [yieldIoCap_isRunning, records.2, if_true, upsertAutoLimited_kernel,
    writes_kernel]
  rfl

end Apply

end Flags

end Balancer

/-! ## A critical tick -/

section Tick

variable
  (loop : MonitorLoopState)
  (balancer : Balancer)
  (tick : PolicyTick)
  (view : SelectionView)
  (outcomes : Balancer.ApplyOutcomes)
  (key : CgroupId)

/-- The app of a relaxed auto entry leads a critical tick again: it is the
first candidate left by the exclusion filter, past the threshold, not a
critical app, still present, and one of its ids is the entry's. -/
structure LeadsAgain (selection : Selection) : Prop where
  relaxed : ∃ entry, balancer.allLimits.apps.get? key = some entry ∧
    entry.source = .auto ∧ entry.partialParts.of .sys = true ∧
    ∃ ident ∈ limitLookupIds selection.targetApp selection.appId,
      entry.answersTo key ident = true
  passive : tick.passiveEnabled = true
  critical : tick.pressure = .critical
  undisturbed : tick.limitRaises = false
  reached : (selectionState loop balancer tick).reachThreshold = true
  selected : selectTarget view balancer.allLimits
    (selectionState loop balancer tick) tick.channel = some selection
  present : tick.decision.stillPresent = true

def tickedBalancer : Balancer :=
  (tickSeparatedPolicy loop balancer
    (tick.selecting view loop balancer outcomes)).balancer

/-- The tick caps a relaxed app that leads it again in full: it writes the
CPU/memory caps and leaves the entry without its partial flag. -/
def RecapsLeader : Prop :=
  ∀ selection, LeadsAgain loop balancer tick view key selection →
    (tickedBalancer loop balancer tick view outcomes).FullyCapped key ∧
      (tickedBalancer loop balancer tick view outcomes).kernel =
        (balancer.yieldIoCap selection.appId false outcomes).kernel.writeAll
          (Balancer.applyCpuMem balancer.isRunning selection.targetApp
            selection.appId selection.limitRates outcomes).2

/-- The lookup does not get to see the entry, and the cap is accepted and
stored under its key. -/
structure Unblocked (selection : Selection) : Prop where
  hidden : FoundUncapped balancer.allLimits selection.targetApp selection.appId
  named : selection.appId ≠ ""
  own : selection.appId = key
  records : balancer.RecordsAuto selection.targetApp selection.appId
    selection.limitRates false outcomes

/-- Every relaxed app that leads the tick again is hidden from the lookup. -/
def UnblocksLeader : Prop :=
  ∀ selection, LeadsAgain loop balancer tick view key selection →
    Unblocked balancer outcomes key selection

variable {loop balancer tick view outcomes key}

/-- What a critical tick does about its leader. -/
theorem tickedBalancer_of_leads {selection : Selection}
    (leads : LeadsAgain loop balancer tick view key selection) :
    ∃ level, tickedBalancer loop balancer tick view outcomes =
      if !targetHasAutoCpuMemLimit balancer.allLimits selection.targetApp
          selection.appId && selection.appId ≠ "" then
        balancer.applyResourceLimits selection.targetApp selection.appId
          selection.limitRates selection.isControlled false level outcomes
      else balancer := by
  have channel : tick.channel = .sys := if_pos leads.critical
  obtain ⟨level, after⟩ := tickLimit_balancer loop balancer
    (tick.selecting view loop balancer outcomes)
  have settles : settlesOn loop balancer tick selection =
      (!targetHasAutoCpuMemLimit balancer.allLimits selection.targetApp
        selection.appId && selection.appId ≠ "") := by
    simp [settlesOn, channel, leads.reached, leads.present]
  have enters : tickedBalancer loop balancer tick view outcomes =
      (tickLimit loop balancer
        (tick.selecting view loop balancer outcomes)).balancer := by
    simp [tickedBalancer, tickSeparatedPolicy, PolicyTick.selecting,
      leads.passive, leads.critical]
  refine ⟨level, ?_⟩
  rw [enters, after, limitRaises_selecting, selectionState_selecting,
    channel_selecting, leads.undisturbed, held_of_selected leads.selected,
    limitTarget_of_selected leads.selected, settles,
    decision_selecting leads.selected, channel]
  simp only [Bool.or_self, Bool.false_eq_true, if_false, reduceCtorEq,
    decide_false]
  generalize (!targetHasAutoCpuMemLimit balancer.allLimits selection.targetApp
    selection.appId && decide (selection.appId ≠ "")) = free
  cases free <;> rfl

/-- A critical tick caps a relaxed app that leads it again in full exactly when
the lookup does not get to see the app's entry and the cap is stored over it. -/
theorem recapsLeader_iff :
    RecapsLeader loop balancer tick view outcomes key ↔
      UnblocksLeader loop balancer tick view outcomes key := by
  refine forall_congr' fun selection => forall_congr' fun leads => ?_
  obtain ⟨entry, stored, _, relaxed, _⟩ := leads.relaxed
  obtain ⟨level, after⟩ := tickedBalancer_of_leads leads
  have free : (!targetHasAutoCpuMemLimit balancer.allLimits selection.targetApp
        selection.appId && decide (selection.appId ≠ "")) = true ↔
      FoundUncapped balancer.allLimits selection.targetApp selection.appId ∧
        selection.appId ≠ "" := by
    rw [← targetHasAutoCpuMemLimit_eq_false_iff]
    simp
  rw [after]
  constructor
  · rintro ⟨full, _⟩
    split at full
    · next settled =>
      obtain ⟨hidden, named⟩ := free.mp settled
      obtain ⟨own, records⟩ :=
        (Balancer.fullyCapped_applyResourceLimits_iff stored relaxed).mp full
      exact ⟨hidden, named, own, records⟩
    · obtain ⟨same, kept, _, _, cleared⟩ := full
      obtain rfl := Option.some.inj (kept.symm.trans stored)
      exact absurd (cleared.symm.trans relaxed) (by decide)
  · rintro ⟨hidden, named, own, records⟩
    rw [if_pos (free.mpr ⟨hidden, named⟩)]
    exact ⟨(Balancer.fullyCapped_applyResourceLimits_iff stored relaxed).mpr
        ⟨own, records⟩,
      Balancer.applyResourceLimits_kernel_of_records records⟩

end Tick

/-! ## Every run -/

/-- The limits and the monitor loop that works on them. -/
structure MonitoredLimits where
  limits : LimitSystem
  loop : MonitorLoopState

/-- A step of the service: a tick of the monitor or an operation between two
ticks. -/
inductive MonitoredStep
  | tick (tick : PolicyTick) (view : SelectionView)
      (outcomes : Balancer.ApplyOutcomes)
  | operation (operation : LimitOperation)

namespace MonitoredLimits

/-- A service that has just started. -/
def initial (interval : ℚ) : MonitoredLimits where
  limits := .initial
  loop :=
    { defaultIdleCheckInterval := interval, idleCheckInterval := interval }

def step (system : MonitoredLimits) : MonitoredStep → MonitoredLimits
  | .tick tick view outcomes =>
    let result := tickSeparatedPolicy system.loop system.limits.balancer
      (tick.selecting view system.loop system.limits.balancer outcomes)
    ⟨{ system.limits with balancer := result.balancer }, result.handled⟩
  | .operation operation => { system with
      limits := system.limits.step operation }

/-- A tick caps every relaxed app that leads it again in full. -/
def Recaps (system : MonitoredLimits) : MonitoredStep → Prop
  | .tick tick view outcomes =>
    ∀ key, RecapsLeader system.loop system.limits.balancer tick view outcomes
      key
  | .operation _ => True

/-- A tick's lookup sees the entry of no relaxed app that leads it again. -/
def Unblocks (system : MonitoredLimits) : MonitoredStep → Prop
  | .tick tick view outcomes =>
    ∀ key, UnblocksLeader system.loop system.limits.balancer tick view
      outcomes key
  | .operation _ => True

/-- In a run, every critical tick caps the relaxed app that leads it in full
exactly when no lookup of the run gets to see the entry of such an app. -/
theorem relaxed_leaders_recapped_iff (start : MonitoredLimits)
    (steps : List MonitoredStep) :
    Runs.EveryStep step Recaps start steps ↔
      Runs.EveryStep step Unblocks start steps := by
  apply Runs.everyStep_congr
  intro system label
  cases label with
  | tick tick view outcomes => exact forall_congr' fun _ => recapsLeader_iff
  | operation operation => exact Iff.rfl

/-- A controlled app in one cgroup, its CPU and memory limited. -/
def limitableView : SelectionView where
  controlledApps := [⟨"app", "app", some "low", []⟩]
  usage := fun _ => { cgroupPaths := ["/user/a.scope"] }
  policy := some ⟨⟨true, fun _ => some (3 / 10)⟩,
    ⟨true, fun _ => some (1 / 5)⟩, ⟨false, fun _ => none⟩⟩

/-- A critical tick with the app on top, every write accepted. -/
def criticalStep : MonitoredStep :=
  .tick criticalTick limitableView (.accepting [] 2)

/-- The sys channel stayed at medium: the cap is relaxed. -/
def relaxStep : MonitoredStep :=
  .operation (.restore (.staged .sys .partially
    ⟨16000, fun _ => 1, .accepting [], fun _ => .accepting,
      fun _ => .accepting []⟩))

/-- The app is capped on a critical tick and relaxed. -/
def relaxedOnce : MonitoredLimits :=
  Runs.run step (initial 5) [criticalStep, relaxStep]

theorem leadsAgain_relaxedOnce :
    ∃ selection, LeadsAgain relaxedOnce.loop relaxedOnce.limits.balancer
      criticalTick limitableView "a.scope" selection := by
  obtain ⟨entry, stored⟩ := Option.isSome_iff_exists.mp
    (by decide +kernel : (relaxedOnce.limits.balancer.allLimits.apps.get?
      "a.scope").isSome = true)
  obtain ⟨selection, selected⟩ := Option.isSome_iff_exists.mp
    (by decide +kernel : (selectTarget limitableView
      relaxedOnce.limits.balancer.allLimits (selectionState relaxedOnce.loop
        relaxedOnce.limits.balancer criticalTick) criticalTick.channel).isSome =
          true)
  have flags : (relaxedOnce.limits.balancer.allLimits.apps.get? "a.scope").map
      (fun entry => (entry.source, entry.partialParts.of .sys)) =
      some (.auto, true) := by decide +kernel
  have target : (selectTarget limitableView
      relaxedOnce.limits.balancer.allLimits (selectionState relaxedOnce.loop
        relaxedOnce.limits.balancer criticalTick) criticalTick.channel).map
          (fun selection => decide ("a.scope" ∈
            limitLookupIds selection.targetApp selection.appId)) =
      some true := by decide +kernel
  rw [stored, Option.map_some, Option.some.injEq, Prod.mk.injEq] at flags
  rw [selected, Option.map_some, Option.some.injEq, decide_eq_true_eq] at target
  exact ⟨selection,
    { relaxed := ⟨entry, stored, flags.1, flags.2, "a.scope", target, by
        simp [LimitedApp.answersTo]⟩
      passive := rfl
      critical := rfl
      undisturbed := rfl
      reached := by decide
      selected := selected
      present := rfl }⟩

/-- The second critical tick leaves the app at its relaxed cap. -/
theorem relaxed_app_stays_relaxed :
    ¬ Runs.EveryStep step Recaps (initial 5)
      [criticalStep, relaxStep, criticalStep] := by
  rintro ⟨_, _, recaps, _⟩
  obtain ⟨selection, leads⟩ := leadsAgain_relaxedOnce
  obtain ⟨⟨entry, stored, _, _, cleared⟩, _⟩ :=
    recaps "a.scope" selection leads
  have still : ((tickedBalancer relaxedOnce.loop relaxedOnce.limits.balancer
      criticalTick limitableView (.accepting [] 2)).allLimits.apps.get?
        "a.scope").map (·.partialParts.of .sys) = some true := by
    decide +kernel
  have same := (congrArg (Option.map (·.partialParts.of .sys)) stored).symm
  rw [Option.map_some, cleared] at same
  exact absurd (same.trans still) (by decide)

end MonitoredLimits

end SmarTune
