import SmarTune.Monitor.Exemption

/-!
# The scopes of critical apps

A limit arm judges by the sampled identity whether an app is critical, and caps
the cgroups that the sample is resolved to.  It spares the critical apps
exactly when no candidate that it may act on shares a scope with one of them.
-/

namespace SmarTune

/-- Where processes of the apps live. -/
abbrev Residents := ControlledApp → CgroupId → Bool

/-- A process of a critical app lives in the cgroup. -/
def HostsCritical (apps : List ControlledApp) (residents : Residents)
    (cgroup : CgroupId) : Prop :=
  ∃ app ∈ apps, lowerCase (app.priority.getD "") = "critical" ∧
    residents app cgroup = true

/-- Whatever the rest of the machine is like, the limit arm of the channel caps
no cgroup of a critical app when this batch is at hand. -/
def SparesCritical (apps : List ControlledApp)
    (usage : ControlledApp → AppUsage) (residents : Residents)
    (channel : Channel) (batch : List Candidate) : Prop :=
  ∀ state balancer tick (view : SelectionView) outcomes cap,
    view.controlledApps = apps → view.usage = usage →
    PolicyTick.channel tick = channel →
    (selectionState state balancer tick).topConsumeApps = batch →
    Lands (limitWrites state balancer
      (tick.selecting view state balancer outcomes)) cap →
    ¬ HostsCritical apps residents cap.cgroup

/-! ## The condition -/

def Candidate.takenFor (candidate : Candidate)
    (apps : List ControlledApp) : Option ControlledApp :=
  getAppControlInfo apps (candidate.recordId.getD "")
    (lowerCase (candidate.processName.getD ""))

/-- The comparison by which the channel knows a critical app. -/
def knownCritical (channel : Channel) (app : ControlledApp) : Bool :=
  match channel with
  | .sys => app.priority = some "critical"
  | .diskIo => lowerCase (app.priority.getD "None") = "critical"

def mayActOn (channel : Channel) (batch : List Candidate) : List Candidate :=
  match channel with
  | .sys => batch.take 1
  | .diskIo => batch.filter fun candidate => candidate.recordId.getD "" ≠ ""

/-- The scopes of a candidate: those the app spans, and for one that is not
controlled, or cannot be resolved, those of the sample. -/
def Candidate.scopes (candidate : Candidate) (apps : List ControlledApp)
    (usage : ControlledApp → AppUsage) (channel : Channel) : List CgroupId :=
  let recorded := candidate.recordId.getD ""
  match candidate.takenFor apps with
  | some app =>
    let spanned := (usage app).effectiveIds
    if spanned = [] then recorded :: candidate.extraCgroups
    else if "" ∈ spanned then recorded :: spanned.filter (· ≠ "")
    else spanned
  | none =>
    let sampled := match channel with
      | .sys => candidate.spelledCgroup
      | .diskIo => candidate.sampledCgroup
    orElseName sampled recorded :: candidate.extraCgroups

/-- No candidate that the channel may act on, and does not know for a critical
app, shares a scope with one. -/
def SharesNoScope (apps : List ControlledApp) (usage : ControlledApp → AppUsage)
    (residents : Residents) (channel : Channel)
    (batch : List Candidate) : Prop :=
  ∀ candidate ∈ mayActOn channel batch,
    (candidate.takenFor apps).any (knownCritical channel) = false →
    (candidate.scopes apps usage channel).headD "" ≠ "" →
    ∀ cgroup ∈ candidate.scopes apps usage channel,
      ¬ HostsCritical apps residents cgroup

/-! ## Scopes and targets -/

/-- The least of a list is below its members. -/
theorem foldl_min_le (first : String) (rest : List String) :
    ∀ name ∈ first :: rest, rest.foldl min first ≤ name := by
  induction rest generalizing first with
  | nil => simp
  | cons head tail ih =>
    intro name member
    rw [List.foldl_cons]
    have least := ih (min first head)
    rcases List.mem_cons.mp member with rfl | later
    · exact (least _ List.mem_cons_self).trans (min_le_left _ _)
    · rcases List.mem_cons.mp later with rfl | last
      · exact (least _ List.mem_cons_self).trans (min_le_right _ _)
      · exact least name (List.mem_cons_of_mem _ last)

theorem eq_empty_of_le {name : String} (below : name ≤ "") : name = "" := by
  rw [String.le_iff_toList_le] at below
  apply String.toList_eq_nil_iff.mp
  by_contra named
  obtain ⟨letter, letters, spelled⟩ := List.exists_cons_of_ne_nil named
  rw [spelled] at below
  exact absurd (List.nil_lt_cons letter letters) (not_lt.mpr below)

theorem foldl_min_eq_empty_iff (first : String) (rest : List String) :
    rest.foldl min first = "" ↔ "" ∈ first :: rest := by
  constructor
  · intro least
    rw [← least]
    exact foldl_min_mem first rest
  · intro member
    exact eq_empty_of_le (foldl_min_le first rest "" member)

section Target

variable {view : SelectionView} {channel : Channel} {candidate : Candidate}

theorem resolveTarget_scopes {app : ControlledApp}
    (taken : candidate.takenFor view.controlledApps = some app) :
    ((resolveTarget view app candidate).1 = "" ↔
      (candidate.scopes view.controlledApps view.usage channel).headD "" = "") ∧
    ∀ cgroup, cgroup ∈ (resolveTarget view app candidate).1 ::
        (resolveTarget view app candidate).2.extraCgroups ↔
      cgroup ∈ candidate.scopes view.controlledApps view.usage channel := by
  unfold Candidate.scopes resolveTarget resolveControlledTarget
  rw [taken]
  cases spanned : (view.usage app).effectiveIds with
  | nil => simp [orElseName, spanned]
  | cons first rest =>
    simp only [spanned]
    have least := foldl_min_eq_empty_iff first rest
    have chosen := foldl_min_mem first rest
    simp only [Option.getD_some, reduceCtorEq, if_false]
    by_cases blank : "" ∈ first :: rest
    · rw [if_pos blank, orElseName, if_pos (least.mpr blank), least.mpr blank]
      simp
    · have named : rest.foldl min first ≠ "" := fun empty =>
        blank (least.mp empty)
      rw [if_neg blank, orElseName, if_neg named]
      constructor
      · refine iff_of_false named ?_
        intro empty
        apply blank
        rw [← empty]
        exact List.mem_cons_self
      · intro cgroup
        by_cases primary : cgroup = rest.foldl min first
        · rw [primary]
          exact iff_of_true List.mem_cons_self chosen
        · simp [primary]

theorem select_scopes (view : SelectionView) (channel : Channel)
    (candidate : Candidate) (index : Nat) :
    ((view.select channel candidate index).appId = "" ↔
      (candidate.scopes view.controlledApps view.usage channel).headD "" = "") ∧
    ∀ cgroup, cgroup ∈ (view.select channel candidate index).cgroups ↔
      cgroup ∈ candidate.scopes view.controlledApps view.usage channel := by
  have addressed : ((view.target channel candidate).1 = "" ↔
      (candidate.scopes view.controlledApps view.usage channel).headD "" = "") ∧
      ∀ cgroup, cgroup ∈ (view.target channel candidate).1 ::
          (view.target channel candidate).2.extraCgroups ↔
        cgroup ∈ candidate.scopes view.controlledApps view.usage channel := by
    unfold SelectionView.target
    cases taken : view.controlledData candidate with
    | some app => exact resolveTarget_scopes taken
    | none =>
      have free : candidate.takenFor view.controlledApps = none := taken
      unfold Candidate.scopes sampledTarget
      rw [free]
      cases channel with
      | sys =>
        by_cases unnamed : candidate.spelledCgroup = ""
        · simp [unnamed, orElseName]
        · simp [unnamed, orElseName]
      | diskIo => simp
  exact addressed

end Target

/-! ## What a limit arm selects -/

theorem mem_mayActOn_sys {batch : List Candidate} {candidate : Candidate}
    (member : candidate ∈ mayActOn .sys batch) :
    ∃ rest, batch = candidate :: rest := by
  cases batch with
  | nil => cases member
  | cons first rest =>
    have same : candidate = first := by simpa [mayActOn] using member
    exact ⟨rest, by rw [same]⟩

theorem selectTarget_mayActOn {view : SelectionView} {registry : LimitRegistry}
    {state : MonitorLoopState} {channel : Channel} {selection : Selection}
    (selected : selectTarget view registry state channel = some selection) :
    ∃ candidate ∈ mayActOn channel state.topConsumeApps,
      (candidate.takenFor view.controlledApps).any (knownCritical channel) =
        false ∧
      selection = view.select channel candidate selection.index := by
  cases channel with
  | sys =>
    simp only [selectTarget, handleCriticalPressure] at selected
    split at selected
    · cases selected
    rename_i candidate rest batch
    split at selected
    · cases selected
    split at selected
    · cases selected
    rename_i unknown
    obtain rfl := Option.some.inj selected
    refine ⟨candidate, by simp [mayActOn, batch], ?_, rfl⟩
    have taken : view.controlledData candidate =
        candidate.takenFor view.controlledApps := rfl
    simp only [SelectionView.priority, taken] at unknown
    cases app : candidate.takenFor view.controlledApps with
    | none => rfl
    | some app =>
      rw [app] at unknown
      simpa [knownCritical] using unknown
  | diskIo =>
    simp only [selectTarget, handleDiskIoStressed] at selected
    split at selected
    · cases selected
    obtain ⟨⟨candidate, index⟩, found, rfl⟩ :=
      Option.map_eq_some_iff.mp selected
    have listed := List.mem_zipIdx_iff_getElem?.mp
      (List.mem_of_find?_eq_some found)
    have passes : throttleable view registry candidate = true := by
      simpa using List.find?_some found
    simp only [throttleable, Bool.and_eq_true] at passes
    obtain ⟨⟨⟨⟨named, unknown⟩, _⟩, _⟩, _⟩ := passes
    refine ⟨candidate, ?_, ?_, rfl⟩
    · exact List.mem_filter.mpr ⟨List.mem_of_getElem? listed, named⟩
    · have taken : view.controlledData candidate =
          candidate.takenFor view.controlledApps := rfl
      simp only [SelectionView.priority, taken] at unknown
      cases app : candidate.takenFor view.controlledApps with
      | none => rfl
      | some app =>
        rw [app] at unknown
        simpa [knownCritical] using unknown

/-! ## A machine that is open to every cap -/

deriving instance DecidableEq for Candidate

/-- A policy with a rate for every resource and priority. -/
def halfPolicy : LimitPolicy where
  cpu := ⟨true, fun _ => some (1 / 2)⟩
  memory := ⟨true, fun _ => some (1 / 2)⟩
  diskIo := ⟨true, fun _ => some ⟨none, none, none, none⟩⟩

/-- The candidate is the one heavy disk user. -/
def openView (apps : List ControlledApp) (usage : ControlledApp → AppUsage)
    (heavy : Candidate) : SelectionView where
  controlledApps := apps
  usage := usage
  policy := some halfPolicy
  processIo := fun candidate =>
    if candidate = heavy then { totals := { readRate := 1000 } } else {}

/-- The loop has nothing at hand. -/
def idleState : MonitorLoopState := ⟨1, 1, [], false, none, 0, false, none,
  none, none⟩

/-- The channel is critical, and the batch is fetched. -/
def armedTick (channel : Channel) (batch : List Candidate) : PolicyTick where
  now := 2
  pressure := match channel with
    | .sys => .critical
    | .diskIo => .low
  diskLevel := .critical
  passiveEnabled := true
  launchPending := false
  resolvedApps := batch
  resolvedThreshold := true
  prefetchStale := false
  decision := ⟨false, false, none, ⟨none, none, none⟩, none, none, true,
    .accepting [] 2⟩
  limitRaises := false
  scanDisturbed := false
  restoreStep := fun _ => ⟨⟨16000, fun _ => 1, .accepting [],
    fun _ => .accepting, fun _ => .accepting []⟩, none, false⟩

theorem armedTick_channel (channel : Channel)
    (batch : List Candidate) : (armedTick channel batch).channel = channel := by
  cases channel <;> rfl

theorem dropExcludedCandidates_empty (apps : List Candidate) :
    dropExcludedCandidates .empty apps = apps :=
  List.filter_eq_self.mpr fun _ _ => rfl

theorem selectionState_armedTick (channel : Channel) (batch : List Candidate) :
    (selectionState idleState .initial
        (armedTick channel batch)).topConsumeApps = batch ∧
      (selectionState idleState .initial
        (armedTick channel batch)).reachThreshold = true := by
  have twice : dropExcludedCandidates .empty
      (dropExcludedCandidates .empty batch) = batch := by
    rw [dropExcludedCandidates_empty, dropExcludedCandidates_empty]
  unfold selectionState
  rw [armedTick_channel]
  cases channel with
  | sys => exact ⟨twice, rfl⟩
  | diskIo => exact ⟨twice, rfl⟩

section Open

variable {apps : List ControlledApp} {usage : ControlledApp → AppUsage}
  {channel : Channel} {batch : List Candidate} {candidate : Candidate}

theorem qualifies_openView_iff (heavy other : Candidate) :
    qualifiesForThrottle
        (candidateFloors (openView apps usage heavy).configuredFloors)
        (openView apps usage heavy).mediaForDisk
        ((openView apps usage heavy).processIo other) = true ↔
      other = heavy := by
  by_cases same : other = heavy
  · refine iff_of_true ?_ same
    have figures : (openView apps usage heavy).processIo other =
        { totals := { readRate := 1000 } } := if_pos same
    rw [figures]
    change qualifiesForThrottle (candidateFloors fun _ => {}) (fun _ => .unknown)
      { totals := { readRate := 1000 } } = true
    decide +kernel
  · refine iff_of_false ?_ same
    have figures : (openView apps usage heavy).processIo other = {} :=
      if_neg same
    rw [figures]
    change ¬ qualifiesForThrottle (candidateFloors fun _ => {})
      (fun _ => .unknown) {} = true
    decide +kernel

theorem selectTarget_openView (usage : ControlledApp → AppUsage)
    {state : MonitorLoopState} (atHand : state.topConsumeApps = batch)
    (reached : state.reachThreshold = true)
    (acts : candidate ∈ mayActOn channel batch)
    (unknown : (candidate.takenFor apps).any (knownCritical channel) = false) :
    ∃ index, selectTarget (openView apps usage candidate) .empty state channel =
      some ((openView apps usage candidate).select channel candidate
        index) := by
  have taken : (openView apps usage candidate).controlledData candidate =
      candidate.takenFor apps := rfl
  cases channel with
  | sys =>
    obtain ⟨rest, rfl⟩ := mem_mayActOn_sys acts
    refine ⟨0, ?_⟩
    simp only [selectTarget, handleCriticalPressure, atHand, reached,
      SelectionView.priority, taken]
    cases known : candidate.takenFor apps with
    | none => simp
    | some app =>
      rw [known] at unknown
      have ordinary : app.priority ≠ some "critical" := by
        simpa [knownCritical] using unknown
      simp [ordinary]
  | diskIo =>
    obtain ⟨member, named⟩ := List.mem_filter.mp acts
    have passes : throttleable (openView apps usage candidate) .empty
        candidate = true := by
      simp only [throttleable, Bool.and_eq_true]
      refine ⟨⟨⟨⟨named, ?_⟩, rfl⟩, ?_⟩,
        (qualifies_openView_iff candidate candidate).mpr rfl⟩
      · simp only [SelectionView.priority, taken]
        cases known : candidate.takenFor apps with
        | none => rfl
        | some app =>
          rw [known] at unknown
          have ordinary : lowerCase (app.priority.getD "None") ≠
              "critical" := by
            simpa [knownCritical] using unknown
          simp [ordinary]
      · simp [alreadyIoLimited, LimitRegistry.byAnyId, LimitRegistry.empty,
          OrderedDict.empty]
    have only : ∀ other, throttleable (openView apps usage candidate) .empty
        other = true → other = candidate := by
      intro other throttled
      simp only [throttleable, Bool.and_eq_true] at throttled
      exact (qualifies_openView_iff candidate other).mp throttled.2
    obtain ⟨index, located⟩ := List.mem_iff_getElem?.mp member
    have found : (batch.zipIdx.find? fun other =>
        throttleable (openView apps usage candidate) .empty
          other.1).isSome = true := by
      rw [List.find?_isSome]
      exact ⟨(candidate, index), List.mem_zipIdx_iff_getElem?.mpr located,
        passes⟩
    obtain ⟨⟨other, first⟩, finds⟩ := Option.isSome_iff_exists.mp found
    have same : other = candidate := by
      apply only
      simpa using List.find?_some finds
    subst same
    refine ⟨first, ?_⟩
    have quiet : (openView apps usage other).inReclaimQuietWindow = false :=
      rfl
    simp only [selectTarget, handleDiskIoStressed, atHand, quiet, finds]
    rfl

/-- The open machine goes on to cap what it selects. -/
theorem capsSelection_armedTick {selection : Selection}
    (addressed : selection.appId ≠ "") :
    capsSelection idleState .initial (armedTick channel batch) selection =
      true := by
  have reached := (selectionState_armedTick channel batch).2
  have unlimited : Balancer.manualLimited .initial selection.targetApp
      selection.appId = false := by
    simp [Balancer.manualLimited, Balancer.initial, LimitRegistry.byAnyId,
      LimitRegistry.empty, OrderedDict.empty]
  have quiet : (armedTick channel batch).limitRaises = false := rfl
  have present : (armedTick channel batch).decision.stillPresent = true := rfl
  simp only [capsSelection, settlesOn, reached, unlimited, quiet, present,
    armedTick_channel]
  cases channel with
  | sys =>
    simp [targetHasAutoCpuMemLimit, Balancer.initial, LimitRegistry.byAnyId,
      LimitRegistry.empty, OrderedDict.empty, addressed]
  | diskIo => simp [armedTick, addressed]

theorem givesCap_halfPolicy (channel : Channel) (target : Candidate)
    (appId : CgroupId) (priority : String) (cgroup : CgroupId) :
    Balancer.givesCap target appId
      (getLimitedRates (some halfPolicy) priority none) cgroup channel =
        true := by
  cases channel with
  | sys =>
    have rated : (getLimitedRates (some halfPolicy) priority none).mem =
        some (clampRate (1 / 2) (memRateBounds priority)) := rfl
    have positive := getLimitedRates_mem_pos rated
    have nonzero : clampRate (1 / 2) (memRateBounds priority) ≠ 0 := by
      intro zero
      rw [zero] at positive
      revert positive
      decide +kernel
    have share : truthy (some (clampRate (1 / 2) (memRateBounds priority))) =
        true := decide_eq_true nonzero
    simp only [Balancer.givesCap, rated, share, Bool.true_or]
  | diskIo => rfl

end Open

/-! ## Which batches spare the critical apps -/

/-- A critical app and a low one. -/
def terminalApps : List ControlledApp :=
  [⟨"vital", "vital", some "critical", []⟩, ⟨"bulk", "bulk", some "low", []⟩]

/-- Both live in the terminal they were launched from. -/
def terminalUsage : ControlledApp → AppUsage :=
  fun _ => { cgroupPaths := ["/user/terminal.scope"] }

/-- The terminal is the only scope with processes of the apps. -/
def terminalResidents : Residents :=
  fun _ cgroup => cgroup = "terminal.scope"

/-- A sample of the terminal's scope under a process name. -/
def terminalSample (name : String) : Candidate where
  recordId := some name
  processName := some name
  cgroup := some "/user/terminal.scope"

end SmarTune
