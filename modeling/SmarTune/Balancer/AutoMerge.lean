import SmarTune.Library.Unions
import SmarTune.Balancer.Lifecycles

/-!
# Repeated auto limits of one app

`_upsert_auto_limited` is called again whenever an app is capped again or on
the other channel.  Called over and over under one key it leaves what the calls
say together: the first identity, the newest rates, the union of the rest.
Between the calls a staged restore may relax a channel of the entry.
-/

namespace SmarTune

/-- The channels one auto limit caps. -/
def AutoLimit.parts (limit : AutoLimit) : LimitParts :=
  ⟨limit.resourceLimited, limit.ioLimited⟩

/-- One `_upsert_auto_limited` call and the time it reads. -/
structure AutoCall where
  limit : AutoLimit
  now : ℚ

/-- What happens to the entry of one key. -/
inductive MergeStep
  | cap (call : AutoCall)
  /-- A partial restore of the channel succeeds. -/
  | relax (channel : Channel)

def callsOf (steps : List MergeStep) : List AutoCall :=
  steps.filterMap fun
    | .cap call => some call
    | .relax _ => none

namespace Balancer

/-- The effect of one step on the entry under a key. -/
def mergeStep (appId : CgroupId) (balancer : Balancer) : MergeStep → Balancer
  | .cap call => balancer.upsertAutoLimited appId call.limit call.now
  | .relax channel => balancer.modifyEntry appId fun entry => { entry with
      partialParts := entry.partialParts.set channel true
      state := some .partiallyRestored }

end Balancer

/-- The entry says what the calls say together. -/
structure MergedFrom (appId : CgroupId) (first : AutoCall)
    (calls : List AutoCall) (entry : LimitedApp) : Prop where
  source : entry.source = .auto
  limitParts : ∀ channel, entry.limitParts.of channel =
      calls.any fun call => call.limit.parts.of channel
  cpu : entry.resourceParts.cpu =
    calls.any fun call => call.limit.resourceParts.cpu
  memory : entry.resourceParts.memory =
    calls.any fun call => call.limit.resourceParts.memory
  cgroups : entry.cgroups =
    (calls.flatMap fun call => call.limit.cgroups).eraseDups
  limitDisks : entry.limitDisks =
    (calls.flatMap fun call => call.limit.limitDisks).eraseDups
  pids : ∀ pid, pid ∈ entry.pids ↔ ∃ call ∈ calls, pid ∈ call.limit.pids
  limitedAt : entry.limitedAt = first.now
  protectionId : entry.protectionId =
    some ⟨.auto, first.limit.publicId, appId, first.now⟩
  limitReason : entry.limitReason =
    ((calls.map fun call => call.limit.limitReason).find? (· ≠ "")).getD ""
  cpuRate : entry.limitRates.cpuRate =
    calls.reverse.findSome? fun call => call.limit.limitRates.cpuRate
  memRate : entry.limitRates.memRate =
    calls.reverse.findSome? fun call => call.limit.limitRates.memRate
  diskIoRate : entry.limitRates.diskIoRate =
    calls.reverse.findSome? fun call => call.limit.limitRates.diskIoRate

/-- The channel was relaxed and no later call capped it. -/
def RelaxedLast (channel : Channel) (steps : List MergeStep) : Prop :=
  ∃ earlier later, steps = earlier ++ .relax channel :: later ∧
    ∀ call ∈ callsOf later, call.limit.parts.of channel = false

/-- The actions on a channel among some events. -/
def actionsOn (channel : Channel) (events : List ControlEvent) :
    List ControlAction :=
  (events.filter (·.concerns channel)).map (·.action)

theorem actionsOn_append (channel : Channel)
    (first second : List ControlEvent) :
    actionsOn channel (first ++ second) =
      actionsOn channel first ++ actionsOn channel second := by
  simp [actionsOn]

/-! ## One call -/

section Calls

variable {appId : CgroupId} {first call : AutoCall} {calls : List AutoCall}
  {entry : LimitedApp}

/-- The first call is recorded as it is; its disks are listed once each. -/
theorem mergedFrom_fresh (distinct : first.limit.limitDisks.Nodup) :
    MergedFrom appId first [first] (first.limit.fresh appId first.now) where
  source := rfl
  limitParts := by
    intro channel
    cases channel <;> simp [AutoLimit.fresh, AutoLimit.parts, LimitParts.of]
  cpu := by simp [AutoLimit.fresh]
  memory := by simp [AutoLimit.fresh]
  cgroups := by simp [AutoLimit.fresh]
  limitDisks := by
    simp [AutoLimit.fresh, Unions.eraseDups_of_nodup distinct]
  pids := by simp [AutoLimit.fresh]
  limitedAt := rfl
  protectionId := rfl
  limitReason := by
    by_cases empty : first.limit.limitReason = "" <;>
      simp [AutoLimit.fresh, empty]
  cpuRate := by
    cases rate : first.limit.limitRates.cpuRate <;> simp [AutoLimit.fresh, rate]
  memRate := by
    cases rate : first.limit.limitRates.memRate <;> simp [AutoLimit.fresh, rate]
  diskIoRate := by
    cases rate : first.limit.limitRates.diskIoRate <;>
      simp [AutoLimit.fresh, rate]

/-- The last value of a key wins. -/
theorem findSome?_reverse_concat {α : Type*} (key : AutoCall → Option α)
    (calls : List AutoCall) (call : AutoCall) :
    (calls ++ [call]).reverse.findSome? key =
      (key call).or (calls.reverse.findSome? key) := by
  cases found : key call <;> simp [found]

/-- A further call is merged into what the earlier ones left. -/
theorem MergedFrom.merged (whole : MergedFrom appId first calls entry)
    (clock : 0 < first.now) (call : AutoCall) :
    MergedFrom appId first (calls ++ [call])
      (call.limit.merged appId entry call.now) where
  source := rfl
  limitParts := by
    intro channel
    have before := whole.limitParts channel
    cases channel <;>
      simp only [AutoLimit.merged, AutoLimit.parts, LimitParts.of,
        List.any_append, List.any_cons, List.any_nil, Bool.or_false] at *
    · rw [before]
    · rw [before]
  cpu := by simp [AutoLimit.merged, whole.cpu]
  memory := by simp [AutoLimit.merged, whole.memory]
  cgroups := by
    simp only [AutoLimit.merged, whole.cgroups, List.flatMap_append,
      List.flatMap_cons, List.flatMap_nil, List.append_nil]
    exact Unions.eraseDups_append_eraseDups _ _
  limitDisks := by
    simp only [AutoLimit.merged, whole.limitDisks, List.flatMap_append,
      List.flatMap_cons, List.flatMap_nil, List.append_nil]
    exact Unions.eraseDups_eraseDups_append _ _
  pids := by
    intro pid
    simp only [AutoLimit.merged, List.mem_eraseDups, List.mem_append,
      whole.pids, List.mem_singleton, or_and_right, exists_or,
      exists_eq_left]
    exact or_comm
  limitedAt := by
    simp [AutoLimit.merged, whole.limitedAt, clock.ne']
  protectionId := by
    simp [AutoLimit.merged, whole.protectionId]
  limitReason := by
    simp only [AutoLimit.merged, whole.limitReason, orElseName, List.map_append,
      List.find?_append]
    cases found : (calls.map fun call => call.limit.limitReason).find?
        (· ≠ "") with
    | none => by_cases empty : call.limit.limitReason = "" <;> simp [empty]
    | some reason =>
      have nonempty := List.find?_some found
      simp only [decide_eq_true_eq] at nonempty
      simp [nonempty]
  cpuRate := by
    rw [findSome?_reverse_concat, ← whole.cpuRate]
    rfl
  memRate := by
    rw [findSome?_reverse_concat, ← whole.memRate]
    rfl
  diskIoRate := by
    rw [findSome?_reverse_concat, ← whole.diskIoRate]
    rfl

/-- Relaxing a channel changes nothing else. -/
theorem MergedFrom.relaxed (whole : MergedFrom appId first calls entry)
    (parts : PartialParts) (state : Option LimitState) :
    MergedFrom appId first calls { entry with
      partialParts := parts
      state := state } := by
  obtain ⟨⟩ := whole
  constructor <;> assumption

end Calls

/-! ## Relaxed channels -/

@[simp] theorem callsOf_append (first second : List MergeStep) :
    callsOf (first ++ second) = callsOf first ++ callsOf second :=
  List.filterMap_append

@[simp] theorem callsOf_cap (call : AutoCall) (steps : List MergeStep) :
    callsOf (.cap call :: steps) = call :: callsOf steps := rfl

@[simp] theorem callsOf_relax (channel : Channel) (steps : List MergeStep) :
    callsOf (.relax channel :: steps) = callsOf steps := rfl

@[simp] theorem callsOf_nil : callsOf [] = [] := rfl

section Relaxed

variable {channel : Channel} {steps : List MergeStep}

theorem not_relaxedLast_nil : ¬ RelaxedLast channel [] := by
  rintro ⟨earlier, later, split, _⟩
  simp at split

theorem relaxedLast_concat_cap (call : AutoCall) :
    RelaxedLast channel (steps ++ [.cap call]) ↔
      RelaxedLast channel steps ∧ call.limit.parts.of channel = false := by
  constructor
  · rintro ⟨earlier, later, split, spared⟩
    rcases List.eq_nil_or_concat' later with rfl | ⟨init, last, rfl⟩
    · have same := (List.append_inj' split rfl).2
      simp at same
    · rw [← List.cons_append, ← List.append_assoc] at split
      obtain ⟨rfl, same⟩ := List.append_inj' split rfl
      obtain rfl : .cap call = last := by simpa using same
      simp only [callsOf_append, callsOf_cap, callsOf_nil, List.mem_append,
        List.mem_singleton] at spared
      exact ⟨⟨earlier, init, rfl, fun other member =>
        spared other (.inl member)⟩, spared call (.inr rfl)⟩
  · rintro ⟨⟨earlier, later, rfl, spared⟩, spares⟩
    refine ⟨earlier, later ++ [.cap call], by simp, ?_⟩
    simp only [callsOf_append, callsOf_cap, callsOf_nil, List.mem_append,
      List.mem_singleton]
    rintro other (member | rfl)
    · exact spared other member
    · exact spares

theorem relaxedLast_concat_relax (other : Channel) :
    RelaxedLast channel (steps ++ [.relax other]) ↔
      other = channel ∨ RelaxedLast channel steps := by
  constructor
  · rintro ⟨earlier, later, split, spared⟩
    rcases List.eq_nil_or_concat' later with rfl | ⟨init, last, rfl⟩
    · have same := (List.append_inj' split rfl).2
      left
      simpa using same
    · rw [← List.cons_append, ← List.append_assoc] at split
      obtain ⟨rfl, same⟩ := List.append_inj' split rfl
      obtain rfl : .relax other = last := by simpa using same
      refine .inr ⟨earlier, init, rfl, fun call member => spared call ?_⟩
      simpa using member
  · rintro (rfl | ⟨earlier, later, rfl, spared⟩)
    · exact ⟨steps, [], rfl, by simp⟩
    · exact ⟨earlier, later ++ [.relax other], by simp, by simpa using spared⟩

end Relaxed

/-- Setting the flag of one channel. -/
theorem PartialParts.of_set (parts : PartialParts) (other channel : Channel) :
    (parts.set other true).of channel =
      (decide (other = channel) || parts.of channel) := by
  cases other <;> cases channel <;> simp [set, of]

/-- A call clears the partial flags of the channels it caps. -/
theorem AutoLimit.merged_partialParts_of (limit : AutoLimit) (appId : CgroupId)
    (entry : LimitedApp) (now : ℚ) (channel : Channel) :
    (limit.merged appId entry now).partialParts.of channel =
      (entry.partialParts.of channel && !limit.parts.of channel) := by
  cases channel <;> rfl

/-! ## Every sequence of calls -/

namespace Balancer

section Sequence

variable {balancer : Balancer} {appId : CgroupId} {first : AutoCall}

/-- The channels the auto entry under a key carries. -/
def autoParts (balancer : Balancer) (appId : CgroupId) : LimitParts :=
  ((balancer.autoEntry appId).map (·.limitParts)).getD .none

theorem upsertAutoLimited_events (limit : AutoLimit) (now : ℚ) :
    (balancer.upsertAutoLimited appId limit now).events =
      balancer.events ++ (upsertEmission (balancer.autoParts appId)
        (balancer.upsertedEntry appId limit now) limit).events :=
  emit_events ..

/-- What a call reports of a channel: that it is capped, unless it was. -/
theorem actionsOn_upsertEmission (previous : LimitParts) (entry : LimitedApp)
    (limit : AutoLimit) (channel : Channel) :
    actionsOn channel (upsertEmission previous entry limit).events =
      if (limit.parts.of channel && !previous.of channel) = true
      then [.applied] else [] := by
  rw [actionsOn, Emission.actions_events]
  cases channel <;> rfl

theorem upsertAutoLimited_actions (limit : AutoLimit) (now : ℚ)
    (channel : Channel) :
    actionsOn channel ((balancer.upsertAutoLimited appId limit now).events.drop
        balancer.events.length) =
      if (limit.parts.of channel &&
          !(balancer.autoParts appId).of channel) = true
      then [.applied] else [] := by
  rw [upsertAutoLimited_events, List.drop_left, actionsOn_upsertEmission]

theorem run_mergeStep_entry (unlimited : balancer.autoEntry appId = none)
    (clock : 0 < first.now) (distinct : first.limit.limitDisks.Nodup)
    (rest : List MergeStep) :
    ∃ entry, (Runs.run (mergeStep appId) balancer
        (.cap first :: rest)).allLimits.apps.get? appId = some entry ∧
      MergedFrom appId first (first :: callsOf rest) entry ∧
      ∀ channel, entry.partialParts.of channel = true ↔
        RelaxedLast channel rest := by
  induction rest using List.reverseRecOn with
  | nil =>
    refine ⟨first.limit.fresh appId first.now, ?_,
      mergedFrom_fresh distinct, ?_⟩
    · simp [mergeStep, upsertAutoLimited_get?, upsertedEntry, unlimited]
    · intro channel
      rw [iff_false_right not_relaxedLast_nil]
      cases channel <;> simp [AutoLimit.fresh, PartialParts.of]
  | append_singleton earlier step ih =>
    obtain ⟨entry, stored, whole, relaxed⟩ := ih
    rw [← List.cons_append, Runs.run_append, Runs.run_cons, Runs.run_nil]
    generalize Runs.run (mergeStep appId) balancer (.cap first :: earlier) =
      before at stored
    cases step with
    | cap call =>
      have previous : before.autoEntry appId = some entry := by
        simp [autoEntry, stored, whole.source]
      refine ⟨call.limit.merged appId entry call.now, ?_, ?_, ?_⟩
      · simp [mergeStep, upsertAutoLimited_get?, upsertedEntry, previous]
      · simpa using whole.merged clock call
      · intro channel
        rw [relaxedLast_concat_cap, AutoLimit.merged_partialParts_of,
          Bool.and_eq_true, relaxed, Bool.not_eq_true']
    | relax channel =>
      refine ⟨{ entry with
        partialParts := entry.partialParts.set channel true
        state := some .partiallyRestored }, ?_, ?_, ?_⟩
      · simp [mergeStep, modifyEntry_get?, stored]
      · simpa using whole.relaxed _ _
      · intro other
        simp only [PartialParts.of_set, Bool.or_eq_true, relaxed,
          relaxedLast_concat_relax, decide_eq_true_eq]

theorem autoParts_run (unlimited : balancer.autoEntry appId = none)
    (clock : 0 < first.now) (distinct : first.limit.limitDisks.Nodup)
    (rest : List MergeStep) (channel : Channel) :
    ((Runs.run (mergeStep appId) balancer
        (.cap first :: rest)).autoParts appId).of channel =
      (first :: callsOf rest).any fun call =>
        call.limit.parts.of channel := by
  obtain ⟨entry, stored, whole, _⟩ :=
    run_mergeStep_entry unlimited clock distinct rest
  have found : (Runs.run (mergeStep appId) balancer
      (.cap first :: rest)).autoEntry appId = some entry := by
    unfold autoEntry
    rw [stored]
    simp [whole.source]
  rw [← whole.limitParts, autoParts, found]
  rfl

theorem run_mergeStep_report (unlimited : balancer.autoEntry appId = none)
    (clock : 0 < first.now) (distinct : first.limit.limitDisks.Nodup)
    {rest earlier later : List MergeStep} {call : AutoCall}
    (split : .cap first :: rest = earlier ++ .cap call :: later)
    (channel : Channel) :
    let before := Runs.run (mergeStep appId) balancer earlier
    actionsOn channel ((mergeStep appId before (.cap call)).events.drop
          before.events.length) =
      if (call.limit.parts.of channel && !(callsOf earlier).any fun call =>
          call.limit.parts.of channel) = true
      then [.applied] else [] := by
  simp only [mergeStep, upsertAutoLimited_actions]
  cases earlier with
  | nil =>
    have none : (balancer.autoParts appId).of channel = false := by
      cases channel <;> simp [autoParts, unlimited, LimitParts.none,
        LimitParts.of]
    simp [none]
  | cons head init =>
    obtain rfl : .cap first = head := (List.cons.inj split).1
    rw [autoParts_run unlimited clock distinct, callsOf_cap]

/-- The whole sequence reports each capped channel once. -/
theorem run_mergeStep_reports (unlimited : balancer.autoEntry appId = none)
    (clock : 0 < first.now) (distinct : first.limit.limitDisks.Nodup)
    (rest : List MergeStep) (channel : Channel) :
    ∃ events, (Runs.run (mergeStep appId) balancer
        (.cap first :: rest)).events = balancer.events ++ events ∧
      actionsOn channel events =
        if (first :: callsOf rest).any (fun call =>
          call.limit.parts.of channel) = true
        then [.applied] else [] := by
  induction rest using List.reverseRecOn with
  | nil =>
    refine ⟨_, upsertAutoLimited_events _ _, ?_⟩
    rw [actionsOn_upsertEmission, autoParts, unlimited]
    cases channel <;> simp [LimitParts.none, LimitParts.of]
  | append_singleton earlier step ih =>
    obtain ⟨events, emitted, actions⟩ := ih
    have carried := autoParts_run unlimited clock distinct earlier channel
    rw [← List.cons_append, Runs.run_append, Runs.run_cons, Runs.run_nil]
    generalize Runs.run (mergeStep appId) balancer (.cap first :: earlier) =
      before at emitted carried
    cases step with
    | cap call =>
      refine ⟨events ++ (upsertEmission (before.autoParts appId)
        (before.upsertedEntry appId call.limit call.now)
        call.limit).events, ?_, ?_⟩
      · rw [mergeStep, upsertAutoLimited_events, emitted, List.append_assoc]
      · rw [actionsOn_append, actions, actionsOn_upsertEmission, carried,
          callsOf_append, ← List.cons_append, List.any_append]
        cases (first :: callsOf earlier).any fun call =>
            call.limit.parts.of channel <;> simp
    | relax other =>
      refine ⟨events, ?_, ?_⟩
      · rw [mergeStep, modifyEntry_events, emitted]
      · simpa using actions

end Sequence

/-- Each capped channel is reported in one event of the whole sequence, by the
first call that caps it. -/
def ReportedOnce (appId : CgroupId) (balancer : Balancer)
    (steps : List MergeStep) : Prop :=
  ∀ channel, (∃ events, (Runs.run (mergeStep appId) balancer steps).events =
        balancer.events ++ events ∧
      actionsOn channel events =
        if (callsOf steps).any (fun call =>
          call.limit.parts.of channel) = true
        then [.applied] else []) ∧
    ∀ earlier call later, steps = earlier ++ .cap call :: later →
      let before := Runs.run (mergeStep appId) balancer earlier
      actionsOn channel ((mergeStep appId before (.cap call)).events.drop
            before.events.length) =
        if (call.limit.parts.of channel && !(callsOf earlier).any fun call =>
            call.limit.parts.of channel) = true
        then [.applied] else []

/-- Any sequence of `_upsert_auto_limited` calls under a key without an auto
entry leaves what the calls say together. -/
theorem upserts_fold (balancer : Balancer) (appId : CgroupId)
    (unlimited : ∀ entry, balancer.allLimits.apps.get? appId = some entry →
      entry.source = .manual)
    (first : AutoCall)
    (clock : 0 < first.now)
    (distinct : first.limit.limitDisks.Nodup)
    (rest : List MergeStep) :
    (∃ entry, (Runs.run (mergeStep appId) balancer
        (.cap first :: rest)).allLimits.apps.get? appId = some entry ∧
      MergedFrom appId first (first :: callsOf rest) entry ∧
      ∀ channel, entry.partialParts.of channel = true ↔
        RelaxedLast channel rest) ∧
    ReportedOnce appId balancer (.cap first :: rest) := by
  have absent : balancer.autoEntry appId = none := by
    cases found : balancer.autoEntry appId with
    | none => rfl
    | some entry =>
      obtain ⟨stored, auto⟩ := autoEntry_eq_some found
      rw [unlimited entry stored] at auto
      cases auto
  refine ⟨run_mergeStep_entry absent clock distinct rest, fun channel =>
    ⟨run_mergeStep_reports absent clock distinct rest channel, ?_⟩⟩
  intro earlier call later split
  exact run_mergeStep_report absent clock distinct split channel

/-- A cap of CPU and memory. -/
def sysCall : AutoCall where
  limit := {
    publicId := "app"
    appName := "App"
    limitRates := ⟨some (some (3 / 10)), some (some (1 / 2)), none⟩
    resourceLimited := true
    ioLimited := false
    priority := some "low"
    isControlled := true
    limitReason := "system_pressure"
    pressureLevel := "critical"
    cgroups := ["one.scope", "two.scope"]
    limitDisks := []
    pids := [7]
    representativePid := some 7
    resourceParts := ⟨true, true⟩ }
  now := 1

/-- A later cap of one disk. -/
def diskCall : AutoCall where
  limit := {
    publicId := "app"
    appName := "App"
    limitRates := ⟨none, none, some (some ⟨50, 50, 500, 500⟩)⟩
    resourceLimited := false
    ioLimited := true
    priority := some "low"
    isControlled := true
    limitReason := "disk_pressure"
    pressureLevel := "high"
    cgroups := ["one.scope", "three.scope"]
    limitDisks := ["sda"]
    pids := [7, 8]
    representativePid := some 8
    resourceParts := ⟨false, false⟩ }
  now := 2

theorem upserts_fold_sys_disk :
    ∃ entry, (Runs.run (mergeStep "one.scope") initial
        [.cap sysCall, .relax .sys, .cap diskCall]).allLimits.apps.get?
          "one.scope" = some entry ∧
      entry.cgroups = ["one.scope", "two.scope", "three.scope"] ∧
      entry.limitedAt = 1 ∧ entry.partialParts.of .sys = true := by
  obtain ⟨⟨entry, stored, whole, relaxed⟩, _⟩ :=
    upserts_fold initial "one.scope" (by intro entry stored; cases stored)
      sysCall (by decide) (by decide) [.relax .sys, .cap diskCall]
  refine ⟨entry, stored, whole.cgroups, whole.limitedAt, ?_⟩
  exact (relaxed .sys).mpr ⟨[], [.cap diskCall], rfl, by
    intro call member
    obtain rfl : call = diskCall := by simpa [callsOf] using member
    rfl⟩

end Balancer

end SmarTune
