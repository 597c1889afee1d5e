import SmarTune.Library.SingleUse
import SmarTune.Monitor.Exemption

/-!
# Whose candidates a tick spends

The two channels keep their candidates in one slot of the loop state.  Beside
the loop state a run keeps the batches that were resolved, the place in its
batch that each held candidate came from, and the candidates that were acted
on, each with the registry at that time.
-/

namespace SmarTune

open SingleUse

/-! ## Tracked candidates -/

/-- A held candidate, and its place in the batch it was resolved in. -/
structure HeldCandidate where
  ticket : Ticket
  candidate : Candidate

/-- What a prefetcher resolved to for a channel. -/
structure ResolvedBatch where
  channel : Channel
  resolvedAt : ℚ
  apps : List Candidate

/-- A candidate that was acted on: the channel, the time and the registry of
the tick. -/
structure PolicyAction where
  ticket : Ticket
  candidate : Candidate
  channel : Channel
  now : ℚ
  registry : LimitRegistry

/-- The loop state and what a run keeps beside it. -/
structure TrackedLoop where
  state : MonitorLoopState
  held : List HeldCandidate := []
  batches : List ResolvedBatch := []
  actions : List PolicyAction := []

/-- The exclusion filter keeps a candidate. -/
def Candidate.spared (registry : LimitRegistry) (candidate : Candidate) :
    Bool :=
  (registry.isExcluded (candidate.recordId.getD "")
    (candidate.processName.getD "")
    (candidate.extraCgroups ++ [candidate.sampledCgroup])).isNone

theorem dropExcludedCandidates_eq (registry : LimitRegistry)
    (apps : List Candidate) :
    dropExcludedCandidates registry apps = apps.filter (·.spared registry) :=
  rfl

def numbered (batch : Nat) (apps : List Candidate) : List HeldCandidate :=
  apps.mapIdx fun position candidate => ⟨⟨batch, position⟩, candidate⟩

/-! ## One pass -/

/-- Where an exception leaves a pass. -/
inductive LoopStage
  /-- Before the policy tick. -/
  | early
  /-- While the prefetcher resolves. -/
  | resolving
  /-- Once the cap is applied. -/
  | acting
  /-- After the policy tick. -/
  | late
  deriving DecidableEq

/-- One pass of the monitor loop.  The books are whatever the other threads
left, and the decision of the tick is that of the selection; an exception before
the cap is applied is the tick's own. -/
structure PolicyPass where
  quiet : Bool
  /-- The gate of the policy tick is open. -/
  due : Bool
  tick : PolicyTick
  balancer : Balancer
  view : SelectionView
  outcomes : Balancer.ApplyOutcomes
  raises : Option LoopStage

/-- A selection rewrites its candidate in place, in the held batch. -/
def MonitorLoopState.rewriteHeld (state : MonitorLoopState)
    (decision : LimitDecision) : MonitorLoopState :=
  match decision.consumedIdx, decision.target with
  | some index, some target =>
    { state with topConsumeApps := state.topConsumeApps.set index target }
  | _, _ => state

namespace TrackedLoop

/-- A loop that has just started. -/
def fresh (interval : ℚ) : TrackedLoop where
  state :=
    { defaultIdleCheckInterval := interval
      idleCheckInterval := interval }

variable (loop : TrackedLoop)

/-- `reset`. -/
def reset : TrackedLoop := { loop with state := loop.state.reset, held := [] }

/-- `drop_top_batch`. -/
def dropTopBatch : TrackedLoop :=
  { loop with state := loop.state.dropTopBatch, held := [] }

/-- The limit arm asks the prefetcher: the held batch is stale or empty, or the
disk sample is. -/
def resolves (tick : PolicyTick) : Bool :=
  loop.state.staleTopBatch tick.channel tick.now ||
    loop.state.topConsumeApps.isEmpty ||
    (tick.channel = .diskIo && tick.prefetchStale)

/-- The batch the limit arm works on, without the apps excluded since. -/
def sample (registry : LimitRegistry) (tick : PolicyTick) : TrackedLoop :=
  { loop with
    state := limitBatch { loop.state with restorePending := false } registry
      tick tick.channel
    held := (if loop.resolves tick
      then numbered loop.batches.length tick.resolvedApps
      else loop.held).filter (·.candidate.spared registry)
    batches := if loop.resolves tick
      then loop.batches ++ [⟨tick.channel, tick.now, tick.resolvedApps⟩]
      else loop.batches }

/-- The candidate the arm acts on, if it applies a limit. -/
def acted (balancer : Balancer) (tick : PolicyTick) : Option PolicyAction :=
  if (limitTarget loop.state balancer tick tick.channel).isSome then
    (tick.decision.consumedIdx.bind (loop.held[·]?)).map fun held =>
      ⟨held.ticket, held.candidate, tick.channel, tick.now, balancer.allLimits⟩
  else none

/-- The selection's rewriting, in the slot and in what is kept beside it. -/
def rewriteHeld (decision : LimitDecision) : TrackedLoop :=
  { loop with
    state := loop.state.rewriteHeld decision
    held :=
      match decision.consumedIdx, decision.target with
      | some index, some target =>
        loop.held.modify index fun held => { held with candidate := target }
      | _, _ => loop.held }

/-- What is left of the batch at the end of the arm: a merely high disk holds
it, otherwise the consumed candidate goes, or all of them. -/
def consume (tick : PolicyTick) : TrackedLoop :=
  if tick.channel = .diskIo && tick.diskLevel ≠ .critical then loop
  else
    match (match tick.channel with
      | .sys => some 0
      | .diskIo => tick.decision.consumedIdx) with
    | some position =>
      { loop with
        state :=
          { loop.state with
            topConsumeApps := loop.state.topConsumeApps.eraseIdx position }
        held := loop.held.eraseIdx position }
    | none => loop.dropTopBatch

def limitArm (pass : PolicyPass) (tick : PolicyTick) : TrackedLoop :=
  let sampled := loop.sample pass.balancer.allLimits tick
  if pass.raises = some .resolving then
    { loop with state := sampled.state.reset, held := [] }
  else if tick.limitRaises || sampled.state.topConsumeApps.isEmpty then
    sampled.reset
  else
    let acted :=
      { sampled.rewriteHeld tick.decision with
        actions := sampled.actions ++
          (sampled.acted pass.balancer tick).toList }
    if pass.raises = some .acting then acted.reset else acted.consume tick

/-- The other arms keep the slot or empty it. -/
def follow (after : MonitorLoopState) : TrackedLoop :=
  { loop with
    state := after
    held := if after.topConsumeApps.isEmpty then [] else loop.held }

/-- `_tick_separated_policy`, on the selection's decision. -/
def policyTick (pass : PolicyPass) : TrackedLoop :=
  let tick := pass.tick.selecting pass.view loop.state pass.balancer
    pass.outcomes
  if tick.passiveEnabled &&
      (tick.pressure = .critical || isDiskIoStressed tick.diskLevel) then
    loop.limitArm pass tick
  else loop.follow (tickSeparatedPolicy loop.state pass.balancer tick).handled

/-- `_maybe_trigger_prefetch`, as far as it touches the slot. -/
def maybeTriggerPrefetch (tick : PolicyTick) : TrackedLoop :=
  if tick.passiveEnabled && !isDiskIoStressed tick.diskLevel &&
      loop.state.topSource = some .diskIo &&
      !loop.state.topConsumeApps.isEmpty then loop.dropTopBatch
  else loop

/-- One pass; the handler resets the loop after an exception. -/
def step (pass : PolicyPass) : TrackedLoop :=
  if pass.raises = some .early then loop.reset
  else
    let after :=
      if pass.quiet then
        if pass.tick.launchPending then loop.reset else loop
      else if pass.due then
        (loop.maybeTriggerPrefetch pass.tick).policyTick pass
      else loop
    if pass.raises = some .late then after.reset else after

end TrackedLoop

/-! ## Where a candidate comes from -/

/-- The same sample, but for what a selection rewrites. -/
structure Candidate.SameSample (first second : Candidate) : Prop where
  recordId : first.recordId = second.recordId
  processName : first.processName = second.processName
  cgroup : first.cgroup = second.cgroup
  cgroupId : first.cgroupId = second.cgroupId

theorem Candidate.SameSample.refl (candidate : Candidate) :
    candidate.SameSample candidate :=
  ⟨rfl, rfl, rfl, rfl⟩

theorem Candidate.SameSample.trans {first second third : Candidate}
    (left : first.SameSample second) (right : second.SameSample third) :
    first.SameSample third :=
  ⟨left.recordId.trans right.recordId, left.processName.trans right.processName,
    left.cgroup.trans right.cgroup, left.cgroupId.trans right.cgroupId⟩

theorem sameSample_select (view : SelectionView) (channel : Channel)
    (candidate : Candidate) (index : Nat) :
    (view.select channel candidate index).targetApp.SameSample candidate := by
  have target : (view.target channel candidate).2.SameSample candidate := by
    unfold SelectionView.target
    split
    · unfold resolveTarget resolveControlledTarget
      cases (view.usage _).effectiveIds <;> exact ⟨rfl, rfl, rfl, rfl⟩
    · unfold sampledTarget
      cases channel with
      | sys => simp only; split <;> exact ⟨rfl, rfl, rfl, rfl⟩
      | diskIo => exact .refl candidate
  exact ⟨target.recordId, target.processName, target.cgroup, target.cgroupId⟩

/-- A place of the batch holds the sample of a candidate. -/
def ResolvedBatch.Holds (batch : ResolvedBatch) (position : Nat)
    (candidate : Candidate) : Prop :=
  ∃ sampled, batch.apps[position]? = some sampled ∧ candidate.SameSample sampled

/-- A held candidate comes from the batch the slot is marked with. -/
def HeldCandidate.OwnedIn (state : MonitorLoopState)
    (batches : List ResolvedBatch) (held : HeldCandidate) : Prop :=
  ∃ batch, batches[held.ticket.batch]? = some batch ∧
    batch.Holds held.ticket.position held.candidate ∧
    state.topSource = some batch.channel ∧
    state.topFetchedAt = batch.resolvedAt

/-- The candidate acted on comes from a batch resolved for the channel, at most
`TOP_BATCH_TTL` ago, and is not excluded. -/
def PolicyAction.Rightful (batches : List ResolvedBatch)
    (action : PolicyAction) : Prop :=
  ∃ batch, batches[action.ticket.batch]? = some batch ∧
    batch.Holds action.ticket.position action.candidate ∧
    batch.channel = action.channel ∧
    action.now - batch.resolvedAt ≤ topBatchTtl ∧
    action.candidate.spared action.registry = true

/-- Later batches leave the earlier ones in their place. -/
theorem getElem?_append_of_some {Item : Type*} {items : List Item} {index : Nat}
    {item : Item} (located : items[index]? = some item) (more : List Item) :
    (items ++ more)[index]? = some item := by
  rw [List.getElem?_append_left (List.getElem?_eq_some_iff.mp located).1]
  exact located

theorem PolicyAction.Rightful.append {batches : List ResolvedBatch}
    {action : PolicyAction} (rightful : action.Rightful batches)
    (more : List ResolvedBatch) :
    action.Rightful (batches ++ more) := by
  obtain ⟨batch, located, rest⟩ := rightful
  exact ⟨batch, getElem?_append_of_some located more, rest⟩

/-! ## Numbered candidates -/

section
variable
  (batch : Nat)
  (apps : List Candidate)

@[simp] theorem map_candidate_numbered :
    (numbered batch apps).map (·.candidate) = apps := by
  apply List.ext_getElem?
  intro index
  simp [numbered, Function.comp_def]

@[simp] theorem map_ticket_numbered :
    (numbered batch apps).map (·.ticket) =
      (List.range apps.length).map (Ticket.mk batch) := by
  apply List.ext_getElem?
  intro index
  by_cases within : index < apps.length
  · simp [numbered, within]
  · simp [numbered, within]

variable {batch} {apps}

theorem getElem?_of_mem_numbered {held : HeldCandidate}
    (member : held ∈ numbered batch apps) :
    held.ticket.batch = batch ∧
      apps[held.ticket.position]? = some held.candidate := by
  obtain ⟨position, within, rfl⟩ := List.mem_mapIdx.mp member
  exact ⟨rfl, List.getElem?_eq_getElem within⟩

end

/-! ## The batch of a limit arm -/

section
variable
  {state : MonitorLoopState}
  {channel : Channel}
  {tick : PolicyTick}

theorem limitBatch_of_asked
    (asked : (state.staleTopBatch channel tick.now ||
      state.topConsumeApps.isEmpty ||
      (channel = .diskIo && tick.prefetchStale)) = true)
    (registry : LimitRegistry) :
    (limitBatch state registry tick channel).topConsumeApps =
        tick.resolvedApps.filter (·.spared registry) ∧
      (limitBatch state registry tick channel).topSource = some channel ∧
      (limitBatch state registry tick channel).topFetchedAt = tick.now := by
  have cleared : ((if state.staleTopBatch channel tick.now
      then state.dropTopBatch else state).topConsumeApps.isEmpty ||
      (channel = .diskIo && tick.prefetchStale)) = true := by
    split
    · rfl
    · next fresh =>
      rw [Bool.or_assoc, Bool.or_eq_true] at asked
      exact asked.resolve_left fresh
  unfold limitBatch
  cases channel with
  | sys =>
    simp only [reduceCtorEq, decide_false, Bool.false_and, Bool.or_false]
      at cleared
    simp only [cleared, if_true, MonitorLoopState.keepTopBatch,
      dropExcludedCandidates_eq, List.filter_filter, Bool.and_self, and_self]
  | diskIo =>
    simp only [decide_true, Bool.true_and] at cleared
    simp only [cleared, if_true, MonitorLoopState.keepTopBatch,
      dropExcludedCandidates_eq, List.filter_filter, Bool.and_self, and_self]

theorem limitBatch_of_kept
    (kept : (state.staleTopBatch channel tick.now ||
      state.topConsumeApps.isEmpty ||
      (channel = .diskIo && tick.prefetchStale)) = false)
    (registry : LimitRegistry) :
    (limitBatch state registry tick channel).topConsumeApps =
        state.topConsumeApps.filter (·.spared registry) ∧
      (limitBatch state registry tick channel).topSource = state.topSource ∧
      (limitBatch state registry tick channel).topFetchedAt =
        state.topFetchedAt := by
  simp only [Bool.or_eq_false_iff] at kept
  obtain ⟨⟨fresh, full⟩, current⟩ := kept
  unfold limitBatch
  cases channel with
  | sys =>
    simp only [fresh, full, Bool.false_eq_true, if_false,
      dropExcludedCandidates_eq, and_self]
  | diskIo =>
    rw [decide_eq_true rfl, Bool.true_and] at current
    simp only [fresh, full, current, Bool.or_self, Bool.false_eq_true,
      if_false, dropExcludedCandidates_eq, and_self]

theorem owned_of_not_stale (full : state.topConsumeApps.isEmpty = false)
    {now : ℚ} (fresh : state.staleTopBatch channel now = false) :
    state.topSource = some channel ∧ now - state.topFetchedAt ≤ topBatchTtl := by
  unfold MonitorLoopState.staleTopBatch at fresh
  rw [full] at fresh
  simpa using fresh

end

/-! ## What every pass keeps -/

namespace TrackedLoop

/-- The tickets of the held candidates, and of those acted on. -/
def book (loop : TrackedLoop) : Book :=
  ⟨loop.batches.length, loop.held.map (·.ticket), loop.actions.map (·.ticket)⟩

/-- The slot holds candidates of the batch it is marked with, none of which was
acted on, and every action was rightful. -/
structure Owned (loop : TrackedLoop) : Prop where
  aligned : loop.state.topConsumeApps = loop.held.map (·.candidate)
  book : loop.book.Sound
  owner : ∀ held ∈ loop.held, held.OwnedIn loop.state loop.batches
  rightful : ∀ action ∈ loop.actions, action.Rightful loop.batches

/-- The batch of a limit arm: the channel's, not too old, and without excluded
apps. -/
structure Ready (registry : LimitRegistry) (tick : PolicyTick)
    (loop : TrackedLoop) : Prop where
  owned : loop.Owned
  spared : ∀ held ∈ loop.held, held.candidate.spared registry = true
  source : loop.state.topSource = some tick.channel
  age : tick.now - loop.state.topFetchedAt ≤ topBatchTtl

variable {loop : TrackedLoop}

theorem owned_fresh (interval : ℚ) : (fresh interval).Owned where
  aligned := rfl
  book := Book.sound_empty
  owner := by simp [fresh]
  rightful := by simp [fresh]

/-- An emptied slot owes nothing. -/
theorem Owned.empty (owned : loop.Owned) {state : MonitorLoopState}
    (empty : state.topConsumeApps = []) :
    ({ loop with state := state, held := [] } : TrackedLoop).Owned where
  aligned := empty
  book := owned.book.keep (List.nil_sublist _)
  owner := by simp
  rightful := owned.rightful

theorem Owned.reset (owned : loop.Owned) : loop.reset.Owned :=
  owned.empty rfl

theorem Owned.dropTopBatch (owned : loop.Owned) : loop.dropTopBatch.Owned :=
  owned.empty rfl

/-- The slot may lose candidates. -/
theorem Owned.keep (owned : loop.Owned) {state : MonitorLoopState}
    {kept : List HeldCandidate} (sublist : kept.Sublist loop.held)
    (aligned : state.topConsumeApps = kept.map (·.candidate))
    (source : state.topSource = loop.state.topSource)
    (fetchedAt : state.topFetchedAt = loop.state.topFetchedAt) :
    ({ loop with state := state, held := kept } : TrackedLoop).Owned where
  aligned := aligned
  book := owned.book.keep (sublist.map _)
  owner := by
    intro held member
    obtain ⟨batch, located, holds, channel, time⟩ :=
      owned.owner held (sublist.subset member)
    exact ⟨batch, located, holds, source.trans channel, fetchedAt.trans time⟩
  rightful := owned.rightful

theorem map_filter_spared (held : List HeldCandidate)
    (registry : LimitRegistry) :
    (held.filter (·.candidate.spared registry)).map (·.candidate) =
      (held.map (·.candidate)).filter (·.spared registry) := by
  rw [List.filter_map]
  rfl

theorem Owned.resolve (owned : loop.Owned) {tick : PolicyTick}
    (registry : LimitRegistry) {state : MonitorLoopState}
    (apps : state.topConsumeApps = tick.resolvedApps.filter (·.spared registry))
    (source : state.topSource = some tick.channel)
    (fetchedAt : state.topFetchedAt = tick.now) :
    ({ loop with
      state := state
      held := (numbered loop.batches.length tick.resolvedApps).filter
        (·.candidate.spared registry)
      batches := loop.batches ++
        [⟨tick.channel, tick.now, tick.resolvedApps⟩] } : TrackedLoop).Owned where
  aligned := by rw [apps, map_filter_spared, map_candidate_numbered]
  book := by
    have kept : (((numbered loop.batches.length tick.resolvedApps).filter
        (·.candidate.spared registry)).map (·.ticket)).Sublist
        ((List.range tick.resolvedApps.length).map
          (Ticket.mk loop.batches.length)) := by
      rw [← map_ticket_numbered]
      exact List.filter_sublist.map _
    rw [TrackedLoop.book, List.length_append]
    exact owned.book.issue kept
  owner := by
    intro held member
    obtain ⟨number, located⟩ :=
      getElem?_of_mem_numbered (List.mem_filter.mp member).1
    refine ⟨⟨tick.channel, tick.now, tick.resolvedApps⟩, ?_, ?_, source,
      fetchedAt⟩
    · rw [number]
      exact List.getElem?_concat_length
    · exact ⟨held.candidate, located, .refl _⟩
  rightful := fun action member => (owned.rightful action member).append _

theorem Owned.sample (owned : loop.Owned) (registry : LimitRegistry)
    (tick : PolicyTick) :
    (loop.sample registry tick).Ready registry tick := by
  have spared : ∀ held ∈ (loop.sample registry tick).held,
      held.candidate.spared registry = true :=
    fun held member => (List.mem_filter.mp member).2
  cases asked : loop.resolves tick with
  | true =>
    obtain ⟨apps, source, fetchedAt⟩ := @limitBatch_of_asked
      { loop.state with restorePending := false } _ _ asked registry
    refine ⟨?_, spared, source, ?_⟩
    · simp only [TrackedLoop.sample, asked, if_true]
      exact owned.resolve registry apps source fetchedAt
    · have now : tick.now - tick.now ≤ topBatchTtl := by
        rw [sub_self]
        decide
      exact fetchedAt ▸ now
  | false =>
    obtain ⟨apps, source, fetchedAt⟩ := @limitBatch_of_kept
      { loop.state with restorePending := false } _ _ asked registry
    have current := asked
    simp only [resolves, Bool.or_eq_false_iff] at current
    obtain ⟨channel, age⟩ := owned_of_not_stale current.1.2 current.1.1
    refine ⟨?_, spared, source.trans channel, ?_⟩
    · simp only [TrackedLoop.sample, asked, Bool.false_eq_true, if_false]
      refine owned.keep List.filter_sublist ?_ source fetchedAt
      rw [apps, map_filter_spared]
      exact congrArg _ owned.aligned
    · exact fetchedAt ▸ age

/-! ### Acting on a candidate -/

/-- A decision that a selection made on a batch: its target is the sample at its
index, which for the sys channel is the first. -/
structure Selects (state : MonitorLoopState) (tick : PolicyTick) : Prop where
  sample : ∀ index target, tick.decision.consumedIdx = some index →
    tick.decision.target = some target →
    ∃ candidate, state.topConsumeApps[index]? = some candidate ∧
      target.SameSample candidate
  first : tick.channel = .sys →
    ∀ index, tick.decision.consumedIdx = some index → index = 0

theorem selects_selecting (tick : PolicyTick) (view : SelectionView)
    (state : MonitorLoopState) (balancer : Balancer)
    (outcomes : Balancer.ApplyOutcomes) :
    Selects (selectionState state balancer tick)
      (tick.selecting view state balancer outcomes) := by
  cases selected : selectTarget view balancer.allLimits
      (selectionState state balancer tick) tick.channel with
  | none => constructor <;> simp [PolicyTick.selecting, selected]
  | some selection =>
    have decision : (tick.selecting view state balancer outcomes).decision =
        _ := decision_selecting selected
    obtain ⟨candidate, located, rewritten⟩ := selectTarget_eq_some selected
    constructor
    · intro index target consumed settled
      rw [decision] at consumed settled
      cases consumed
      cases settled
      refine ⟨candidate, located, ?_⟩
      rw [rewritten]
      exact sameSample_select ..
    · intro sys index consumed
      rw [decision] at consumed
      cases consumed
      rw [channel_selecting] at sys
      rw [sys] at selected
      simp only [selectTarget, handleCriticalPressure] at selected
      split at selected
      · cases selected
      split at selected
      · cases selected
      split at selected
      · cases selected
      exact (congrArg Selection.index (Option.some.inj selected)).symm

theorem acted_eq_some {balancer : Balancer} {tick : PolicyTick}
    {action : PolicyAction} (acts : loop.acted balancer tick = some action) :
    (limitTarget loop.state balancer tick tick.channel).isSome = true ∧
      ∃ index held, tick.decision.consumedIdx = some index ∧
        loop.held[index]? = some held ∧
        action = ⟨held.ticket, held.candidate, tick.channel, tick.now,
          balancer.allLimits⟩ := by
  unfold acted at acts
  split at acts
  · next targeted =>
    obtain ⟨held, located, rfl⟩ := Option.map_eq_some_iff.mp acts
    obtain ⟨index, consumed, there⟩ := Option.bind_eq_some_iff.mp located
    exact ⟨targeted, index, held, consumed, there, rfl⟩
  · cases acts

theorem critical_of_limitTarget {state : MonitorLoopState} {balancer : Balancer}
    {tick : PolicyTick}
    (targeted : (limitTarget state balancer tick .diskIo).isSome = true) :
    tick.diskLevel = .critical := by
  unfold limitTarget at targeted
  split at targeted
  · simp only at targeted
    split at targeted
    · next conditions =>
      simp only [Bool.and_eq_true, decide_eq_true_eq] at conditions
      exact conditions.1.1.1.1
    · cases targeted
  · cases targeted

theorem Ready.rightful {balancer : Balancer} {tick : PolicyTick}
    (ready : loop.Ready balancer.allLimits tick) {action : PolicyAction}
    (acts : loop.acted balancer tick = some action) :
    action.Rightful loop.batches := by
  obtain ⟨_, index, held, _, located, rfl⟩ := acted_eq_some acts
  have member := List.mem_of_getElem? located
  obtain ⟨batch, there, holds, source, fetchedAt⟩ :=
    ready.owned.owner held member
  refine ⟨batch, there, holds, ?_, ?_, ready.spared held member⟩
  · exact Option.some.inj (source.symm.trans ready.source)
  · exact fetchedAt ▸ ready.age

/-- Modifying an item leaves alone what the modification keeps. -/
theorem map_modify_of_kept {Item Value : Type*} {modification : Item → Item}
    {read : Item → Value} (kept : ∀ item, read (modification item) = read item)
    (items : List Item) (index : Nat) :
    (items.modify index modification).map read = items.map read := by
  induction items generalizing index with
  | nil => simp
  | cons item rest hypothesis => cases index <;> simp [kept, hypothesis]

theorem map_modify_of_given {Item Value : Type*} {modification : Item → Item}
    {read : Item → Value} {value : Value}
    (given : ∀ item, read (modification item) = value) (items : List Item)
    (index : Nat) :
    (items.modify index modification).map read =
      (items.map read).set index value := by
  induction items generalizing index with
  | nil => simp
  | cons item rest hypothesis => cases index <;> simp [given, hypothesis]

theorem map_ticket_rewriteHeld (decision : LimitDecision) :
    (loop.rewriteHeld decision).held.map (·.ticket) =
      loop.held.map (·.ticket) := by
  unfold rewriteHeld
  split
  · exact map_modify_of_kept (by intro held; rfl) _ _
  · rfl

/-- A rewritten candidate is still that of its place. -/
theorem Owned.rewriteHeld (owned : loop.Owned) {tick : PolicyTick}
    (selects : Selects loop.state tick) :
    (loop.rewriteHeld tick.decision).Owned := by
  unfold TrackedLoop.rewriteHeld MonitorLoopState.rewriteHeld
  split
  next index target consumed settled =>
    obtain ⟨candidate, there, same⟩ := selects.sample index target consumed
      settled
    refine ⟨?_, ?_, ?_, owned.rightful⟩
    · have candidates : (loop.held.modify index fun held =>
          { held with candidate := target }).map (·.candidate) =
          (loop.held.map (·.candidate)).set index target :=
        map_modify_of_given (by intro held; rfl) _ _
      rw [← owned.aligned] at candidates
      exact candidates.symm
    · unfold TrackedLoop.book
      rw [map_modify_of_kept (by intro held; rfl)]
      exact owned.book
    · intro held member
      obtain ⟨position, located⟩ := List.mem_iff_getElem?.mp member
      rw [List.getElem?_modify] at located
      obtain ⟨old, oldLocated, rfl⟩ := Option.map_eq_some_iff.mp located
      obtain ⟨batch, batchLocated, holds, marks⟩ :=
        owned.owner old (List.mem_of_getElem? oldLocated)
      split
      · next here =>
        refine ⟨batch, batchLocated, ?_, marks⟩
        obtain ⟨sampled, sampledLocated, sameOld⟩ := holds
        rw [owned.aligned, List.getElem?_map, here, oldLocated] at there
        obtain rfl := Option.some.inj there
        exact ⟨sampled, sampledLocated, same.trans sameOld⟩
      · exact ⟨batch, batchLocated, holds, marks⟩
  next => exact owned

/-! ### The limit arm -/

/-- The end of the arm keeps candidates or gives them up. -/
theorem Owned.consume (owned : loop.Owned) (tick : PolicyTick) :
    (loop.consume tick).Owned := by
  unfold TrackedLoop.consume
  split
  · exact owned
  split
  · refine owned.keep (List.eraseIdx_sublist ..) ?_ rfl rfl
    rw [← List.eraseIdx_map, owned.aligned]
  · exact owned.dropTopBatch

/-- A candidate is spent: it leaves the slot as it is acted on. -/
theorem Owned.spend (owned : loop.Owned) {action : PolicyAction}
    (rightful : action.Rightful loop.batches) {index : Nat}
    (located : (loop.held.map (·.ticket))[index]? = some action.ticket) :
    ({ loop with
      state :=
        { loop.state with
          topConsumeApps := loop.state.topConsumeApps.eraseIdx index }
      held := loop.held.eraseIdx index
      actions := loop.actions ++ [action] } : TrackedLoop).Owned where
  aligned := by rw [← List.eraseIdx_map, owned.aligned]
  book := by
    unfold TrackedLoop.book
    rw [← List.eraseIdx_map, List.map_append]
    exact owned.book.spend located
  owner := fun held member =>
    owned.owner held ((List.eraseIdx_sublist ..).subset member)
  rightful := by
    intro other member
    rcases List.mem_append.mp member with old | new
    · exact owned.rightful other old
    · rw [List.mem_singleton.mp new]
      exact rightful

theorem consume_of_acted {balancer : Balancer} {tick : PolicyTick}
    (selects : Selects loop.state tick) {index : Nat}
    (consumed : tick.decision.consumedIdx = some index)
    (targeted :
      (limitTarget loop.state balancer tick tick.channel).isSome = true)
    (other : TrackedLoop) :
    other.consume tick =
      { other with
        state :=
          { other.state with
            topConsumeApps := other.state.topConsumeApps.eraseIdx index }
        held := other.held.eraseIdx index } := by
  unfold consume
  cases channel : tick.channel with
  | sys =>
    rw [selects.first channel index consumed]
    rfl
  | diskIo =>
    rw [channel] at targeted
    simp [critical_of_limitTarget targeted, consumed]

theorem Owned.limitArm (owned : loop.Owned) (pass : PolicyPass)
    {tick : PolicyTick}
    (selects : Selects (loop.sample pass.balancer.allLimits tick).state tick) :
    (loop.limitArm pass tick).Owned := by
  have ready := owned.sample pass.balancer.allLimits tick
  have rewritten := ready.owned.rewriteHeld selects
  unfold TrackedLoop.limitArm
  simp only
  split
  · exact owned.empty rfl
  split
  · exact ready.owned.reset
  cases acts : (loop.sample pass.balancer.allLimits tick).acted pass.balancer
      tick with
  | none =>
    simp only [Option.toList_none, List.append_nil]
    split
    · exact rewritten.reset
    · exact rewritten.consume tick
  | some action =>
    obtain ⟨targeted, index, held, consumed, located, same⟩ :=
      acted_eq_some acts
    have spent := rewritten.spend (ready.rightful acts) (by
      rw [map_ticket_rewriteHeld, List.getElem?_map, located, same]
      rfl)
    simp only [Option.toList_some]
    split
    · exact spent.empty rfl
    · rw [consume_of_acted selects consumed targeted]
      exact spent

end TrackedLoop

/-! ### The tick it refines -/

/-- A candidate that goes is gone, rewritten or not. -/
theorem eraseIdx_rewriteHeld (state : MonitorLoopState)
    {decision : LimitDecision} {position : Nat}
    (same : ∀ index, decision.consumedIdx = some index → index = position) :
    ({ state.rewriteHeld decision with
      topConsumeApps :=
        (state.rewriteHeld decision).topConsumeApps.eraseIdx position } :
      MonitorLoopState) =
      { state with
        topConsumeApps := state.topConsumeApps.eraseIdx position } := by
  unfold MonitorLoopState.rewriteHeld
  split
  next index target consumed _ =>
    rw [same index consumed]
    simp only [List.eraseIdx_set_eq]
  next => rfl

theorem rewriteHeld_of_empty {state : MonitorLoopState}
    (empty : state.topConsumeApps = []) (decision : LimitDecision) :
    state.rewriteHeld decision = state := by
  unfold MonitorLoopState.rewriteHeld
  split
  · rw [empty, List.set_nil, ← empty]
  · rfl

namespace TrackedLoop

variable {loop : TrackedLoop}

theorem state_consume (tick : PolicyTick) :
    (loop.consume tick).state =
      if tick.channel = .diskIo && tick.diskLevel ≠ .critical then loop.state
      else
        match (match tick.channel with
          | .sys => some 0
          | .diskIo => tick.decision.consumedIdx) with
        | some position =>
          { loop.state with
            topConsumeApps := loop.state.topConsumeApps.eraseIdx position }
        | none => loop.state.dropTopBatch := by
  unfold consume
  split
  · rfl
  · cases tick.channel with
    | sys => rfl
    | diskIo => cases tick.decision.consumedIdx <;> rfl

theorem state_limitArm {pass : PolicyPass} {tick : PolicyTick}
    (undisturbed : pass.raises = none)
    (selects : Selects (loop.sample pass.balancer.allLimits tick).state tick) :
    (loop.limitArm pass tick).state =
      if tick.channel = .diskIo && tick.diskLevel ≠ .critical then
        (tickLimit loop.state pass.balancer tick).handled.rewriteHeld
          tick.decision
      else (tickLimit loop.state pass.balancer tick).handled := by
  have channel : (if tick.pressure = .critical then Channel.sys
      else Channel.diskIo) = tick.channel := rfl
  unfold limitArm tickLimit TickResult.handled
  simp only [undisturbed, reduceCtorEq, if_false, channel]
  generalize batch : loop.sample pass.balancer.allLimits tick = sampled
  have slot : limitBatch { loop.state with restorePending := false }
      pass.balancer.allLimits tick tick.channel = sampled.state :=
    congrArg state batch
  rw [batch] at selects
  rw [slot]
  cases raises : tick.limitRaises with
  | true =>
    simp only [Bool.true_or, if_true]
    rw [rewriteHeld_of_empty rfl, ite_self]
    rfl
  | false =>
    cases empty : sampled.state.topConsumeApps.isEmpty with
    | true =>
      simp only [Bool.or_true, if_true, Bool.false_eq_true, if_false]
      rw [rewriteHeld_of_empty rfl, ite_self]
      rfl
    | false =>
      simp only [Bool.or_self, Bool.false_eq_true, if_false]
      rw [state_consume]
      split
      · rfl
      cases level : tick.channel with
      | sys => exact eraseIdx_rewriteHeld _ (selects.first level)
      | diskIo =>
        cases consumed : tick.decision.consumedIdx with
        | some position =>
          refine eraseIdx_rewriteHeld _ fun index same => ?_
          exact Option.some.inj (same.symm.trans consumed)
        | none =>
          simp only [TrackedLoop.rewriteHeld,
            MonitorLoopState.rewriteHeld, consumed]

/-- A tick that nothing interrupts leaves the loop state that
`tickSeparatedPolicy` computes.  Only a batch that a high disk holds shows what
the selection has written into its candidate. -/
theorem state_policyTick (loop : TrackedLoop) (pass : PolicyPass) :
    let tick := pass.tick.selecting pass.view loop.state pass.balancer
      pass.outcomes
    let plain := (tickSeparatedPolicy loop.state pass.balancer tick).handled
    (loop.policyTick { pass with raises := none }).state =
      if tick.passiveEnabled && tick.pressure ≠ .critical &&
          tick.diskLevel = .high then plain.rewriteHeld tick.decision
      else plain := by
  intro tick plain
  by_cases limits : (tick.passiveEnabled &&
      (tick.pressure = .critical || isDiskIoStressed tick.diskLevel)) = true
  · have arm : plain = (tickLimit loop.state pass.balancer tick).handled := by
      simp only [plain, tickSeparatedPolicy, limits, if_true]
    have kept : (tick.channel = .diskIo && tick.diskLevel ≠ .critical) =
        (tick.passiveEnabled && tick.pressure ≠ .critical &&
          tick.diskLevel = .high) := by
      revert limits
      unfold PolicyTick.channel isDiskIoStressed
      cases tick.passiveEnabled <;> cases tick.pressure <;>
        cases tick.diskLevel <;> decide
    rw [← kept, arm]
    have left : (loop.limitArm { pass with raises := none } tick).state = _ :=
      state_limitArm rfl (selects_selecting pass.tick pass.view loop.state
        pass.balancer pass.outcomes)
    exact (congrArg state (if_pos limits)).trans left
  · have still : ¬ (tick.passiveEnabled && tick.pressure ≠ .critical &&
        tick.diskLevel = .high) = true := by
      intro high
      simp_all [isDiskIoStressed]
    rw [if_neg still]
    exact congrArg state (if_neg limits)

end TrackedLoop

/-! ### The other arms -/

/-- The slot is as it was. -/
structure MonitorLoopState.SameSlot
    (after before : MonitorLoopState) : Prop where
  apps : after.topConsumeApps = before.topConsumeApps
  source : after.topSource = before.topSource
  fetchedAt : after.topFetchedAt = before.topFetchedAt

theorem sameSlot_stepReturned (state : MonitorLoopState) (channel : Channel)
    (restoreType : RestoreType) (done : Bool) :
    (state.stepReturned channel restoreType done).SameSlot state := by
  unfold MonitorLoopState.stepReturned
  split <;> exact ⟨rfl, rfl, rfl⟩

theorem MonitorLoopState.SameSlot.trans {first second third : MonitorLoopState}
    (left : first.SameSlot second) (right : second.SameSlot third) :
    first.SameSlot third :=
  ⟨left.apps.trans right.apps, left.source.trans right.source,
    left.fetchedAt.trans right.fetchedAt⟩

theorem sameSlot_takeSteps (tick : PolicyTick) (state : MonitorLoopState)
    (balancer : Balancer) (steps : List (Channel × RestoreType)) :
    (takeSteps tick state balancer steps).state.SameSlot state := by
  induction steps generalizing state balancer with
  | nil => exact ⟨rfl, rfl, rfl⟩
  | cons first rest hypothesis =>
    simp only [takeSteps]
    split
    · exact ⟨rfl, rfl, rfl⟩
    · next done _ =>
      have returned := sameSlot_stepReturned
        { state with restorePending := true } first.1 first.2 done
      exact (hypothesis _ _).trans (returned.trans ⟨rfl, rfl, rfl⟩)

theorem sameSlot_startTimers (state : MonitorLoopState) (tick : PolicyTick)
    (checkPressure checkIo : Bool) :
    (startTimers state tick checkPressure checkIo).SameSlot state := by
  have pressure : (startPressureTimer state tick).SameSlot state := by
    unfold startPressureTimer
    split <;> exact ⟨rfl, rfl, rfl⟩
  have disk : ∀ before, (startDiskTimer before tick).SameSlot before := by
    intro before
    unfold startDiskTimer
    split <;> exact ⟨rfl, rfl, rfl⟩
  unfold startTimers
  cases checkPressure with
  | true =>
    cases checkIo with
    | true => exact (disk _).trans pressure
    | false => exact pressure
  | false =>
    cases checkIo with
    | true => exact disk _
    | false => exact ⟨rfl, rfl, rfl⟩

/-- The restore arm empties the slot or leaves it alone. -/
theorem slot_tickSeparatedRestore (state : MonitorLoopState)
    (balancer : Balancer) (tick : PolicyTick) :
    (tickSeparatedRestore state balancer tick).state.topConsumeApps = [] ∨
      (tickSeparatedRestore state balancer tick).state.SameSlot state := by
  unfold tickSeparatedRestore
  split
  · exact Or.inr ⟨rfl, rfl, rfl⟩
  split
  · exact Or.inr ⟨rfl, rfl, rfl⟩
  simp only
  split
  · exact Or.inl rfl
  · exact Or.inr ((sameSlot_takeSteps ..).trans (sameSlot_startTimers ..))

/-- The arms that apply no limit empty the slot or leave it alone. -/
theorem slot_handled {state : MonitorLoopState} {balancer : Balancer}
    {tick : PolicyTick}
    (noLimit : (tick.passiveEnabled &&
      (tick.pressure = .critical || isDiskIoStressed tick.diskLevel)) = false) :
    (tickSeparatedPolicy state balancer tick).handled.topConsumeApps = [] ∨
      (tickSeparatedPolicy state balancer tick).handled.SameSlot state := by
  unfold TickResult.handled
  split
  · exact Or.inl rfl
  · unfold tickSeparatedPolicy
    rw [noLimit, if_neg Bool.false_ne_true]
    split
    · exact Or.inl rfl
    · exact slot_tickSeparatedRestore ..

namespace TrackedLoop

variable {loop : TrackedLoop}

/-- An arm that empties the slot or leaves it alone keeps it in order. -/
theorem Owned.follow (owned : loop.Owned) {after : MonitorLoopState}
    (slot : after.topConsumeApps = [] ∨ after.SameSlot loop.state) :
    (loop.follow after).Owned := by
  unfold TrackedLoop.follow
  rcases slot with empty | same
  · rw [empty]
    exact owned.empty empty
  · split
    · next empty => exact owned.empty (List.isEmpty_iff.mp empty)
    · exact owned.keep (List.Sublist.refl _)
        (same.apps.trans owned.aligned) same.source same.fetchedAt

theorem Owned.policyTick (owned : loop.Owned) (pass : PolicyPass) :
    (loop.policyTick pass).Owned := by
  unfold TrackedLoop.policyTick
  simp only
  split
  · exact owned.limitArm pass (selects_selecting pass.tick pass.view loop.state
      pass.balancer pass.outcomes)
  · next noLimit =>
    exact owned.follow (slot_handled (Bool.eq_false_iff.mpr noLimit))

theorem Owned.maybeTriggerPrefetch (owned : loop.Owned) (tick : PolicyTick) :
    (loop.maybeTriggerPrefetch tick).Owned := by
  unfold TrackedLoop.maybeTriggerPrefetch
  split
  · exact owned.dropTopBatch
  · exact owned

/-- A pass keeps the slot in order, wherever an exception leaves it. -/
theorem Owned.step (owned : loop.Owned) (pass : PolicyPass) :
    (loop.step pass).Owned := by
  have after : (if pass.quiet then
        if pass.tick.launchPending then loop.reset else loop
      else if pass.due then
        (loop.maybeTriggerPrefetch pass.tick).policyTick pass
      else loop).Owned := by
    split
    · split
      · exact owned.reset
      · exact owned
    split
    · exact (owned.maybeTriggerPrefetch pass.tick).policyTick pass
    · exact owned
  unfold TrackedLoop.step
  split
  · exact owned.reset
  · simp only
    split
    · exact after.reset
    · exact after

theorem owned_run (interval : ℚ) (passes : List PolicyPass) :
    (Runs.run TrackedLoop.step (fresh interval) passes).Owned :=
  Runs.invariant_run Owned (fun _ pass owned _ => owned.step pass)
    (owned_fresh interval)
    (Runs.everyStep_of_forall (fun _ _ => trivial) _ _)

/-- In every run each candidate acted on comes from a batch that was resolved
for its channel and held for at most `TOP_BATCH_TTL`, is not excluded at that
time, and is acted on once. -/
theorem acts_on_own_batches (interval : ℚ) (passes : List PolicyPass) :
    let loop := Runs.run TrackedLoop.step (fresh interval) passes
    (∀ action ∈ loop.actions, action.Rightful loop.batches) ∧
      (loop.actions.map (·.ticket)).Nodup := by
  have owned := owned_run interval passes
  exact ⟨owned.rightful, owned.book.spentOnce⟩

/-- A critical pass over a batch of two apps. -/
def criticalPass (raises : Option LoopStage) : PolicyPass where
  quiet := false
  due := true
  tick := { criticalTick with
    resolvedApps := ["a", "b"].map fun name =>
      { recordId := some name, cgroup := some ("/user/" ++ name) } }
  balancer := .initial
  view := ⟨[], fun _ => {}, none, fun _ => {}, fun _ => .unknown, fun _ => {},
    true, false⟩
  outcomes := .accepting [] 2
  raises := raises

-- The second candidate goes with the batch that the exception drops.
example : (Runs.run TrackedLoop.step (fresh 1)
    [criticalPass none, criticalPass none,
      criticalPass (some .acting), criticalPass none]).actions.map (·.ticket) =
    [⟨0, 0⟩, ⟨0, 1⟩, ⟨1, 0⟩, ⟨2, 0⟩] := by
  decide +kernel

end TrackedLoop

end SmarTune
