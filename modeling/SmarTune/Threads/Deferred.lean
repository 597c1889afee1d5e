import SmarTune.Threads.Agreement

/-!
# Deferred disk caps

A request that caps memory holds its disk cap back until the reclaim is done.
No lock is held meanwhile: the entry is looked up again by its key.  While the
cap is then written `operation_lock` keeps other limits out, but not a restore,
the reaper or the sweep.
-/

namespace SmarTune

/-- The parts of an operation that run under `operation_lock`. -/
def Phase.holds : Phase → Bool
  | .writing _ next => next.holds
  | .limitCheck _ => true
  | .limitCpuMem .. => true
  | .limitIo .. => true
  | .limitRegister .. => true
  | .deferredLookup .. => true
  | .deferredRecord .. => true
  | .applyCheck _ => true
  | .applyYield _ => true
  | .applyYielded .. => true
  | .applyLimit _ => true
  | .applyRecord _ => true
  | _ => false

/-- The deferred disk cap a thread is yet to look up. -/
def Phase.awaits : Phase → Option (LimitCall × DeferredIo)
  | .writing _ next => next.awaits
  | .leave next => next.awaits
  | .deferredEnter call item => some (call, item)
  | .deferredLookup call item => some (call, item)
  | _ => none

/-- The deferred disk cap a thread is writing or recording. -/
def Phase.defers : Phase → Option (LimitCall × DeferredIo × Bool)
  | .writing _ next => next.defers
  | .deferredRecord call item accepted => some (call, item, accepted)
  | _ => none

/-- The lock is released where an operation leaves, and an install defers a
disk cap of its own primary cgroup only, and only when it stores an entry. -/
def Phase.Orderly : Phase → Prop
  | .writing _ next => next.Orderly
  | .leave next => next.holds = false ∧ next.Orderly
  | .limitRegister _ plan _ limitParts deferred =>
    ∀ item, deferred = some item →
      item.key = plan.primary ∧ limitParts.any = true
  | _ => True

/-- The primary cgroup's verdict is honest: when it is refused no write of the
deferred cap lands. -/
def DeferredIo.Honest (item : DeferredIo) (late : Nat → IoCallOutcome) : Prop :=
  (Balancer.deferredIoCall item late).1 = true ∨
    ∀ cap, ¬ Lands (Balancer.deferredIoCall item late).2 cap

section Phases

variable {phase : Phase}

/-- A deferred cap is written under `operation_lock`. -/
theorem holds_of_defers {deferral : LimitCall × DeferredIo × Bool}
    (defers : phase.defers = some deferral) :
    phase.holds = true := by
  induction phase with
  | writing writes next ih => exact ih defers
  | deferredRecord call item accepted => rfl
  | _ => cases defers

theorem awaits_afterInstall {call other : LimitCall}
    {deferred : Option DeferredIo} {item : DeferredIo}
    (awaits : (Turn.afterInstall call deferred).awaits = some (other, item)) :
    deferred = some item ∧ other = call := by
  cases deferred with
  | none => cases awaits
  | some held =>
    obtain ⟨rfl, rfl⟩ := Prod.mk.inj (Option.some.inj awaits)
    exact ⟨rfl, rfl⟩

theorem afterInstall_quiet (call : LimitCall) (deferred : Option DeferredIo) :
    (Turn.afterInstall call deferred).holds = false ∧
      (Turn.afterInstall call deferred).Orderly := by
  cases deferred <;> exact ⟨rfl, trivial⟩

/-- A plan defers a disk cap of its primary cgroup when its CPU/memory cap was
accepted. -/
theorem InstallPlan.deferred_eq_some {plan : InstallPlan}
    {request : LimitRequest} {isRunning resourceLimited : Bool}
    {item : DeferredIo}
    (deferred : plan.deferred request isRunning resourceLimited = some item) :
    item.key = plan.primary ∧ resourceLimited = true := by
  unfold InstallPlan.deferred at deferred
  split at deferred
  · cases deferred
  · split at deferred
    · next defers =>
      obtain rfl := Option.some.inj deferred
      simp only [defersIo, Bool.and_eq_true] at defers
      exact ⟨rfl, defers.1.2⟩
    · cases deferred

end Phases

/-! ## One step -/

namespace Turn

/-- The next step stores an entry under the key. -/
def Stores (turn : Turn) (key : CgroupId) : Prop :=
  match turn.phase with
  | .limitRegister _ plan _ limitParts _ =>
    turn.registryLock = none ∧ limitParts.any = true ∧ key = plan.primary
  | .applyRecord call => key = call.appId
  | _ => False

/-- The next step forgets the entry under the key without `operation_lock`. -/
def Forgets (turn : Turn) (key : CgroupId) : Prop :=
  match turn.phase with
  | .restorePop appId _ =>
    turn.registryLock = none ∧ ∃ entry,
      turn.balancer.allLimits.byPublicId appId .manual = some (key, entry)
  | .reapPop closed _ => turn.registryLock = none ∧ closed key = true
  | .sweep (next :: _) _ => key = next
  | _ => False

/-- The next step looks a deferred cap up and would write it. -/
def StartsDeferred (turn : Turn) (call : LimitCall) (item : DeferredIo) :
    Prop :=
  turn.phase = .deferredLookup call item ∧ turn.registryLock = none ∧
    turn.balancer.allLimits.apps.get? item.key ≠ none

/-- What is known of a thread and its deferred cap. -/
structure Deferral (turn : Turn) (thread : ThreadId) : Prop where
  orderly : turn.phase.Orderly
  locked : turn.phase.holds = true → turn.operationLock = some thread
  /-- While the cap waits nobody else stores under its key. -/
  awaiting : ∀ call item, turn.phase.awaits = some (call, item) →
    ∀ entry, turn.balancer.allLimits.apps.get? item.key = some entry →
      turn.creator item.key = some call.ticket
  /-- While it is written the entry stays. -/
  deferring : ∀ call item accepted,
    turn.phase.defers = some (call, item, accepted) →
    turn.balancer.allLimits.apps.get? item.key ≠ none ∧
      turn.creator item.key = some call.ticket ∧
      accepted = (Balancer.deferredIoCall item call.late).1 ∧
      item.Honest call.late

section Step

variable {thread : ThreadId} {turn after : Turn}

/-- A change under one key leaves the others alone. -/
theorem kept_of_ne {key other : CgroupId} {left : Option LimitedApp}
    {creator : Option Nat}
    (stores : ∀ other, after.balancer.allLimits.apps.get? other =
      if other = key then left
      else turn.balancer.allLimits.apps.get? other)
    (creates : after.creator = Function.update turn.creator key creator)
    (different : other ≠ key) :
    (after.balancer.allLimits.apps.get? other).isSome =
        (turn.balancer.allLimits.apps.get? other).isSome ∧
      after.creator other = turn.creator other := by
  rw [stores, if_neg different, creates, Function.update_of_ne different]
  exact ⟨rfl, rfl⟩

/-- A step stores under a key, forgets it, or leaves presence and creator of
its entry alone. -/
theorem stepped_key (stepped : Stepped thread turn after) (key : CgroupId) :
    turn.Stores key ∨ ((turn.Forgets key ∨ turn.phase.holds = true) ∧
        after.balancer.allLimits.apps.get? key = none) ∨
      ((after.balancer.allLimits.apps.get? key).isSome =
        (turn.balancer.allLimits.apps.get? key).isSome ∧
        after.creator key = turn.creator key) := by
  unfold Stores Forgets
  cases stepped with
  | @registers call plan attempted limitParts deferred here free landed =>
    rw [here, limitRegister, if_pos landed]
    by_cases same : key = plan.primary
    · exact Or.inl ⟨free, landed, same⟩
    · exact Or.inr (Or.inr (kept_of_ne
        (fun other => Balancer.registerManual_get? ..) rfl same))
  | @records call item accepted entry here free stored =>
    rw [deferredRecord_of_stored stored]
    refine Or.inr (Or.inr ⟨?_, rfl⟩)
    rw [Balancer.recordDeferredIo_get? _ stored]
    by_cases same : key = item.key
    · simp [same, stored]
    · simp [same]
  | @restores appId outcomes popped entry here free found =>
    rw [here, restorePop_of_found found]
    by_cases same : key = popped
    · subst same
      refine Or.inr (Or.inl ⟨Or.inl ⟨free, entry, found⟩, ?_⟩)
      simp
    · exact Or.inr (Or.inr (kept_of_ne
        (fun other => Balancer.popManual_get? ..) rfl same))
  | @reaps closed outcomes here free =>
    rw [here]
    cases isClosed : closed key with
    | true =>
      refine Or.inr (Or.inl ⟨Or.inl ⟨free, isClosed⟩, ?_⟩)
      simp [reapPop, isClosed]
    | false => exact Or.inr (Or.inr (by simp [reapPop, isClosed]))
  | @yielded call yielding left here =>
    cases left with
    | none =>
      by_cases same : key = yielding
      · subst same
        refine Or.inr (Or.inl ⟨Or.inr (by rw [here]; rfl), ?_⟩)
        simp [applyYielded]
      · exact Or.inr (Or.inr (kept_of_ne
          (fun other => Balancer.popEntry_get? ..) rfl same))
    | some remaining =>
      refine Or.inr (Or.inr ⟨?_, rfl⟩)
      rw [applyYielded_get?]
      by_cases same : key = yielding
      · simp [same]
      · simp [same]
  | @upserts call here =>
    rw [here]
    by_cases same : key = call.appId
    · exact Or.inl same
    · exact Or.inr (Or.inr (kept_of_ne
        (fun other => Balancer.upsertAutoLimited_get? ..) rfl same))
  | @sweeps next keys outcomes here =>
    rw [here]
    by_cases same : key = next
    · subst same
      exact Or.inr (Or.inl ⟨Or.inl rfl, by simp [sweep]⟩)
    · exact Or.inr (Or.inr (kept_of_ne
        (fun other => Balancer.popSwept_get? ..) rfl same))
  | _ => exact Or.inr (Or.inr ⟨rfl, rfl⟩)

/-- Nobody else takes or releases a lock a thread holds. -/
theorem stepped_lock (stepped : Stepped thread turn after) {other : ThreadId}
    (different : other ≠ thread) (held : turn.operationLock = some other) :
    after.operationLock = some other := by
  cases stepped with
  | enters enters free =>
    rw [free] at held
    cases held
  | finishes here => simpa [finish, held] using different
  | registers here free landed =>
    rw [limitRegister, if_pos landed]
    exact held
  | records here free stored =>
    rw [deferredRecord_of_stored stored]
    exact held
  | restores here free found =>
    rw [restorePop_of_found found]
    exact held
  | @yielded call key left here =>
    rw [(applyYielded_locks _ _ _).1]
    exact held
  | _ => exact held

/-- A phase without a deferred cap. -/
theorem deferral_plain (orderly : after.phase.Orderly)
    (locked : after.phase.holds = true → after.operationLock = some thread)
    (nothing : after.phase.awaits = none) (quiet : after.phase.defers = none) :
    after.Deferral thread :=
  ⟨orderly, locked, by simp [nothing], by simp [quiet]⟩

/-- The end of an operation. -/
theorem deferral_leaves (leaves : after.phase = .leave .idle) :
    after.Deferral thread := by
  refine deferral_plain ?_ ?_ ?_ ?_ <;> rw [leaves]
  · exact ⟨rfl, trivial⟩
  · intro holds
    cases holds
  · rfl
  · rfl

theorem deferral_of_follows {next : Phase} (deferral : turn.Deferral thread)
    (follows : turn.Follows next)
    (honest : ∀ call item, turn.StartsDeferred call item →
      item.Honest call.late) :
    (turn.goto next).Deferral thread := by
  obtain ⟨orderly, locked, awaiting, deferring⟩ := deferral
  cases follows with
  | written here =>
    rw [here] at orderly locked awaiting deferring
    exact ⟨orderly, locked, awaiting, deferring⟩
  | limitIo here =>
    rw [here] at locked
    refine deferral_plain ?_ (fun _ => locked rfl) rfl rfl
    intro item deferred
    have own := InstallPlan.deferred_eq_some deferred
    exact ⟨own.1, by simp [LimitParts.any, own.2]⟩
  | @limitFailed call plan attempted limitParts deferred here failed =>
    rw [here] at orderly
    cases deferred with
    | none => exact deferral_leaves rfl
    | some item =>
      have landed := (orderly item rfl).2
      rw [failed] at landed
      cases landed
  | @deferredFound call item entry here free stored =>
    have present : turn.balancer.allLimits.apps.get? item.key ≠ none := by
      simp [stored]
    refine ⟨trivial, fun _ => locked (by rw [here]; rfl), ?_, ?_⟩
    · intro other held awaits
      cases awaits
    · intro other held accepted defers
      obtain ⟨rfl, rfl, rfl⟩ : call = other ∧ item = held ∧
          (Balancer.deferredIoCall item call.late).1 = accepted := by
        simpa [goto, Phase.defers] using defers
      exact ⟨present, awaiting call item (by rw [here]; rfl) entry stored,
        rfl, honest call item ⟨here, free, present⟩⟩
  | yielding here yields =>
    rw [here] at locked
    refine deferral_plain ?_ (fun _ => locked rfl) ?_ ?_ <;>
      simp [applyYield, yields, goto, Phase.Orderly, Phase.awaits, Phase.defers]
  | applyLimit here =>
    rw [here] at locked
    refine deferral_plain ?_ (fun _ => locked rfl) ?_ ?_ <;>
      simp only [Turn.applyLimit, goto] <;> split <;>
      simp [Phase.Orderly, Phase.awaits, Phase.defers, Phase.holds]
  | limitRefused here => exact deferral_leaves rfl
  | deferredDropped here => exact deferral_leaves rfl
  | deferredGone here absent => exact deferral_leaves rfl
  | nothingToRestore here => exact deferral_leaves rfl
  | applyRefused here => exact deferral_leaves rfl
  | stopped here => exact deferral_leaves rfl
  | _ =>
    refine deferral_plain trivial (fun _ => locked ?_) rfl rfl
    simp [*, Phase.holds]

theorem Deferral.step (deferral : turn.Deferral thread)
    (stepped : Stepped thread turn after)
    (honest : ∀ call item, turn.StartsDeferred call item →
      item.Honest call.late) :
    after.Deferral thread := by
  have kept := deferral
  obtain ⟨orderly, locked, awaiting, deferring⟩ := kept
  cases stepped with
  | waits => exact deferral
  | goes follows => exact deferral_of_follows deferral follows honest
  | enters enters free =>
    cases enters with
    | limit here => exact deferral_plain trivial (fun _ => rfl) rfl rfl
    | deferred here =>
      rw [here] at awaiting
      exact ⟨trivial, fun _ => rfl, awaiting, by simp [Phase.defers]⟩
    | apply here => exact deferral_plain trivial (fun _ => rfl) rfl rfl
  | writes here =>
    rw [here] at orderly locked awaiting deferring
    exact ⟨orderly, locked, awaiting, deferring⟩
  | finishes here =>
    rw [here] at orderly awaiting
    refine ⟨orderly.2, ?_, awaiting, ?_⟩
    · intro holds
      cases orderly.1.symm.trans holds
    · intro call item accepted defers
      cases orderly.1.symm.trans (holds_of_defers defers)
  | @registers call plan attempted limitParts deferred here free landed =>
    rw [here] at orderly
    rw [limitRegister, if_pos landed]
    refine ⟨afterInstall_quiet call deferred, by simp [Phase.holds], ?_,
      by simp [Phase.defers]⟩
    intro other item awaits entry stored
    obtain ⟨rfl, rfl⟩ := awaits_afterInstall awaits
    simp [(orderly item rfl).1]
  | records here free stored =>
    rw [deferredRecord_of_stored stored]
    exact deferral_leaves rfl
  | restores here free found =>
    rw [restorePop_of_found found]
    exact deferral_plain ⟨rfl, trivial⟩ (by simp [Phase.holds]) rfl rfl
  | reaps here free =>
    exact deferral_plain ⟨rfl, trivial⟩ (by simp [reapPop, Phase.holds]) rfl rfl
  | @yielded call key left here =>
    rw [here] at locked
    have held := (applyYielded_locks call key left).1.trans (locked rfl)
    cases left with
    | none => exact deferral_plain trivial (fun _ => held) rfl rfl
    | some remaining =>
      refine deferral_plain ?_ (fun _ => held) ?_ ?_ <;>
        simp only [applyYielded] <;> split <;>
        simp [Phase.Orderly, Phase.awaits, Phase.defers, Phase.holds]
  | upserts here => exact deferral_leaves rfl
  | stops here running =>
    exact deferral_plain trivial (by simp [Phase.holds]) rfl rfl
  | locks here free =>
    exact deferral_plain trivial (by simp [sweepEnter, Phase.holds]) rfl rfl
  | swept here => exact deferral_leaves rfl
  | @sweeps key keys outcomes here =>
    cases stored : turn.balancer.allLimits.apps.get? key <;>
      exact deferral_plain (by simp [sweep, stored, Phase.Orderly])
        (by simp [sweep, stored, Phase.holds])
        (by simp [sweep, stored, Phase.awaits])
        (by simp [sweep, stored, Phase.defers])

/-- Entries are stored under `operation_lock`. -/
theorem holds_of_stores {key : CgroupId} (stores : turn.Stores key) :
    turn.phase.holds = true := by
  unfold Stores at stores
  split at stores
  · next here => rw [here]; rfl
  · next here => rw [here]; rfl
  · cases stores

/-- A step of another thread, which neither stores under the key of a waiting
cap nor forgets the entry of one being written. -/
theorem Deferral.step_other {other : ThreadId} {phase : Phase}
    {unrecorded : List KernelWrite}
    (deferral : ({ turn with phase, unrecorded } : Turn).Deferral other)
    (different : other ≠ thread)
    (locked : turn.phase.holds = true → turn.operationLock = some thread)
    (stepped : Stepped thread turn after)
    (stores : ∀ key, turn.Stores key → ∀ call item,
      phase.awaits = some (call, item) → item.key ≠ key)
    (forgets : ∀ key, turn.Forgets key → ∀ call item accepted,
      phase.defers = some (call, item, accepted) → item.key ≠ key) :
    ({ after with phase, unrecorded } : Turn).Deferral other where
  orderly := deferral.orderly
  locked := fun holds => stepped_lock stepped different (deferral.locked holds)
  awaiting := by
    intro call item awaits entry stored
    rcases stepped_key stepped item.key with stored' | ⟨_, gone⟩ | ⟨some, same⟩
    · exact absurd rfl (stores _ stored' call item awaits)
    · rw [gone] at stored
      cases stored
    · simp only at stored
      rw [stored, Option.isSome_some] at some
      obtain ⟨old, storedBefore⟩ := Option.isSome_iff_exists.mp some.symm
      exact same.trans (deferral.awaiting call item awaits old storedBefore)
  deferring := by
    intro call item accepted defers
    have mine := deferral.deferring call item accepted defers
    have exclusive : turn.phase.holds ≠ true := by
      intro holds
      have held := deferral.locked (holds_of_defers defers)
      simp only [locked holds, Option.some.injEq] at held
      exact different held.symm
    rcases stepped_key stepped item.key with
      stored | ⟨forgotten | holds, _⟩ | ⟨some, same⟩
    · exact absurd (holds_of_stores stored) exclusive
    · exact absurd rfl (forgets _ forgotten call item accepted defers)
    · exact absurd holds exclusive
    · refine ⟨?_, same.trans mine.2.1, mine.2.2⟩
      have present := mine.1
      rw [← Option.isSome_iff_ne_none] at present ⊢
      exact some.trans present

end Step

end Turn

/-! ## Runs -/

namespace Service

/-- Deferred disk caps follow their request. -/
structure DeferredFollows (service : Service) : Prop where
  /-- While a deferred cap is written and recorded the entry under its key is
  the one its request stored. -/
  own : ∀ thread call item accepted,
    (service.phase thread).defers = some (call, item, accepted) →
    service.balancer.allLimits.apps.get? item.key ≠ none ∧
      service.creator item.key = some call.ticket
  /-- A cap that landed is recorded in the entry then under its key. -/
  recorded : ∀ thread call item accepted cap,
    service.phase thread = .deferredRecord call item accepted →
    service.registryLock = none →
    Lands (Balancer.deferredIoCall item call.late).2 cap →
    ∃ entry,
      (service.step (.advance thread)).balancer.allLimits.apps.get? item.key =
        some entry ∧ entry.limitParts.ioLimited = true

/-- The condition on a move: no entry is stored under the key of a cap that
waits in another thread, none is forgotten under the key of a cap another
thread is writing, and the verdict of a cap about to be written is honest. -/
def KeepsDeferred (service : Service) : Move → Prop
  | .start _ _ => True
  | .advance thread =>
    (∀ key, (service.turn thread).Stores key → ∀ other, other ≠ thread →
      ∀ call item, (service.phase other).awaits = some (call, item) →
        item.key ≠ key) ∧
    (∀ key, (service.turn thread).Forgets key → ∀ other, other ≠ thread →
      ∀ call item accepted,
        (service.phase other).defers = some (call, item, accepted) →
        item.key ≠ key) ∧
    ∀ call item, (service.turn thread).StartsDeferred call item →
      item.Honest call.late

/-- What is known of the threads and their deferred caps. -/
def Deferrals (service : Service) : Prop :=
  ∀ thread, (service.turn thread).Deferral thread

theorem deferrals_ofBalancer (balancer : Balancer) :
    (ofBalancer balancer).Deferrals :=
  fun _ => Turn.deferral_plain trivial (by simp [Service.turn, ofBalancer,
    Phase.holds]) rfl rfl

theorem first_plain (operation : Operation) (ticket : Nat) :
    (operation.first ticket).Orderly ∧ (operation.first ticket).holds = false ∧
      (operation.first ticket).awaits = none ∧
      (operation.first ticket).defers = none := by
  cases operation <;> exact ⟨trivial, rfl, rfl, rfl⟩

theorem Deferrals.step {service : Service} (deferrals : service.Deferrals)
    (move : Move) (keeps : service.KeepsDeferred move) :
    (service.step move).Deferrals := by
  intro other
  cases move with
  | start thread operation =>
    simp only [Service.step]
    rcases start_cases operation with same | ⟨_, _, started⟩
    · rw [same]
      exact deferrals other
    · rw [started]
      by_cases same : other = thread
      · subst same
        have plain := first_plain operation service.nextTicket
        refine Turn.deferral_plain ?_ ?_ ?_ ?_ <;>
          simp only [Service.turn, Function.update_self]
        · exact plain.1
        · simp [plain.2.1]
        · exact plain.2.2.1
        · exact plain.2.2.2
      · have kept := deferrals other
        simpa [Service.turn, same] using kept
  | advance thread =>
    have stepped := Turn.stepped_step (service.turn thread) thread
    simp only [Service.step]
    by_cases same : other = thread
    · rw [same, turn_put_self]
      exact (deferrals thread).step stepped keeps.2.2
    · have kept := @Turn.Deferral.step_other thread (service.turn thread) _
        other (service.phase other) (service.unrecorded other)
        (deferrals other) same (deferrals thread).locked stepped
        (fun key stores => keeps.1 key stores other same)
        (fun key forgets => keeps.2.1 key forgets other same)
      simpa [Service.turn, put, same] using kept

/-- Threads whose deferred caps are in order follow their requests. -/
theorem Deferrals.follows {service : Service} (deferrals : service.Deferrals) :
    service.DeferredFollows where
  own := fun thread call item accepted defers =>
    have deferring := (deferrals thread).deferring call item accepted defers
    ⟨deferring.1, deferring.2.1⟩
  recorded := by
    intro thread call item accepted cap here free lands
    obtain ⟨present, _, verdict, honest⟩ :=
      (deferrals thread).deferring call item accepted (by
        simp [Service.turn, here, Phase.defers])
    obtain ⟨entry, stored⟩ := Option.ne_none_iff_exists'.mp present
    refine ⟨Balancer.deferredEntry entry accepted, ?_, ?_⟩
    · have stepped : (service.turn thread).step thread =
          (service.turn thread).deferredRecord item accepted := by
        simp [Turn.step, Turn.underRegistryLock, Service.turn, here, free]
      rw [Service.step, stepped, Turn.deferredRecord_of_stored stored]
      exact (Balancer.recordDeferredIo_get? _ stored _ _).trans (if_pos rfl)
    · exact verdict.trans (honest.resolve_right fun none => none cap lands)

/-- In every interleaving whose moves all meet the condition deferred disk caps
follow their requests. -/
theorem deferred_follows {balancer : Balancer} {moves : List Move}
    (keeping : Runs.EveryStep step KeepsDeferred (ofBalancer balancer) moves) :
    (Runs.run step (ofBalancer balancer) moves).DeferredFollows :=
  Deferrals.follows (Runs.invariant_run Deferrals
      (fun _ move before keeps => before.step move keeps)
      (deferrals_ofBalancer balancer) keeping)

/-- A policy that halves the memory and caps the disk. -/
def memoryAndDiskPolicy : LimitPolicy where
  cpu := ⟨false, fun _ => none⟩
  memory := ⟨true, fun _ => some (1 / 2)⟩
  diskIo := ⟨true, fun _ => some ⟨some 10, some 10, some 100, some 100⟩⟩

/-- An app that uses memory and disk in one cgroup, every write accepted. -/
def busyInMemory : InstallOutcomes where
  policy := some memoryAndDiskPolicy
  usage := some
    { cgroupPaths := ["/app.slice/one.scope"]
      pids := [(100, "one.scope")]
      cpuPercent := 0
      memCurrent := 100
      memSwapCurrent := 0
      ioReadMb := 100
      ioWriteMb := 0
      ioReadIops := 0
      ioWriteIops := 0
      perCgroupMem := []
      perCgroupCpuDelta := [] }
  adjust := fun _ => .accepting
  io := fun _ => .accepting [("sda", "8:0")]
  now := 0

/-- The app's memory is limited and its disk cap deferred. -/
def limitMemory : Operation :=
  .limit ⟨"app", "App", some "low", none, []⟩ busyInMemory
    fun _ => .accepting [("sda", "8:0")]

/-- While the first request reclaims, the app is restored and its CPU limited
anew; then the deferred cap of the first request is looked up. -/
def limitDuringReclaim : List Move :=
  runs (.rest 0) limitMemory 9 ++ runs (.rest 1) restoreApp 5 ++
    runs (.rest 1) limitApp 10 ++ List.replicate 2 (.advance (.rest 0))

/-- The first request is about to cap the disk of the second one's limit, which
asked for no disk cap. -/
theorem deferred_cap_lands_on_newer_request :
    ¬ (Runs.run step (ofBalancer .initial)
      limitDuringReclaim).DeferredFollows := by
  intro follows
  have foreign : ((Runs.run step (ofBalancer .initial)
      limitDuringReclaim).phase (.rest 0)).defers.any (fun deferral =>
        decide ((Runs.run step (ofBalancer .initial)
          limitDuringReclaim).creator deferral.2.1.key ≠
            some deferral.1.ticket)) = true := by decide +kernel
  obtain ⟨⟨call, item, accepted⟩, defers, different⟩ :=
    (Option.any_eq_true _ _).mp foreign
  rw [decide_eq_true_iff] at different
  exact different (follows.own _ _ _ _ defers).2

/-- The verdict of the deferred cap a thread looks up next is that of an
accepted primary. -/
def AcceptsDeferred (service : Service) : Move → Bool
  | .start _ _ => true
  | .advance thread =>
    match service.phase thread with
    | .deferredLookup call item => (Balancer.deferredIoCall item call.late).1
    | _ => true

theorem keepsDeferred_of_alone {thread : ThreadId} {moves : List Move}
    {service : Service}
    (alone : ∀ other, other ≠ thread → service.phase other = .idle)
    (only : ∀ move ∈ moves, move.thread = thread)
    (accepts : Runs.EveryStep step
      (fun service move => service.AcceptsDeferred move = true)
      service moves) :
    Runs.EveryStep step KeepsDeferred service moves := by
  induction moves generalizing service with
  | nil => trivial
  | cons move moves ih =>
    have mine := only move List.mem_cons_self
    refine ⟨?_, ih ?_
      (fun later member => only later (List.mem_cons_of_mem _ member))
      accepts.2⟩
    · cases move with
      | start _ _ => trivial
      | advance mover =>
        obtain rfl : mover = thread := mine
        refine ⟨?_, ?_, ?_⟩
        · intro key _ other different call item awaits
          rw [alone other different] at awaits
          cases awaits
        · intro key _ other different call item accepted defers
          rw [alone other different] at defers
          cases defers
        · rintro call item ⟨here, _, _⟩
          have accepted := accepts.1
          have phase : service.phase mover = .deferredLookup call item :=
            here
          simp only [AcceptsDeferred, phase] at accepted
          exact Or.inl accepted
    · intro other different
      rw [phase_step_of_ne move (mine ▸ different)]
      exact alone other different

/-- The memory limit alone, up to the moment its disk cap is to be recorded. -/
theorem deferred_follows_alone :
    (Runs.run step (ofBalancer .initial)
      (runs (.rest 0) limitMemory 13)).DeferredFollows :=
  deferred_follows (@keepsDeferred_of_alone (.rest 0) _ _ (fun _ _ => rfl)
    (by decide +kernel) (by decide +kernel))

end Service

end SmarTune
