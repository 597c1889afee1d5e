import SmarTune.Library.Runs
import SmarTune.Balancer.Books
import SmarTune.Threads.Steps

/-!
# Caps in flight

Between two operations every cap in force is answered for by an entry.  In the
middle of one a cap may also be owed by its thread: written but not recorded
yet, or forgotten but about to be lifted.  A step whose bookkeeping settles what
it touches keeps every cap in force answered for or owed.
-/

namespace SmarTune

/-! ## What a step has to settle -/

namespace Turn

section Conditions

variable (answers : CgroupId → LimitedApp → Cap → Prop) (turn : Turn)

/-- The caps a thread owes: landed and not recorded, or about to be lifted. -/
def owes : Set Cap :=
  {cap | Lands turn.unrecorded cap ∨ Clears turn.phase.pending cap}

/-- What the entry under a key answers for and is in force is answered for by
the entry left there or by another one, or lifted by the writes that follow. -/
def KeepsClaims (key : CgroupId) (left : Option LimitedApp)
    (writes : List KernelWrite) : Prop :=
  ∀ cap, turn.balancer.kernel.InForce cap →
    ∀ entry, turn.balancer.allLimits.apps.get? key = some entry →
      answers key entry cap →
      (∃ remaining, left = some remaining ∧ answers key remaining cap) ∨
        (turn.balancer.keyedBooks answers).Elsewhere key cap ∨
        Clears writes cap

/-- What the operation has landed and is in force is answered for by the entry
it stores or by another one. -/
def RecordsLanded (key : CgroupId) (entry : LimitedApp) : Prop :=
  ∀ cap, turn.balancer.kernel.InForce cap → Lands turn.unrecorded cap →
    answers key entry cap ∨ (turn.balancer.keyedBooks answers).Elsewhere key cap

/-- The two conditions on a stored entry. -/
def Records (key : CgroupId) (entry : LimitedApp) : Prop :=
  turn.KeepsClaims answers key (some entry) [] ∧
    turn.RecordsLanded answers key entry

/-- What the entries the reaper forgets answer for and is in force is answered
for by an entry it keeps, or lifted by its writes. -/
def KeepsClaimsOfClosed (closed : CgroupId → Bool)
    (writes : List KernelWrite) : Prop :=
  ∀ cap, turn.balancer.kernel.InForce cap →
    ∀ key entry, turn.balancer.allLimits.apps.get? key = some entry →
      closed key = true → answers key entry cap →
      (∃ other kept, turn.balancer.allLimits.apps.get? other = some kept ∧
        closed other = false ∧ answers other kept cap) ∨ Clears writes cap

/-- The next step settles what it touches; a step that waits for the registry
lock touches nothing. -/
def Settles : Prop :=
  match turn.phase with
  | .leave _ => ∀ cap, turn.balancer.kernel.InForce cap →
      Lands turn.unrecorded cap → (turn.balancer.keyedBooks answers).Claimed cap
  | .limitRegister call plan _ limitParts _ =>
    turn.registryLock = none → limitParts.any = true →
      turn.Records answers plan.primary
        (plan.entry call.request limitParts call.outcomes.now)
  | .deferredRecord _ item accepted =>
    turn.registryLock = none →
      ∀ entry, turn.balancer.allLimits.apps.get? item.key = some entry →
        turn.Records answers item.key (Balancer.deferredEntry entry accepted)
  | .restorePop appId outcomes =>
    turn.registryLock = none →
      ∀ key entry, turn.balancer.allLimits.byPublicId appId .manual =
          some (key, entry) →
        turn.KeepsClaims answers key none
          ((Balancer.manualRestoreCpuMem key entry outcomes).2 ++
            (Balancer.manualRestoreIo key entry outcomes).2 ++
            (Balancer.manualRestoreThaw key entry outcomes).2)
  | .reapPop closed outcomes =>
    turn.registryLock = none → turn.KeepsClaimsOfClosed answers closed
      ((turn.balancer.popAllClosed closed).1.flatMap fun app =>
        Balancer.restoreEntryWrites app.2 (outcomes app.1))
  | .applyYielded _ key left => turn.KeepsClaims answers key left []
  | .applyRecord call =>
    turn.Records answers call.appId (turn.balancer.upsertedEntry call.appId
      (Balancer.autoLimitOf call.target call.appId call.limitRates
        call.isControlled call.isDiskIoStressed call.pressureLevel
        call.outcomes)
      call.outcomes.now)
  | .sweep (key :: _) outcomes =>
    ∀ entry, turn.balancer.allLimits.apps.get? key = some entry →
      turn.KeepsClaims answers key none
        (Balancer.restoreEntryWrites entry (outcomes key))
  | _ => True

end Conditions

/-! ## The step lemma -/

section Step

variable {answers : CgroupId → LimitedApp → Cap → Prop} {turn after : Turn}

/-- A step accounts for the caps it touches. -/
def Accounts (answers : CgroupId → LimitedApp → Cap → Prop)
    (turn after : Turn) : Prop :=
  Ledger.Accounts (turn.balancer.keyedBooks answers)
    (after.balancer.keyedBooks answers) turn.owes after.owes

/-- A step that leaves kernel and registry alone and forgets no debt. -/
theorem accounts_of_same (kernel : after.balancer.kernel = turn.balancer.kernel)
    (apps : ∀ other, after.balancer.allLimits.apps.get? other =
      turn.balancer.allLimits.apps.get? other)
    (keeps : turn.owes ⊆ after.owes) :
    turn.Accounts answers after := by
  refine Ledger.accounts_of_same ?_ (Balancer.keyedClaims_congr apps) keeps
  simp only [Balancer.keyedBooks, kernel]

theorem accounts_refl : turn.Accounts answers turn :=
  accounts_of_same rfl (fun _ => rfl) subset_rfl

/-- A thread with nothing pending goes on without a write. -/
theorem accounts_of_phase (nothing : turn.phase.pending = [])
    (kernel : after.balancer.kernel = turn.balancer.kernel)
    (apps : after.balancer.allLimits.apps = turn.balancer.allLimits.apps)
    (unrecorded : after.unrecorded = turn.unrecorded) :
    turn.Accounts answers after := by
  refine accounts_of_same kernel (fun _ => by rw [apps]) ?_
  rintro cap (landed | cleared)
  · exact Or.inl (by rwa [unrecorded])
  · rw [nothing] at cleared
    exact absurd cleared (not_clears_nil cap)

variable {next : Phase} {key : CgroupId} {call : ApplyCall}

/-- A write is owed until it is recorded; a cap it lifts is owed no more. -/
theorem accounts_write {write : KernelWrite} {writes : List KernelWrite}
    (writing : turn.phase = .writing (write :: writes) next) :
    turn.Accounts answers (turn.write write writes next) := by
  intro cap inForce
  have books : (turn.write write writes next).balancer.keyedBooks answers =
      { turn.balancer.keyedBooks answers with
        force := {cap | (turn.balancer.kernel.write write).InForce cap} } := rfl
  rw [books] at inForce ⊢
  rcases (Kernel.inForce_write _ _ _).mp inForce with
    installs | ⟨old, notLifted⟩
  · refine Or.inr (Or.inl (Or.inl ⟨write, ?_, installs⟩))
    exact List.mem_append_right _ (List.mem_singleton_self write)
  · by_cases claimed : (turn.balancer.keyedBooks answers).Claimed cap
    · exact Or.inl claimed
    · by_cases owed : cap ∈ turn.owes
      · refine Or.inr (Or.inl ?_)
        rcases owed with ⟨landing, member, installs⟩ | ⟨lifting, member, lifts⟩
        · exact Or.inl ⟨landing, List.mem_append_left _ member, installs⟩
        · rw [writing] at member
          rcases List.mem_cons.mp member with rfl | later
          · exact absurd lifts notLifted
          · exact Or.inr ⟨lifting, later, lifts⟩
      · exact Or.inr (Or.inr ⟨old, claimed, owed⟩)

/-- Changing the entry under one key accounts when the claims of the old entry
and the debts the thread gives up are taken over. -/
theorem accounts_key {key : CgroupId} {left : Option LimitedApp}
    (nothing : turn.phase.pending = [])
    (kernel : after.balancer.kernel = turn.balancer.kernel)
    (stores : ∀ other, after.balancer.allLimits.apps.get? other =
      if other = key then left
      else turn.balancer.allLimits.apps.get? other)
    (keeps : turn.KeepsClaims answers key left after.phase.pending)
    (landed : ∀ cap, turn.balancer.kernel.InForce cap →
      Lands turn.unrecorded cap →
      (∃ remaining, left = some remaining ∧ answers key remaining cap) ∨
        (turn.balancer.keyedBooks answers).Elsewhere key cap ∨
        Lands after.unrecorded cap) :
    turn.Accounts answers after := by
  have reassigned : Ledger.Reassigns key (turn.balancer.keyedBooks answers)
      (after.balancer.keyedBooks answers) :=
    Balancer.keyedReassigns fun other different => by
      rw [stores, if_neg different]
  have claims : ∀ cap, cap ∈ (after.balancer.keyedBooks answers).claims key ↔
      ∃ remaining, left = some remaining ∧ answers key remaining cap := by
    intro cap
    rw [Balancer.mem_keyedClaims, stores, if_pos rfl]
  refine reassigned.accounts (by simp only [Balancer.keyedBooks, kernel]) ?_ ?_
  · intro cap inForce claimed
    obtain ⟨entry, stored, answered⟩ := claimed
    rw [claims]
    exact (keeps cap inForce entry stored answered).imp_right
      (Or.imp_right Or.inr)
  · intro cap inForce owed
    rw [claims]
    rcases owed with lands | clears
    · exact (landed cap inForce lands).imp_right (Or.imp_right Or.inl)
    · rw [nothing] at clears
      exact absurd clears (not_clears_nil cap)

/-- Ending an operation gives up its debts; what it landed must be answered
for. -/
theorem accounts_finish (nothing : turn.phase.pending = [])
    (recorded : ∀ cap, turn.balancer.kernel.InForce cap →
      Lands turn.unrecorded cap →
        (turn.balancer.keyedBooks answers).Claimed cap)
    (thread : ThreadId)
    (next : Phase) :
    turn.Accounts answers (turn.finish thread next) := by
  intro cap inForce
  by_cases claimed : (turn.balancer.keyedBooks answers).Claimed cap
  · exact Or.inl claimed
  · refine Or.inr (Or.inr ⟨inForce, claimed, ?_⟩)
    rintro (landed | cleared)
    · exact claimed (recorded cap inForce landed)
    · rw [nothing] at cleared
      exact not_clears_nil cap cleared

theorem accounts_reapPop {closed : CgroupId → Bool}
    {outcomes : CgroupId → Balancer.EntryOutcomes}
    (nothing : turn.phase.pending = [])
    (keeps : turn.KeepsClaimsOfClosed answers closed
      ((turn.balancer.popAllClosed closed).1.flatMap fun app =>
        Balancer.restoreEntryWrites app.2 (outcomes app.1))) :
    turn.Accounts answers (turn.reapPop closed outcomes) := by
  intro cap inForce
  have same : (turn.reapPop closed outcomes).balancer.kernel =
      turn.balancer.kernel := Balancer.popAllClosed_kernel _ _
  replace inForce : turn.balancer.kernel.InForce cap := same ▸ inForce
  have kept : ∀ key entry, turn.balancer.allLimits.apps.get? key = some entry →
      closed key = false → answers key entry cap →
      ((turn.reapPop closed outcomes).balancer.keyedBooks
        answers).Claimed cap := by
    intro key entry stored isOpen answered
    refine ⟨key, entry, ?_, answered⟩
    simp [reapPop, isOpen, stored]
  by_cases claimed : (turn.balancer.keyedBooks answers).Claimed cap
  · obtain ⟨key, entry, stored, answered⟩ := claimed
    cases isClosed : closed key with
    | false => exact Or.inl (kept key entry stored isClosed answered)
    | true =>
      rcases keeps cap inForce key entry stored isClosed answered with
        ⟨other, remaining, storedOther, isOpen, answersOther⟩ | clears
      · exact Or.inl (kept other remaining storedOther isOpen answersOther)
      · exact Or.inr (Or.inl (Or.inr clears))
  · by_cases owed : cap ∈ turn.owes
    · rcases owed with landed | cleared
      · exact Or.inr (Or.inl (Or.inl landed))
      · rw [nothing] at cleared
        exact absurd cleared (not_clears_nil cap)
    · exact Or.inr (Or.inr ⟨inForce, claimed, owed⟩)

theorem accounts_record {key : CgroupId} {entry : LimitedApp}
    (nothing : turn.phase.pending = [])
    (kernel : after.balancer.kernel = turn.balancer.kernel)
    (stores : ∀ other, after.balancer.allLimits.apps.get? other =
      if other = key then some entry
      else turn.balancer.allLimits.apps.get? other)
    (nothingAfter : after.phase.pending = [])
    (records : turn.Records answers key entry) :
    turn.Accounts answers after := by
  refine accounts_key nothing kernel stores ?_ ?_
  · rw [nothingAfter]
    exact records.1
  · intro cap inForce lands
    rcases records.2 cap inForce lands with answered | elsewhere
    · exact Or.inl ⟨entry, rfl, answered⟩
    · exact Or.inr (Or.inl elsewhere)

/-- Changing the entry under a key while what the operation landed stays owed. -/
theorem accounts_change {key : CgroupId} {left : Option LimitedApp}
    (nothing : turn.phase.pending = [])
    (kernel : after.balancer.kernel = turn.balancer.kernel)
    (stores : ∀ other, after.balancer.allLimits.apps.get? other =
      if other = key then left
      else turn.balancer.allLimits.apps.get? other)
    (unrecorded : after.unrecorded = turn.unrecorded)
    (keeps : turn.KeepsClaims answers key left after.phase.pending) :
    turn.Accounts answers after := by
  refine accounts_key nothing kernel stores keeps ?_
  intro cap _ lands
  rw [unrecorded]
  exact Or.inr (Or.inr lands)

/-- What a yielding disk cap leaves under its key. -/
theorem applyYielded_get? (remaining : LimitedApp) (other : CgroupId) :
    (turn.applyYielded call key
      (some remaining)).balancer.allLimits.apps.get? other =
      if other = key then
        (turn.balancer.allLimits.apps.get? key).map fun _ => remaining
      else turn.balancer.allLimits.apps.get? other := by
  rw [applyYielded, Balancer.moveToEnd_get?, Balancer.modifyEntry_get?]

/-- The registry part of a yielding disk cap. -/
theorem accounts_applyYielded {left : Option LimitedApp}
    (nothing : turn.phase.pending = [])
    (keeps : turn.KeepsClaims answers key left []) :
    turn.Accounts answers (turn.applyYielded call key left) := by
  cases left with
  | none =>
    exact accounts_change nothing rfl
      (fun other => Balancer.popEntry_get? ..) rfl keeps
  | some remaining =>
    refine accounts_change nothing (by simp [applyYielded])
      (applyYielded_get? remaining) rfl ?_
    intro cap inForce entry stored answered
    rcases keeps cap inForce entry stored answered with
      kept | elsewhere | clears
    · exact Or.inl (by simpa [stored] using kept)
    · exact Or.inr (Or.inl elsewhere)
    · exact absurd clears (not_clears_nil cap)

/-- Going on to another phase leaves no write behind. -/
theorem pending_of_follows (follows : turn.Follows next) :
    turn.phase.pending = [] := by
  cases follows <;> simp [*, Phase.pending]

theorem accounts_step {thread : ThreadId} (stepped : Stepped thread turn after)
    (settles : turn.Settles answers) :
    turn.Accounts answers after := by
  unfold Settles at settles
  cases stepped with
  | waits => exact accounts_refl
  | goes follows =>
    exact accounts_of_phase (pending_of_follows follows) rfl rfl rfl
  | enters enters free =>
    refine accounts_of_phase ?_ rfl rfl rfl
    cases enters <;> simp [*, Phase.pending]
  | writes here => exact accounts_write here
  | finishes here =>
    rw [here] at settles
    exact accounts_finish (by rw [here]; rfl) settles thread _
  | registers here free landed =>
    rw [here] at settles
    rw [limitRegister, if_pos landed]
    exact accounts_record (by rw [here]; rfl)
      (Balancer.registerManual_kernel ..)
      (fun other => Balancer.registerManual_get? ..) rfl
      (settles free landed)
  | records here free stored =>
    rw [here] at settles
    rw [deferredRecord_of_stored stored]
    exact accounts_record (by rw [here]; rfl)
      (Balancer.recordDeferredIo_kernel ..)
      (fun other => Balancer.recordDeferredIo_get? _ stored _ _) rfl
      (settles free _ stored)
  | restores here free found =>
    rw [here] at settles
    rw [restorePop_of_found found]
    exact accounts_change (by rw [here]; rfl) rfl
      (fun other => Balancer.popManual_get? ..) rfl
      (settles free _ _ found)
  | reaps here free =>
    rw [here] at settles
    exact accounts_reapPop (by rw [here]; rfl) (settles free)
  | yielded here =>
    rw [here] at settles
    exact accounts_applyYielded (by rw [here]; rfl) settles
  | upserts here =>
    rw [here] at settles
    exact accounts_record (by rw [here]; rfl)
      (Balancer.upsertAutoLimited_kernel ..)
      (fun other => Balancer.upsertAutoLimited_get? ..) rfl settles
  | stops here running => exact accounts_of_phase (by rw [here]; rfl) rfl rfl rfl
  | locks here free => exact accounts_of_phase (by rw [here]; rfl) rfl rfl rfl
  | swept here => exact accounts_of_phase (by rw [here]; rfl) rfl rfl rfl
  | @sweeps key keys outcomes here =>
    rw [here] at settles
    refine accounts_change (by rw [here]; rfl) rfl
      (fun other => Balancer.popSwept_get? ..) rfl ?_
    intro cap inForce entry stored answered
    simpa [sweep, stored, Phase.pending] using
      settles entry stored cap inForce entry stored answered

end Step

end Turn

/-! ## Idle threads owe nothing -/

/-- The thread works on no operation. -/
def Phase.isIdle : Phase → Bool
  | .idle => true
  | _ => false

/-- Writes are never the last thing an operation does. -/
def Phase.EndsProperly : Phase → Prop
  | .writing _ next => next.isIdle = false ∧ next.EndsProperly
  | .leave next => next.EndsProperly
  | _ => True

namespace Turn

/-- The phase ends properly, and an idle thread has nothing unrecorded. -/
def Tidy (turn : Turn) : Prop :=
  turn.phase.EndsProperly ∧ (turn.phase.isIdle = true → turn.unrecorded = [])

section Tidy

variable {turn : Turn}

/-- A thread that goes on is tidy. -/
theorem tidy_of_busy {after : Turn} (ends : after.phase.EndsProperly)
    (busy : after.phase.isIdle = false) :
    after.Tidy :=
  ⟨ends, fun idle => absurd idle (by simp [busy])⟩

theorem endsProperly_afterInstall (call : LimitCall)
    (deferred : Option DeferredIo) :
    (afterInstall call deferred).EndsProperly := by
  cases deferred <;> trivial

/-- What a thread goes on to ends properly and is not idleness. -/
theorem ends_of_follows {next : Phase} (ends : turn.phase.EndsProperly)
    (follows : turn.Follows next) :
    next.EndsProperly ∧ next.isIdle = false := by
  cases follows with
  | written here =>
    rw [here] at ends
    exact ⟨ends.2, ends.1⟩
  | limitFailed here failed => exact ⟨endsProperly_afterInstall _ _, rfl⟩
  | yielding here yields =>
    simp [applyYield, yields, goto, Phase.EndsProperly, Phase.isIdle]
  | applyLimit here =>
    simp only [Turn.applyLimit, goto]
    split <;> exact ⟨⟨rfl, trivial⟩, rfl⟩
  | _ => exact ⟨by simp [limitCpuMem, limitIo, goto, Phase.EndsProperly,
      Phase.isIdle], rfl⟩

theorem Tidy.step {thread : ThreadId} {after : Turn} (tidy : turn.Tidy)
    (stepped : Stepped thread turn after) :
    after.Tidy := by
  have ends := tidy.1
  cases stepped with
  | waits => exact tidy
  | goes follows =>
    have next := ends_of_follows ends follows
    exact tidy_of_busy next.1 next.2
  | enters enters free => cases enters <;> exact tidy_of_busy trivial rfl
  | writes here =>
    rw [here] at ends
    exact tidy_of_busy ends rfl
  | finishes here =>
    rw [here] at ends
    exact ⟨ends, fun _ => rfl⟩
  | registers here free landed =>
    rw [limitRegister, if_pos landed]
    exact tidy_of_busy (endsProperly_afterInstall _ _) rfl
  | records here free stored =>
    rw [deferredRecord_of_stored stored]
    exact tidy_of_busy trivial rfl
  | restores here free found =>
    rw [restorePop_of_found found]
    exact tidy_of_busy ⟨rfl, trivial⟩ rfl
  | reaps here free => exact tidy_of_busy ⟨rfl, trivial⟩ rfl
  | @yielded call key left here =>
    cases left with
    | none => exact tidy_of_busy trivial rfl
    | some remaining =>
      simp only [applyYielded]
      split <;> exact tidy_of_busy trivial rfl
  | upserts here => exact tidy_of_busy trivial rfl
  | stops here running => exact tidy_of_busy trivial rfl
  | locks here free => exact tidy_of_busy trivial rfl
  | swept here => exact tidy_of_busy trivial rfl
  | sweeps here =>
    simp only [sweep]
    split
    · exact tidy_of_busy trivial rfl
    · exact tidy_of_busy ⟨rfl, trivial⟩ rfl

theorem Tidy.not_owes (tidy : turn.Tidy) (idle : turn.phase = .idle)
    (cap : Cap) :
    cap ∉ turn.owes := by
  rintro (landed | cleared)
  · rw [tidy.2 (by rw [idle]; rfl)] at landed
    exact not_lands_nil cap landed
  · rw [idle] at cleared
    exact not_clears_nil cap cleared

end Tidy

end Turn

/-! ## Moves -/

def Move.thread : Move → ThreadId
  | .start thread _ => thread
  | .advance thread => thread

namespace Service

section Moves

variable {service : Service} {thread other : ThreadId}

@[simp] theorem turn_put_self (turn : Turn) :
    (service.put thread turn).turn thread = turn := by
  simp [Service.turn, put]

theorem phase_put_of_ne (turn : Turn) (different : other ≠ thread) :
    (service.put thread turn).phase other = service.phase other := by
  simp [put, different]

theorem unrecorded_put_of_ne (turn : Turn) (different : other ≠ thread) :
    (service.put thread turn).unrecorded other = service.unrecorded other := by
  simp [put, different]

theorem first_spec (operation : Operation) (ticket : Nat) :
    (operation.first ticket).pending = [] ∧
      (operation.first ticket).EndsProperly ∧
      (operation.first ticket).isIdle = false := by
  cases operation <;> exact ⟨rfl, trivial, rfl⟩

theorem start_cases (operation : Operation) :
    service.start thread operation = service ∨
      (service.phase thread = .idle ∧ operation.runsOn thread = true ∧
        service.start thread operation =
          { service with
            nextTicket := service.nextTicket + 1
            phase := Function.update service.phase thread
              (operation.first service.nextTicket) }) := by
  unfold start
  split
  · next idle =>
    split
    · next runs => exact Or.inr ⟨idle, runs, rfl⟩
    · exact Or.inl rfl
  · exact Or.inl rfl

theorem phase_step_of_ne (move : Move) (different : other ≠ move.thread) :
    (service.step move).phase other = service.phase other := by
  cases move with
  | start thread operation =>
    simp only [Service.step]
    rcases start_cases operation with same | ⟨_, _, started⟩
    · rw [same]
    · rw [started]
      exact Function.update_of_ne different _ _
  | advance thread => exact phase_put_of_ne _ different

theorem phase_run_of_ne {moves : List Move}
    (different : ∀ move ∈ moves, other ≠ move.thread) :
    (Runs.run step service moves).phase other = service.phase other := by
  induction moves generalizing service with
  | nil => rfl
  | cons move moves ih =>
    rw [Runs.run_cons, ih fun later member =>
      different later (List.mem_cons_of_mem _ member)]
    exact phase_step_of_ne move (different move List.mem_cons_self)

theorem quiescent_run {moves : List Move} (quiescent : service.Quiescent)
    (idle : ∀ move ∈ moves,
      ((Runs.run step service moves).phase move.thread).isIdle = true) :
    (Runs.run step service moves).Quiescent := by
  intro thread
  by_cases moved : ∃ move ∈ moves, thread = move.thread
  · obtain ⟨move, member, rfl⟩ := moved
    have isIdle := idle move member
    generalize (Runs.run step service moves).phase move.thread = phase
      at isIdle ⊢
    cases phase with
    | idle => rfl
    | _ => cases isIdle
  · rw [phase_run_of_ne fun move member same => moved ⟨move, member, same⟩]
    exact quiescent thread

end Moves

/-- Every thread is tidy. -/
def Tidy (service : Service) : Prop :=
  ∀ thread, (service.turn thread).Tidy

theorem Tidy.step {service : Service} (tidy : service.Tidy) (move : Move) :
    (service.step move).Tidy := by
  intro other
  cases move with
  | start thread operation =>
    simp only [Service.step]
    rcases start_cases operation with same | ⟨_, _, started⟩
    · rw [same]
      exact tidy other
    · rw [started]
      by_cases same : other = thread
      · subst same
        have spec := first_spec operation service.nextTicket
        exact Turn.tidy_of_busy (by simpa [Service.turn] using spec.2.1)
          (by simpa [Service.turn] using spec.2.2)
      · have unchanged := tidy other
        simpa [Turn.Tidy, Service.turn, same] using unchanged
  | advance thread =>
    simp only [Service.step]
    by_cases same : other = thread
    · rw [same, turn_put_self]
      exact (tidy thread).step (Turn.stepped_step _ _)
    · have unchanged := tidy other
      simpa [Turn.Tidy, Service.turn, phase_put_of_ne _ same,
        unrecorded_put_of_ne _ same] using unchanged

/-- Threads that start idle are tidy. -/
theorem tidy_ofBalancer (balancer : Balancer) : (ofBalancer balancer).Tidy :=
  fun _ => ⟨trivial, fun _ => rfl⟩

def owed (service : Service) (thread : ThreadId) : Set Cap :=
  (service.turn thread).owes

/-- Every cap in force is answered for or owed. -/
def Accounted (answers : CgroupId → LimitedApp → Cap → Prop)
    (service : Service) : Prop :=
  (service.balancer.keyedBooks answers).Accounted service.owed

/-- The condition on a move: the step settles what it touches. -/
def Settles (answers : CgroupId → LimitedApp → Cap → Prop)
    (service : Service) : Move → Prop
  | .start _ _ => True
  | .advance thread => (service.turn thread).Settles answers

theorem Accounted.step {answers : CgroupId → LimitedApp → Cap → Prop}
    {service : Service} (accounted : service.Accounted answers)
    (tidy : service.Tidy) (move : Move)
    (settles : service.Settles answers move) :
    (service.step move).Accounted answers := by
  cases move with
  | start thread operation =>
    simp only [Service.step]
    rcases start_cases operation with same | ⟨idle, _, started⟩
    · rw [same]
      exact accounted
    · rw [started]
      refine Ledger.Accounted.step accounted thread ?_ ?_
      · intro other different
        simp [owed, Turn.owes, Service.turn, different]
      · refine Ledger.accounts_of_same rfl rfl ?_
        intro cap owes
        exact absurd owes ((tidy thread).not_owes idle cap)
  | advance thread =>
    refine Ledger.Accounted.step accounted thread ?_ ?_
    · intro other different
      simp [owed, Turn.owes, Service.turn, Service.step, put, different]
    · have accounts := Turn.accounts_step
        (Turn.stepped_step (service.turn thread) thread) settles
      simpa [Turn.Accounts, owed, Service.step, put, Service.turn] using
        accounts

end Service

end SmarTune
