import SmarTune.Balancer.AutoBooks
import SmarTune.Threads.Agreement

/-!
# Shutdown

`shutdown` clears `is_running` and restores the entries it finds, under the
registry lock alone.  A limit that has read `is_running` before goes on, and may
write a cap or store an entry the sweep has passed.
-/

namespace SmarTune

/-- The thread is still to sweep the key. -/
def Phase.willSweep : Phase → CgroupId → Prop
  | .writing _ next, key => next.willSweep key
  | .sweepEnter _, _ => True
  | .sweep keys _, key => key ∈ keys
  | _, _ => False

/-! ## One step -/

namespace Turn

/-- The key is still to be swept: the service runs, or this thread or another
one will come to it. -/
def WillSweep (turn : Turn) (elsewhere : CgroupId → Prop)
    (key : CgroupId) : Prop :=
  turn.balancer.isRunning = true ∨ turn.phase.willSweep key ∨ elsewhere key

section Step

variable {thread : ThreadId} {turn after : Turn}
  {elsewhere : CgroupId → Prop} {key : CgroupId}

/-- A step that keeps the service flag and what the thread will sweep. -/
theorem willSweep_of_same (will : turn.WillSweep elsewhere key)
    (running : after.balancer.isRunning = turn.balancer.isRunning)
    (sweeps : turn.phase.willSweep key → after.phase.willSweep key) :
    after.WillSweep elsewhere key := by
  rcases will with runs | mine | others
  · exact Or.inl (running.trans runs)
  · exact Or.inr (Or.inl (sweeps mine))
  · exact Or.inr (Or.inr others)

theorem willSweep_of_follows {next : Phase} (follows : turn.Follows next)
    (sweeps : turn.phase.willSweep key) :
    next.willSweep key := by
  cases follows with
  | written here =>
    rw [here] at sweeps
    exact sweeps
  | _ => simp [*, Phase.willSweep] at sweeps

/-- An entry that was to be swept and is still there is still to be swept. -/
theorem WillSweep.step (will : turn.WillSweep elsewhere key)
    (stepped : Stepped thread turn after)
    (stored : after.balancer.allLimits.apps.get? key ≠ none) :
    after.WillSweep elsewhere key := by
  cases stepped with
  | waits => exact will
  | goes follows =>
    exact willSweep_of_same will rfl (willSweep_of_follows follows)
  | enters enters free =>
    refine willSweep_of_same will rfl ?_
    cases enters <;> simp [*, Phase.willSweep]
  | writes here =>
    refine willSweep_of_same will rfl ?_
    simp [here, Turn.write, Phase.willSweep]
  | registers here free landed =>
    rw [limitRegister, if_pos landed]
    refine willSweep_of_same will ?_ (by simp [here, Phase.willSweep])
    simp [Balancer.registerManual]
  | records here free found =>
    rw [deferredRecord_of_stored found]
    refine willSweep_of_same will ?_ (by simp [here, Phase.willSweep])
    simp only [Balancer.recordDeferredIo, found]
    simp
  | restores here free found =>
    rw [restorePop_of_found found]
    exact willSweep_of_same will rfl (by simp [here, Phase.willSweep])
  | reaps here free =>
    exact willSweep_of_same will (Balancer.popAllClosed_isRunning ..)
      (by simp [here, Phase.willSweep])
  | @yielded call yielding left here =>
    refine willSweep_of_same will ?_ (by simp [here, Phase.willSweep])
    cases left <;> simp [applyYielded]
  | upserts here =>
    refine willSweep_of_same will ?_ (by simp [here, Phase.willSweep])
    simp [applyRecord, Balancer.upsertAutoLimited]
  | stops here running => exact Or.inr (Or.inl trivial)
  | @locks outcomes here free =>
    refine willSweep_of_same will rfl fun _ => ?_
    obtain ⟨entry, found⟩ := Option.ne_none_iff_exists'.mp stored
    exact List.mem_map_of_mem ((OrderedDict.get?_eq_some_iff _ _ _).mp found)
  | @sweeps next keys outcomes here =>
    have different : key ≠ next := by
      rintro rfl
      exact stored (by simp [sweep])
    refine willSweep_of_same will rfl fun sweeps => ?_
    rw [here] at sweeps
    have later := List.mem_of_ne_of_mem different sweeps
    simp only [sweep]
    split <;> exact later
  | _ => exact willSweep_of_same will rfl (by simp [*, Phase.willSweep])

end Step

end Turn

/-! ## Runs -/

namespace Service

/-- The key is still to be swept. -/
def WillSweep (service : Service) (key : CgroupId) : Prop :=
  service.balancer.isRunning = true ∨
    ∃ thread, (service.phase thread).willSweep key

def sweptAnswers (service : Service) (key : CgroupId) (entry : LimitedApp)
    (cap : Cap) : Prop :=
  service.WillSweep key ∧ entry.Covers cap

/-- The condition on a move: what the step touches is answered for by entries
still to be swept, or lifted by the writes that follow. -/
def SettlesForSweep (service : Service) (move : Move) : Prop :=
  service.Settles service.sweptAnswers move

/-- The key is still to be swept by a thread other than the given one. -/
def SweptElsewhere
    (service : Service)
    (thread : ThreadId)
    (key : CgroupId) : Prop :=
  ∃ other, other ≠ thread ∧ (service.phase other).willSweep key

theorem willSweep_iff {service : Service} (thread : ThreadId) (key : CgroupId) :
    service.WillSweep key ↔
      (service.turn thread).WillSweep (service.SweptElsewhere thread) key := by
  unfold WillSweep Turn.WillSweep SweptElsewhere
  refine or_congr_right ⟨?_, ?_⟩
  · rintro ⟨other, sweeps⟩
    by_cases same : other = thread
    · exact Or.inl (same ▸ sweeps)
    · exact Or.inr ⟨other, same, sweeps⟩
  · rintro (sweeps | ⟨other, _, sweeps⟩)
    · exact ⟨thread, sweeps⟩
    · exact ⟨other, sweeps⟩

/-- An entry that was to be swept and is still there is still to be swept. -/
theorem WillSweep.step {service : Service} {key : CgroupId}
    (will : service.WillSweep key) (move : Move)
    (stored : (service.step move).balancer.allLimits.apps.get? key ≠ none) :
    (service.step move).WillSweep key := by
  cases move with
  | start thread operation =>
    simp only [Service.step]
    rcases start_cases operation with same | ⟨idle, _, started⟩
    · rw [same]
      exact will
    · rw [started]
      refine will.imp_right ?_
      rintro ⟨other, sweeps⟩
      have different : other ≠ thread := by
        rintro rfl
        rw [idle] at sweeps
        exact sweeps
      exact ⟨other, by simpa [different] using sweeps⟩
  | advance thread =>
    have elsewhere : (service.step (.advance thread)).SweptElsewhere thread =
        service.SweptElsewhere thread := by
      funext key
      apply propext
      refine exists_congr fun other => and_congr_right fun different => ?_
      rw [Service.step, phase_put_of_ne _ different]
    rw [willSweep_iff thread] at will ⊢
    rw [elsewhere, Service.step, turn_put_self]
    exact will.step (Turn.stepped_step _ thread) stored

/-- Every cap in force is covered by an entry still to be swept, or owed. -/
structure Releasable (service : Service) : Prop where
  tidy : service.Tidy
  accounted : service.Accounted service.sweptAnswers

theorem Releasable.step {service : Service} (releasable : service.Releasable)
    (move : Move) (settles : service.SettlesForSweep move) :
    (service.step move).Releasable where
  tidy := releasable.tidy.step move
  accounted := by
    have accounted := releasable.accounted.step releasable.tidy move settles
    intro cap inForce
    refine (accounted cap inForce).imp_left ?_
    rintro ⟨key, entry, stored, will, covers⟩
    exact ⟨key, entry, stored, will.step move (by rw [stored]; simp), covers⟩

theorem Releasable.ofBalancer {balancer : Balancer}
    (running : balancer.isRunning = true)
    (covered : (balancer.books LimitedApp.Covers).Covered) :
    (ofBalancer balancer).Releasable where
  tidy := tidy_ofBalancer balancer
  accounted := by
    intro cap inForce
    obtain ⟨key, entry, stored, covers⟩ := covered cap inForce
    exact Or.inl ⟨key, entry, stored, Or.inl running, covers⟩

theorem Releasable.released {service : Service}
    (releasable : service.Releasable) (quiescent : service.Quiescent)
    (stopped : service.balancer.isRunning = false) (cap : Cap) :
    ¬ service.balancer.kernel.InForce cap := by
  intro inForce
  rcases releasable.accounted cap inForce with
    ⟨key, entry, _, will, _⟩ | ⟨thread, owes⟩
  · rcases will with running | ⟨thread, sweeps⟩
    · cases stopped.symm.trans running
    · rw [quiescent thread] at sweeps
      exact sweeps
  · exact (releasable.tidy thread).not_owes (quiescent thread) cap owes

/-- In every interleaving whose moves all meet the condition a shutdown
releases everything once no operation is in flight. -/
theorem released_of_shutdown {balancer : Balancer} {moves : List Move}
    (running : balancer.isRunning = true)
    (covered : (balancer.books LimitedApp.Covers).Covered)
    (settling : Runs.EveryStep step SettlesForSweep (ofBalancer balancer) moves)
    (quiescent : (Runs.run step (ofBalancer balancer) moves).Quiescent)
    (stopped :
      (Runs.run step (ofBalancer balancer) moves).balancer.isRunning = false)
    (cap : Cap) :
    ¬ (Runs.run step (ofBalancer balancer) moves).balancer.kernel.InForce cap :=
  Releasable.released (Runs.invariant_run Releasable
      (fun _ move before settles => before.step move settles)
      (Releasable.ofBalancer running covered) settling)
    quiescent stopped cap

/-- Every write of an auto limit is accepted. -/
def applyAccepted : Balancer.ApplyOutcomes :=
  { Balancer.primaryRefuses with adjust := fun _ => .accepting }

/-- An auto limit halves the CPU of the app's cgroup. -/
def applyApp : Operation :=
  .apply {} "one.scope" ⟨some (some (1 / 2)), none, none⟩ true false "critical"
    applyAccepted

/-- The service shuts down, every write accepted. -/
def shutdownNow : Operation :=
  .shutdown fun _ => ⟨fun _ => true, fun _ => .accepting,
    fun _ => .accepting [], fun _ => .accepting⟩

/-- The service shuts down when the auto limit has read `is_running` and not yet
written. -/
def shutdownDuringApply : List Move :=
  runs .monitor applyApp 4 ++ runs .main shutdownNow 5 ++
    List.replicate 5 (.advance .monitor)

/-- The auto limit's cap outlives the shutdown. -/
theorem cap_survives_shutdown :
    Balancer.initial.isRunning = true ∧
    (Balancer.initial.books LimitedApp.Covers).Covered ∧
    (Runs.run step (ofBalancer .initial) shutdownDuringApply).Quiescent ∧
    (Runs.run step (ofBalancer .initial)
      shutdownDuringApply).balancer.isRunning = false ∧
    (Runs.run step (ofBalancer .initial)
      shutdownDuringApply).balancer.kernel.InForce (.cpuMem "one.scope") :=
  ⟨rfl, Balancer.covered_of_pristine rfl,
    quiescent_run (fun _ => rfl) (by decide +kernel), by decide +kernel,
    by decide +kernel⟩

/-- The shutdown of a service that has limited the app releases it. -/
theorem released_limitedOnce :
    ¬ (Runs.run step (ofBalancer limitedOnce)
      (runs .main shutdownNow 7)).balancer.kernel.InForce
        (.cpuMem "one.scope") := by
  refine released_of_shutdown rfl ?_ ?_
    (quiescent_run (fun _ => rfl) (by decide)) (by decide) _
  · intro cap inForce
    obtain rfl := inForce_limitedOnce inForce
    exact ⟨"one.scope", limitedEntry, rfl, by decide⟩
  · refine ⟨trivial, trivial, trivial, ?_, trivial, trivial, trivial, ?_,
      trivial⟩
    · intro entry stored cap inForce _ _ _
      obtain rfl := inForce_limitedOnce inForce
      obtain ⟨_, rfl⟩ := stored_limitedOnce stored
      exact Or.inr (Or.inr (by decide))
    · intro cap _ landed
      obtain ⟨write, member, installs⟩ := landed
      obtain rfl : write = .quota "one.scope" .unlimited :=
        List.mem_singleton.mp member
      exact absurd rfl installs.2

end Service

end SmarTune
