import SmarTune.Balancer.ManualBooks
import SmarTune.Threads.Accounts

/-!
# Agreement of kernel and registry

A cap is in force on a cgroup exactly when an entry claims its channel for that
cgroup.  One half is that every cap in force is claimed or owed; the other is
that every claim has a cap in force behind it, except while the disk cap of the
claiming entry yields.
-/

namespace SmarTune

/-- A cap of the same channel is in force on the same cgroup. -/
def Kernel.Placed (kernel : Kernel) (cap : Cap) : Prop :=
  ∃ other : Cap, other.cgroup = cap.cgroup ∧ other.channel = cap.channel ∧
    kernel.InForce other

/-- Every channel the entry claims for a cgroup is capped there. -/
def Kernel.Backs (kernel : Kernel) (entry : LimitedApp) : Prop :=
  ∀ cap, entry.Lists cap → kernel.Placed cap

/-- Kernel and registry agree: every cap in force is claimed by an entry, and
every claim of an entry has a cap in force. -/
def Balancer.Agrees (balancer : Balancer) : Prop :=
  (∀ cap, balancer.kernel.InForce cap →
    ∃ key entry, balancer.allLimits.apps.get? key = some entry ∧
      entry.Lists cap) ∧
  ∀ key entry, balancer.allLimits.apps.get? key = some entry →
    balancer.kernel.Backs entry

/-- The key of the entry whose disk cap is being lifted to yield. -/
def Phase.yields : Phase → Option CgroupId
  | .writing _ next => next.yields
  | .applyYielded _ key _ => some key
  | _ => none

/-! ## One step -/

namespace Turn

/-- Every claim has a cap in force, unless the entry's disk cap yields in this
thread or another one. -/
def Backed (turn : Turn) (yieldsElsewhere : CgroupId → Prop) : Prop :=
  ∀ key entry, turn.balancer.allLimits.apps.get? key = some entry →
    ∀ cap, entry.Lists cap → turn.balancer.kernel.Placed cap ∨
        (cap.channel = .diskIo ∧
          (turn.phase.yields = some key ∨ yieldsElsewhere key))

/-- The write lifts no cap an entry claims, unless it leaves another cap of the
channel on the cgroup or the entry's disk cap is the one that yields here. -/
def Spares (turn : Turn) (write : KernelWrite) (next : Phase) : Prop :=
  ∀ cap, write.Lifts cap → turn.balancer.kernel.InForce cap →
    ∀ key entry, turn.balancer.allLimits.apps.get? key = some entry →
      entry.Lists cap →
      (∃ other : Cap, other.cgroup = cap.cgroup ∧
        other.channel = cap.channel ∧ turn.balancer.kernel.InForce other ∧
        ¬ write.Lifts other) ∨
        (cap.channel = .diskIo ∧ next.yields = some key)

/-- The next step takes no cap from a claim and stores no claim without a
cap. -/
def KeepsBacked (turn : Turn) : Prop :=
  match turn.phase with
  | .writing (write :: _) next => turn.Spares write next
  | .limitRegister call plan _ limitParts _ =>
    turn.registryLock = none → limitParts.any = true →
      turn.balancer.kernel.Backs
        (plan.entry call.request limitParts call.outcomes.now)
  | .deferredRecord _ item accepted =>
    turn.registryLock = none →
      ∀ entry, turn.balancer.allLimits.apps.get? item.key = some entry →
        turn.balancer.kernel.Backs (Balancer.deferredEntry entry accepted)
  | .applyYielded _ _ left =>
    ∀ remaining, left = some remaining → turn.balancer.kernel.Backs remaining
  | .applyRecord call =>
    turn.balancer.kernel.Backs (turn.balancer.upsertedEntry call.appId
      (Balancer.autoLimitOf call.target call.appId call.limitRates
        call.isControlled call.isDiskIoStressed call.pressureLevel
        call.outcomes)
      call.outcomes.now)
  | _ => True

section Step

variable {turn after : Turn} {yieldsElsewhere : CgroupId → Prop}

/-- Kernel and registry stay, and a yielding entry goes on yielding. -/
theorem backed_of_same (backed : turn.Backed yieldsElsewhere)
    (kernel : after.balancer.kernel = turn.balancer.kernel)
    (apps : after.balancer.allLimits.apps = turn.balancer.allLimits.apps)
    (yields : ∀ key, turn.phase.yields = some key →
      after.phase.yields = some key) :
    after.Backed yieldsElsewhere := by
  intro key entry stored cap lists
  rw [apps] at stored
  rw [kernel]
  exact (backed key entry stored cap lists).imp_right fun exempt =>
    ⟨exempt.1, exempt.2.imp_left (yields key)⟩

/-- A thread that yields nothing goes on without a write. -/
theorem backed_of_phase (backed : turn.Backed yieldsElsewhere)
    (nothing : turn.phase.yields = none)
    (kernel : after.balancer.kernel = turn.balancer.kernel)
    (apps : after.balancer.allLimits.apps = turn.balancer.allLimits.apps) :
    after.Backed yieldsElsewhere :=
  backed_of_same backed kernel apps fun key yields => by
    simp [nothing] at yields

theorem placed_write {kernel : Kernel} {cap : Cap} (placed : kernel.Placed cap)
    (write : KernelWrite) :
    (kernel.write write).Placed cap ∨ ∃ other : Cap, other.cgroup = cap.cgroup ∧
        other.channel = cap.channel ∧ write.Lifts other ∧
        kernel.InForce other := by
  obtain ⟨other, cgroup, channel, inForce⟩ := placed
  by_cases lifts : write.Lifts other
  · exact Or.inr ⟨other, cgroup, channel, lifts, inForce⟩
  · exact Or.inl ⟨other, cgroup, channel,
      (Kernel.inForce_write _ _ _).mpr (Or.inr ⟨inForce, lifts⟩)⟩

theorem lists_of_place {entry : LimitedApp} {cap other : Cap}
    (lists : entry.Lists cap) (cgroup : other.cgroup = cap.cgroup)
    (channel : other.channel = cap.channel) :
    entry.Lists other := by
  unfold LimitedApp.Lists at *
  rw [cgroup, channel]
  exact lists

theorem backed_write {write : KernelWrite} {writes : List KernelWrite}
    {next : Phase} (backed : turn.Backed yieldsElsewhere)
    (writing : turn.phase = .writing (write :: writes) next)
    (spares : turn.Spares write next) :
    (turn.write write writes next).Backed yieldsElsewhere := by
  intro key entry stored cap lists
  rcases backed key entry stored cap lists with placed | ⟨disk, exempt⟩
  · rcases placed_write placed write with
      kept | ⟨other, cgroup, channel, lifts, inForce⟩
    · exact Or.inl kept
    · rcases spares other lifts inForce key entry stored
          (lists_of_place lists cgroup channel) with
        ⟨third, cgroupThird, channelThird, still, notLifted⟩ | ⟨disk, yields⟩
      · exact Or.inl ⟨third, cgroupThird.trans cgroup,
          channelThird.trans channel,
          (Kernel.inForce_write _ _ _).mpr (Or.inr ⟨still, notLifted⟩)⟩
      · exact Or.inr ⟨channel ▸ disk, Or.inl yields⟩
  · rw [writing] at exempt
    exact Or.inr ⟨disk, exempt⟩

theorem backed_key {key : CgroupId} {left : Option LimitedApp}
    (backed : turn.Backed yieldsElsewhere)
    (kernel : after.balancer.kernel = turn.balancer.kernel)
    (stores : ∀ other, after.balancer.allLimits.apps.get? other =
      if other = key then left
      else turn.balancer.allLimits.apps.get? other)
    (leftBacked : ∀ remaining, left = some remaining →
      turn.balancer.kernel.Backs remaining)
    (yields : ∀ other, turn.phase.yields = some other → other = key) :
    after.Backed yieldsElsewhere := by
  intro other entry stored cap lists
  rw [kernel]
  rw [stores] at stored
  split at stored
  · exact Or.inl (leftBacked entry stored cap lists)
  · next different =>
    refine (backed other entry stored cap lists).imp_right fun exempt =>
      ⟨exempt.1, Or.inr (exempt.2.resolve_left fun yielding => ?_)⟩
    exact different (yields other yielding)

/-- Forgetting entries takes no cap from a claim. -/
theorem backed_of_forgotten (backed : turn.Backed yieldsElsewhere)
    (nothing : turn.phase.yields = none)
    (kernel : after.balancer.kernel = turn.balancer.kernel)
    (forgets : ∀ other entry,
      after.balancer.allLimits.apps.get? other = some entry →
      turn.balancer.allLimits.apps.get? other = some entry) :
    after.Backed yieldsElsewhere := by
  intro other entry stored cap lists
  rw [kernel]
  refine (backed other entry (forgets other entry stored) cap lists).imp_right
    fun exempt => ⟨exempt.1, Or.inr (exempt.2.resolve_left ?_)⟩
  simp [nothing]

theorem yields_of_follows {next : Phase} (follows : turn.Follows next) :
    turn.phase.yields = none ∨ turn.phase.yields = next.yields := by
  cases follows <;> simp [*, Phase.yields]

theorem Backed.step {thread : ThreadId} (backed : turn.Backed yieldsElsewhere)
    (stepped : Stepped thread turn after) (keeps : turn.KeepsBacked) :
    after.Backed yieldsElsewhere := by
  unfold KeepsBacked at keeps
  cases stepped with
  | waits => exact backed
  | goes follows =>
    refine backed_of_same backed rfl rfl fun key yields => ?_
    rcases yields_of_follows follows with nothing | same
    · simp [nothing] at yields
    · exact same ▸ yields
  | enters enters free =>
    refine backed_of_phase backed ?_ rfl rfl
    cases enters <;> simp [*, Phase.yields]
  | writes here =>
    rw [here] at keeps
    exact backed_write backed here keeps
  | finishes here => exact backed_of_phase backed (by rw [here]; rfl) rfl rfl
  | registers here free landed =>
    rw [here] at keeps
    rw [limitRegister, if_pos landed]
    refine backed_key backed (Balancer.registerManual_kernel ..)
      (fun other => Balancer.registerManual_get? ..) ?_
      (by simp [here, Phase.yields])
    intro remaining equal
    obtain rfl := Option.some.inj equal
    exact keeps free landed
  | records here free stored =>
    rw [here] at keeps
    rw [deferredRecord_of_stored stored]
    refine backed_key backed (Balancer.recordDeferredIo_kernel ..)
      (fun other => Balancer.recordDeferredIo_get? _ stored _ _) ?_
      (by simp [here, Phase.yields])
    intro remaining equal
    obtain rfl := Option.some.inj equal
    exact keeps free _ stored
  | restores here free found =>
    rw [restorePop_of_found found]
    exact backed_key backed rfl (fun other => Balancer.popManual_get? ..)
      (by simp) (by simp [here, Phase.yields])
  | reaps here free =>
    refine backed_of_forgotten backed (by rw [here]; rfl)
      (Balancer.popAllClosed_kernel ..) ?_
    intro other entry stored
    simp only [reapPop, Balancer.popAllClosed_get?] at stored
    split at stored
    · cases stored
    · exact stored
  | @yielded call key left here =>
    rw [here] at keeps
    have yields : ∀ other, turn.phase.yields = some other → other = key := by
      intro other yielding
      rw [here] at yielding
      exact (Option.some.inj yielding).symm
    cases left with
    | none =>
      exact backed_key backed rfl (fun other => Balancer.popEntry_get? ..)
        (by simp) yields
    | some remaining =>
      refine backed_key backed (by simp [applyYielded])
        (applyYielded_get? remaining) ?_ yields
      intro kept equal
      rw [Option.map_eq_some_iff] at equal
      obtain ⟨_, _, rfl⟩ := equal
      exact keeps _ rfl
  | upserts here =>
    rw [here] at keeps
    refine backed_key backed (Balancer.upsertAutoLimited_kernel ..)
      (fun other => Balancer.upsertAutoLimited_get? ..) ?_
      (by simp [here, Phase.yields])
    intro remaining equal
    obtain rfl := Option.some.inj equal
    exact keeps
  | stops here running =>
    exact backed_of_phase backed (by rw [here]; rfl) rfl rfl
  | locks here free => exact backed_of_phase backed (by rw [here]; rfl) rfl rfl
  | swept here => exact backed_of_phase backed (by rw [here]; rfl) rfl rfl
  | sweeps here =>
    exact backed_key backed rfl (fun other => Balancer.popSwept_get? ..)
      (by simp) (by simp [here, Phase.yields])

end Step

end Turn

/-! ## Runs -/

namespace Service

/-- Every claim has a cap in force, unless the entry's disk cap yields in some
thread. -/
def Backed (service : Service) : Prop :=
  ∀ key entry, service.balancer.allLimits.apps.get? key = some entry →
    ∀ cap, entry.Lists cap → service.balancer.kernel.Placed cap ∨
        (cap.channel = .diskIo ∧
          ∃ thread, (service.phase thread).yields = some key)

/-- An entry yields in a thread other than the given one. -/
def YieldsElsewhere
    (service : Service)
    (thread : ThreadId)
    (key : CgroupId) : Prop :=
  ∃ other, other ≠ thread ∧ (service.phase other).yields = some key

theorem backed_iff {service : Service} (thread : ThreadId) :
    service.Backed ↔
      (service.turn thread).Backed (service.YieldsElsewhere thread) := by
  have split : ∀ key, (∃ other, (service.phase other).yields = some key) ↔
      (service.phase thread).yields = some key ∨
        service.YieldsElsewhere thread key := by
    intro key
    constructor
    · rintro ⟨other, yields⟩
      by_cases same : other = thread
      · exact Or.inl (same ▸ yields)
      · exact Or.inr ⟨other, same, yields⟩
    · rintro (yields | ⟨other, _, yields⟩)
      · exact ⟨thread, yields⟩
      · exact ⟨other, yields⟩
  simp only [Backed, Turn.Backed, split]
  rfl

/-- The condition on a move: the step settles what it touches, takes no cap
from a claim and stores no claim without a cap. -/
def KeepsAgreement (service : Service) : Move → Prop
  | .start _ _ => True
  | .advance thread =>
    (service.turn thread).Settles (fun _ => LimitedApp.Lists) ∧
      (service.turn thread).KeepsBacked

theorem Backed.step {service : Service} (backed : service.Backed) (move : Move)
    (keeps : service.KeepsAgreement move) :
    (service.step move).Backed := by
  cases move with
  | start thread operation =>
    simp only [Service.step]
    rcases start_cases operation with same | ⟨idle, _, started⟩
    · rw [same]
      exact backed
    · rw [started]
      intro key entry stored cap lists
      refine (backed key entry stored cap lists).imp_right ?_
      rintro ⟨disk, other, yields⟩
      refine ⟨disk, other, ?_⟩
      have different : other ≠ thread := by
        rintro rfl
        rw [idle] at yields
        cases yields
      simpa [different] using yields
  | advance thread =>
    rw [backed_iff thread] at backed ⊢
    have stepped := backed.step (Turn.stepped_step _ thread) keeps.2
    have elsewhere : (service.step (.advance thread)).YieldsElsewhere thread =
        service.YieldsElsewhere thread := by
      funext key
      apply propext
      refine exists_congr fun other => and_congr_right fun different => ?_
      rw [Service.step, phase_put_of_ne _ different]
    rw [elsewhere, Service.step, turn_put_self]
    exact stepped

/-- Kernel and registry agree, operations in flight apart. -/
structure Agreeing (service : Service) : Prop where
  tidy : service.Tidy
  accounted : service.Accounted fun _ => LimitedApp.Lists
  backed : service.Backed

theorem Agreeing.step {service : Service} (agreeing : service.Agreeing)
    (move : Move) (keeps : service.KeepsAgreement move) :
    (service.step move).Agreeing where
  tidy := agreeing.tidy.step move
  accounted := agreeing.accounted.step agreeing.tidy move (by
    cases move with
    | start thread operation => trivial
    | advance thread => exact keeps.1)
  backed := agreeing.backed.step move keeps

/-- With no operation in flight kernel and registry agree. -/
theorem Agreeing.agrees {service : Service} (agreeing : service.Agreeing)
    (quiescent : service.Quiescent) :
    service.balancer.Agrees := by
  constructor
  · exact agreeing.accounted.covered fun thread cap =>
      (agreeing.tidy thread).not_owes (quiescent thread) cap
  · intro key entry stored cap lists
    refine (agreeing.backed key entry stored cap lists).resolve_right ?_
    rintro ⟨_, thread, yields⟩
    rw [quiescent thread] at yields
    cases yields

/-- Where kernel and registry agree and no thread is busy. -/
theorem Agreeing.ofBalancer {balancer : Balancer} (agrees : balancer.Agrees) :
    (ofBalancer balancer).Agreeing where
  tidy := tidy_ofBalancer balancer
  accounted := by
    have covered : (balancer.keyedBooks fun _ => LimitedApp.Lists).Covered :=
      agrees.1
    exact covered.accounted _
  backed := fun key entry stored cap lists =>
    Or.inl (agrees.2 key entry stored cap lists)

/-- Every interleaving whose steps all meet the condition leaves kernel and
registry in agreement once no operation is in flight. -/
theorem agrees_of_quiescent {balancer : Balancer} (agrees : balancer.Agrees)
    {moves : List Move}
    (keeping : Runs.EveryStep step KeepsAgreement (ofBalancer balancer) moves)
    (quiescent : (Runs.run step (ofBalancer balancer) moves).Quiescent) :
    (Runs.run step (ofBalancer balancer) moves).balancer.Agrees :=
  Agreeing.agrees (Runs.invariant_run Agreeing
      (fun _ move before keeps => before.step move keeps)
      (Agreeing.ofBalancer agrees) keeping)
    quiescent

/-- The app is limited on its first cgroup. -/
def limitApp : Operation :=
  .limit ⟨"app", "App", some "low", none, ["one.scope"]⟩
    ManualSystem.busyInTwoCgroups fun _ => .accepting []

/-- The app is restored, every write accepted. -/
def restoreApp : Operation :=
  .restore "app"
    ⟨fun _ => .accepting, fun _ => .accepting [], fun _ => .accepting⟩

/-- A thread is given an operation and then takes that many steps. -/
def runs (thread : ThreadId) (operation : Operation) (steps : Nat) :
    List Move :=
  .start thread operation :: List.replicate steps (.advance thread)

/-- A restore is interrupted by a new limit between forgetting the old entry
and lifting its cap. -/
def limitDuringRestore : List Move :=
  runs (.rest 0) limitApp 10 ++ runs (.rest 0) restoreApp 1 ++
    runs (.rest 1) limitApp 10 ++ List.replicate 4 (.advance (.rest 0))

theorem agrees_initial : Balancer.initial.Agrees :=
  ⟨fun cap inForce => absurd inForce (Kernel.not_inForce_pristine cap),
    fun _ _ stored => by cases stored⟩

/-- The old restore lifts the cap of the new limit: its entry claims a cap that
is not in force. -/
theorem restore_lifts_later_limit :
    Balancer.initial.Agrees ∧
    (Runs.run step (ofBalancer .initial) limitDuringRestore).Quiescent ∧
    ¬ (Runs.run step (ofBalancer .initial)
      limitDuringRestore).balancer.Agrees := by
  refine ⟨agrees_initial, quiescent_run (fun _ => rfl) (by decide +kernel), ?_⟩
  intro agrees
  have claims : ((Runs.run step (ofBalancer .initial)
      limitDuringRestore).balancer.allLimits.apps.get? "one.scope").any
        (fun entry => decide (entry.Lists (.cpuMem "one.scope"))) = true := by
    decide +kernel
  obtain ⟨entry, stored, lists⟩ := (Option.any_eq_true _ _).mp claims
  rw [decide_eq_true_iff] at lists
  obtain ⟨other, cgroup, channel, inForce⟩ := agrees.2 _ _ stored _ lists
  cases other with
  | cpuMem other =>
  obtain rfl : other = "one.scope" := cgroup
  revert inForce
  decide +kernel
  | io => cases channel

def limitedEntry : LimitedApp where
  publicAppId := "app"
  appName := "App"
  source := .manual
  limitRates := ⟨none, none, none⟩
  limitParts := ⟨true, false⟩
  cgroups := ["one.scope"]

/-- A service that has limited the app and nothing else. -/
def limitedOnce : Balancer :=
  (Balancer.initial.withApps (.set .empty "one.scope" limitedEntry)).writes
    [.quota "one.scope" ⟨some 30, none⟩]

theorem inForce_limitedOnce {cap : Cap}
    (inForce : limitedOnce.kernel.InForce cap) :
    cap = .cpuMem "one.scope" := by
  have written : (Kernel.pristine.write
      (.quota "one.scope" ⟨some 30, none⟩)).InForce cap := inForce
  rcases (Kernel.inForce_write _ _ _).mp written with installs | ⟨old, _⟩
  · exact installs.1
  · exact absurd old (Kernel.not_inForce_pristine cap)

theorem stored_limitedOnce {key : CgroupId} {entry : LimitedApp}
    (stored : limitedOnce.allLimits.apps.get? key = some entry) :
    key = "one.scope" ∧ entry = limitedEntry := by
  have set : (OrderedDict.empty.set "one.scope" limitedEntry).get? key =
      some entry := stored
  rcases OrderedDict.get?_set_eq_some_iff.mp set with same | ⟨-, before⟩
  · exact same
  · cases before

theorem agrees_limitedOnce : limitedOnce.Agrees := by
  constructor
  · intro cap inForce
    obtain rfl := inForce_limitedOnce inForce
    exact ⟨"one.scope", limitedEntry, rfl, by decide⟩
  · intro key entry stored cap lists
    obtain ⟨rfl, rfl⟩ := stored_limitedOnce stored
    cases cap with
    | cpuMem cgroup =>
      obtain rfl := List.mem_singleton.mp lists.2
      exact ⟨.cpuMem "one.scope", rfl, rfl, by decide⟩
    | io cgroup disk => cases lists.1

/-- Undisturbed, the restore of the limited app leaves agreement. -/
theorem agrees_of_restored :
    (Runs.run step (ofBalancer limitedOnce)
      (runs (.rest 0) restoreApp 4)).balancer.Agrees := by
  refine agrees_of_quiescent agrees_limitedOnce ?_ ?_
  · refine ⟨trivial, ⟨?_, trivial⟩, ⟨trivial, ?_⟩, ⟨trivial, trivial⟩,
      ⟨?_, trivial⟩, trivial⟩
    · intro _ key entry found cap inForce _ _ _
      obtain rfl := inForce_limitedOnce inForce
      obtain ⟨rfl, rfl⟩ := stored_limitedOnce
        (LimitRegistry.byPublicId_eq_some found).1
      exact Or.inr (Or.inr (by decide))
    · intro cap _ _ key entry stored
      have forgotten : (limitedOnce.popManual
          "one.scope").allLimits.apps.get? key = some entry := stored
      rw [Balancer.popManual_get?] at forgotten
      split at forgotten
      · cases forgotten
      · next other => exact absurd (stored_limitedOnce forgotten).1 other
    · intro cap _ landed
      obtain ⟨write, member, installs⟩ := landed
      obtain rfl : write = .quota "one.scope" .unlimited :=
        List.mem_singleton.mp member
      exact absurd rfl installs.2
  · exact quiescent_run (fun _ => rfl) (by decide)

end Service

end SmarTune
