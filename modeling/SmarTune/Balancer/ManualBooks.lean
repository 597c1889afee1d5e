import SmarTune.Library.Runs
import SmarTune.Balancer.Books

/-!
# Caps of the manual path

Histories of manual limits, deferred disk caps, freezes and manual restores.
The registry keeps one entry per primary cgroup and replaces it at every
install, so a cap stays answered for exactly when the steps below keep it so.
-/

namespace SmarTune

/-! ## What an install writes -/

namespace InstallPlan

variable (plan : InstallPlan) (isRunning : Bool) (outcomes : InstallOutcomes)

/-- The channels whose call for the primary cgroup was accepted. -/
def accepted : LimitParts :=
  let cpuMem := plan.cpuMem isRunning outcomes
  ⟨cpuMem.1, (plan.io isRunning cpuMem.1 outcomes).1⟩

/-- The writes of both channels. -/
def allWrites : List KernelWrite :=
  let cpuMem := plan.cpuMem isRunning outcomes
  cpuMem.2 ++ (plan.io isRunning cpuMem.1 outcomes).2

variable {plan isRunning outcomes}

theorem limiting_cpuMem : Limiting (plan.cpuMem isRunning outcomes).2 := by
  unfold cpuMem
  split
  · exact limiting_adjustEach (by decide) _ _ _ _
  · exact limiting_nil

theorem limiting_io {resourceLimited : Bool} :
    Limiting (plan.io isRunning resourceLimited outcomes).2 := by
  unfold io
  split
  · exact limiting_nil
  · split
    · exact limiting_throttleEach _ _ _ _
    · exact limiting_nil

theorem limiting_allWrites : Limiting (plan.allWrites isRunning outcomes) :=
  limiting_cpuMem.append limiting_io

theorem cgroup_mem_of_lands {cap : Cap}
    (lands : Lands (plan.allWrites isRunning outcomes) cap) :
    cap.cgroup ∈ plan.cgroups := by
  obtain ⟨write, member, installs⟩ := lands
  rcases List.mem_append.mp member with inCpuMem | inIo
  · unfold cpuMem at inCpuMem
    split at inCpuMem
    · obtain ⟨cgroup, listed, quota, _, rfl⟩ :=
        adjustEach_writes (by decide) inCpuMem
      rw [installs.1]
      exact listed
    · simp at inCpuMem
  · unfold io at inIo
    split at inIo
    · simp at inIo
    · split at inIo
      · obtain ⟨cgroup, listed, disk, line, _, _, rfl⟩ :=
          throttleEach_writes inIo
        rw [installs.1]
        exact listed
      · simp at inIo

end InstallPlan

namespace Balancer

variable {balancer : Balancer} {request : LimitRequest}
  {outcomes : InstallOutcomes} {plan : InstallPlan}

theorem installResourceLimit_refused {reply : LimitReply}
    (refused : balancer.installPlan request outcomes = .error reply) :
    balancer.installResourceLimit request outcomes =
      (reply, none, balancer) := by
  simp only [installResourceLimit, refused]

theorem installResourceLimit_kernel
    (planned : balancer.installPlan request outcomes = .ok plan) :
    (balancer.installResourceLimit request outcomes).2.2.kernel =
      balancer.kernel.writeAll
        (plan.allWrites balancer.isRunning outcomes) := by
  simp only [installResourceLimit, planned]
  split <;> simp [registerManual, InstallPlan.allWrites, Kernel.writeAll_append]

/-- An install stores its entry exactly when some channel was accepted. -/
theorem installResourceLimit_apps
    (planned : balancer.installPlan request outcomes = .ok plan) :
    (balancer.installResourceLimit request outcomes).2.2.allLimits.apps =
      if (plan.accepted balancer.isRunning outcomes).any then
        balancer.allLimits.apps.set plan.primary
          (plan.entry request (plan.accepted balancer.isRunning outcomes)
            outcomes.now)
      else balancer.allLimits.apps := by
  simp only [installResourceLimit, planned, InstallPlan.accepted]
  split
  · next stored => simp [registerManual, stored]
  · next nothing => simp [nothing]

/-- The entries an install leaves alone. -/
theorem installResourceLimit_get?_of_ne
    (planned : balancer.installPlan request outcomes = .ok plan)
    {other : CgroupId} (different : other ≠ plan.primary) :
    (balancer.installResourceLimit request outcomes).2.2.allLimits.apps.get?
      other = balancer.allLimits.apps.get? other := by
  rw [installResourceLimit_apps planned]
  split
  · exact OrderedDict.get?_set_of_ne _ _ different
  · rfl

/-! ## What the other steps write -/

theorem limiting_deferredIoCall (deferred : DeferredIo)
    (outcome : Nat → IoCallOutcome) :
    Limiting (deferredIoCall deferred outcome).2 :=
  limiting_throttleEach _ _ _ _

theorem channel_of_lands_deferredIoCall {deferred : DeferredIo}
    {outcome : Nat → IoCallOutcome} {cap : Cap}
    (lands : Lands (deferredIoCall deferred outcome).2 cap) :
    cap.channel = .diskIo := by
  obtain ⟨write, member, installs⟩ := lands
  obtain ⟨_, _, _, _, _, _, rfl⟩ := throttleEach_writes member
  rw [installs.1]
  rfl

/-- The writes of a thaw or a freeze change no cap. -/
def Neutral (writes : List KernelWrite) : Prop :=
  ∀ write ∈ writes, ∃ cgroup frozen, write = .freeze cgroup frozen

theorem inForce_writeAll_of_neutral {writes : List KernelWrite}
    (neutral : Neutral writes) (kernel : Kernel) (cap : Cap) :
    (kernel.writeAll writes).InForce cap ↔ kernel.InForce cap := by
  have limiting : Limiting writes := by
    intro write member other
    obtain ⟨_, _, rfl⟩ := neutral write member
    exact id
  rw [inForce_writeAll_of_limiting limiting, or_iff_left]
  rintro ⟨write, member, installs⟩
  obtain ⟨_, _, rfl⟩ := neutral write member
  exact installs

theorem neutral_freezeEach (freeze : Bool) (cgroups : List CgroupId)
    (outcome : Nat → FreezeOutcome) :
    Neutral (freezeEach freeze cgroups outcome).2.2 := by
  induction cgroups generalizing outcome with
  | nil => simp [Neutral, freezeEach]
  | cons cgroup rest ih =>
    intro write member
    simp only [freezeEach] at member
    split at member
    · rcases List.mem_append.mp member with first | others
      · exact ⟨_, _, freezeCgroup_writes first⟩
      · exact ih _ write others
    · exact ⟨_, _, freezeCgroup_writes member⟩

theorem neutral_thawCgroups (cgroups : List CgroupId)
    (outcome : Nat → FreezeOutcome) :
    Neutral (thawCgroups cgroups outcome).2 := by
  intro write member
  simp only [thawCgroups, List.mem_flatMap, List.mem_map] at member
  obtain ⟨_, ⟨target, _, rfl⟩, written⟩ := member
  exact ⟨_, _, freezeCgroup_writes written⟩

theorem restoring_of_neutral {writes : List KernelWrite}
    (neutral : Neutral writes) :
    Restoring writes := by
  intro write member cap
  obtain ⟨_, _, rfl⟩ := neutral write member
  exact id

def manualRestoreWrites (key : CgroupId) (entry : LimitedApp)
    (outcomes : ManualRestoreOutcomes) : List KernelWrite :=
  (manualRestoreCpuMem key entry outcomes).2 ++
    (manualRestoreIo key entry outcomes).2 ++
    (manualRestoreThaw key entry outcomes).2

theorem restoring_manualRestoreWrites (key : CgroupId) (entry : LimitedApp)
    (outcomes : ManualRestoreOutcomes) :
    Restoring (manualRestoreWrites key entry outcomes) := by
  refine Restoring.append (Restoring.append ?_ ?_) ?_
  · unfold manualRestoreCpuMem
    split
    · exact restoring_adjustEach _ _ _ _
    · exact restoring_nil
  · unfold manualRestoreIo
    split
    · exact restoring_unthrottleEach _ _ _
    · exact restoring_nil
  · unfold manualRestoreThaw
    split
    · exact restoring_of_neutral (neutral_thawCgroups _ _)
    · exact restoring_nil

end Balancer

/-! ## Histories -/

/-- The balancer and the disk caps held back until a reclaim is done. -/
structure ManualSystem where
  balancer : Balancer
  pending : List DeferredIo

/-- The steps of the manual path. -/
inductive ManualStep
  | limit (request : LimitRequest) (outcomes : InstallOutcomes)
  /-- The reclaim of a held-back disk cap is done. -/
  | deferredIo (position : Nat) (outcome : Nat → IoCallOutcome)
  | freeze (appId : String) (freeze : Bool) (outcomes : SetFreezeOutcomes)
  | restore (appId : String) (outcomes : Balancer.ManualRestoreOutcomes)

namespace ManualSystem

/-- A service that has just started. -/
def initial : ManualSystem := ⟨.initial, []⟩

def step (system : ManualSystem) : ManualStep → ManualSystem
  | .limit request outcomes =>
    let result := system.balancer.installResourceLimit request outcomes
    ⟨result.2.2, system.pending ++ result.2.1.toList⟩
  | .deferredIo position outcome =>
    match system.pending[position]? with
    | none => system
    | some deferred =>
      ⟨system.balancer.applyDeferredIoCap deferred outcome,
        system.pending.eraseIdx position⟩
  | .freeze appId freeze outcomes =>
    { system with
      balancer := (system.balancer.setFreeze appId freeze outcomes).2 }
  | .restore appId outcomes =>
    { system with
      balancer := (system.balancer.setRestoreResource appId outcomes).2 }

end ManualSystem

namespace Balancer

/-- The caps in force and the manual entries that list them. -/
abbrev manualBooks : Balancer → Ledger CgroupId Cap := books ManualAnswers

/-! ## When a step keeps the books covered -/

/-- A request answers for the caps it lands and for those of the entry it
replaces. -/
structure LimitKeepsCaps (balancer : Balancer) (plan : InstallPlan)
    (outcomes : InstallOutcomes) : Prop where
  /-- A channel lands on some cgroup only when the primary's call is accepted,
  unless the cap is one the manual entries list already. -/
  landed : ∀ cap, Lands (plan.allWrites balancer.isRunning outcomes) cap →
    (plan.accepted balancer.isRunning outcomes).of cap.channel = true ∨
      balancer.manualBooks.Elsewhere plan.primary cap ∨
      ((plan.accepted balancer.isRunning outcomes).any = false ∧
        cap ∈ balancer.manualBooks.claims plan.primary)
  /-- The cgroups and channels of a replaced entry that are still capped are
  limited again, or listed by another manual entry. -/
  replaced : (plan.accepted balancer.isRunning outcomes).any = true →
    ∀ cap, balancer.kernel.InForce cap →
      cap ∈ balancer.manualBooks.claims plan.primary →
      ((plan.accepted balancer.isRunning outcomes).of cap.channel = true ∧
        cap.cgroup ∈ plan.cgroups) ∨
      balancer.manualBooks.Elsewhere plan.primary cap

theorem limitKeepsCaps_of_first {balancer : Balancer} {plan : InstallPlan}
    {outcomes : InstallOutcomes}
    (first : balancer.allLimits.apps.get? plan.primary = none)
    (cpuMemAccepted : plan.attemptsCpuMem balancer.isRunning = true →
      (plan.accepted balancer.isRunning outcomes).cpuMemLimited = true)
    (ioAccepted :
      (plan.accepted balancer.isRunning outcomes).ioLimited = false →
        (plan.io balancer.isRunning
          (plan.accepted balancer.isRunning outcomes).cpuMemLimited
          outcomes).2 = []) :
    LimitKeepsCaps balancer plan outcomes where
  landed := by
    rintro cap ⟨write, member, installs⟩
    left
    rcases List.mem_append.mp member with inCpuMem | inIo
    · unfold InstallPlan.cpuMem at inCpuMem
      split at inCpuMem
      · next attempted =>
        obtain ⟨_, _, _, _, rfl⟩ := adjustEach_writes (by decide) inCpuMem
        rw [installs.1]
        exact cpuMemAccepted attempted
      · simp at inCpuMem
    · cases accepted :
          (plan.accepted balancer.isRunning outcomes).ioLimited with
      | false =>
        rw [InstallPlan.accepted] at accepted ioAccepted
        rw [ioAccepted accepted] at inIo
        exact absurd inIo List.not_mem_nil
      | true =>
        unfold InstallPlan.io at inIo
        split at inIo
        · simp at inIo
        · split at inIo
          · obtain ⟨_, _, _, _, _, _, rfl⟩ := throttleEach_writes inIo
            rw [installs.1]
            exact accepted
          · simp at inIo
  replaced := by
    intro _ cap _ claimed
    exact absurd claimed (not_mem_claims_of_none first)

/-- A deferred disk cap is answered for by the entry now stored under its
key. -/
structure DeferredKeepsCaps (balancer : Balancer) (deferred : DeferredIo)
    (entry : LimitedApp) (outcome : Nat → IoCallOutcome) : Prop where
  /-- A cap lands only when the primary's is accepted, and on a cgroup the
  entry lists. -/
  landed : ∀ cap, Lands (deferredIoCall deferred outcome).2 cap →
    ((deferredIoCall deferred outcome).1 = true ∧ entry.source = .manual ∧
      cap.cgroup ∈ entry.cgroups) ∨
    balancer.manualBooks.Elsewhere deferred.key cap
  /-- A refused cap does not replace one that is in force. -/
  refused : (deferredIoCall deferred outcome).1 = false →
    ∀ cap, cap.channel = .diskIo → balancer.kernel.InForce cap →
      cap ∈ balancer.manualBooks.claims deferred.key →
      balancer.manualBooks.Elsewhere deferred.key cap

def RestoreLiftsCaps (balancer : Balancer) (key : CgroupId) (entry : LimitedApp)
    (outcomes : ManualRestoreOutcomes) : Prop :=
  ∀ cap, balancer.kernel.InForce cap → cap ∈ balancer.manualBooks.claims key →
    Clears (manualRestoreWrites key entry outcomes) cap ∨
      balancer.manualBooks.Elsewhere key cap

end Balancer

namespace ManualSystem

open Balancer

/-- The condition on one step, read off the state before it. -/
def KeepsCaps (system : ManualSystem) : ManualStep → Prop
  | .limit request outcomes =>
    ∀ plan, system.balancer.installPlan request outcomes = .ok plan →
      LimitKeepsCaps system.balancer plan outcomes
  | .deferredIo position outcome =>
    ∀ deferred, system.pending[position]? = some deferred →
      ∀ entry, system.balancer.allLimits.apps.get? deferred.key = some entry →
        DeferredKeepsCaps system.balancer deferred entry outcome
  | .freeze _ _ _ => True
  | .restore appId outcomes =>
    ∀ key entry, system.balancer.allLimits.byPublicId appId .manual =
        some (key, entry) →
      RestoreLiftsCaps system.balancer key entry outcomes

end ManualSystem

/-! ## One step -/

namespace Balancer

variable {balancer : Balancer}

theorem covered_installResourceLimit_iff {request : LimitRequest}
    {outcomes : InstallOutcomes} {plan : InstallPlan}
    (covered : balancer.manualBooks.Covered)
    (planned : balancer.installPlan request outcomes = .ok plan) :
    (balancer.installResourceLimit request outcomes).2.2.manualBooks.Covered ↔
      LimitKeepsCaps balancer plan outcomes := by
  have changed : Ledger.Reassigns plan.primary balancer.manualBooks
      (balancer.installResourceLimit request outcomes).2.2.manualBooks :=
    reassigns fun other => installResourceLimit_get?_of_ne planned
  have force : (balancer.installResourceLimit request
        outcomes).2.2.manualBooks.force =
      balancer.manualBooks.force ∪
        {cap | Lands (plan.allWrites balancer.isRunning outcomes) cap} := by
    ext cap
    rw [mem_force, installResourceLimit_kernel planned,
      inForce_writeAll_of_limiting InstallPlan.limiting_allWrites]
    rfl
  have claims : ∀ cap, cap ∈ (balancer.installResourceLimit request
          outcomes).2.2.manualBooks.claims plan.primary ↔
        if (plan.accepted balancer.isRunning outcomes).any then
          (plan.accepted balancer.isRunning outcomes).of cap.channel = true ∧
            cap.cgroup ∈ plan.cgroups
        else cap ∈ balancer.manualBooks.claims plan.primary := by
    intro cap
    rw [mem_claims, installResourceLimit_apps planned]
    split
    · rw [OrderedDict.get?_set_self]
      simp [ManualAnswers, LimitedApp.Lists, InstallPlan.entry]
    · rfl
  rw [changed.covered_iff covered force subset_rfl]
  simp only [claims]
  constructor
  · rintro ⟨answersNew, answersOld⟩
    constructor
    · intro cap lands
      rcases answersNew cap lands with new | elsewhere
      · split at new
        · exact Or.inl new.1
        · next nothing => exact Or.inr (Or.inr ⟨by simpa using nothing, new⟩)
      · exact Or.inr (Or.inl elsewhere)
    · intro stored cap inForce claimed
      simpa only [if_pos stored] using answersOld cap inForce claimed
  · intro keeps
    constructor
    · intro cap lands
      rcases keeps.landed cap lands with accepted | elsewhere | ⟨nothing, old⟩
      · have stored :
            (plan.accepted balancer.isRunning outcomes).any = true := by
          cases channel : cap.channel <;>
            simp_all [LimitParts.of, LimitParts.any]
        rw [if_pos stored]
        exact Or.inl ⟨accepted, InstallPlan.cgroup_mem_of_lands lands⟩
      · exact Or.inr elsewhere
      · rw [if_neg (by simp [nothing])]
        exact Or.inl old
    · intro cap inForce claimed
      split
      · next stored => exact keeps.replaced stored cap inForce claimed
      · exact Or.inl claimed

variable {deferred : DeferredIo} {entry : LimitedApp}

theorem applyDeferredIoCap_kernel
    (stored : balancer.allLimits.apps.get? deferred.key = some entry)
    (outcome : Nat → IoCallOutcome) :
    (balancer.applyDeferredIoCap deferred outcome).kernel =
      balancer.kernel.writeAll (deferredIoCall deferred outcome).2 := by
  simp only [applyDeferredIoCap, stored, recordDeferredIo, writes_allLimits]
  simp

theorem applyDeferredIoCap_apps
    (stored : balancer.allLimits.apps.get? deferred.key = some entry)
    (outcome : Nat → IoCallOutcome) :
    (balancer.applyDeferredIoCap deferred outcome).allLimits.apps =
      balancer.allLimits.apps.set deferred.key
        { entry with limitParts :=
          { entry.limitParts with
            ioLimited := (deferredIoCall deferred outcome).1 } } := by
  simp only [applyDeferredIoCap, stored, recordDeferredIo, writes_allLimits]
  simp

theorem covered_applyDeferredIoCap_iff (covered : balancer.manualBooks.Covered)
    (stored : balancer.allLimits.apps.get? deferred.key = some entry)
    (outcome : Nat → IoCallOutcome) :
    (balancer.applyDeferredIoCap deferred outcome).manualBooks.Covered ↔
      DeferredKeepsCaps balancer deferred entry outcome := by
  have changed : Ledger.Reassigns deferred.key balancer.manualBooks
      (balancer.applyDeferredIoCap deferred outcome).manualBooks := by
    apply reassigns
    intro other different
    rw [applyDeferredIoCap_apps stored]
    exact OrderedDict.get?_set_of_ne _ _ different
  have force : (balancer.applyDeferredIoCap deferred
        outcome).manualBooks.force =
      balancer.manualBooks.force ∪
        {cap | Lands (deferredIoCall deferred outcome).2 cap} := by
    ext cap
    rw [mem_force, applyDeferredIoCap_kernel stored,
      inForce_writeAll_of_limiting (limiting_deferredIoCall _ _)]
    rfl
  have claims : ∀ cap, cap ∈ (balancer.applyDeferredIoCap deferred
          outcome).manualBooks.claims deferred.key ↔
        entry.source = .manual ∧ cap.cgroup ∈ entry.cgroups ∧
          (⟨entry.limitParts.cpuMemLimited,
            (deferredIoCall deferred outcome).1⟩ : LimitParts).of
              cap.channel = true := by
    intro cap
    rw [mem_claims, applyDeferredIoCap_apps stored, OrderedDict.get?_set_self]
    simp [ManualAnswers, LimitedApp.Lists, and_comm]
  have claimsBefore : ∀ cap, cap ∈ balancer.manualBooks.claims deferred.key ↔
      ManualAnswers entry cap := fun cap => mem_claims_of_some stored
  rw [changed.covered_iff covered force subset_rfl]
  simp only [claims]
  constructor
  · rintro ⟨answersNew, answersOld⟩
    constructor
    · intro cap lands
      rcases answersNew cap lands with new | elsewhere
      · rw [channel_of_lands_deferredIoCall lands] at new
        exact Or.inl ⟨new.2.2, new.1, new.2.1⟩
      · exact Or.inr elsewhere
    · intro refused cap channel inForce claimed
      rcases answersOld cap inForce claimed with new | elsewhere
      · rw [channel] at new
        exact absurd new.2.2 (by simp [LimitParts.of, refused])
      · exact elsewhere
  · intro keeps
    constructor
    · intro cap lands
      rcases keeps.landed cap lands with ⟨accepted, manual, listed⟩ | elsewhere
      · rw [channel_of_lands_deferredIoCall lands]
        exact Or.inl ⟨manual, listed, accepted⟩
      · exact Or.inr elsewhere
    · intro cap inForce claimed
      have answers := (claimsBefore cap).mp claimed
      cases channel : cap.channel with
      | sys =>
        have flag := answers.2.1
        rw [channel] at flag
        exact Or.inl ⟨answers.1, answers.2.2, flag⟩
      | diskIo =>
        cases accepted : (deferredIoCall deferred outcome).1 with
        | true => exact Or.inl ⟨answers.1, answers.2.2, rfl⟩
        | false =>
          exact Or.inr (keeps.refused accepted cap channel inForce claimed)

/-- Freezing changes neither a cap nor an answer. -/
theorem covered_setFreeze (covered : balancer.manualBooks.Covered)
    (appId : String) (freeze : Bool) (outcomes : SetFreezeOutcomes) :
    (balancer.setFreeze appId freeze outcomes).2.manualBooks.Covered := by
  have neutral := neutral_freezeEach freeze
  simp only [setFreeze]
  split
  · exact covered
  next key entry found =>
  split
  · exact covered
  split
  · split
    · refine covered.of_subset ?_ rfl
      intro cap inForce
      rw [mem_force, writes_kernel, inForce_writeAll_of_neutral
        (neutral_thawCgroups _ _), writes_kernel,
        inForce_writeAll_of_neutral (neutral _ _)] at inForce
      exact inForce
    · refine covered.of_subset ?_ rfl
      intro cap inForce
      rw [mem_force, writes_kernel,
        inForce_writeAll_of_neutral (neutral _ _)] at inForce
      exact inForce
  · have stored := (LimitRegistry.byPublicId_eq_some found).1
    simp only [modifyEntry, writes_allLimits, stored]
    refine covered.of_subset ?_ ?_
    · intro cap inForce
      rw [mem_force, withApps_kernel, writes_kernel,
        inForce_writeAll_of_neutral (neutral _ _)] at inForce
      exact inForce
    · funext other
      apply Set.ext
      intro cap
      rw [mem_claims, mem_claims, withApps_apps, OrderedDict.get?_set]
      split
      · next same =>
        rw [same, stored]
        simp [ManualAnswers, LimitedApp.Lists]
      · rfl

theorem covered_setRestoreResource_iff {appId : String} {key : CgroupId}
    (covered : balancer.manualBooks.Covered)
    (found : balancer.allLimits.byPublicId appId .manual = some (key, entry))
    (outcomes : ManualRestoreOutcomes) :
    (balancer.setRestoreResource appId outcomes).2.manualBooks.Covered ↔
      RestoreLiftsCaps balancer key entry outcomes := by
  have apps : (balancer.setRestoreResource appId outcomes).2.allLimits.apps =
      balancer.allLimits.apps.erase key := by
    simp [setRestoreResource, found, popManual, popEntry]
  have changed : Ledger.Reassigns key balancer.manualBooks
      (balancer.setRestoreResource appId outcomes).2.manualBooks := by
    apply reassigns
    intro other different
    rw [apps]
    exact OrderedDict.get?_erase_of_ne _ different
  have force : (balancer.setRestoreResource appId
        outcomes).2.manualBooks.force =
      {cap | balancer.kernel.InForce cap ∧
        ¬ Clears (manualRestoreWrites key entry outcomes) cap} ∪ ∅ := by
    ext cap
    rw [mem_force, Set.union_empty, Set.mem_ofPred_eq,
      ← inForce_writeAll_of_restoring
        (restoring_manualRestoreWrites key entry outcomes)]
    simp [setRestoreResource, found, popManual, popEntry, manualRestoreWrites]
  have forgotten : ∀ cap, cap ∉ (balancer.setRestoreResource appId
        outcomes).2.manualBooks.claims key := by
    intro cap
    apply not_mem_claims_of_none
    rw [apps]
    exact OrderedDict.get?_erase_self _ _
  rw [changed.covered_iff covered force fun cap kept => kept.1]
  constructor
  · rintro ⟨-, answersOld⟩ cap inForce claimed
    by_cases cleared : Clears (manualRestoreWrites key entry outcomes) cap
    · exact Or.inl cleared
    · exact Or.inr ((answersOld cap ⟨inForce, cleared⟩ claimed).resolve_left
        (forgotten cap))
  · intro lifts
    refine ⟨fun cap nothing => absurd nothing (Set.notMem_empty cap), ?_⟩
    intro cap kept claimed
    exact Or.inr ((lifts cap kept.1 claimed).resolve_left kept.2)

end Balancer

/-! ## Every history -/

namespace ManualSystem

open Balancer

theorem covered_step_iff {system : ManualSystem}
    (covered : system.balancer.manualBooks.Covered) (step : ManualStep) :
    (system.step step).balancer.manualBooks.Covered ↔
      system.KeepsCaps step := by
  cases step with
  | limit request outcomes =>
    simp only [ManualSystem.step, KeepsCaps]
    cases planned : system.balancer.installPlan request outcomes with
    | error reply => simp [installResourceLimit_refused planned, covered]
    | ok plan =>
      rw [covered_installResourceLimit_iff covered planned]
      simp
  | deferredIo position outcome =>
    simp only [ManualSystem.step, KeepsCaps]
    cases item : system.pending[position]? with
    | none => simp [covered]
    | some deferred =>
      cases stored :
          system.balancer.allLimits.apps.get? deferred.key with
      | none => simp [applyDeferredIoCap, stored, covered]
      | some entry =>
        simp [covered_applyDeferredIoCap_iff covered stored, stored]
  | freeze appId freeze outcomes =>
    simp [ManualSystem.step, KeepsCaps,
      covered_setFreeze covered appId freeze outcomes]
  | restore appId outcomes =>
    simp only [ManualSystem.step, KeepsCaps]
    cases found : system.balancer.allLimits.byPublicId appId .manual with
    | none => simp [setRestoreResource, found, covered]
    | some target =>
      obtain ⟨key, entry⟩ := target
      rw [covered_setRestoreResource_iff covered found]
      simp

/-- In every history whose steps keep their caps, a cap the manual path has in
force is listed by a manual entry with its channel flag set. -/
theorem manual_caps_listed {history : List ManualStep}
    (keeping : Runs.EveryStep step KeepsCaps initial history) (cap : Cap)
    (inForce : (Runs.run step initial history).balancer.kernel.InForce cap) :
    ∃ key entry,
      (Runs.run step initial history).balancer.allLimits.apps.get? key =
        some entry ∧
      entry.source = .manual ∧ cap.cgroup ∈ entry.cgroups ∧
      entry.limitParts.of cap.channel = true := by
  have covered : (Runs.run step initial history).balancer.manualBooks.Covered :=
    Runs.invariant_run (fun system => system.balancer.manualBooks.Covered)
      (fun _ label coveredBefore keeps =>
        (covered_step_iff coveredBefore label).mpr keeps)
      (covered_of_pristine rfl) keeping
  obtain ⟨key, entry, stored, manual, flag, listed⟩ := covered cap inForce
  exact ⟨key, entry, stored, manual, listed, flag⟩

/-- A policy that halves the CPU share and limits nothing else. -/
def halfCpuPolicy : LimitPolicy where
  cpu := ⟨true, fun _ => some (1 / 2)⟩
  memory := ⟨false, fun _ => none⟩
  diskIo := ⟨false, fun _ => none⟩

/-- An app busy in two cgroups, every write accepted. -/
def busyInTwoCgroups : InstallOutcomes where
  policy := some halfCpuPolicy
  usage := some
    { cgroupPaths := ["/app.slice/one.scope", "/app.slice/two.scope"]
      pids := [(100, "one.scope"), (200, "two.scope")]
      cpuPercent := 60
      memCurrent := 0
      memSwapCurrent := 0
      ioReadMb := 0
      ioWriteMb := 0
      ioReadIops := 0
      ioWriteIops := 0
      perCgroupMem := []
      perCgroupCpuDelta := [] }
  adjust := fun _ => .accepting
  io := fun _ => .accepting []
  now := 0

/-- A request for the app, on every cgroup or on the selected ones. -/
def limitApp (targetCgroups : List String) : ManualStep :=
  .limit ⟨"app", "App", some "low", none, targetCgroups⟩ busyInTwoCgroups

/-- Limiting the app on both cgroups and then on the first one alone leaves
the second cgroup capped and in no manual entry. -/
theorem relimit_on_subset_drops_cgroup :
    (Runs.run step initial
      [limitApp [], limitApp ["one.scope"]]).balancer.kernel.InForce
        (.cpuMem "two.scope") ∧
    ¬ ∃ key entry, (Runs.run step initial
        [limitApp [], limitApp ["one.scope"]]).balancer.allLimits.apps.get?
          key = some entry ∧
      entry.source = .manual ∧ "two.scope" ∈ entry.cgroups ∧
      entry.limitParts.of .sys = true := by
  refine ⟨by decide +kernel, ?_⟩
  rintro ⟨key, entry, stored, _, listed, _⟩
  have unlisted : ∀ app ∈ (Runs.run step initial [limitApp [],
      limitApp ["one.scope"]]).balancer.allLimits.apps.entries,
      "two.scope" ∉ app.2.cgroups := by decide +kernel
  exact unlisted _ ((OrderedDict.get?_eq_some_iff _ _ _).mp stored) listed

/-- Limited once on both cgroups, the second cgroup's cap is listed. -/
theorem manual_caps_listed_both_cgroups :
    ∃ key entry,
      (Runs.run step initial [limitApp []]).balancer.allLimits.apps.get? key =
        some entry ∧
      entry.source = .manual ∧ "two.scope" ∈ entry.cgroups ∧
      entry.limitParts.of .sys = true := by
  have keeping : Runs.EveryStep step KeepsCaps initial [limitApp []] := by
    refine ⟨?_, trivial⟩
    intro plan planned
    have planEq : initial.balancer.installPlan
        ⟨"app", "App", some "low", none, []⟩ busyInTwoCgroups =
      .ok
        { limitRates := ⟨some (some (1 / 2)), some none, some none⟩
          primary := "one.scope"
          extras := ["two.scope"]
          pids := [100, 200]
          cpuQuota := some 30
          memHigh := none
          ioRate := none
          peaks := ⟨60, 0, 0, 0, 0, 0, [], []⟩ } := by decide +kernel
    obtain rfl := Except.ok.inj (planned.symm.trans planEq)
    exact limitKeepsCaps_of_first rfl (fun _ => by decide +kernel)
      (fun _ => rfl)
  exact manual_caps_listed keeping (.cpuMem "two.scope") (by decide +kernel)

end ManualSystem

end SmarTune
