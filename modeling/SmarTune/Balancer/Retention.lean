import SmarTune.Balancer.ManualBooks
import SmarTune.Balancer.Operations

/-!
# What a failed restore leaves to retry

A restore path takes caps off the cgroups of an entry and forgets the entry, or
one of its channels.  A cap that could not be lifted can only be retried while
some entry still claims its channel for its cgroup.  The theorem says, path by
path, when that is so.
-/

namespace SmarTune

/-- The restore paths, each with the answers of the environment. -/
inductive RestorePath
  | manual (appId : String) (outcomes : Balancer.ManualRestoreOutcomes)
  | reaper (closed : CgroupId → Bool)
      (outcomes : CgroupId → Balancer.EntryOutcomes)
  | user (appId : String) (exclude : Bool) (outcomes : Balancer.EntryOutcomes)
      (now : ℚ)
  | staged (channel : Channel) (restoreType : RestoreType)
      (outcomes : RestoreOutcomes)

namespace Balancer

/-- A staged restore no other thread interferes with. -/
def undisturbed (outcomes : RestoreOutcomes) : ChannelStep :=
  ⟨outcomes, none, false⟩

/-- The state a restore path leaves. -/
def restored (balancer : Balancer) : RestorePath → Balancer
  | .manual appId outcomes => (balancer.setRestoreResource appId outcomes).2
  | .reaper closed outcomes => balancer.reapClosedApps closed outcomes
  | .user appId exclude outcomes now =>
    (balancer.restoreAutoLimited appId exclude outcomes now).2
  | .staged channel restoreType outcomes =>
    (balancer.restoreChannel channel restoreType (undisturbed outcomes)).2

def RestoreTarget (balancer : Balancer) (key : CgroupId)
    (entry : LimitedApp) : RestorePath → Prop
  | .manual appId _ =>
    balancer.allLimits.byPublicId appId .manual = some (key, entry)
  | .reaper closed _ =>
    balancer.allLimits.apps.get? key = some entry ∧ closed key = true
  | .user appId _ _ _ => balancer.findAuto appId = some (key, entry)
  | .staged channel restoreType _ =>
    balancer.allLimits.firstAutoWithPart channel (restoreType = .partially) =
      some (key, entry)

/-- A cap of a restored entry that is still in force afterwards is claimed by
an entry of the registry. -/
def Retains (balancer : Balancer) (path : RestorePath) : Prop :=
  ∀ key entry, balancer.RestoreTarget key entry path →
    ∀ cap, entry.Lists cap → balancer.kernel.InForce cap →
      (balancer.restored path).kernel.InForce cap →
      ((balancer.restored path).books LimitedApp.Lists).Claimed cap

/-- Each cap in force of the entry is lifted by the writes, or claimed by an
entry under another key. -/
def LiftsOrShares (balancer : Balancer) (key : CgroupId) (entry : LimitedApp)
    (writes : List KernelWrite) : Prop :=
  ∀ cap, balancer.kernel.InForce cap → entry.Lists cap →
    Clears writes cap ∨ (balancer.books LimitedApp.Lists).Elsewhere key cap

/-- The writes of the reaper: those of every entry it forgot. -/
def reaperWrites (balancer : Balancer) (closed : CgroupId → Bool)
    (outcomes : CgroupId → EntryOutcomes) : List KernelWrite :=
  (balancer.popAllClosed closed).1.flatMap fun app =>
    restoreEntryWrites app.2 (outcomes app.1)

/-- When a restore path loses no live cap, read off the state before it and
the answers of the environment. -/
def LosesNothing (balancer : Balancer) : RestorePath → Prop
  | .manual appId outcomes =>
    ∀ key entry,
      balancer.allLimits.byPublicId appId .manual = some (key, entry) →
      balancer.LiftsOrShares key entry (manualRestoreWrites key entry outcomes)
  | .reaper closed outcomes =>
    ∀ key entry, balancer.allLimits.apps.get? key = some entry →
      closed key = true →
      ∀ cap, balancer.kernel.InForce cap → entry.Lists cap →
        Clears (balancer.reaperWrites closed outcomes) cap ∨
        ∃ other remaining, closed other = false ∧
          balancer.allLimits.apps.get? other = some remaining ∧
          remaining.Lists cap
  | .user appId _ outcomes _ =>
    ∀ key entry, balancer.findAuto appId = some (key, entry) →
      restoreEntryResult entry outcomes = true →
      balancer.LiftsOrShares key entry (restoreEntryWrites entry outcomes)
  | .staged _ .partially _ => True
  | .staged channel .full outcomes =>
    ∀ key entry, balancer.allLimits.firstAutoWithPart channel false =
        some (key, entry) →
      balancer.lifts key entry channel outcomes = true →
      ∀ cap, cap.channel = channel → balancer.kernel.InForce cap →
        entry.Lists cap →
        Clears (balancer.fullRestoreCall key entry channel outcomes).2 cap ∨
        (balancer.books LimitedApp.Lists).Elsewhere key cap

/-! ## Paths that restore one entry -/

section OneEntry

variable {before after : Balancer} {key : CgroupId} {entry : LimitedApp}

theorem retained_iff {writes : List KernelWrite} {left : Option LimitedApp}
    (kernel : after.kernel = before.kernel.writeAll writes)
    (restoring : Restoring writes)
    (lookup : ∀ other, after.allLimits.apps.get? other =
      if other = key then left else before.allLimits.apps.get? other) :
    (∀ cap, entry.Lists cap → before.kernel.InForce cap →
      after.kernel.InForce cap →
      (after.books LimitedApp.Lists).Claimed cap) ↔
    ∀ cap, before.kernel.InForce cap → entry.Lists cap →
      Clears writes cap ∨ (∃ new, left = some new ∧ new.Lists cap) ∨
        (before.books LimitedApp.Lists).Elsewhere key cap := by
  have changed : Ledger.Reassigns key (before.books LimitedApp.Lists)
      (after.books LimitedApp.Lists) := by
    apply reassigns
    intro other different
    rw [lookup, if_neg different]
  have claims : ∀ cap, cap ∈ (after.books LimitedApp.Lists).claims key ↔
      ∃ new, left = some new ∧ new.Lists cap := by
    intro cap
    rw [mem_claims, lookup, if_pos rfl]
  have force : ∀ cap, after.kernel.InForce cap ↔
      before.kernel.InForce cap ∧ ¬ Clears writes cap := by
    intro cap
    rw [kernel, inForce_writeAll_of_restoring restoring]
  constructor
  · intro retains cap inForce lists
    by_cases cleared : Clears writes cap
    · exact Or.inl cleared
    · right
      have claimed := retains cap lists inForce
        ((force cap).mpr ⟨inForce, cleared⟩)
      rwa [changed.claimed_iff, claims] at claimed
  · intro condition cap lists inForce live
    rw [changed.claimed_iff, claims]
    exact (condition cap inForce lists).resolve_left ((force cap).mp live).2

/-- A path that forgets the entry. -/
theorem retained_iff_of_forgotten {writes : List KernelWrite}
    (kernel : after.kernel = before.kernel.writeAll writes)
    (restoring : Restoring writes)
    (lookup : ∀ other, after.allLimits.apps.get? other =
      if other = key then none else before.allLimits.apps.get? other) :
    (∀ cap, entry.Lists cap → before.kernel.InForce cap →
      after.kernel.InForce cap →
      (after.books LimitedApp.Lists).Claimed cap) ↔
    before.LiftsOrShares key entry writes := by
  rw [retained_iff kernel restoring lookup]
  simp [LiftsOrShares]

/-- A path that keeps the entry's cgroups and flags loses nothing. -/
theorem retained_of_kept {kept : LimitedApp}
    (stored : after.allLimits.apps.get? key = some kept)
    (parts : kept.limitParts = entry.limitParts)
    (cgroups : kept.cgroups = entry.cgroups) {cap : Cap}
    (lists : entry.Lists cap) :
    (after.books LimitedApp.Lists).Claimed cap := by
  refine ⟨key, kept, stored, ?_⟩
  rwa [LimitedApp.Lists, parts, cgroups]

end OneEntry

/-! ## Restoring removed entries -/

section RemovedEntries

variable (balancer : Balancer) (entry : LimitedApp)

theorem restoring_restoreEntryRound (outcomes : EntryOutcomes) (position : Nat)
    (cgroup : CgroupId) :
    Restoring (restoreEntryRound entry outcomes position cgroup) := by
  unfold restoreEntryRound
  split
  · simp [Restoring, KernelWrite.Installs]
  refine Restoring.append ?_ ?_
  · split
    · rw [adjustResources_low]
      cases (outcomes.adjust position).setProperty <;>
        simp [Restoring, KernelWrite.Installs]
    · exact restoring_nil
  · split
    · intro write member cap
      obtain ⟨disk, _, rfl⟩ := restoreDiskIoThrottle_writes member
      exact id
    · exact restoring_nil

theorem restoring_restoreEntryWrites (outcomes : EntryOutcomes) :
    Restoring (restoreEntryWrites entry outcomes) := by
  unfold restoreEntryWrites
  refine Restoring.append ?_ ?_
  · intro write member
    obtain ⟨target, _, written⟩ := List.mem_flatMap.mp member
    exact restoring_restoreEntryRound entry outcomes _ _ write written
  · split
    · exact restoring_of_neutral (neutral_thawCgroups _ _)
    · exact restoring_nil

@[simp] theorem restoreEntry_result (outcomes : EntryOutcomes) :
    (balancer.restoreEntry entry outcomes).1 =
      restoreEntryResult entry outcomes := rfl

@[simp] theorem restoreEntry_kernel (outcomes : EntryOutcomes) :
    (balancer.restoreEntry entry outcomes).2.kernel =
      balancer.kernel.writeAll (restoreEntryWrites entry outcomes) := by
  simp [restoreEntry]

@[simp] theorem restoreEntry_allLimits (outcomes : EntryOutcomes) :
    (balancer.restoreEntry entry outcomes).2.allLimits =
      balancer.allLimits := by
  simp [restoreEntry]

/-- Restoring forgotten entries one by one performs their writes and leaves
the registry alone. -/
theorem foldl_restoreEntry (gone : List (CgroupId × LimitedApp))
    (outcomes : CgroupId → EntryOutcomes) :
    let after := gone.foldl
      (fun balancer app => (balancer.restoreEntry app.2 (outcomes app.1)).2)
      balancer
    after.kernel = balancer.kernel.writeAll (gone.flatMap fun app =>
      restoreEntryWrites app.2 (outcomes app.1)) ∧
    after.allLimits = balancer.allLimits := by
  induction gone generalizing balancer with
  | nil => exact ⟨rfl, rfl⟩
  | cons app gone ih =>
    have rest := ih (balancer.restoreEntry app.2 (outcomes app.1)).2
    simp only [restoreEntry_kernel, restoreEntry_allLimits] at rest
    rw [List.flatMap_cons, Kernel.writeAll_append]
    exact rest

variable (closed : CgroupId → Bool) (outcomes : CgroupId → EntryOutcomes)

theorem restoring_reaperWrites :
    Restoring (balancer.reaperWrites closed outcomes) := by
  intro write member
  obtain ⟨app, _, written⟩ := List.mem_flatMap.mp member
  exact restoring_restoreEntryWrites app.2 (outcomes app.1) write written

@[simp] theorem reapClosedApps_kernel :
    (balancer.reapClosedApps closed outcomes).kernel =
      balancer.kernel.writeAll (balancer.reaperWrites closed outcomes) := by
  have restoring := (balancer.popAllClosed closed).2.foldl_restoreEntry
    (balancer.popAllClosed closed).1 outcomes
  rw [popAllClosed_kernel] at restoring
  exact restoring.1

/-- The reaper forgets the entries of closed apps and no other. -/
@[simp] theorem reapClosedApps_get? (other : CgroupId) :
    (balancer.reapClosedApps closed outcomes).allLimits.apps.get? other =
      if closed other then none else balancer.allLimits.apps.get? other := by
  have restoring := (balancer.popAllClosed closed).2.foldl_restoreEntry
    (balancer.popAllClosed closed).1 outcomes
  rw [← popAllClosed_get?]
  exact congrArg (fun limits => limits.apps.get? other) restoring.2

end RemovedEntries

/-! ## Each path -/

section Paths

variable {balancer : Balancer}

/-- The target of a user's request is a stored auto entry. -/
theorem findAuto_eq_some {appId : String} {key : CgroupId} {entry : LimitedApp}
    (found : balancer.findAuto appId = some (key, entry)) :
    balancer.allLimits.apps.get? key = some entry ∧ entry.source = .auto := by
  rcases Option.or_eq_some_iff.mp found with named | ⟨_, answered⟩
  · have stored := LimitRegistry.byPublicId_eq_some named
    exact ⟨stored.1, stored.2.1⟩
  · have stored := LimitRegistry.byAnyId_eq_some answered
    exact ⟨stored.1, stored.2.1⟩

section UserRestore

variable {appId : String} {key : CgroupId} {entry : LimitedApp}
  {outcomes : EntryOutcomes} {exclude : Bool} {now : ℚ}

theorem restoreAutoLimited_of_succeeded
    (found : balancer.findAuto appId = some (key, entry))
    (succeeded : restoreEntryResult entry outcomes = true) :
    balancer.restoreAutoLimited appId exclude outcomes now =
      (true, (balancer.restoreEntry entry outcomes).2.forgetRestored key entry
        exclude now) := by
  simp [restoreAutoLimited, found, succeeded]

theorem restoreAutoLimited_of_failed
    (found : balancer.findAuto appId = some (key, entry))
    (failed : restoreEntryResult entry outcomes = false) :
    balancer.restoreAutoLimited appId exclude outcomes now =
      (false, (balancer.restoreEntry entry outcomes).2) := by
  simp [restoreAutoLimited, found, failed]

end UserRestore

theorem RestoreTarget.stored {key : CgroupId} {entry : LimitedApp}
    {path : RestorePath} (target : balancer.RestoreTarget key entry path) :
    balancer.allLimits.apps.get? key = some entry := by
  cases path with
  | manual => exact (LimitRegistry.byPublicId_eq_some target).1
  | reaper => exact target.1
  | user => exact (findAuto_eq_some target).1
  | staged => exact (LimitRegistry.firstAutoWithPart_eq_some target).1

theorem manual_retains_iff (appId : String) (outcomes : ManualRestoreOutcomes) :
    Retains balancer (.manual appId outcomes) ↔
      LosesNothing balancer (.manual appId outcomes) := by
  refine forall_congr' fun key => forall_congr' fun entry =>
    imp_congr_right fun found => ?_
  simp only [RestoreTarget] at found
  have result : balancer.restored (.manual appId outcomes) =
      (balancer.setRestoreResource appId outcomes).2 := rfl
  rw [result]
  apply retained_iff_of_forgotten
  · simp [setRestoreResource, found, manualRestoreWrites]
  · exact restoring_manualRestoreWrites key entry outcomes
  · intro other
    simp [setRestoreResource, found]

theorem reaper_retains_iff (closed : CgroupId → Bool)
    (outcomes : CgroupId → EntryOutcomes) :
    Retains balancer (.reaper closed outcomes) ↔
      LosesNothing balancer (.reaper closed outcomes) := by
  have result : balancer.restored (.reaper closed outcomes) =
      balancer.reapClosedApps closed outcomes := rfl
  have force : ∀ cap,
      (balancer.reapClosedApps closed outcomes).kernel.InForce cap ↔
        balancer.kernel.InForce cap ∧
          ¬ Clears (balancer.reaperWrites closed outcomes) cap := by
    intro cap
    rw [reapClosedApps_kernel, inForce_writeAll_of_restoring
        (restoring_reaperWrites balancer closed outcomes)]
  have claimed : ∀ cap, ((balancer.reapClosedApps closed outcomes).books
        LimitedApp.Lists).Claimed cap ↔
      ∃ other remaining, closed other = false ∧
        balancer.allLimits.apps.get? other = some remaining ∧
        remaining.Lists cap := by
    intro cap
    apply exists_congr
    intro other
    rw [mem_claims, reapClosedApps_get?]
    cases closed other <;> simp
  constructor
  · intro retains key entry stored isClosed cap inForce lists
    by_cases cleared : Clears (balancer.reaperWrites closed outcomes) cap
    · exact Or.inl cleared
    · right
      rw [← claimed]
      exact retains key entry ⟨stored, isClosed⟩ cap lists inForce
        ((force cap).mpr ⟨inForce, cleared⟩)
  · intro condition key entry target cap lists inForce live
    rw [result, claimed]
    exact (condition key entry target.1 target.2 cap inForce
      lists).resolve_left ((force cap).mp live).2

theorem user_retains_iff (appId : String) (exclude : Bool)
    (outcomes : EntryOutcomes) (now : ℚ) :
    Retains balancer (.user appId exclude outcomes now) ↔
      LosesNothing balancer (.user appId exclude outcomes now) := by
  refine forall_congr' fun key => forall_congr' fun entry =>
    imp_congr_right fun found => ?_
  simp only [RestoreTarget] at found
  have result : balancer.restored (.user appId exclude outcomes now) =
      (balancer.restoreAutoLimited appId exclude outcomes now).2 := rfl
  rw [result]
  cases succeeded : restoreEntryResult entry outcomes with
  | false =>
    simp only [Bool.false_eq_true, false_implies, iff_true]
    rw [restoreAutoLimited_of_failed found succeeded]
    intro cap lists _ _
    have kept : (balancer.restoreEntry entry
        outcomes).2.allLimits.apps.get? key = some entry := by
      simp [(findAuto_eq_some found).1]
    exact retained_of_kept kept rfl rfl lists
  | true =>
    simp only [true_implies]
    rw [restoreAutoLimited_of_succeeded found succeeded]
    apply retained_iff_of_forgotten
    · cases exclude <;> simp [forgetRestored]
    · exact restoring_restoreEntryWrites entry outcomes
    · intro other
      cases exclude <;> simp [forgetRestored]

theorem staged_partially_retains (channel : Channel)
    (outcomes : RestoreOutcomes) :
    Retains balancer (.staged channel .partially outcomes) := by
  intro key entry found cap lists _ _
  simp only [RestoreTarget, decide_true] at found
  have stored := (LimitRegistry.firstAutoWithPart_eq_some found).1
  have result : balancer.restored (.staged channel .partially outcomes) =
      (balancer.restoreChannelFor key entry channel .partially outcomes
        none).2 := by
    simp [restored, restoreChannel, undisturbed, found]
  rw [result]
  have kept := restoreChannelFor_partially_get? stored channel outcomes key
  rw [if_pos rfl] at kept
  apply retained_of_kept kept _ _ lists <;>
    unfold afterPartialRestore <;> split <;> rfl

theorem lists_afterFullRestore_iff {key : CgroupId} {entry : LimitedApp}
    {channel : Channel} {outcomes : RestoreOutcomes} {cap : Cap}
    (carries : entry.limitParts.of channel = true) (lists : entry.Lists cap) :
    (∃ left, balancer.afterFullRestore key entry channel outcomes =
        some left ∧ left.Lists cap) ↔
      ¬ (cap.channel = channel ∧
        balancer.lifts key entry channel outcomes = true) := by
  obtain ⟨flag, listed⟩ := lists
  have capped : entry.limitParts.any = true := by
    cases channel <;> simp_all [LimitParts.of, LimitParts.any]
  simp only [afterFullRestore]
  cases accepted : (balancer.fullRestoreCall key entry channel outcomes).1 with
  | false => simp [lifts, accepted, LimitedApp.Lists, flag, listed]
  | true =>
    cases lifted : balancer.lifts key entry channel outcomes with
    | false => simp [capped, LimitedApp.Lists, flag, listed]
    | true =>
      cases channel <;> cases belongs : cap.channel <;> rw [belongs] at flag <;>
        simp_all [LimitedApp.Lists, LimitedApp.clearPart, LimitParts.of,
          LimitParts.any]

theorem staged_full_retains_iff (channel : Channel)
    (outcomes : RestoreOutcomes) :
    Retains balancer (.staged channel .full outcomes) ↔
      LosesNothing balancer (.staged channel .full outcomes) := by
  refine forall_congr' fun key => forall_congr' fun entry =>
    imp_congr_right fun found => ?_
  simp only [RestoreTarget, reduceCtorEq, decide_false] at found
  obtain ⟨stored, _, carries, _⟩ :=
    LimitRegistry.firstAutoWithPart_eq_some found
  have result : balancer.restored (.staged channel .full outcomes) =
      (balancer.restoreChannelFor key entry channel .full outcomes none).2 := by
    simp [restored, restoreChannel, undisturbed, found]
  rw [result, retained_iff
    (restoreChannelFor_full_kernel stored channel outcomes)
    (restoring_fullRestoreCall channel outcomes)
    (restoreChannelFor_full_get? stored channel outcomes)]
  constructor
  · intro condition lifted cap belongs inForce lists
    rcases condition cap inForce lists with cleared | left | elsewhere
    · exact Or.inl cleared
    · rw [lists_afterFullRestore_iff carries lists] at left
      exact absurd ⟨belongs, lifted⟩ left
    · exact Or.inr elsewhere
  · intro condition cap inForce lists
    by_cases lost : cap.channel = channel ∧
        balancer.lifts key entry channel outcomes = true
    · exact (condition lost.2 cap lost.1 inForce lists).imp_right Or.inr
    · exact Or.inr (Or.inl
        ((lists_afterFullRestore_iff carries lists).mpr lost))

/-- An app under a manual CPU limit in one cgroup. -/
def manuallyLimited : Balancer :=
  (initial.installResourceLimit ⟨"app", "App", some "low", none, ["one.scope"]⟩
    ManualSystem.busyInTwoCgroups).2.2

/-- `systemctl` refuses every write of a manual restore. -/
def refusesRestore : ManualRestoreOutcomes where
  adjust := fun _ => ⟨true, false⟩
  io := fun _ => .accepting []
  thaw := fun _ => .accepting

end Paths

end Balancer

end SmarTune
