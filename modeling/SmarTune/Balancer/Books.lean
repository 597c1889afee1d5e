import SmarTune.Library.Ledger
import SmarTune.Balancer.Manual

/-!
# The books of the balancer

What the registry is for: every cap SmarTune has in force is answered for by an
entry, so that restoring the entries lifts every cap.  An entry answers for a
cap by its flag of the channel, its cgroups and, where the restore filters
disks, its disk list.
-/

namespace SmarTune

def Cap.channel : Cap → Channel
  | .cpuMem _ => .sys
  | .io _ _ => .diskIo

def Cap.OnDisks (disks : List DiskName) : Cap → Prop
  | .cpuMem _ => True
  | .io _ disk => diskMatches disks disk = true

instance (disks : List DiskName) : DecidablePred (Cap.OnDisks disks)
  | .cpuMem _ => .isTrue trivial
  | .io _ disk => inferInstanceAs (Decidable (diskMatches disks disk = true))

theorem Cap.onDisks_congr {first second : List DiskName}
    (same : ∀ disk, disk ∈ first ↔ disk ∈ second) (cap : Cap) :
    cap.OnDisks first ↔ cap.OnDisks second := by
  cases cap with
  | cpuMem cgroup => rfl
  | io cgroup disk =>
    have empty : first.isEmpty = second.isEmpty := by
      rw [Bool.eq_iff_iff, List.isEmpty_iff, List.isEmpty_iff,
        List.eq_nil_iff_forall_not_mem, List.eq_nil_iff_forall_not_mem]
      simp only [same]
    simp only [OnDisks, diskMatches, empty, Bool.or_eq_true, List.any_eq_true,
      same]

namespace LimitedApp

/-- The entry lists the cap's cgroup and has its channel flag set. -/
def Lists (entry : LimitedApp) (cap : Cap) : Prop :=
  entry.limitParts.of cap.channel = true ∧ cap.cgroup ∈ entry.cgroups

/-- The entry lists the cap and denotes its disk. -/
def Covers (entry : LimitedApp) (cap : Cap) : Prop :=
  entry.Lists cap ∧ cap.OnDisks entry.limitDisks

instance (entry : LimitedApp) : DecidablePred entry.Lists :=
  fun _ => inferInstanceAs (Decidable (_ ∧ _))

instance (entry : LimitedApp) : DecidablePred entry.Covers :=
  fun _ => inferInstanceAs (Decidable (_ ∧ _))

end LimitedApp

namespace Balancer

/-- The caps in force and the entries that answer for them. -/
def books (answers : LimitedApp → Cap → Prop)
    (balancer : Balancer) : Ledger CgroupId Cap where
  force := {cap | balancer.kernel.InForce cap}
  claims key := {cap | ∃ entry, balancer.allLimits.apps.get? key = some entry ∧
    answers entry cap}

/-- The books where what an entry answers for also depends on its key. -/
def keyedBooks (answers : CgroupId → LimitedApp → Cap → Prop)
    (balancer : Balancer) : Ledger CgroupId Cap where
  force := {cap | balancer.kernel.InForce cap}
  claims key := {cap | ∃ entry, balancer.allLimits.apps.get? key = some entry ∧
    answers key entry cap}

def ManualAnswers (entry : LimitedApp) (cap : Cap) : Prop :=
  entry.source = .manual ∧ entry.Lists cap

def AutoAnswers (entry : LimitedApp) (cap : Cap) : Prop :=
  entry.source = .auto ∧ entry.Covers cap

instance (entry : LimitedApp) : DecidablePred (ManualAnswers entry) :=
  fun _ => inferInstanceAs (Decidable (_ ∧ _))

instance (entry : LimitedApp) : DecidablePred (AutoAnswers entry) :=
  fun _ => inferInstanceAs (Decidable (_ ∧ _))

section

variable {answers : LimitedApp → Cap → Prop} {before after : Balancer}
  {key : CgroupId} {cap : Cap}

theorem mem_force :
    cap ∈ (before.books answers).force ↔ before.kernel.InForce cap := Iff.rfl

theorem mem_claims :
    cap ∈ (before.books answers).claims key ↔
      ∃ entry, before.allLimits.apps.get? key = some entry ∧
        answers entry cap := Iff.rfl

theorem mem_keyedClaims {keyed : CgroupId → LimitedApp → Cap → Prop} :
    cap ∈ (before.keyedBooks keyed).claims key ↔
      ∃ entry, before.allLimits.apps.get? key = some entry ∧
        keyed key entry cap := Iff.rfl

theorem mem_claims_of_some {entry : LimitedApp}
    (stored : before.allLimits.apps.get? key = some entry) :
    cap ∈ (before.books answers).claims key ↔ answers entry cap := by
  rw [mem_claims, stored]
  simp

theorem not_mem_claims_of_none
    (absent : before.allLimits.apps.get? key = none) :
    cap ∉ (before.books answers).claims key := by
  rw [mem_claims, absent]
  simp

theorem not_claimed_of_entries
    (unanswered : ∀ app ∈ before.allLimits.apps.entries, ¬ answers app.2 cap) :
    ¬ (before.books answers).Claimed cap := by
  rintro ⟨key, entry, stored, answered⟩
  have member := (OrderedDict.get?_eq_some_iff _ _ _).mp stored
  exact unanswered _ member answered

/-- The claims only depend on what the registry stores under the keys. -/
theorem keyedClaims_congr {keyed : CgroupId → LimitedApp → Cap → Prop}
    (same : ∀ other,
      after.allLimits.apps.get? other = before.allLimits.apps.get? other) :
    (after.keyedBooks keyed).claims = (before.keyedBooks keyed).claims := by
  funext other
  simp only [keyedBooks, same]

theorem keyedReassigns {keyed : CgroupId → LimitedApp → Cap → Prop}
    (same : ∀ other, other ≠ key →
      after.allLimits.apps.get? other = before.allLimits.apps.get? other) :
    Ledger.Reassigns key (before.keyedBooks keyed) (after.keyedBooks keyed) where
  others := by
    intro other different
    simp only [keyedBooks, same other different]

theorem reassigns
    (same : ∀ other, other ≠ key →
      after.allLimits.apps.get? other = before.allLimits.apps.get? other) :
    Ledger.Reassigns key (before.books answers) (after.books answers) :=
  keyedReassigns same

theorem covered_of_pristine (pristine : before.kernel = .pristine) :
    (before.books answers).Covered := by
  intro item inForce
  rw [mem_force, pristine] at inForce
  exact absurd inForce (Kernel.not_inForce_pristine item)

end

end Balancer

end SmarTune
