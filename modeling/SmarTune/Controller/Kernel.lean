import Mathlib.Data.Set.Basic
import Mathlib.Tactic.Tauto

/-!
# The cgroup settings the controllers write

The balancer never reads a cap back: it only writes cgroup files and remembers
what it wrote.  A controller call is therefore modelled by the list of writes
that reached the kernel together with the result the call reports, and the
kernel state is the fold of all writes.
-/

namespace SmarTune

/-- A cgroup, named by the basename of its directory. -/
abbrev CgroupId := String

/-- A physical disk, named as `lsblk` names it. -/
abbrev DiskName := String

/-- `cpu.max` and `memory.high` of one cgroup; `none` is `max`. -/
structure QuotaCap where
  cpuQuota : Option Int
  memHigh : Option Int
  deriving DecidableEq, Repr

/-- Neither resource is capped. -/
def QuotaCap.unlimited : QuotaCap := ⟨none, none⟩

/-- The four limits of one `io.max` line; `none` is `max`. -/
structure DiskLimits where
  rbps : Option Nat
  wbps : Option Nat
  riops : Option Nat
  wiops : Option Nat
  deriving DecidableEq, Repr

namespace DiskLimits

/-- No limit in any of the four fields. -/
def unlimited : DiskLimits := ⟨none, none, none, none⟩

/-- Overwrite the fields the newer line names. -/
def update (old new : DiskLimits) : DiskLimits where
  rbps := new.rbps.or old.rbps
  wbps := new.wbps.or old.wbps
  riops := new.riops.or old.riops
  wiops := new.wiops.or old.wiops

theorem update_eq_unlimited_iff (old new : DiskLimits) :
    old.update new = unlimited ↔ old = unlimited ∧ new = unlimited := by
  cases old
  cases new
  simp only [update, unlimited, mk.injEq, Option.or_eq_none_iff]
  grind

end DiskLimits

/-- The cgroup settings under SmarTune's control. -/
structure Kernel where
  quota : CgroupId → QuotaCap
  ioMax : CgroupId → DiskName → DiskLimits
  freeze : CgroupId → Bool

/-- A kernel on which SmarTune has written nothing. -/
def Kernel.pristine : Kernel where
  quota := fun _ => .unlimited
  ioMax := fun _ _ => .unlimited
  freeze := fun _ => false

/-- A place where a cap can be in force: the CPU/memory properties of a
cgroup, or its `io.max` line of one disk. -/
inductive Cap
  | cpuMem (cgroup : CgroupId)
  | io (cgroup : CgroupId) (disk : DiskName)
  deriving DecidableEq, Repr

def Cap.cgroup : Cap → CgroupId
  | .cpuMem cgroup => cgroup
  | .io cgroup _ => cgroup

def Kernel.InForce (kernel : Kernel) : Cap → Prop
  | .cpuMem cgroup => kernel.quota cgroup ≠ .unlimited
  | .io cgroup disk => kernel.ioMax cgroup disk ≠ .unlimited

instance (kernel : Kernel) : DecidablePred kernel.InForce
  | .cpuMem _ => inferInstanceAs (Decidable (_ ≠ _))
  | .io _ _ => inferInstanceAs (Decidable (_ ≠ _))

@[simp] theorem Kernel.not_inForce_pristine (cap : Cap) :
    ¬ Kernel.pristine.InForce cap := by
  cases cap <;> simp [InForce, pristine]

/-- One write that reached the kernel. -/
inductive KernelWrite
  | quota (cgroup : CgroupId) (cap : QuotaCap)
  | ioMax (cgroup : CgroupId) (disk : DiskName) (limits : DiskLimits)
  /-- The four fields were written as `max`, or `io.max` is gone. -/
  | ioCleared (cgroup : CgroupId) (disk : DiskName)
  | freeze (cgroup : CgroupId) (frozen : Bool)
  /-- The cgroup no longer exists; its settings went with it. -/
  | removed (cgroup : CgroupId)
  deriving DecidableEq, Repr

namespace KernelWrite

/-- The write puts a cap in force. -/
def Installs : KernelWrite → Cap → Prop
  | .quota cgroup cap, place => place = .cpuMem cgroup ∧ cap ≠ .unlimited
  | .ioMax cgroup disk limits, place =>
    place = .io cgroup disk ∧ limits ≠ .unlimited
  | .ioCleared _ _, _ => False
  | .freeze _ _, _ => False
  | .removed _, _ => False

def Lifts : KernelWrite → Cap → Prop
  | .quota cgroup cap, place => place = .cpuMem cgroup ∧ cap = .unlimited
  | .ioMax _ _ _, _ => False
  | .ioCleared cgroup disk, place => place = .io cgroup disk
  | .freeze _ _, _ => False
  | .removed cgroup, place => place.cgroup = cgroup

instance (write : KernelWrite) : DecidablePred write.Installs := by
  intro place
  cases write <;> unfold Installs <;> infer_instance

instance (write : KernelWrite) : DecidablePred write.Lifts := by
  intro place
  cases write <;> unfold Lifts <;> infer_instance

end KernelWrite

namespace Kernel

/-- The effect of one write. -/
def write (kernel : Kernel) : KernelWrite → Kernel
  | .quota cgroup cap =>
    { kernel with quota := fun other =>
        if other = cgroup then cap else kernel.quota other }
  | .ioMax cgroup disk limits =>
    { kernel with ioMax := fun other otherDisk =>
        if other = cgroup ∧ otherDisk = disk then
          (kernel.ioMax other otherDisk).update limits
        else kernel.ioMax other otherDisk }
  | .ioCleared cgroup disk =>
    { kernel with ioMax := fun other otherDisk =>
        if other = cgroup ∧ otherDisk = disk then .unlimited
        else kernel.ioMax other otherDisk }
  | .freeze cgroup frozen =>
    { kernel with freeze := fun other =>
        if other = cgroup then frozen else kernel.freeze other }
  | .removed cgroup =>
    { quota := fun other =>
        if other = cgroup then .unlimited else kernel.quota other
      ioMax := fun other disk =>
        if other = cgroup then .unlimited else kernel.ioMax other disk
      freeze := fun other =>
        if other = cgroup then false else kernel.freeze other }

theorem inForce_write (kernel : Kernel) (write : KernelWrite) (cap : Cap) :
    (kernel.write write).InForce cap ↔
      write.Installs cap ∨ (kernel.InForce cap ∧ ¬ write.Lifts cap) := by
  cases write with
  | quota cgroup quotaCap =>
    cases cap with
    | cpuMem other =>
      by_cases same : other = cgroup <;>
        simp [Kernel.write, InForce, KernelWrite.Installs,
          KernelWrite.Lifts, same]
    | io other disk =>
      simp [Kernel.write, InForce, KernelWrite.Installs, KernelWrite.Lifts]
  | ioMax cgroup disk limits =>
    cases cap with
    | cpuMem other =>
      simp [Kernel.write, InForce, KernelWrite.Installs, KernelWrite.Lifts]
    | io other otherDisk =>
      by_cases same : other = cgroup ∧ otherDisk = disk
      · obtain ⟨rfl, rfl⟩ := same
        simp only [Kernel.write, InForce, KernelWrite.Installs,
          KernelWrite.Lifts, and_self, if_true, ne_eq,
          DiskLimits.update_eq_unlimited_iff, true_and, not_false_eq_true,
          and_true]
        tauto
      · simp only [Kernel.write, InForce, KernelWrite.Installs,
          KernelWrite.Lifts, Cap.io.injEq, same, if_false, false_and,
          not_false_eq_true, and_true, false_or]
  | ioCleared cgroup disk =>
    cases cap with
    | cpuMem other =>
      simp [Kernel.write, InForce, KernelWrite.Installs, KernelWrite.Lifts]
    | io other otherDisk =>
      by_cases same : other = cgroup ∧ otherDisk = disk <;>
        simp [Kernel.write, InForce, KernelWrite.Installs,
          KernelWrite.Lifts, same]
  | freeze cgroup frozen =>
    cases cap <;>
      simp [Kernel.write, InForce, KernelWrite.Installs, KernelWrite.Lifts]
  | removed cgroup =>
    cases cap with
    | cpuMem other =>
      by_cases same : other = cgroup <;>
        simp [Kernel.write, InForce, KernelWrite.Installs,
          KernelWrite.Lifts, Cap.cgroup, same]
    | io other disk =>
      by_cases same : other = cgroup <;>
        simp [Kernel.write, InForce, KernelWrite.Installs,
          KernelWrite.Lifts, Cap.cgroup, same]

/-- The effect of a list of writes, in order. -/
def writeAll (kernel : Kernel) (writes : List KernelWrite) : Kernel :=
  writes.foldl write kernel

@[simp] theorem writeAll_nil (kernel : Kernel) : kernel.writeAll [] = kernel :=
  rfl

@[simp] theorem writeAll_cons (kernel : Kernel) (head : KernelWrite)
    (tail : List KernelWrite) :
    kernel.writeAll (head :: tail) = (kernel.write head).writeAll tail := rfl

theorem writeAll_append (kernel : Kernel) (first second : List KernelWrite) :
    kernel.writeAll (first ++ second) =
      (kernel.writeAll first).writeAll second :=
  List.foldl_append

theorem inForce_writeAll_of_no_lifts {writes : List KernelWrite}
    (noLifts : ∀ write ∈ writes, ∀ cap, ¬ write.Lifts cap) (kernel : Kernel)
    (cap : Cap) :
    (kernel.writeAll writes).InForce cap ↔
      kernel.InForce cap ∨ ∃ write ∈ writes, write.Installs cap := by
  induction writes generalizing kernel with
  | nil => simp
  | cons head tail ih =>
    have headLifts := noLifts head List.mem_cons_self cap
    rw [writeAll_cons, ih fun write member =>
      noLifts write (List.mem_cons_of_mem head member), inForce_write]
    simp only [List.mem_cons, exists_eq_or_imp, headLifts, not_false_eq_true,
      and_true]
    tauto

theorem inForce_writeAll_of_no_installs {writes : List KernelWrite}
    (noInstalls : ∀ write ∈ writes, ∀ cap, ¬ write.Installs cap)
    (kernel : Kernel) (cap : Cap) :
    (kernel.writeAll writes).InForce cap ↔
      kernel.InForce cap ∧ ∀ write ∈ writes, ¬ write.Lifts cap := by
  induction writes generalizing kernel with
  | nil => simp
  | cons head tail ih =>
    have headInstalls := noInstalls head List.mem_cons_self cap
    rw [writeAll_cons, ih fun write member =>
      noInstalls write (List.mem_cons_of_mem head member), inForce_write]
    simp only [List.mem_cons, forall_eq_or_imp, headInstalls, false_or]
    tauto

end Kernel

end SmarTune
