import SmarTune.Affinity.CpuList
import SmarTune.Balancer.Apply

/-!
# The CPU controller

`CPUController` pins cgroups to CPUs through `cpuset.cpus` and remembers, for
each directory, the value it found and the value it wrote.  The kernel holds a
set of CPUs in each file and shows it as a list.  The directories are resolved
paths; the set the parent of each allows does not change.
-/

namespace SmarTune

/-! ## Requests -/

/-- `detect_core_groups`. -/
structure CoreGroups where
  pCores : List Nat
  eCores : List Nat
  lpeCores : List Nat

/-- `core_class_options`. -/
def coreClassOptions (groups : CoreGroups) : List (String × List Nat) :=
  [("p", groups.pCores), ("e", groups.eCores), ("lpe", groups.lpeCores)].filter
    fun option => option.2 ≠ []

/-- Why `resolve_cpus` refuses a request. -/
inductive CpuRefusal
  | invalid (error : CpuListError)
  | emptyCustom
  | offline (cpus : Finset Nat)
  | noSuchCores (cpuClass : String) (available : List String)
  | unknownClass (cpuClass : String)

/-- `resolve_cpus`. -/
def resolveCpus (cpuClass : String) (cpus : Option String) (groups : CoreGroups)
    (online : Finset Nat) : Except CpuRefusal String :=
  let cpuClass := lowerCase cpuClass
  if cpuClass = "custom" then
    match parseCpuList (cpus.getD "") with
    | .error error => .error (.invalid error)
    | .ok wanted =>
      if wanted = ∅ then .error .emptyCustom
      else if wanted \ online ≠ ∅ then .error (.offline (wanted \ online))
      else .ok (formatCpuList wanted)
  else if cpuClass ∈ ["p", "e", "lpe"] then
    match (coreClassOptions groups).find? (·.1 = cpuClass) with
    | none => .error (.noSuchCores cpuClass
        ((coreClassOptions groups).map Prod.fst))
    | some option => .ok (formatCpuList option.2.toFinset)
  else .error (.unknownClass cpuClass)

/-- A CPU list that reads as a set. -/
structure CpuList where
  text : String
  cpus : Finset Nat
  parses : parseCpuList text = .ok cpus

theorem parses_of_resolveCpus {cpuClass : String} {cpus : Option String}
    {groups : CoreGroups} {online : Finset Nat} {value : String}
    (resolved : resolveCpus cpuClass cpus groups online = .ok value) :
    ∃ set, parseCpuList value = .ok set := by
  have formatted : ∃ set, value = formatCpuList set := by
    unfold resolveCpus at resolved
    simp only at resolved
    split at resolved
    · split at resolved
      · cases resolved
      · next wanted _ =>
        split at resolved
        · cases resolved
        split at resolved
        · cases resolved
        · exact ⟨wanted, (Except.ok.inj resolved).symm⟩
    split at resolved
    · split at resolved
      · cases resolved
      · next option _ =>
        exact ⟨option.2.toFinset, (Except.ok.inj resolved).symm⟩
    · cases resolved
  obtain ⟨set, rfl⟩ := formatted
  exact ⟨set, parseCpuList_formatCpuList set⟩

/-! ## The files -/

/-- `cpuset.cpus` of a directory. -/
inductive CpusetFile
  /-- The directory does not exist. -/
  | gone
  /-- The controller is not enabled for the directory. -/
  | disabled
  | present (cpus : Finset Nat)
  deriving DecidableEq

def CpusetFile.read : CpusetFile → Option String
  | .present cpus => some (formatCpuList cpus)
  | .gone | .disabled => none

/-- The errors of a refused write. -/
inductive Errno
  | enospc
  | other
  deriving DecidableEq, Repr

/-- `cpuset.cpus` of every directory. -/
abbrev CpusetFiles : Type := String → CpusetFile

namespace CpusetFiles

/-- A write, unless the kernel refuses it. -/
def write (files : CpusetFiles) (directory text : String)
    (refused : Option Errno) : Except Errno CpusetFiles :=
  match refused, parseCpuList text with
  | some errno, _ => .error errno
  | none, .error _ => .error .other
  | none, .ok cpus => .ok (Function.update files directory (.present cpus))

end CpusetFiles

/-- `_restriction`: a list that covers the parent's CPUs restricts nothing. -/
def cpuRestriction (parent value : Option String) : Option String :=
  match value, parent with
  | some value, some parent =>
    if value = "" ∨ parent = "" then some value
    else
      match parseCpuList value, parseCpuList parent with
      | .ok cpus, .ok allowed => if allowed ⊆ cpus then some "" else some value
      | _, _ => some value
  | value, none => value
  | none, _ => none

/-- `NO_RESTRICTION`. -/
def noRestriction : String := "no restriction"

/-- `describe_cpus`. -/
def describeCpus (value : Option String) : String :=
  match value with
  | none | some "" => noRestriction
  | some value => "CPU " ++ value

/-! ## The controller -/

/-- `CPUController`, and the files it writes. -/
structure CpuController where
  /-- `_originals`. -/
  originals : OrderedDict String String
  /-- `_applied`. -/
  applied : OrderedDict String String
  files : CpusetFiles

/-- What the environment answers to `set_cpus`. -/
structure SetCpusOutcomes where
  /-- Every ancestor passes the controller down. -/
  enabled : Bool
  /-- Enabling it makes the file appear. -/
  appears : Bool
  refused : Option Errno
  /-- `cpuset.cpus.effective` after the write. -/
  effective : Option String

/-- What `set_cpus` returns. -/
inductive SetCpusReply
  | noLongerExists
  | cannotEnable
  | notAvailable
  | writeFailed (errno : Errno)
  | mismatch (effective : Option String)
  | ok
  deriving DecidableEq

/-- The write of `set_cpus` was accepted. -/
def SetCpusReply.wrote : SetCpusReply → Bool
  | .mismatch _ | .ok => true
  | .noLongerExists | .cannotEnable | .notAvailable | .writeFailed _ => false

/-- What the environment answers to the writes of `restore`. -/
structure RestoreCpusOutcomes where
  refused : Option Errno
  fallbackRefused : Option Errno
  deriving DecidableEq

/-- What `restore` returns. -/
inductive RestoreCpusReply
  | notBound (current : Option String)
  | alreadyGone
  | controllerDisabled
  | changedOutside (current : Option String)
  | restored (original : String)
  | failed (errno : Errno)
  deriving DecidableEq

namespace RestoreCpusReply

/-- Whether the restore succeeded. -/
def ok : RestoreCpusReply → Bool
  | .failed _ => false
  | .notBound _ | .alreadyGone | .controllerDisabled | .changedOutside _
  | .restored _ => true

def message : RestoreCpusReply → String
  | .notBound current =>
    match current with
    | none | some "" => noRestriction
    | some _ => describeCpus current ++ " (set outside SmarTune, unchanged)"
  | .alreadyGone => "cgroup already gone"
  | .controllerDisabled => noRestriction ++ " (cpuset controller disabled)"
  | .changedOutside current =>
    describeCpus current ++ " (changed outside SmarTune, kept)"
  | .restored original => describeCpus (some original)
  | .failed _ => "restore cpuset.cpus failed"

end RestoreCpusReply

/-- `_changed_elsewhere`. -/
def changedElsewhere (current applied : Option String) : Bool :=
  match current, applied with
  | some current, some applied =>
    match parseCpuList current, parseCpuList applied with
    | .ok now, .ok then_ => now ≠ then_
    | _, _ => false
  | _, _ => false

/-- `_unpin_fallback`. -/
def unpinFallback (parent : Option String) (original : String)
    (errno : Errno) : Option String :=
  if original ≠ "" ∨ errno ≠ .enospc then none
  else
    match parent with
    | none | some "" => none
    | some parent => some parent

namespace CpuController

variable (controller : CpuController)

/-- Nothing is pinned. -/
def fresh (files : CpusetFiles) : CpuController :=
  ⟨.empty, .empty, files⟩

/-- `is_bound`. -/
def isBound (directory : String) : Bool :=
  (controller.originals.get? directory).isSome

/-- `_forget`. -/
def forget (directory : String) : CpuController :=
  { controller with
    originals := controller.originals.erase directory
    applied := controller.applied.erase directory }

/-- The files once the controller has been enabled for a directory. -/
def enabledFiles (directory : String) (appears : Bool) : CpusetFiles :=
  if appears ∧ controller.files directory = .disabled then
    Function.update controller.files directory (.present ∅)
  else controller.files

/-- The bookkeeping of an accepted write. -/
def recordWrite (directory original cpus : String)
    (files : CpusetFiles) : CpuController where
  originals :=
    if controller.isBound directory then controller.originals
    else controller.originals.set directory original
  applied := controller.applied.set directory cpus
  files := files

/-- `cpuset.cpus.effective` reads as the list that was written. -/
def sameCpus (effective : Option String) (cpus : String) : Bool :=
  match effective with
  | none => false
  | some effective =>
    match parseCpuList effective, parseCpuList cpus with
    | .ok now, .ok wanted => now = wanted
    | _, _ => false

/-- `set_cpus`; `parent` is what the parent allows. -/
def setCpus (parent : Option String) (directory cpus : String)
    (outcomes : SetCpusOutcomes) : SetCpusReply × CpuController :=
  if controller.files directory = .gone then (.noLongerExists, controller)
  else
    let files := controller.enabledFiles directory outcomes.appears
    let controller := { controller with files := files }
    if !outcomes.enabled then (.cannotEnable, controller)
    else
      match (files directory).read with
      | none => (.notAvailable, controller)
      | some original =>
        let original := (cpuRestriction parent (some original)).getD ""
        match files.write directory cpus outcomes.refused with
        | .error errno => (.writeFailed errno, controller)
        | .ok files =>
          (if sameCpus outcomes.effective cpus then .ok
            else .mismatch outcomes.effective,
            controller.recordWrite directory original cpus files)

/-- `restore`. -/
def restore (parent : Option String) (directory : String)
    (outcomes : RestoreCpusOutcomes) : RestoreCpusReply × CpuController :=
  let file := controller.files directory
  match controller.originals.get? directory with
  | none => (.notBound (cpuRestriction parent file.read), controller)
  | some original =>
    if file = .gone then (.alreadyGone, controller.forget directory)
    else if file = .disabled then
      (.controllerDisabled, controller.forget directory)
    else if changedElsewhere file.read (controller.applied.get? directory) then
      (.changedOutside file.read, controller.forget directory)
    else
      match controller.files.write directory original outcomes.refused with
      | .ok files =>
        (.restored original,
          { controller with files := files }.forget directory)
      | .error errno =>
        match unpinFallback parent original errno with
        | none => (.failed errno, controller)
        | some fallback =>
          match controller.files.write directory fallback
              outcomes.fallbackRefused with
          | .ok files =>
            (.restored original,
              { controller with files := files }.forget directory)
          | .error errno => (.failed errno, controller)

end CpuController

end SmarTune
