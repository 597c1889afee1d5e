import SmarTune.Identity.ControlledList
import SmarTune.Balancer.Apply
import Mathlib.Data.List.DropRight

/-!
# Which names of an app are limited

The rows of the dashboard: the running processes of each configured name, by
the cgroup they are in now, and whether the limit on record reaches that cgroup.
The guard on edits reads the names off these rows, one for each cgroup.
-/

namespace SmarTune

/-! ## Processes -/

/-- A process as it is looked up by name. -/
structure ProcessInfo where
  pid : Nat
  comm : String
  exe : String
  cmdline : List String
  /-- The program identity that the wizard derives. -/
  derived : String
  /-- The path of its cgroup. -/
  path : Option String
  /-- It exists and is no zombie. -/
  running : Bool
  deriving DecidableEq

namespace ProcessInfo

/-- The test of `get_app_processes_by_exact_name`. -/
def exactMatches (process : ProcessInfo) (name : String) : Bool :=
  let query := lowerCase (strip name)
  let argument := fun (text : String) => lowerCase (basename (strip text))
  query ≠ "" &&
    ([argument (process.cmdline.headD ""), lowerCase (strip process.comm),
        argument process.exe].contains query ||
      ((process.cmdline.drop 1).map argument).contains query &&
        lowerCase (strip process.derived) = query)

/-- `_cgroup_for_pid`: the last component of the path. -/
def cgroup (process : ProcessInfo) (fallback : CgroupId) : CgroupId :=
  match process.path with
  | none => fallback
  | some path =>
    if path = "" then fallback
    else orElseName (basename (rstripSlash path)) path

end ProcessInfo

def Hosts (processes : List ProcessInfo) (appId : String) (names : List String)
    (cgroup : CgroupId) : Prop :=
  ∃ process ∈ processes, process.running = true ∧
    process.cgroup appId = cgroup ∧
    ∃ name ∈ names, process.exactMatches name = true

instance
    (processes : List ProcessInfo)
    (appId : String)
    (names : List String) :
    DecidablePred (Hosts processes appId names) :=
  fun cgroup => inferInstanceAs (Decidable (∃ process ∈ processes,
    process.running = true ∧ process.cgroup appId = cgroup ∧
      ∃ name ∈ names, process.exactMatches name = true))

/-! ## Rows -/

/-- What `_build_process_scope_snapshot` is asked. -/
structure ScopeQuery where
  appId : String
  appName : String
  processNames : List String
  appStatus : String
  limitedPids : List Nat
  limitedCgroups : List CgroupId

/-- A row of a running instance. -/
structure ScopeRow where
  processName : String
  cgroup : CgroupId
  limited : Bool
  deriving DecidableEq

namespace ScopeQuery

/-- The names that are looked up. -/
def names (query : ScopeQuery) : List String :=
  let configured := (query.processNames.map strip).filter (· ≠ "")
  ((if configured = [] then [query.appName, basename query.appId]
    else configured).filter (· ≠ "")).eraseDups

/-- The running processes of each name, in the order of the names. -/
def found (query : ScopeQuery) (processes : List ProcessInfo) :
    List (String × ProcessInfo) :=
  query.names.flatMap fun name =>
    (processes.filter fun process =>
      process.exactMatches name && process.running).map fun process =>
        (name, process)

def foundIn (query : ScopeQuery) (processes : List ProcessInfo)
    (cgroup : CgroupId) : List (String × ProcessInfo) :=
  (query.found processes).filter fun pair =>
    pair.2.cgroup query.appId = cgroup

/-- `_exact_cgroup_member_pids` of the smallest process found: all the running
processes of its cgroup. -/
def members (query : ScopeQuery) (processes : List ProcessInfo)
    (cgroup : CgroupId) : List ProcessInfo :=
  let inside := query.foundIn processes cgroup
  match inside.find? fun pair =>
      inside.all fun other => pair.2.pid ≤ other.2.pid with
  | none => []
  | some (_, seed) =>
    if seed.path.getD "" = "" ∨
        basename (rstripSlash (seed.path.getD "")) ≠ cgroup then []
    else processes.filter fun process =>
      process.path = seed.path && process.running &&
        process.cgroup query.appId = cgroup

/-- The cgroups a limit is on record for. -/
def listedCgroups (cgroups : List CgroupId) : List CgroupId :=
  (cgroups.map strip).filter (· ≠ "")

def isLimited (query : ScopeQuery) (processes : List ProcessInfo)
    (cgroup : CgroupId) : Bool :=
  let cgroups := listedCgroups query.limitedCgroups
  if query.limitedPids ≠ [] ∨ cgroups ≠ [] then
    cgroups.contains cgroup || ((query.foundIn processes cgroup).map Prod.snd ++
        query.members processes cgroup).any fun process =>
          query.limitedPids.contains process.pid
  else ["limited", "a_limited"].contains (lowerCase (strip query.appStatus))

/-- The rows of the running instances; a name without one has a row that is
never limited. -/
def rows (query : ScopeQuery) (processes : List ProcessInfo) : List ScopeRow :=
  let found := query.found processes
  (found.map fun pair => pair.2.cgroup query.appId).eraseDups.map fun cgroup =>
    { processName :=
        ((query.foundIn processes cgroup).head?.map Prod.fst).getD ""
      cgroup := cgroup
      limited := query.isLimited processes cgroup }

end ScopeQuery

/-! ## What the rows show -/

/-- What is left after both ends are trimmed starts with no blank. -/
theorem dropWhile_rdropWhile_dropWhile (chars : List Char) :
    ((chars.dropWhile Char.isWhitespace).rdropWhile
        Char.isWhitespace).dropWhile Char.isWhitespace =
      (chars.dropWhile Char.isWhitespace).rdropWhile Char.isWhitespace := by
  obtain ⟨rest, whole⟩ := List.rdropWhile_prefix Char.isWhitespace
    (chars.dropWhile Char.isWhitespace)
  cases left : (chars.dropWhile Char.isWhitespace).rdropWhile
      Char.isWhitespace with
  | nil => rfl
  | cons first tail =>
    have starts := List.dropWhile_eq_self_iff.mp
      (List.dropWhile_idempotent Char.isWhitespace chars)
    rw [left] at whole
    simp only [← whole, List.cons_append, List.length_cons,
      Nat.zero_lt_succ, List.getElem_cons_zero, forall_const] at starts
    exact List.dropWhile_cons_of_neg starts

@[simp] theorem strip_strip (text : String) :
    strip (strip text) = strip text := by
  have trims : ∀ other : String, strip other =
      String.ofList ((other.toList.dropWhile Char.isWhitespace).rdropWhile
        Char.isWhitespace) := fun _ => rfl
  rw [trims (strip text), trims text, String.toList_ofList,
    dropWhile_rdropWhile_dropWhile, List.rdropWhile_idempotent]

namespace ProcessInfo

/-- Names that read alike find the same processes. -/
theorem exactMatches_congr {process : ProcessInfo} {name other : String}
    (same : lowerCase (strip name) = lowerCase (strip other)) :
    process.exactMatches name = process.exactMatches other := by
  simp only [exactMatches, same]

theorem strip_ne_empty_of_exactMatches {process : ProcessInfo} {name : String}
    (found : process.exactMatches name = true) : strip name ≠ "" := by
  intro blank
  simp only [exactMatches, blank, Bool.and_eq_true, decide_eq_true_eq] at found
  exact found.1 rfl

end ProcessInfo

namespace ScopeQuery

variable
  {query : ScopeQuery}
  {processes : List ProcessInfo}
  {cgroup : CgroupId}

theorem mem_foundIn {name : String} {process : ProcessInfo} :
    (name, process) ∈ query.foundIn processes cgroup ↔
      name ∈ query.names ∧ process ∈ processes ∧
        process.exactMatches name = true ∧ process.running = true ∧
        process.cgroup query.appId = cgroup := by
  simp only [foundIn, found, List.mem_filter, List.mem_flatMap, List.mem_map,
    Bool.and_eq_true, decide_eq_true_eq]
  constructor
  · rintro ⟨⟨asked, listed, one, ⟨member, matched, runs⟩, same⟩, inside⟩
    cases same
    exact ⟨listed, member, matched, runs, inside⟩
  · rintro ⟨listed, member, matched, runs, inside⟩
    exact ⟨⟨name, listed, process, ⟨member, matched, runs⟩, rfl⟩, inside⟩

theorem exists_row
    (hosts : Hosts processes query.appId query.processNames cgroup) :
    ∃ row ∈ query.rows processes, row.cgroup = cgroup ∧
      row.limited = query.isLimited processes cgroup ∧
      strip row.processName ≠ "" ∧
      Hosts processes query.appId [row.processName] cgroup := by
  obtain ⟨process, member, runs, inside, name, configured, matched⟩ := hosts
  have filled := ProcessInfo.strip_ne_empty_of_exactMatches matched
  have again : process.exactMatches (strip name) = true := by
    rw [ProcessInfo.exactMatches_congr (congrArg lowerCase (strip_strip name))]
    exact matched
  have asked : strip name ∈ query.names := by
    have listed : strip name ∈ (query.processNames.map strip).filter (· ≠ "") :=
      List.mem_filter.mpr
        ⟨List.mem_map.mpr ⟨name, configured, rfl⟩, decide_eq_true filled⟩
    have nonempty : (query.processNames.map strip).filter (· ≠ "") ≠ [] :=
      List.ne_nil_of_mem listed
    simp only [names, nonempty, if_false, List.mem_eraseDups]
    exact List.mem_filter.mpr ⟨listed, decide_eq_true filled⟩
  have found : (strip name, process) ∈ query.foundIn processes cgroup :=
    mem_foundIn.mpr ⟨asked, member, again, runs, inside⟩
  cases first : query.foundIn processes cgroup with
  | nil =>
    rw [first] at found
    cases found
  | cons pair rest =>
    obtain ⟨display, shown⟩ := pair
    have head : (display, shown) ∈ query.foundIn processes cgroup := by
      rw [first]
      exact List.mem_cons_self
    obtain ⟨listed, among, matches_, works, there⟩ := mem_foundIn.mp head
    refine ⟨⟨display, cgroup, query.isLimited processes cgroup⟩, ?_, rfl, rfl,
      ProcessInfo.strip_ne_empty_of_exactMatches matches_, shown, among,
      works, there, display, List.mem_singleton_self _, matches_⟩
    refine List.mem_map.mpr ⟨cgroup, ?_, by simp [first]⟩
    refine List.mem_eraseDups.mpr (List.mem_map.mpr
      ⟨(display, shown), ?_, there⟩)
    exact (List.mem_filter.mp head).1

theorem isLimited_of_listed
    (listed : cgroup ∈ listedCgroups query.limitedCgroups) :
    query.isLimited processes cgroup = true := by
  have nonempty : listedCgroups query.limitedCgroups ≠ [] :=
    List.ne_nil_of_mem listed
  simp [isLimited, nonempty, listed]

end ScopeQuery

end SmarTune
