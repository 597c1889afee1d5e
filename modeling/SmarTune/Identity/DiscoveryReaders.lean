import SmarTune.Identity.Discovery

/-!
# What the readers of a discovered app compare

The lookup by exact name and the monitor compare the names of an app with the
programs of a process and with the script that it runs.  The intercept thread
compares `comm` and, where that is an interpreter, the script.
-/

namespace SmarTune

/-! ## What the wizard writes -/

theorem mem_sortedDistinct {name : String} {names : List String} :
    name ∈ sortedDistinct names ↔ name ∈ names ∧ name ≠ "" := by
  simp [sortedDistinct, List.mem_mergeSort, List.mem_eraseDups]

theorem orElseName_ne_empty {first second : String}
    (filled : second ≠ "") : orElseName first second ≠ "" := by
  unfold orElseName
  split
  · exact filled
  · assumption

theorem orElseName_of_ne_empty {first second : String}
    (filled : first ≠ "") : orElseName first second = first :=
  if_neg filled

theorem isVersionOf_lowerCase (known : List String) (name : String) :
    isVersionOf known (lowerCase name) = isVersionOf known name := by
  simp only [isVersionOf, lowerCase_lowerCase]

namespace ProcFiles

variable {process : ProcFiles} {tools : List String}

/-- The name of the program file, or the script it wraps; empty where only
`comm` is left. -/
def programName (tools : List String) (process : ProcFiles) : String :=
  if isWrapper tools process.readProc.launcher then
    scriptFromCmdline process.tokens
  else basename process.exe

theorem deriveProcessName_readProc :
    deriveProcessName tools process.readProc =
      orElseName (process.programName tools) (strip process.comm) := by
  simp only [deriveProcessName, programName]
  cases isWrapper tools process.readProc.launcher <;>
    simp [readProc, strip_strip]

theorem bpfCandidate_readProc :
    bpfCandidate tools process.readProc =
      if isWrapper tools (strip process.comm) then
        orElseName (scriptFromCmdline process.tokens) (strip process.comm)
      else strip process.comm := by
  simp only [bpfCandidate, readProc, strip_strip]

theorem deriveProcessName_ne_empty :
    deriveProcessName tools process.readProc ≠ "" := by
  rw [deriveProcessName_readProc]
  exact orElseName_ne_empty process.comm_shown

theorem bpfCandidate_ne_empty :
    bpfCandidate tools process.readProc ≠ "" := by
  rw [bpfCandidate_readProc]
  split
  · exact orElseName_ne_empty process.comm_shown
  · exact process.comm_shown

end ProcFiles

theorem lowerCase_ne_empty {name : String}
    (filled : name ≠ "") : lowerCase name ≠ "" := by
  intro empty
  have chars := congrArg String.toList empty
  simp only [toList_lowerCase, String.toList_empty, List.map_eq_nil_iff]
    at chars
  exact filled (String.toList_eq_nil_iff.mp chars)

theorem mem_loweredNames {names : List String} {key : String} :
    key ∈ loweredNames names ↔
      ∃ name ∈ names, name ≠ "" ∧ lowerCase name = key := by
  simp only [loweredNames, List.mem_map, List.mem_filter, decide_eq_true_eq,
    and_assoc]

theorem ne_empty_of_mem_loweredNames {names : List String} {key : String}
    (member : key ∈ loweredNames names) : key ≠ "" := by
  obtain ⟨name, _, filled, rfl⟩ := mem_loweredNames.mp member
  exact lowerCase_ne_empty filled

/-- The app that the extracted names are registered as. -/
def discoveredApp (tools : List String) (selected : List ProcFiles)
    (name id commandline : String) : ControlledEntry :=
  newEntry name id commandline (extractFields tools selected name).bpfName
    (extractFields tools selected name).processNames

section DiscoveredApp

variable
  {tools : List String}
  {selected : List ProcFiles}
  {name id commandline known : String}

theorem mem_processNames_discoveredApp :
    known ∈ (discoveredApp tools selected name id commandline).processNames ↔
      ∃ process ∈ selected,
        deriveProcessName tools process.readProc = known := by
  simp only [discoveredApp, newEntry, extractFields, mem_sortedDistinct,
    List.mem_map]
  constructor
  · exact fun written => written.1
  · rintro ⟨process, member, rfl⟩
    exact ⟨⟨process, member, rfl⟩, ProcFiles.deriveProcessName_ne_empty⟩

theorem mem_bpfName_discoveredApp :
    known ∈ (discoveredApp tools selected name id commandline).bpfName ↔
      ∃ process ∈ selected, bpfCandidate tools process.readProc = known := by
  simp only [discoveredApp, newEntry, extractFields, mem_sortedDistinct,
    List.mem_map]
  constructor
  · exact fun written => written.1
  · rintro ⟨process, member, rfl⟩
    exact ⟨⟨process, member, rfl⟩, ProcFiles.bpfCandidate_ne_empty⟩

theorem mem_loweredNames_discoveredApp {key : String} :
    key ∈ loweredNames
        (discoveredApp tools selected name id commandline).processNames ↔
      ∃ process ∈ selected,
        lowerCase (deriveProcessName tools process.readProc) = key := by
  simp only [mem_loweredNames, mem_processNames_discoveredApp]
  constructor
  · rintro ⟨_, ⟨process, member, rfl⟩, _, same⟩
    exact ⟨process, member, same⟩
  · rintro ⟨process, member, same⟩
    exact ⟨_, ⟨process, member, rfl⟩, ProcFiles.deriveProcessName_ne_empty,
      same⟩

theorem mem_lowered_bpfName_discoveredApp {key : String} :
    key ∈ (discoveredApp tools selected name id commandline).bpfName.map
        lowerCase ↔
      ∃ process ∈ selected,
        lowerCase (bpfCandidate tools process.readProc) = key := by
  simp only [List.mem_map, mem_bpfName_discoveredApp]
  constructor
  · rintro ⟨_, ⟨process, member, rfl⟩, same⟩
    exact ⟨process, member, same⟩
  · rintro ⟨process, member, same⟩
    exact ⟨_, ⟨process, member, rfl⟩, same⟩

end DiscoveredApp

/-! ## What the readers compare -/

theorem get?_foldl_set (names : List String) (dict : OrderedDict String String)
    (value key : String) :
    (names.foldl (fun dict name => dict.set name value) dict).get? key =
      if key ∈ names then some value else dict.get? key := by
  induction names generalizing dict with
  | nil => simp
  | cons name names ih =>
    rw [List.foldl_cons, ih, OrderedDict.get?_set]
    by_cases later : key ∈ names
    · simp [later]
    · by_cases now : key = name
      · simp [now]
      · simp [later, now]

theorem get?_procNameToApp (app : ControlledEntry) (key : String) :
    (procNameToApp [app]).get? key =
      if key ∈ loweredNames app.processNames then some app.id else none := by
  rw [procNameToApp, List.foldl_cons, List.foldl_nil, get?_foldl_set,
    OrderedDict.get?_empty]

theorem get?_rebuildMatchCache (app : ControlledEntry) (key : String) :
    (rebuildMatchCache [app.name] [app]).get? key =
      if key ∈ app.bpfName.map lowerCase then some app.name else none := by
  have folded := get?_foldl_set (app.bpfName.map lowerCase) .empty app.name key
  rw [List.foldl_map, OrderedDict.get?_empty] at folded
  rw [← folded]
  simp [rebuildMatchCache]

namespace ProcFiles

variable {process : ProcFiles} {tools : List String} {app : ControlledEntry}

/-- A name, lowered, that the readers find on a process: one of its programs, or
the script that it runs. -/
def Shows (tools : List String) (process : ProcFiles) (key : String) : Prop :=
  key ≠ "" ∧ (key ∈ process.execNames ∨ key ∈ process.argumentNames ∧
      lowerCase (strip (process.derivedProcessIdentity tools)) = key)

variable {name : String} {machine : List ProcFiles}

theorem exactMatches_iff :
    (process.info tools).exactMatches name = true ↔
      process.Shows tools (lowerCase (strip name)) := by
  simp only [ProcessInfo.exactMatches, Bool.and_eq_true, Bool.or_eq_true,
    decide_eq_true_eq, List.contains_iff_mem]
  simp only [Shows, execNames, argumentNames, info, List.map_drop]

theorem mem_getAppProcesses (member : process ∈ machine)
    (shown : process.Shows tools (lowerCase (strip name))) :
    process.pid ∈ getAppProcessesByExactName tools machine name := by
  simp only [getAppProcessesByExactName, List.mem_mergeSort,
    List.mem_eraseDups, List.mem_map, List.mem_filter]
  exact ⟨process, ⟨member, exactMatches_iff.mpr shown⟩, rfl⟩

theorem shows_of_mem_getAppProcesses (pids : (machine.map ProcFiles.pid).Nodup)
    (member : process ∈ machine)
    (found : process.pid ∈ getAppProcessesByExactName tools machine name) :
    process.Shows tools (lowerCase (strip name)) := by
  simp only [getAppProcessesByExactName, List.mem_mergeSort,
    List.mem_eraseDups, List.mem_map, List.mem_filter] at found
  obtain ⟨other, ⟨listed, matched⟩, same⟩ := found
  have equal := List.inj_on_of_nodup_map pids listed member same
  exact exactMatches_iff.mp (equal ▸ matched)

/-- The monitor knows a process by its programs, or by the script it runs. -/
theorem appIdForProcess_eq_iff (shown : app.id ≠ "") :
    process.appIdForProcess tools (procNameToApp [app]) = app.id ↔
      (∃ key ∈ loweredNames app.processNames, key ∈ process.execNames) ∨
        (∃ key ∈ loweredNames app.processNames, key ∈ process.argumentNames) ∧
        lowerCase (strip (process.derivedProcessIdentity tools)) ∈
          loweredNames app.processNames := by
  have owner : ∀ key, ((procNameToApp [app]).get? key).filter (· ≠ "") =
      if key ∈ loweredNames app.processNames then some app.id else none := by
    intro key
    rw [get?_procNameToApp]
    split
    · simp [Option.filter, shown]
    · rfl
  unfold appIdForProcess
  cases found : (process.execNames.filter (· ≠ "")).findSome? fun name =>
      ((procNameToApp [app]).get? name).filter (· ≠ "") with
  | some appId =>
    obtain ⟨key, member, same⟩ := List.exists_of_findSome?_eq_some found
    rw [owner] at same
    split at same
    · next known =>
        cases same
        exact iff_of_true rfl (.inl ⟨key, known, (List.mem_filter.mp member).1⟩)
    · cases same
  | none =>
    rw [List.findSome?_eq_none_iff] at found
    have programs : ¬ ∃ key ∈ loweredNames app.processNames,
        key ∈ process.execNames := by
      rintro ⟨key, known, member⟩
      have missed := found key (List.mem_filter.mpr
        ⟨member, decide_eq_true (ne_empty_of_mem_loweredNames known)⟩)
      rw [owner, if_pos known] at missed
      cases missed
    have screened : (process.argumentNames.any fun name =>
        ((procNameToApp [app]).get? name).isSome) = true ↔
        ∃ key ∈ loweredNames app.processNames, key ∈ process.argumentNames := by
      simp only [List.any_eq_true, get?_procNameToApp]
      constructor
      · rintro ⟨key, member, some⟩
        split at some
        · next known => exact ⟨key, known, member⟩
        · cases some
      · rintro ⟨key, known, member⟩
        exact ⟨key, member, by rw [if_pos known]; rfl⟩
    simp only [programs, false_or, ← screened, get?_procNameToApp]
    split
    · next argument =>
        by_cases known : lowerCase (strip
            (process.derivedProcessIdentity tools)) ∈
              loweredNames app.processNames
        · simp [known, argument]
        · simp [known, shown.symm]
    · next argument => simp [argument, shown.symm]

/-- What the intercept thread takes a process for, where `comm` alone says
nothing. -/
theorem resolveProgramName_eq :
    resolveProgramName process.comm process.comm process.tokens =
      if basenameIsInterpreter (strip process.comm) then
        (firstArgument process.tokens).elim (lowerCase (strip process.comm))
          fun token => lowerCase (basename token)
      else lowerCase (strip process.comm) := by
  have single : '/' ∉ (strip process.comm).toList := by
    intro member
    rw [toList_strip] at member
    exact process.comm_base (List.dropWhile_subset _
      ((List.rdropWhile_prefix _ _).subset member))
  have same : basenameIsInterpreter (lowerCase (strip process.comm)) =
      basenameIsInterpreter (strip process.comm) :=
    isVersionOf_lowerCase _ _
  simp only [resolveProgramName, orElseName, ite_self,
    basename_eq_self single, same]

/-- No entry is found by a file name that is no path. -/
theorem getMainProcess_eq :
    getMainProcess (rebuildMatchCache [app.name] [app]) process.comm
      process.comm =
        if lowerCase process.comm ∈ app.bpfName.map lowerCase then
          some app.name
        else none := by
  have single : '/' ∉ (lowerCase process.comm).toList := by
    rw [toList_lowerCase, List.mem_map]
    rintro ⟨char, member, slash⟩
    rw [toLower_eq_iff (by decide)] at slash
    exact process.comm_base (slash ▸ member)
  simp only [getMainProcess, get?_rebuildMatchCache]
  by_cases direct : lowerCase process.comm ∈ app.bpfName.map lowerCase
  · simp only [direct, if_true]
  · have missed : (rebuildMatchCache [app.name] [app]).entries.find?
        (fun entry => lowerCase process.comm = entry.1 ||
          basename (lowerCase process.comm) = entry.1 ||
            hasPart (lowerCase process.comm) ("/" ++ entry.1)) = none := by
      rw [List.find?_eq_none]
      rintro ⟨key, value⟩ member
      have found := (OrderedDict.get?_eq_some_iff _ key value).mpr member
      rw [get?_rebuildMatchCache] at found
      split at found
      · next listed =>
          simp only [basename_eq_self single, Bool.or_self, hasPart,
            String.toList_append, Bool.or_eq_true, decide_eq_true_eq, not_or]
          refine ⟨fun same => direct (same ▸ listed), fun part => ?_⟩
          exact single (part.subset (by simp))
      · cases found
    simp only [direct, if_false, missed, Option.map_none, ite_self]

/-- The intercept thread knows a process by `comm`, or by what it takes it
for. -/
theorem execEvent_eq_iff (shown : app.name ≠ "") :
    process.execEvent (rebuildMatchCache [app.name] [app]) = some app.name ↔
      lowerCase process.comm ∈ app.bpfName.map lowerCase ∨
        (resolveProgramName process.comm process.comm process.tokens ≠ "" ∧
          resolveProgramName process.comm process.comm process.tokens ∈
            app.bpfName.map lowerCase) := by
  simp only [execEvent, resolveMainProcess, getMainProcess_eq]
  by_cases direct : lowerCase process.comm ∈ app.bpfName.map lowerCase
  · simp only [direct, if_true, true_or]
  · simp only [direct, if_false, false_or, get?_rebuildMatchCache]
    split
    · next empty => simp [empty]
    · next filled =>
        split
        · next known => simp [Option.filter, shown, filled, known]
        · next unknown => simp [unknown]

end ProcFiles

end SmarTune
