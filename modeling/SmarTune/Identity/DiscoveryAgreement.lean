import SmarTune.Identity.DiscoveryReaders

/-!
# Discovered programs are recognised

A program that goes by a plain name is found under the name that the wizard
writes.  The readers part from the wizard where the lists of wrappers part: it
takes the script of a shell tool that is no interpreter to the intercept
thread, and the intercept thread takes that of an interpreter whose program
file is no wrapper to the wizard.
-/

namespace SmarTune

/-- The three readers give a process to an app. -/
structure RecognisedAs (tools : List String) (app : ControlledEntry)
    (process : ProcFiles) : Prop where
  byName : ∀ machine, process ∈ machine → ∃ name ∈ app.processNames,
      process.pid ∈ getAppProcessesByExactName tools machine name
  byMonitor : process.appIdForProcess tools (procNameToApp [app]) = app.id
  byEvent :
    process.execEvent (rebuildMatchCache [app.name] [app]) = some app.name

/-- None of the three readers gives a process to an app. -/
structure LeftAlone (tools : List String) (app : ControlledEntry)
    (process : ProcFiles) : Prop where
  byName : ∀ machine, (machine.map ProcFiles.pid).Nodup →
    process ∈ machine → ∀ name ∈ app.processNames,
      process.pid ∉ getAppProcessesByExactName tools machine name
  byMonitor : process.appIdForProcess tools (procNameToApp [app]) ≠ app.id
  byEvent :
    process.execEvent (rebuildMatchCache [app.name] [app]) ≠ some app.name

namespace ProcFiles

/-- The derived identity, `argv[0]`, `comm` and the program file. -/
def ownNames (tools : List String) (process : ProcFiles) : List String :=
  [process.derivedProcessIdentity tools,
    basename (strip (process.argv.headD "")), process.comm,
    basename (strip process.exe)]

/-- A process has a name, compared as the readers compare. -/
def Owns (tools : List String) (process : ProcFiles) (name : String) : Prop :=
  ∃ own ∈ process.ownNames tools, lowerCase (strip own) = lowerCase (strip name)

/-- No name of a process is registered for the app. -/
def Unnamed (tools : List String) (app : ControlledEntry)
    (process : ProcFiles) : Prop :=
  ∀ name ∈ app.bpfName ++ app.processNames, ¬ process.Owns tools name

end ProcFiles

/-- The wizard and the readers agree on a process: whatever was selected with it
is found as the app, and without it its names decide. -/
structure WizardAgrees (tools : List String) (process : ProcFiles) : Prop where
  selected : ∀ selected name id commandline,
    process ∈ selected → strip name ≠ "" → strip id ≠ "" →
      RecognisedAs tools (discoveredApp tools selected name id commandline)
        process
  unnamed : ∀ selected name id commandline, strip name ≠ "" → strip id ≠ "" →
      process.Unnamed tools (discoveredApp tools selected name id commandline) →
      LeftAlone tools (discoveredApp tools selected name id commandline) process

namespace ProcFiles

/-- A process goes by names without blanks at their ends, and its `argv[0]` is
not empty. -/
structure PlainlyNamed (tools : List String) (process : ProcFiles) : Prop where
  file : strip (basename process.exe) = basename process.exe
  program : strip (process.programName tools) = process.programName tools
  argument : process.argv.head? ≠ some ""

/-- What the wizard and the readers have to read alike. -/
structure ReadAlike (tools : List String) (process : ProcFiles) : Prop where
  /-- The program has a plain name, or shows it by chance in both spellings. -/
  program : process.programName tools = "" ∨ process.PlainlyNamed tools ∨
    (process.Shows tools (lowerCase (strip (process.programName tools))) ∧
      process.Shows tools (lowerCase (process.programName tools)))
  /-- The intercept thread has a wrapper that runs a script on its list, too. -/
  script : isWrapper tools (strip process.comm) →
    scriptFromCmdline process.tokens ≠ "" →
      basenameIsInterpreter (strip process.comm) ∨ lowerCase process.comm =
          lowerCase (scriptFromCmdline process.tokens) ∨
        lowerCase (strip process.comm) =
          lowerCase (scriptFromCmdline process.tokens)
  /-- It sees no script where the wizard keeps `comm`, or `comm` is plain. -/
  comm : (isWrapper tools (strip process.comm) →
    scriptFromCmdline process.tokens = "") → strip process.comm = process.comm ∨
        ¬ basenameIsInterpreter (strip process.comm) ∨
        firstArgument process.tokens = none ∨
        lowerCase (scriptFromCmdline process.tokens) =
          lowerCase (strip process.comm)
  /-- A script that it sees is a name of the process. -/
  identity : basenameIsInterpreter (strip process.comm) →
    scriptFromCmdline process.tokens ≠ "" →
      process.Owns tools (scriptFromCmdline process.tokens)

variable {process : ProcFiles} {tools : List String}

/-! ## The name of the program -/

theorem firstArgument_tokens (named : process.argv.head? ≠ some "") :
    firstArgument process.tokens = firstArgument process.argv := by
  unfold tokens firstArgument
  cases args : process.argv with
  | nil => rfl
  | cons first rest =>
    have filled : first ≠ "" := fun empty => named (by rw [args, empty]; rfl)
    rw [List.filter_cons_of_pos (by simpa using filled), List.drop_one,
      List.drop_one, List.tail_cons, List.tail_cons, List.find?_map,
      List.find?_map, List.find?_filter]
    congr 2
    funext token
    by_cases empty : token = ""
    · subst empty
      decide
    · simp [empty]

section Plain

variable (plain : process.PlainlyNamed tools)
include plain

theorem launcher_identityFields :
    process.identityFields.launcher = process.readProc.launcher := by
  simp only [IdentityFields.launcher, identityFields, readProc,
    basename_strip plain.file, strip_strip]

theorem derivedProcessIdentity_of_wrapped
    (wrapped : isWrapper tools process.readProc.launcher)
    (filled : scriptFromCmdline process.tokens ≠ "") :
    process.derivedProcessIdentity tools =
      scriptFromCmdline process.tokens := by
  have wraps : isWrapper tools process.identityFields.launcher := by
    rw [launcher_identityFields plain]
    exact wrapped
  have script : scriptFromCmdline process.tokens =
      scriptFromCmdline process.argv := by
    rw [scriptFromCmdline, scriptFromCmdline,
      firstArgument_tokens plain.argument]
  rw [script] at filled ⊢
  simp only [derivedProcessIdentity, deriveProcessName, wraps, if_true]
  exact orElseName_of_ne_empty filled

theorem shows_programName (filled : process.programName tools ≠ "") :
    process.Shows tools (lowerCase (process.programName tools)) := by
  refine ⟨lowerCase_ne_empty filled, ?_⟩
  by_cases wrapped : isWrapper tools process.readProc.launcher
  · have name : process.programName tools =
        scriptFromCmdline process.tokens := if_pos wrapped
    rw [name] at filled
    refine .inr ⟨?_, ?_⟩
    · rw [name, scriptFromCmdline, firstArgument_tokens plain.argument]
      cases found : firstArgument process.argv with
      | none =>
        rw [scriptFromCmdline, firstArgument_tokens plain.argument,
          found] at filled
        exact absurd rfl filled
      | some token =>
        obtain ⟨argument, member, rfl⟩ :=
          List.mem_map.mp (List.mem_of_find?_eq_some found)
        exact List.mem_map.mpr ⟨argument, member, rfl⟩
    · rw [derivedProcessIdentity_of_wrapped plain wrapped filled, ← name,
        plain.program]
  · left
    rw [programName, if_neg wrapped, ← basename_strip plain.file]
    simp [execNames]

end Plain

/-- Both spellings of the written name are shown where the program is read
alike. -/
theorem shows_deriveProcessName_iff :
    process.Shows tools
        (lowerCase (strip (deriveProcessName tools process.readProc))) ∧
      process.Shows tools
        (lowerCase (deriveProcessName tools process.readProc)) ↔
    process.programName tools = "" ∨ process.PlainlyNamed tools ∨
      (process.Shows tools (lowerCase (strip (process.programName tools))) ∧
        process.Shows tools (lowerCase (process.programName tools))) := by
  rw [deriveProcessName_readProc]
  by_cases filled : process.programName tools = ""
  · have comm : process.Shows tools (lowerCase (strip process.comm)) :=
      ⟨lowerCase_ne_empty process.comm_shown, .inl (by simp [execNames])⟩
    simp [filled, orElseName, comm]
  · rw [orElseName_of_ne_empty filled]
    constructor
    · exact fun shown => .inr (.inr shown)
    · rintro (empty | plain | shown)
      · exact absurd empty filled
      · have shown := shows_programName plain filled
        rw [plain.program]
        exact ⟨shown, shown⟩
      · exact shown

/-! ## The exec event -/

theorem scriptFromCmdline_of_none {tokens : List String}
    (none : firstArgument tokens = none) : scriptFromCmdline tokens = "" := by
  rw [scriptFromCmdline, none]
  rfl

theorem resolveProgramName_cases (process : ProcFiles) :
    (basenameIsInterpreter (strip process.comm) ∧
        firstArgument process.tokens ≠ none ∧
        resolveProgramName process.comm process.comm process.tokens =
          lowerCase (scriptFromCmdline process.tokens)) ∨
      ((¬ basenameIsInterpreter (strip process.comm) ∨
          firstArgument process.tokens = none) ∧
        resolveProgramName process.comm process.comm process.tokens =
          lowerCase (strip process.comm)) := by
  rw [resolveProgramName_eq]
  by_cases interpreter : basenameIsInterpreter (strip process.comm)
  · cases found : firstArgument process.tokens with
    | none => exact .inr ⟨.inr rfl, by simp [interpreter]⟩
    | some token =>
      refine .inl ⟨interpreter, by simp, ?_⟩
      simp [interpreter, scriptFromCmdline, found]
  · exact .inr ⟨.inl interpreter, by simp [interpreter]⟩

/-- The exec event carries the name that the wizard took over for it. -/
def HearsCandidate (tools : List String) (process : ProcFiles) : Prop :=
  let candidate := lowerCase (bpfCandidate tools process.readProc)
  lowerCase process.comm = candidate ∨
    (resolveProgramName process.comm process.comm process.tokens ≠ "" ∧
      resolveProgramName process.comm process.comm process.tokens = candidate)

/-- A process goes by its script where the wizard took that over. -/
theorem hearsCandidate_script_iff
    (wrapped : isWrapper tools (strip process.comm))
    (filled : scriptFromCmdline process.tokens ≠ "") :
    process.HearsCandidate tools ↔ basenameIsInterpreter (strip process.comm) ∨
        lowerCase process.comm = lowerCase (scriptFromCmdline process.tokens) ∨
        lowerCase (strip process.comm) =
          lowerCase (scriptFromCmdline process.tokens) := by
  have comm := lowerCase_ne_empty process.comm_shown
  simp only [HearsCandidate, bpfCandidate_readProc, wrapped, if_true,
    orElseName_of_ne_empty filled]
  rcases resolveProgramName_cases process with
    ⟨interpreter, _, program⟩ | ⟨plain, program⟩
  · simp [interpreter, program, lowerCase_ne_empty filled]
  · have unknown : ¬ basenameIsInterpreter (strip process.comm) := by
      rcases plain with unknown | none
      · exact unknown
      · exact absurd (scriptFromCmdline_of_none none) filled
    simp [unknown, program, comm]

theorem hearsCandidate_comm_iff
    (kept : isWrapper tools (strip process.comm) →
      scriptFromCmdline process.tokens = "") :
    process.HearsCandidate tools ↔ strip process.comm = process.comm ∨
        ¬ basenameIsInterpreter (strip process.comm) ∨
        firstArgument process.tokens = none ∨
        lowerCase (scriptFromCmdline process.tokens) =
          lowerCase (strip process.comm) := by
  have comm := lowerCase_ne_empty process.comm_shown
  have candidate : bpfCandidate tools process.readProc =
      strip process.comm := by
    rw [bpfCandidate_readProc]
    split
    · next wrapped =>
        rw [kept wrapped]
        rfl
    · rfl
  have plain : lowerCase process.comm = lowerCase (strip process.comm) ↔
      strip process.comm = process.comm :=
    ⟨strip_eq_of_lowerCase_eq, fun same => by rw [same]⟩
  simp only [HearsCandidate, candidate, plain]
  rcases resolveProgramName_cases process with
    ⟨interpreter, some, program⟩ | ⟨unknown, program⟩
  · simp only [interpreter, some, program, not_true_eq_false, false_or]
    refine or_congr_right ⟨fun same => same.2, fun same => ⟨?_, same⟩⟩
    rw [same]
    exact comm
  · simp only [program, comm, ne_eq, not_false_eq_true, and_self, or_true,
      true_iff]
    rcases unknown with unknown | none
    · exact .inr (.inl unknown)
    · exact .inr (.inr (.inl none))

theorem hearsCandidate_iff :
    process.HearsCandidate tools ↔ (isWrapper tools (strip process.comm) →
        scriptFromCmdline process.tokens ≠ "" →
          basenameIsInterpreter (strip process.comm) ∨ lowerCase process.comm =
              lowerCase (scriptFromCmdline process.tokens) ∨
            lowerCase (strip process.comm) =
              lowerCase (scriptFromCmdline process.tokens)) ∧
      ((isWrapper tools (strip process.comm) →
        scriptFromCmdline process.tokens = "") →
          strip process.comm = process.comm ∨
            ¬ basenameIsInterpreter (strip process.comm) ∨
            firstArgument process.tokens = none ∨
            lowerCase (scriptFromCmdline process.tokens) =
              lowerCase (strip process.comm)) := by
  by_cases kept : isWrapper tools (strip process.comm) →
      scriptFromCmdline process.tokens = ""
  · rw [hearsCandidate_comm_iff kept]
    constructor
    · exact fun heard =>
        ⟨fun wrapped filled => absurd (kept wrapped) filled, fun _ => heard⟩
    · exact fun alike => alike.2 kept
  · have given := kept
    push Not at given
    rw [hearsCandidate_script_iff given.1 given.2]
    constructor
    · exact fun heard =>
        ⟨fun _ _ => heard, fun all => absurd all kept⟩
    · exact fun alike => alike.1 given.1 given.2

/-! ## The processes that were selected -/

theorem recognisedAs_discoveredApp {selected : List ProcFiles}
    {name id commandline : String} (member : process ∈ selected)
    (named : strip name ≠ "") (identified : strip id ≠ "")
    (shown : process.Shows tools
        (lowerCase (strip (deriveProcessName tools process.readProc))) ∧
      process.Shows tools
        (lowerCase (deriveProcessName tools process.readProc)))
    (heard : process.HearsCandidate tools) :
    RecognisedAs tools (discoveredApp tools selected name id commandline)
      process := by
  constructor
  · intro machine running
    exact ⟨_, mem_processNames_discoveredApp.mpr ⟨process, member, rfl⟩,
      mem_getAppProcesses running shown.1⟩
  · have written : lowerCase (deriveProcessName tools process.readProc) ∈
        loweredNames (discoveredApp tools selected name id
          commandline).processNames :=
      mem_loweredNames_discoveredApp.mpr ⟨process, member, rfl⟩
    have keyed : (discoveredApp tools selected name id commandline).id ≠ "" :=
      identified
    refine (appIdForProcess_eq_iff keyed).mpr ?_
    rcases shown.2.2 with program | ⟨argument, derived⟩
    · exact .inl ⟨_, written, program⟩
    · exact .inr ⟨⟨_, written, argument⟩, by rw [derived]; exact written⟩
  · have titled : (discoveredApp tools selected name id commandline).name ≠
        "" := named
    refine (execEvent_eq_iff titled).mpr ?_
    simp only [mem_lowered_bpfName_discoveredApp]
    rcases heard with comm | ⟨filled, program⟩
    · exact .inl ⟨process, member, comm.symm⟩
    · exact .inr ⟨filled, process, member, program.symm⟩

theorem alike_of_recognisedAs {name id commandline : String}
    (named : strip name ≠ "") (identified : strip id ≠ "")
    (recognised : RecognisedAs tools
      (discoveredApp tools [process] name id commandline) process) :
    (process.Shows tools
        (lowerCase (strip (deriveProcessName tools process.readProc))) ∧
      process.Shows tools
        (lowerCase (deriveProcessName tools process.readProc))) ∧
      process.HearsCandidate tools := by
  have titled : (discoveredApp tools [process] name id commandline).name ≠ "" :=
    named
  have keyed : (discoveredApp tools [process] name id commandline).id ≠ "" :=
    identified
  refine ⟨⟨?_, ?_⟩, ?_⟩
  · obtain ⟨known, written, found⟩ :=
      recognised.byName [process] List.mem_cons_self
    obtain ⟨other, member, rfl⟩ := mem_processNames_discoveredApp.mp written
    rw [List.mem_singleton.mp member] at found
    have pids : ([process].map ProcFiles.pid).Nodup := by simp
    exact shows_of_mem_getAppProcesses pids List.mem_cons_self found
  · have known := (appIdForProcess_eq_iff keyed).mp recognised.byMonitor
    simp only [mem_loweredNames_discoveredApp, List.mem_singleton,
      exists_eq_left] at known
    refine ⟨lowerCase_ne_empty deriveProcessName_ne_empty, ?_⟩
    rcases known with ⟨_, rfl, program⟩ | ⟨⟨_, rfl, argument⟩, derived⟩
    · exact .inl program
    · exact .inr ⟨argument, derived.symm⟩
  · have heard := (execEvent_eq_iff titled).mp recognised.byEvent
    simp only [mem_lowered_bpfName_discoveredApp, List.mem_singleton,
      exists_eq_left] at heard
    rcases heard with comm | ⟨filled, program⟩
    · exact .inl comm.symm
    · exact .inr ⟨filled, program.symm⟩

/-! ## The other processes -/

theorem owns_of_shows {key name : String} (shown : process.Shows tools key)
    (same : strip key = lowerCase (strip name)) :
    process.Owns tools name := by
  have owned : ∀ own ∈ process.ownNames tools,
      key = lowerCase own ∨ key = lowerCase (strip own) →
        process.Owns tools name := by
    intro own member spelled
    refine ⟨own, member, ?_⟩
    rw [← same]
    rcases spelled with rfl | rfl
    · exact (strip_lowerCase own).symm
    · rw [strip_lowerCase, strip_strip]
  rcases shown.2 with program | ⟨_, derived⟩
  · simp only [execNames, List.mem_cons, List.not_mem_nil, or_false] at program
    rcases program with argument | comm | file
    · exact owned _ (by simp [ownNames]) (.inl argument)
    · exact owned process.comm (by simp [ownNames]) (.inr comm)
    · exact owned _ (by simp [ownNames]) (.inl file)
  · exact owned _ (by simp [ownNames]) (.inr derived.symm)

theorem leftAlone_of_unnamed {app : ControlledEntry} (named : app.name ≠ "")
    (identified : app.id ≠ "") (unnamed : process.Unnamed tools app)
    (owned : basenameIsInterpreter (strip process.comm) →
      scriptFromCmdline process.tokens ≠ "" →
        process.Owns tools (scriptFromCmdline process.tokens)) :
    LeftAlone tools app process := by
  have spelled : ∀ key, process.Shows tools key →
      ∀ known ∈ app.bpfName ++ app.processNames,
        strip key ≠ lowerCase (strip known) :=
    fun key shown known written same =>
      unnamed known written (owns_of_shows shown same)
  constructor
  · intro machine pids running known written found
    refine spelled _ (shows_of_mem_getAppProcesses pids running found) known
      (List.mem_append_right _ written) ?_
    rw [strip_lowerCase, strip_strip]
  · intro given
    rcases (appIdForProcess_eq_iff identified).mp given with
      ⟨_, written, program⟩ | ⟨_, derived⟩
    · obtain ⟨known, member, filled, rfl⟩ := mem_loweredNames.mp written
      exact spelled _ ⟨lowerCase_ne_empty filled, .inl program⟩ known
        (List.mem_append_right _ member) (strip_lowerCase known)
    · obtain ⟨known, member, _, same⟩ := mem_loweredNames.mp derived
      refine unnamed known (List.mem_append_right _ member)
        ⟨process.derivedProcessIdentity tools, by simp [ownNames], ?_⟩
      rw [← strip_lowerCase known, same, strip_lowerCase, strip_strip]
  · intro heard
    have listens : ∀ own, process.Owns tools own →
        lowerCase own ∉ app.bpfName.map lowerCase := by
      rintro own ⟨name, member, same⟩ written
      obtain ⟨known, listed, alike⟩ := List.mem_map.mp written
      refine unnamed known (List.mem_append_left _ listed) ⟨name, member, ?_⟩
      rw [same, ← strip_lowerCase, ← alike, strip_lowerCase]
    have comm : process.Owns tools process.comm :=
      ⟨process.comm, by simp [ownNames], rfl⟩
    have trimmed : process.Owns tools (strip process.comm) :=
      ⟨process.comm, by simp [ownNames], by rw [strip_strip]⟩
    rcases (execEvent_eq_iff named).mp heard with direct | ⟨filled, program⟩
    · exact listens _ comm direct
    · rcases resolveProgramName_cases process with
        ⟨interpreter, _, script⟩ | ⟨_, plain⟩
      · rw [script] at filled program
        refine listens _ (owned interpreter fun empty => ?_) program
        rw [empty] at filled
        exact filled rfl
      · rw [plain] at program
        exact listens _ trimmed program

/-- `python3` runs the script of a process. -/
def underPython (process : ProcFiles) : ProcFiles where
  pid := process.pid + 1
  comm := "python3"
  exe := ""
  argv := "python3" :: process.tokens.drop 1
  cgroupUnit := ""
  comm_shown := by decide
  comm_base := by decide

/-- The wizard gives an app the script that `python3` runs. -/
theorem names_underPython (filled : scriptFromCmdline process.tokens ≠ "") :
    bpfCandidate tools process.underPython.readProc =
        scriptFromCmdline process.tokens ∧
      deriveProcessName tools process.underPython.readProc =
        scriptFromCmdline process.tokens := by
  have tokens_eq : process.underPython.tokens =
      "python3" :: process.tokens.drop 1 := by
    simp only [tokens, underPython]
    rw [List.filter_cons_of_pos (by decide)]
    refine congrArg _ (List.filter_eq_self.mpr fun token member => ?_)
    exact (List.mem_filter.mp (List.mem_of_mem_drop member)).2
  have script : scriptFromCmdline process.underPython.tokens =
      scriptFromCmdline process.tokens := by
    rw [tokens_eq]
    simp [scriptFromCmdline, firstArgument]
  have interpreter : isInterpreter "python3" = true := by decide
  have comm : isWrapper tools (strip process.underPython.comm) := by
    have plain : strip process.underPython.comm = "python3" :=
      (by decide : strip "python3" = "python3")
    simp [isWrapper, plain, interpreter]
  have launcher : isWrapper tools process.underPython.readProc.launcher := by
    have plain : process.underPython.readProc.launcher = "python3" := by
      simp [IdentityFields.launcher, readProc, underPython]
      decide
    simp [isWrapper, plain, interpreter]
  constructor
  · rw [bpfCandidate_readProc, if_pos comm, script,
      orElseName_of_ne_empty filled]
  · rw [deriveProcessName_readProc, programName, if_pos launcher, script,
      orElseName_of_ne_empty filled]

/-- A script that the intercept thread alone sees is taken for the app that runs
it under `python3`. -/
theorem owns_script_of_leftAlone
    (alone : ∀ selected name id commandline, strip name ≠ "" → strip id ≠ "" →
        process.Unnamed tools
          (discoveredApp tools selected name id commandline) →
        LeftAlone tools (discoveredApp tools selected name id commandline)
          process)
    (interpreter : basenameIsInterpreter (strip process.comm))
    (filled : scriptFromCmdline process.tokens ≠ "") :
    process.Owns tools (scriptFromCmdline process.tokens) := by
  by_contra foreign
  have names : bpfCandidate tools process.underPython.readProc =
        scriptFromCmdline process.tokens ∧
      deriveProcessName tools process.underPython.readProc =
        scriptFromCmdline process.tokens :=
    names_underPython filled
  have app : strip "app" ≠ "" := by decide
  have unnamed : process.Unnamed tools
      (discoveredApp tools [process.underPython] "app" "app" "") := by
    intro known written
    rw [List.mem_append, mem_bpfName_discoveredApp,
      mem_processNames_discoveredApp] at written
    simp only [List.mem_singleton, exists_eq_left, names, or_self] at written
    rw [← written]
    exact foreign
  refine (alone _ _ _ _ app app unnamed).byEvent ?_
  refine (execEvent_eq_iff app).mpr (.inr ?_)
  rcases resolveProgramName_cases process with
    ⟨_, _, script⟩ | ⟨unknown | none, _⟩
  · rw [script, mem_lowered_bpfName_discoveredApp]
    exact ⟨lowerCase_ne_empty filled, process.underPython,
      List.mem_singleton_self _, congrArg lowerCase names.1⟩
  · exact absurd interpreter unknown
  · exact absurd (scriptFromCmdline_of_none none) filled

end ProcFiles


namespace ProcFiles

end ProcFiles

/-! ## Launches that are read differently -/

/-- `sudo /opt/worker/worker`. -/
def sudoWorker : ProcFiles where
  pid := 70
  comm := "sudo"
  exe := "/usr/bin/sudo"
  argv := ["sudo", "/opt/worker/worker"]
  cgroupUnit := "session-2.scope"
  comm_shown := by decide
  comm_base := by decide

/-- `python3 /opt/web/server.py`, where `python3` is a link to another
interpreter. -/
def pypyServer : ProcFiles where
  pid := 80
  comm := "python3"
  exe := "/opt/pypy/bin/pypy3.10"
  argv := ["python3", "/opt/web/server.py"]
  cgroupUnit := "session-2.scope"
  comm_shown := by decide
  comm_base := by decide

end SmarTune
