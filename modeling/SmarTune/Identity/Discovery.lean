import SmarTune.Identity.Names
import SmarTune.Identity.ScopeSnapshot

/-!
# Discovered programs and how they are recognised

The wizard reads the names of an app off its running processes.  Three readers
recognise the app by these names later: the lookup by exact name, the monitor,
and the intercept thread at an exec event.  A program that an interpreter or a
shell runs goes by its script; the wizard and the intercept thread have a list
of interpreters each.
-/

namespace SmarTune

/-! ## Interpreters -/

/-- `_DEFAULT_SHELL_TOOLS`. -/
def defaultShellTools : List String :=
  ["bash", "sh", "dash", "zsh", "fish", "tcsh",
    "sudo", "su", "env", "which", "getent",
    "cat", "head", "tail", "ls", "find", "xargs",
    "grep", "sed", "awk", "cut", "sort", "uniq", "wc", "tr", "tee",
    "ps", "top", "pgrep", "pkill",
    "true", "false", "sleep", "kill",
    "mv", "cp", "rm", "ln", "mkdir", "rmdir", "touch", "chmod", "chown"]

/-- `_shell_tools`, for the names that are configured. -/
def shellTools (configured : List String) : List String :=
  if configured = [] then defaultShellTools
  else (configured.filter fun name => strip name ≠ "").map fun name =>
    lowerCase (strip name)

/-- `_INTERPRETERS` of the wizard. -/
def wizardInterpreters : List String :=
  ["python", "python2", "python3", "node", "nodejs",
    "perl", "ruby", "java", "php", "lua", "rscript"]

/-- `INTERPRETERS` of the intercept thread. -/
def interceptInterpreters : List String :=
  ["python", "python2", "python3", "node", "nodejs",
    "perl", "ruby", "java", "php", "lua", "rscript",
    "bash", "sh", "dash", "zsh", "fish", "tcsh"]

def isVersionOf (known : List String) (name : String) : Bool :=
  let name := lowerCase name
  let base := String.ofList (name.toList.takeWhile fun char => !char.isDigit)
  known.contains name || (base ≠ "" && known.contains base)

/-- `_is_interpreter`. -/
def isInterpreter (name : String) : Bool := isVersionOf wizardInterpreters name

/-- `_basename_is_interpreter`. -/
def basenameIsInterpreter (name : String) : Bool :=
  isVersionOf interceptInterpreters name

/-- The first argument after the program that is no flag. -/
def firstArgument (tokens : List String) : Option String :=
  ((tokens.drop 1).map strip).find? fun token =>
    token ≠ "" && token.toList.head? ≠ some '-'

/-- `_script_from_cmdline`. -/
def scriptFromCmdline (tokens : List String) : String :=
  (firstArgument tokens).elim "" basename

/-! ## The wizard -/

/-- What `/proc` has on a process, with its arguments as they were passed. The
kernel names it after the last component of the path that was run. -/
structure ProcFiles where
  pid : Nat
  comm : String
  /-- The program file, empty where it cannot be read. -/
  exe : String
  argv : List String
  /-- The unit that `_parse_systemd_unit` finds. -/
  cgroupUnit : String
  comm_shown : strip comm ≠ ""
  comm_base : '/' ∉ comm.toList

/-- The fields that `_derive_process_name` reads. -/
structure IdentityFields where
  comm : String
  exe : String
  cmdlineArgv0 : String
  cmdlineTokens : List String

/-- The program that runs the process. -/
def IdentityFields.launcher (info : IdentityFields) : String :=
  orElseName (basename info.exe) (basename (strip info.cmdlineArgv0))

/-- A name is a configured shell tool or an interpreter. -/
def isWrapper (tools : List String) (name : String) : Bool :=
  tools.contains (lowerCase name) || isInterpreter name

/-- `_derive_process_name`. -/
def deriveProcessName (tools : List String) (info : IdentityFields) : String :=
  let comm := strip info.comm
  if isWrapper tools info.launcher then
    orElseName (scriptFromCmdline info.cmdlineTokens) comm
  else orElseName (basename info.exe) comm

/-- The name that `extract_fields` takes over for exec events. -/
def bpfCandidate (tools : List String) (info : IdentityFields) : String :=
  let comm := strip info.comm
  if isWrapper tools comm then
    orElseName (scriptFromCmdline info.cmdlineTokens) comm
  else comm

namespace ProcFiles

/-- The arguments that are not empty. -/
def tokens (process : ProcFiles) : List String :=
  process.argv.filter (· ≠ "")

/-- `_read_proc`. -/
def readProc (process : ProcFiles) : IdentityFields where
  comm := strip process.comm
  exe := process.exe
  cmdlineArgv0 := process.argv.headD ""
  cmdlineTokens := process.tokens

/-- `cmdline_pretty`, or `argv[0]` where it is blank. -/
def commandline (process : ProcFiles) : String :=
  orElseName (strip (String.join (process.argv.map (· ++ " "))))
    (strip (process.argv.headD ""))

/-- The fields that `derived_process_identity` passes on. -/
def identityFields (process : ProcFiles) : IdentityFields where
  comm := strip process.comm
  exe := strip process.exe
  cmdlineArgv0 := strip (process.argv.headD "")
  cmdlineTokens := process.argv

/-- `derived_process_identity`. -/
def derivedProcessIdentity (tools : List String)
    (process : ProcFiles) : String :=
  deriveProcessName tools process.identityFields

/-- The process as it is looked up by name. -/
def info (tools : List String) (process : ProcFiles) : ProcessInfo where
  pid := process.pid
  comm := process.comm
  exe := process.exe
  cmdline := process.argv
  derived := process.derivedProcessIdentity tools
  path := none
  running := true

end ProcFiles

/-- The loop of `_slugify`: something was written, and it ends in a dash. -/
def slugChars : Bool → Bool → List Char → List Char
  | _, _, [] => []
  | written, dashed, char :: chars =>
    if ('a' ≤ char ∧ char ≤ 'z') ∨ ('0' ≤ char ∧ char ≤ '9') then
      char :: slugChars true false chars
    else if written && !dashed then '-' :: slugChars true true chars
    else slugChars written dashed chars

/-- `_slugify`. -/
def slugify (text : String) : String :=
  String.ofList (((slugChars false false (lowered text)).dropWhile
    (· = '-')).rdropWhile (· = '-'))

/-- `ExtractResult`. -/
structure ExtractResult where
  bpfName : List String
  processNames : List String
  commandline : List String
  cgroupIds : List String
  idSuggestion : String

/-- Python's `sorted` of the distinct names. -/
def sortedDistinct (names : List String) : List String :=
  (names.filter (· ≠ "")).eraseDups.mergeSort fun first second =>
    decide (first ≤ second)

/-- The `id` that the wizard suggests for the units of the processes. -/
def idSuggestion (units : List String) (name : String) : String :=
  let only := match units with
    | [unit] => if ".slice".toList <:+ unit.toList then "" else unit
    | _ => ""
  if only = "" ∧ name ≠ "" ∧ slugify name ≠ "" then slugify name ++ ".id"
  else only

/-- `extract_fields`, for the selected processes that are there. -/
def extractFields (tools : List String) (selected : List ProcFiles)
    (name : String) : ExtractResult where
  bpfName := sortedDistinct (selected.map fun process =>
    bpfCandidate tools process.readProc)
  processNames := sortedDistinct (selected.map fun process =>
    deriveProcessName tools process.readProc)
  commandline := sortedDistinct (selected.map ProcFiles.commandline)
  cgroupIds := sortedDistinct (selected.map ProcFiles.cgroupUnit)
  idSuggestion :=
    idSuggestion (sortedDistinct (selected.map ProcFiles.cgroupUnit)) name

/-! ## The lookup by exact name -/

/-- `get_app_processes_by_exact_name`, over the processes of the machine. -/
def getAppProcessesByExactName (tools : List String) (machine : List ProcFiles)
    (name : String) : List Nat :=
  ((machine.filter fun process =>
    (process.info tools).exactMatches name).map
      ProcFiles.pid).eraseDups.mergeSort

/-! ## The monitor -/

/-- `_proc_name_to_app`, from `_load_multiprocess_config`. -/
def procNameToApp (apps : List ControlledEntry) : OrderedDict String String :=
  apps.foldl (fun dict app => (loweredNames app.processNames).foldl
    (fun dict name => dict.set name app.id) dict) .empty

namespace ProcFiles

/-- `argv[0]`, `comm` and the program file as they are compared. -/
def execNames (process : ProcFiles) : List String :=
  [lowerCase (basename (strip (process.argv.headD ""))),
    lowerCase (strip process.comm), lowerCase (basename (strip process.exe))]

/-- The base names of the arguments as they are compared. -/
def argumentNames (process : ProcFiles) : List String :=
  (process.argv.drop 1).map fun token => lowerCase (basename (strip token))

/-- `_app_id_for_process`. -/
def appIdForProcess (tools : List String) (dict : OrderedDict String String)
    (process : ProcFiles) : String :=
  match (process.execNames.filter (· ≠ "")).findSome? fun name =>
      (dict.get? name).filter (· ≠ "") with
  | some appId => appId
  | none =>
    if process.argumentNames.any fun name => (dict.get? name).isSome then
      (dict.get? (lowerCase (strip
        (process.derivedProcessIdentity tools)))).getD ""
    else ""

end ProcFiles

/-! ## The intercept thread -/

/-- `_comm_to_app` and `_filename_exe_to_app`, which hold the same: the entries
that `_rebuild_match_cache` makes of the monitored names. -/
def rebuildMatchCache (monitored : List String)
    (apps : List ControlledEntry) : OrderedDict String String :=
  monitored.foldl (fun dict app =>
    (((apps.reverse.find? fun item => item.name = app).map
      ControlledEntry.bpfName).getD []).foldl
        (fun dict exe => dict.set (lowerCase exe) app) dict) .empty

def hasPart (text part : String) : Bool := decide (part.toList <:+: text.toList)

/-- `get_main_process`. -/
def getMainProcess (dict : OrderedDict String String)
    (comm filename : String) : Option String :=
  let comm := lowerCase comm
  let filename := lowerCase filename
  match dict.get? comm with
  | some app => some app
  | none =>
    if ["/bin/", "/usr/bin/", "/snap/bin/"].any (hasPart filename) ||
        comm = "bash" then
      (dict.entries.find? fun entry =>
        filename = entry.1 || basename filename = entry.1 ||
          hasPart filename ("/" ++ entry.1)).map Prod.snd
    else none

/-- `_resolve_program_name`. -/
def resolveProgramName (comm filename : String)
    (cmdlineTokens : List String) : String :=
  let base := lowerCase (basename (strip (orElseName filename comm)))
  if basenameIsInterpreter base then
    (firstArgument cmdlineTokens).elim base fun token =>
      lowerCase (basename token)
  else base

/-- `_resolve_main_process_for_exec_event`, where the command line is read from
`/proc`. -/
def resolveMainProcess (dict : OrderedDict String String)
    (comm filename : String) (cmdlineTokens : List String) : Option String :=
  match getMainProcess dict comm filename with
  | some app => some app
  | none =>
    let program := resolveProgramName comm filename cmdlineTokens
    if program = "" then none else (dict.get? program).filter (· ≠ "")

/-- The app an exec event of the process resolves to; the event has `comm` for
the file name too. -/
def ProcFiles.execEvent (dict : OrderedDict String String)
    (process : ProcFiles) : Option String :=
  resolveMainProcess dict process.comm process.comm process.tokens

end SmarTune
