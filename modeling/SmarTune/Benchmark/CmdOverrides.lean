import SmarTune.Diagnostics.SmartuneDetector

/-!
# Command overrides

An advanced run maps case keys to commands.  `_write_cmd_overrides` writes each
command that is not blank to `overrides_<run>/<key>.cmd` and raises at the
first key or command that it does not accept; what it wrote until then stays.

`word` stands for `str.isalnum` of one character.
-/

namespace SmarTune

namespace CaseKey

variable (word : Char → Bool)

/-- `[\w.+-]`. -/
def plain (char : Char) : Bool :=
  word char || char == '_' || char == '.' || char == '+' || char == '-'

/-- `[A-Za-z0-9]`. -/
def alnum (char : Char) : Bool :=
  char.isAlphanum

/-- `[A-Za-z0-9]+$`; a line break at the end is not looked at. -/
def device (chars : List Char) : Bool :=
  let name := if chars.getLast? = some '\n' then chars.dropLast else chars
  !name.isEmpty && name.all alnum

/-- `[\w.+-]*__` before a part that `next` accepts. -/
def upTo (next : List Char → Bool) : List Char → Bool
  | [] => false
  | char :: rest =>
    (char == '_' && rest.head? == some '_' && next rest.tail) ||
      (plain word char && upTo next rest)

/-- `[\w.+-]+__[A-Za-z0-9]+$`. -/
def quantAndDevice : List Char → Bool
  | [] => false
  | char :: rest => plain word char && upTo word device rest

/-- `_CASE_KEY_RE.match`. -/
def accepts (key : String) : Bool :=
  match key.toList with
  | [] => false
  | char :: rest => alnum char && upTo word (quantAndDevice word) rest

example : accepts (·.isAlphanum) "qwen2.5__int4__GPU" = true := by
  decide

example : accepts (·.isAlphanum) "../../etc/x" = false := by
  decide

end CaseKey

/-- `_MAX_OVERRIDE_LEN`. -/
def maxOverrideLen : Nat := 8192

/-- The texts of `cmd_overrides`, by case key. -/
abbrev CmdOverrides := List (String × String)

/-- Why `_write_cmd_overrides` raises. -/
inductive OverrideError
  | invalidKey (key : String)
  | tooLong (key : String) (length : Nat)
  | fileError
  deriving DecidableEq

/-- `not text.strip()`. -/
def isBlank (text : String) : Bool :=
  text.toList.all isSpace

def overrideText (text : String) : String :=
  if text.endsWith "\n" then text else text ++ "\n"

/-- What a call left behind. -/
structure OverridesWritten where
  /-- The directory, with its files, when it was made. -/
  directory : Option (List (String × String))
  /-- What was raised. -/
  error : Option OverrideError
  deriving DecidableEq

variable (word : Char → Bool)

/-- The loop of `_write_cmd_overrides`; `faults key` says that the file of that
key cannot be written. -/
def writeCommands (faults : String → Bool) :
    CmdOverrides → List (String × String) → OverridesWritten
  | [], written => ⟨some written, none⟩
  | (key, text) :: rest, written =>
    if !CaseKey.accepts word key then ⟨some written, some (.invalidKey key)⟩
    else if isBlank text then writeCommands faults rest written
    else if text.length > maxOverrideLen then
      ⟨some written, some (.tooLong key text.length)⟩
    else if faults key then ⟨some written, some .fileError⟩
    else
      writeCommands faults rest (written ++ [(key ++ ".cmd", overrideText text)])

/-- What the file system refuses in one call. -/
structure OverrideFaults where
  directory : Bool
  file : String → Bool

def OverrideFaults.clear : OverrideFaults := ⟨false, fun _ => false⟩

/-- `_write_cmd_overrides`. -/
def writeCmdOverrides (faults : OverrideFaults)
    (commands : CmdOverrides) : OverridesWritten :=
  if faults.directory then ⟨none, some .fileError⟩
  else writeCommands word faults.file commands []

/-- The call accepts the entry and the file system takes its file. -/
def AcceptsOverride (faults : OverrideFaults)
    (entry : String × String) : Prop :=
  CaseKey.accepts word entry.1 = true ∧ (isBlank entry.2 = true ∨
      entry.2.length ≤ maxOverrideLen ∧ faults.file entry.1 = false)

instance (faults : OverrideFaults) (entry : String × String) :
    Decidable (AcceptsOverride word faults entry) := by
  unfold AcceptsOverride
  infer_instance

variable {word}

variable {faults : OverrideFaults} {commands : CmdOverrides}

theorem writeCommands_error_eq_none_iff {written : List (String × String)} :
    (writeCommands word faults.file commands written).error = none ↔
      ∀ entry ∈ commands, AcceptsOverride word faults entry := by
  induction commands generalizing written with
  | nil => simp [writeCommands]
  | cons entry rest ih =>
    obtain ⟨key, text⟩ := entry
    rw [List.forall_mem_cons]
    unfold writeCommands
    split
    · rename_i refused
      have refused : CaseKey.accepts word key = false := by simpa using refused
      simp [AcceptsOverride, refused]
    · rename_i accepted
      have accepted : CaseKey.accepts word key = true := by simpa using accepted
      split
      · rename_i blank
        rw [ih]
        simp [AcceptsOverride, accepted, blank]
      · rename_i nonblank
        split
        · rename_i long
          simp [AcceptsOverride, nonblank, long]
        · rename_i short
          split
          · rename_i fault
            simp [AcceptsOverride, nonblank, fault]
          · rename_i sound
            rw [ih]
            simp [AcceptsOverride, accepted, Nat.le_of_not_gt short, sound]

/-- The call raises exactly when the directory or an entry is refused. -/
theorem writeCmdOverrides_error_eq_none_iff :
    (writeCmdOverrides word faults commands).error = none ↔
      faults.directory = false ∧
        ∀ entry ∈ commands, AcceptsOverride word faults entry := by
  unfold writeCmdOverrides
  split
  · rename_i refused
    simp [refused]
  · rename_i made
    simp [made, writeCommands_error_eq_none_iff]

end SmarTune
