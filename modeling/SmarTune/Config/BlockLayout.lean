import SmarTune.Config.Scalars
import SmarTune.Library.NestedDict

/-!
# Files in block layout

A `config.yaml` is laid out as a block when each of its dictionaries has its
entries on lines of their own, two blanks deeper than its key.  The loader reads
such a file as the dictionaries of its entries.  What else there is, such as
lists and quoted texts with a `#`, is kept as it stands.

The setters write a value into such a file line by line: the line of a setting
is looked for by the indentation and the keys of the lines, and only that line
is written anew.
-/

namespace SmarTune

/-- A line of a file, without its end. -/
abbrev FileLine := List Char

namespace FileLine

/-- The text of a line without the blanks at its end. -/
def rstrip (line : FileLine) : FileLine := line.rdropWhile Char.isWhitespace

/-- The text of a line without the blanks at its ends. -/
def trim (line : FileLine) : FileLine :=
  rstrip (line.dropWhile Char.isWhitespace)

/-- A character of a key. -/
def isKeyChar (char : Char) : Bool := char ≠ ':' && char ≠ '#'

/-- `key_pattern`: the width of the indentation and the key.  A blank of the
indentation is the key where nothing else is. -/
def keyPattern (line : FileLine) : Option (ℕ × FileLine) :=
  let indent := line.takeWhile Char.isWhitespace
  let rest := line.dropWhile Char.isWhitespace
  let key := rest.takeWhile isKeyChar
  match rest.dropWhile isKeyChar with
  | ':' :: _ =>
    if key ≠ [] then some (indent.length, key)
    else if indent ≠ [] then some (indent.length - 1, [' '])
    else none
  | _ => none

/-- The comment of a line, from behind its mark. -/
def commentPart (line : FileLine) : Option FileLine :=
  match line.dropWhile (· ≠ '#') with
  | [] => none
  | _ :: comment => some (trim comment)

/-- A comment as it is written behind a value. -/
def writeComment : Option FileLine → FileLine
  | none => []
  | some comment => ' ' :: ' ' :: '#' :: comment

def withoutComment (line : FileLine) : FileLine :=
  if '#' ∈ line then rstrip (line.takeWhile (· ≠ '#')) else line

def rewrite (line value : FileLine) : FileLine :=
  line.withoutComment.takeWhile (· ≠ ':') ++ ':' :: ' ' :: value ++
    writeComment (commentPart line)

end FileLine

/-- `_replace_yaml_scalar_line`, from the line after the parent on; `none`
where no line is replaced. -/
def replaceYamlScalarLine (value : FileLine) :
    Option ℕ → List String → List FileLine → Option (List FileLine)
  | _, _, [] => none
  | _, [], _ => none
  | parentIndent, key :: path, line :: lines =>
    match line.keyPattern with
    | none =>
      (replaceYamlScalarLine value parentIndent (key :: path) lines).map
        (line :: ·)
    | some (indent, name) =>
      if parentIndent.any (indent ≤ ·) then none
      else if indent = parentIndent.elim 0 (· + 2) ∧
          FileLine.trim name = key.toList then
        match path with
        | [] => some (line.rewrite value :: lines)
        | next :: path =>
          (replaceYamlScalarLine value (some indent) (next :: path)
            lines).map (line :: ·)
      else
        (replaceYamlScalarLine value parentIndent (key :: path) lines).map
          (line :: ·)

/-- The loop of `_patch_limit_policy_yaml` over its updates: the lines, and
whether one was replaced. -/
def patchLines :
    List (List String × Scalar) → List FileLine → List FileLine × Bool
  | [], lines => (lines, false)
  | (path, value) :: updates, lines =>
    match replaceYamlScalarLine value.formatYamlScalar none path lines with
    | none => patchLines updates lines
    | some replaced => ((patchLines updates replaced).1, true)

/-- A block of entries. -/
inductive BlockLayout
  | done
  /-- A blank line or a comment. -/
  | note (line : FileLine) (rest : BlockLayout)
  /-- A setting, with the blanks before its value and the comment behind it. -/
  | leaf (name gap value comment : FileLine) (rest : BlockLayout)
  /-- A dictionary. -/
  | block (name comment : FileLine) (body rest : BlockLayout)
  /-- An entry of any other form, with all its lines. -/
  | other (key : String) (lines : List FileLine) (rest : BlockLayout)
  deriving DecidableEq

/-- The key that a name before a colon stands for. -/
def keyOf (name : FileLine) : String := String.ofList name.rstrip

def indentation (level : ℕ) : FileLine := List.replicate (2 * level) ' '

def entryLine (level : ℕ) (name tail : FileLine) : FileLine :=
  indentation level ++ (name ++ ':' :: tail)

namespace BlockLayout

def render (level : ℕ) : BlockLayout → List FileLine
  | done => []
  | note line rest => line :: rest.render level
  | leaf name gap value comment rest =>
    entryLine level name (gap ++ (value ++ comment)) :: rest.render level
  | block name comment body rest =>
    entryLine level name comment ::
      (body.render (level + 1) ++ rest.render level)
  | other _ lines rest => lines ++ rest.render level

def keys : BlockLayout → List String
  | done => []
  | note _ rest => rest.keys
  | leaf name _ _ _ rest => keyOf name :: rest.keys
  | block name _ _ rest => keyOf name :: rest.keys
  | other key _ rest => key :: rest.keys

def write (path : List String) (key : String)
    (text : FileLine) : BlockLayout → Option BlockLayout
  | done => none
  | note line rest => (rest.write path key text).map (note line)
  | leaf name gap value comment rest =>
    if path = [] ∧ key = keyOf name then
      some (leaf name [' '] text
        (FileLine.writeComment comment.commentPart) rest)
    else (rest.write path key text).map (leaf name gap value comment)
  | block name comment body rest =>
    match path with
    | [] => (rest.write [] key text).map (block name comment body)
    | first :: path =>
      if first = keyOf name then
        (body.write path key text).map fun body =>
          block name comment body rest
      else
        (rest.write (first :: path) key text).map (block name comment body)
  | other known lines rest => (rest.write path key text).map (other known lines)

end BlockLayout

/-! ## What the loader reads -/

/-- A value of the configuration: a scalar, or what else the loader makes. -/
inductive ConfigValue (ω : Type*)
  | scalar (value : Scalar)
  | other (value : ω)
  deriving DecidableEq

namespace ConfigValue

/-- Python's `==`, where values of other types are only equal to themselves. -/
def Same {ω : Type*} : ConfigValue ω → ConfigValue ω → Prop
  | scalar first, scalar second => first.Same second
  | other first, other second => first = second
  | _, _ => False

theorem Same.refl {ω : Type*} (value : ConfigValue ω) : value.Same value := by
  cases value with
  | scalar value => exact rfl
  | other value => exact rfl

end ConfigValue

/-- How the loader reads single texts: which lines may stand before the first
entry, which names are keys, which texts are values on one line, and which lines
are other entries, with the values of both. -/
structure YamlTexts (ω : Type*) where
  headText : List FileLine → Prop
  keyText : FileLine → Prop
  inlineText : FileLine → Prop
  otherText : ℕ → String → List FileLine → Prop
  inline : FileLine → ConfigValue ω
  other : ℕ → String → List FileLine → ω

def Blanks (chars : FileLine) : Prop := ∀ char ∈ chars, char = ' '

instance (chars : FileLine) : Decidable (Blanks chars) :=
  List.decidableBAll (fun char => char = ' ') chars

/-- A name that can be written before a colon as it is. -/
structure PlainName (name : FileLine) : Prop where
  chars : ∀ char ∈ name, FileLine.isKeyChar char = true
  start : ∃ first rest, name = first :: rest ∧
    first.isWhitespace = false ∧ first ∉ ['-', '"', '\'']

/-- Blanks, or a comment after blanks. -/
def CommentText (comment : FileLine) : Prop :=
  Blanks comment ∨
    ∃ blanks text, comment = blanks ++ '#' :: text ∧ blanks ≠ [] ∧ Blanks blanks

/-- A line that is blank or a comment. -/
def NoteText (line : FileLine) : Prop :=
  Blanks line ∨ ∃ blanks text, line = blanks ++ '#' :: text ∧ Blanks blanks

/-- A line of an entry that is not taken for another entry: it is deeper, has
the key of the entry, or starts like an item or a quoted key. -/
def Inside (level : ℕ) (key : String) (line : FileLine) : Prop :=
  ∀ indent name, line.keyPattern = some (indent, name) →
    2 * level < indent ∨ (indent = 2 * level ∧
      (FileLine.trim name = key.toList ∨
        ∃ mark rest, name = mark :: rest ∧ mark ∈ ['-', '"', '\'']))

namespace BlockLayout

/-- A block at a level that the loader reads entry by entry. -/
def Fits {ω : Type*} (yaml : YamlTexts ω) : ℕ → BlockLayout → Prop
  | _, done => True
  | level, note line rest => NoteText line ∧ rest.Fits yaml level
  | level, leaf name gap value comment rest =>
    PlainName name ∧ yaml.keyText name ∧ keyOf name ∉ rest.keys ∧
      Blanks gap ∧ (gap ≠ [] ∨ value = []) ∧
      '#' ∉ value ∧ yaml.inlineText value ∧ CommentText comment ∧
      rest.Fits yaml level
  | level, block name comment body rest =>
    PlainName name ∧ yaml.keyText name ∧ keyOf name ∉ rest.keys ∧
      CommentText comment ∧ body.keys ≠ [] ∧
      body.Fits yaml (level + 1) ∧ rest.Fits yaml level
  | level, other key lines rest =>
    key ∉ rest.keys ∧ (∀ line ∈ lines, Inside level key line) ∧
      yaml.otherText level key lines ∧ rest.Fits yaml level

/-- The dictionary of a block. -/
def value {ω : Type*} (yaml : YamlTexts ω) :
    ℕ → BlockLayout → NestedDict String (ConfigValue ω)
  | _, done => .empty
  | level, note _ rest => rest.value yaml level
  | level, leaf name _ text _ rest =>
    .value (keyOf name) (yaml.inline text) (rest.value yaml level)
  | level, block name _ body rest =>
    .dict (keyOf name) (body.value yaml (level + 1)) (rest.value yaml level)
  | level, other key lines rest =>
    .value key (.other (yaml.other level key lines)) (rest.value yaml level)

end BlockLayout

/-- A file: what stands before the first entry, and the entries. -/
structure ConfigFile where
  head : List FileLine
  layout : BlockLayout
  deriving DecidableEq

namespace ConfigFile

def lines (file : ConfigFile) : List FileLine :=
  file.head ++ file.layout.render 0

/-- A file that the loader reads entry by entry. -/
structure Fits {ω : Type*} (yaml : YamlTexts ω) (file : ConfigFile) : Prop where
  head : yaml.headText file.head
  passed : ∀ line ∈ file.head, line.keyPattern = none
  filled : file.layout.keys ≠ []
  layout : file.layout.Fits yaml 0

end ConfigFile

/-- A loader that reads block layout as documented; of other files nothing is
assumed. -/
structure YamlLoader (ω : Type*) extends YamlTexts ω where
  load : List FileLine → Option (NestedDict String (ConfigValue ω))
  load_lines : ∀ file : ConfigFile, file.Fits toYamlTexts →
    load file.lines = some (file.layout.value toYamlTexts 0)

/-! ## Reading a line -/

namespace FileLine

theorem takeWhile_append_cons {α : Type*} {goes : α → Bool} {front : List α}
    {stop : α} (passed : ∀ item ∈ front, goes item = true)
    (stops : goes stop = false) (back : List α) :
    (front ++ stop :: back).takeWhile goes = front := by
  rw [List.takeWhile_append_of_pos passed,
    List.takeWhile_cons_of_neg (by simp [stops]), List.append_nil]

theorem dropWhile_append_cons {α : Type*} {goes : α → Bool} {front : List α}
    {stop : α} (passed : ∀ item ∈ front, goes item = true)
    (stops : goes stop = false) (back : List α) :
    (front ++ stop :: back).dropWhile goes = stop :: back := by
  rw [List.dropWhile_append_of_pos passed,
    List.dropWhile_cons_of_neg (by simp [stops])]

theorem rstrip_append_cons {stop : Char} (kept : stop.isWhitespace = false)
    (front back : FileLine) :
    rstrip (front ++ stop :: back) = front ++ stop :: rstrip back := by
  induction back using List.reverseRecOn with
  | nil => exact List.rdropWhile_concat_neg _ _ _ (by simp [kept])
  | append_singleton back last ih =>
    have apart : front ++ stop :: (back ++ [last]) =
        (front ++ stop :: back) ++ [last] := by simp
    unfold rstrip at ih ⊢
    rw [apart, List.rdropWhile_concat, List.rdropWhile_concat]
    split
    · exact ih
    · simp

theorem rstrip_cons {first : Char} (shown : first.isWhitespace = false)
    (rest : FileLine) : rstrip (first :: rest) = first :: rstrip rest :=
  rstrip_append_cons shown [] rest

end FileLine

variable {chars name line : FileLine} {level : ℕ} {key : String}

theorem Blanks.isWhitespace
    (blank : Blanks chars) : ∀ char ∈ chars, char.isWhitespace = true := by
  intro char member
  rw [blank char member]
  rfl

theorem blanks_indentation (level : ℕ) : Blanks (indentation level) :=
  fun _ member => List.eq_of_mem_replicate member

theorem Blanks.notMem (blank : Blanks chars) {mark : Char}
    (shown : mark ≠ ' ') : mark ∉ chars :=
  fun member => shown (blank mark member)

theorem keyPattern_entryLine (plain : PlainName name) (level : ℕ)
    (tail : FileLine) :
    (entryLine level name tail).keyPattern = some (2 * level, name) := by
  obtain ⟨first, rest, rfl, shown, _⟩ := plain.start
  have blanks := (blanks_indentation level).isWhitespace
  have colon : FileLine.isKeyChar ':' = false := rfl
  have indent : (entryLine level (first :: rest) tail).takeWhile
      Char.isWhitespace = indentation level :=
    FileLine.takeWhile_append_cons blanks shown _
  have behind : (entryLine level (first :: rest) tail).dropWhile
      Char.isWhitespace = (first :: rest) ++ ':' :: tail :=
    FileLine.dropWhile_append_cons blanks shown _
  simp only [FileLine.keyPattern, indent, behind,
    FileLine.takeWhile_append_cons plain.chars colon,
    FileLine.dropWhile_append_cons plain.chars colon]
  simp [indentation]

theorem keyPattern_of_note (note : NoteText line) : line.keyPattern = none := by
  rcases note with blank | ⟨blanks, text, rfl, blank⟩
  · have none : line.dropWhile Char.isWhitespace = [] :=
      List.dropWhile_eq_nil_iff.mpr blank.isWhitespace
    simp [FileLine.keyPattern, none]
  · have mark : '#'.isWhitespace = false := rfl
    simp only [FileLine.keyPattern]
    rw [FileLine.dropWhile_append_cons blank.isWhitespace mark]
    rfl

/-- A plain name starts with no blank, so only its end is trimmed. -/
theorem trim_of_plain
    (plain : PlainName name) : FileLine.trim name = (keyOf name).toList := by
  obtain ⟨first, rest, rfl, shown, _⟩ := plain.start
  rw [FileLine.trim, List.dropWhile_cons_of_neg (by simp [shown]), keyOf,
    String.toList_ofList]


/-! ## Looking for a line -/

/-- The indentation of the parent of a level. -/
def parentIndent : ℕ → Option ℕ
  | 0 => none
  | level + 1 => some (2 * level)

theorem target_parentIndent (level : ℕ) :
    (parentIndent level).elim 0 (· + 2) = 2 * level := by
  cases level with
  | zero => rfl
  | succ level => exact (Nat.mul_succ 2 level).symm

theorem not_above_parentIndent {indent : ℕ} (deep : 2 * level ≤ indent) :
    (parentIndent level).any (indent ≤ ·) = false := by
  cases level with
  | zero => rfl
  | succ level =>
    simp only [parentIndent, Option.any_some, decide_eq_false_iff_not]
    omega

/-- A line that a search at a level for a key goes past. -/
def Passed (level : ℕ) (key : String) (line : FileLine) : Prop :=
  ∀ indent name, line.keyPattern = some (indent, name) → 2 * level ≤ indent ∧
      (indent = 2 * level → FileLine.trim name ≠ key.toList)

theorem replaceYamlScalarLine_passed {front : List FileLine}
    (passed : ∀ line ∈ front, Passed level key line) (value : FileLine)
    (path : List String) (back : List FileLine) :
    replaceYamlScalarLine value (parentIndent level) (key :: path)
        (front ++ back) =
      (replaceYamlScalarLine value (parentIndent level) (key :: path)
        back).map (front ++ ·) := by
  induction front with
  | nil => simp
  | cons line front ih =>
    have later := ih fun other member =>
      passed other (List.mem_cons_of_mem _ member)
    have here := passed line List.mem_cons_self
    have skipped : replaceYamlScalarLine value (parentIndent level)
        (key :: path) (line :: (front ++ back)) =
        (replaceYamlScalarLine value (parentIndent level) (key :: path)
          (front ++ back)).map (line :: ·) := by
      cases pattern : line.keyPattern with
      | none => simp only [replaceYamlScalarLine, pattern]
      | some entry =>
        obtain ⟨indent, name⟩ := entry
        obtain ⟨deep, different⟩ := here indent name pattern
        have missed : ¬ (indent = 2 * level ∧
            FileLine.trim name = key.toList) :=
          fun hit => different hit.1 hit.2
        simp only [replaceYamlScalarLine, pattern,
          not_above_parentIndent deep, target_parentIndent, missed,
          Bool.false_eq_true, if_false]
    rw [List.cons_append, skipped, later, Option.map_map]
    rfl

theorem passed_note (note : NoteText line) (level : ℕ)
    (key : String) : Passed level key line := by
  intro indent name pattern
  rw [keyPattern_of_note note] at pattern
  cases pattern

theorem passed_entryLine (plain : PlainName name) (different : key ≠ keyOf name)
    (tail : FileLine) :
    Passed level key (entryLine level name tail) := by
  intro indent found pattern
  rw [keyPattern_entryLine plain] at pattern
  cases pattern
  refine ⟨le_rfl, fun _ same => different ?_⟩
  rw [trim_of_plain plain] at same
  exact (String.toList_inj.mp same).symm

theorem passed_inside (plain : PlainName name) (different : keyOf name ≠ key)
    (inside : Inside level key line) :
    Passed level (keyOf name) line := by
  intro indent found pattern
  rcases inside indent found pattern with deep | ⟨level_eq, own | marked⟩
  · exact ⟨deep.le, fun same => absurd same deep.ne'⟩
  · refine ⟨level_eq.ge, fun _ same => different ?_⟩
    exact String.toList_inj.mp (same.symm.trans own)
  · refine ⟨level_eq.ge, fun _ same => ?_⟩
    obtain ⟨mark, rest, rfl, listed⟩ := marked
    obtain ⟨first, others, rfl, shown, unmarked⟩ := plain.start
    have mark_shown : mark.isWhitespace = false := by
      simp only [List.mem_cons, List.not_mem_nil, or_false] at listed
      rcases listed with rfl | rfl | rfl <;> rfl
    rw [FileLine.trim, List.dropWhile_cons_of_neg (by simp [mark_shown]),
      keyOf, String.toList_ofList, FileLine.rstrip_cons mark_shown,
      FileLine.rstrip_cons shown] at same
    have marks : mark = first := (List.cons.inj same).1
    exact unmarked (marks ▸ listed)

namespace BlockLayout

variable {ω : Type*} {yaml : YamlTexts ω}

theorem exists_name_of_write {layout written : BlockLayout} {level : ℕ}
    {path : List String} {key : String} {text : FileLine}
    (fits : layout.Fits yaml level)
    (done : layout.write path key text = some written) :
    path.headD key ∈ layout.keys ∧
      ∃ name, PlainName name ∧ keyOf name = path.headD key := by
  induction layout generalizing written with
  | done => cases done
  | note line rest ih =>
    obtain ⟨other, below, _⟩ := Option.map_eq_some_iff.mp done
    exact ih fits.2 below
  | leaf name gap value comment rest ih =>
    obtain ⟨plain, _, _, _, _, _, _, _, fits⟩ := fits
    simp only [write] at done
    split at done
    · next here =>
        rw [here.1, here.2]
        exact ⟨List.mem_cons_self, name, plain, rfl⟩
    · obtain ⟨other, below, _⟩ := Option.map_eq_some_iff.mp done
      obtain ⟨member, found⟩ := ih fits below
      exact ⟨List.mem_cons_of_mem _ member, found⟩
  | block name comment body rest _ ih =>
    obtain ⟨plain, _, _, _, _, _, fits⟩ := fits
    cases path with
    | nil =>
      obtain ⟨other, below, _⟩ := Option.map_eq_some_iff.mp done
      obtain ⟨member, found⟩ := ih fits below
      exact ⟨List.mem_cons_of_mem _ member, found⟩
    | cons first path =>
      simp only [write] at done
      split at done
      · next here =>
          rw [List.headD_cons, here]
          exact ⟨List.mem_cons_self, name, plain, rfl⟩
      · obtain ⟨other, below, _⟩ := Option.map_eq_some_iff.mp done
        obtain ⟨member, found⟩ := ih fits below
        exact ⟨List.mem_cons_of_mem _ member, found⟩
  | other known lines rest ih =>
    obtain ⟨_, _, _, fits⟩ := fits
    obtain ⟨other, below, _⟩ := Option.map_eq_some_iff.mp done
    obtain ⟨member, found⟩ := ih fits below
    exact ⟨List.mem_cons_of_mem _ member, found⟩

theorem render_deep {layout : BlockLayout} {level : ℕ}
    (fits : layout.Fits yaml level) :
    ∀ line ∈ layout.render level, ∀ indent name,
      line.keyPattern = some (indent, name) → 2 * level ≤ indent := by
  induction layout generalizing level with
  | done => simp [render]
  | note note rest ih =>
    intro line member indent name pattern
    rcases List.mem_cons.mp member with rfl | later
    · rw [keyPattern_of_note fits.1] at pattern
      cases pattern
    · exact ih fits.2 line later indent name pattern
  | leaf own gap value comment rest ih =>
    obtain ⟨plain, _, _, _, _, _, _, _, fits⟩ := fits
    intro line member indent name pattern
    rcases List.mem_cons.mp member with rfl | later
    · rw [keyPattern_entryLine plain] at pattern
      cases pattern
      exact le_rfl
    · exact ih fits line later indent name pattern
  | block own comment body rest bodyHypothesis ih =>
    obtain ⟨plain, _, _, _, _, below, fits⟩ := fits
    intro line member indent name pattern
    rcases List.mem_cons.mp member with rfl | later
    · rw [keyPattern_entryLine plain] at pattern
      cases pattern
      exact le_rfl
    · rcases List.mem_append.mp later with inner | outer
      · have deep := bodyHypothesis below line inner indent name pattern
        omega
      · exact ih fits line outer indent name pattern
  | other key lines rest ih =>
    obtain ⟨_, inside, _, fits⟩ := fits
    intro line member indent name pattern
    rcases List.mem_append.mp member with own | later
    · rcases inside line own indent name pattern with deep | ⟨here, _⟩
      · exact deep.le
      · exact here.ge
    · exact ih fits line later indent name pattern

/-- A comment is the same behind any text without a mark. -/
theorem commentPart_append {front : FileLine} (unmarked : '#' ∉ front)
    (comment : FileLine) :
    FileLine.commentPart (front ++ comment) = comment.commentPart := by
  have passed : ∀ char ∈ front, decide (char ≠ '#') = true :=
    fun char member => decide_eq_true fun mark => unmarked (mark ▸ member)
  simp only [FileLine.commentPart, List.dropWhile_append_of_pos passed]

theorem notMem_of_plain {name : FileLine} {mark : Char} (plain : PlainName name)
    (excluded : FileLine.isKeyChar mark = false) : mark ∉ name := by
  intro member
  rw [plain.chars mark member] at excluded
  cases excluded

section EntryLine

theorem entryLine_eq (level : ℕ) (name tail : FileLine) :
    entryLine level name tail = (indentation level ++ name) ++ ':' :: tail := by
  simp [entryLine]

theorem entryLine_comment (level : ℕ) (name gap old comment : FileLine) :
    entryLine level name (gap ++ (old ++ comment)) =
      ((indentation level ++ name) ++ ':' :: (gap ++ old)) ++ comment := by
  simp [entryLine]

variable
  {name gap old : FileLine}
  (plain : PlainName name)
  (blank : Blanks gap)
  (unmarked : '#' ∉ old)
  (level : ℕ)
  (comment : FileLine)
include plain

theorem takeWhile_colon (tail : FileLine) :
    ((indentation level ++ name) ++ ':' :: tail).takeWhile
      (fun char => decide (char ≠ ':')) = indentation level ++ name := by
  refine FileLine.takeWhile_append_cons ?_ (by decide) tail
  intro char member
  refine decide_eq_true fun mark => ?_
  rw [mark] at member
  rcases List.mem_append.mp member with blanks | named
  · exact (blanks_indentation level).notMem (by decide) blanks
  · exact notMem_of_plain plain rfl named

include blank unmarked

theorem mark_notMem :
    '#' ∉ (indentation level ++ name) ++ ':' :: (gap ++ old) := by
  simp only [List.mem_append, List.mem_cons, not_or]
  exact ⟨⟨(blanks_indentation level).notMem (by decide),
    notMem_of_plain plain rfl⟩, by decide, blank.notMem (by decide), unmarked⟩

theorem withoutComment_entryLine :
    ∃ tail, (entryLine level name (gap ++ (old ++ comment))).withoutComment =
      (indentation level ++ name) ++ ':' :: tail := by
  rw [FileLine.withoutComment]
  split
  · have before : ∀ char ∈ (indentation level ++ name) ++ ':' :: (gap ++ old),
        decide (char ≠ '#') = true :=
      fun char member => decide_eq_true fun mark =>
        mark_notMem plain blank unmarked level (mark ▸ member)
    rw [entryLine_comment, List.takeWhile_append_of_pos before,
      List.append_assoc, List.cons_append]
    exact ⟨_, FileLine.rstrip_append_cons rfl _ _⟩
  · exact ⟨_, entryLine_eq level name _⟩

theorem rewrite_entryLine (value : FileLine) :
    (entryLine level name (gap ++ (old ++ comment))).rewrite value =
      entryLine level name ([' '] ++
        (value ++ FileLine.writeComment comment.commentPart)) := by
  obtain ⟨tail, front⟩ :=
    withoutComment_entryLine plain blank unmarked level comment
  have comments : FileLine.commentPart
      (entryLine level name (gap ++ (old ++ comment))) =
        comment.commentPart := by
    rw [entryLine_comment]
    exact commentPart_append (mark_notMem plain blank unmarked level) comment
  rw [FileLine.rewrite, front, comments, takeWhile_colon plain]
  simp [entryLine]

end EntryLine

theorem replaceYamlScalarLine_past {level : ℕ} {path : List String}
    {key : String} {text : FileLine} {back replaced : List FileLine}
    (front : List FileLine)
    (passed : ∀ line ∈ front, Passed level (path.headD key) line)
    (later : replaceYamlScalarLine text (parentIndent level) (path ++ [key])
      back = some replaced) :
    replaceYamlScalarLine text (parentIndent level) (path ++ [key])
        (front ++ back) =
      some (front ++ replaced) := by
  cases path with
  | nil =>
    have skipped := replaceYamlScalarLine_passed passed text [] back
    exact skipped.trans (congrArg _ later)
  | cons first path =>
    have skipped :=
      replaceYamlScalarLine_passed passed text (path ++ [key]) back
    exact skipped.trans (congrArg _ later)

variable {level : ℕ} {path : List String} {key : String} {text : FileLine}
  {layout written : BlockLayout}

theorem replaceYamlScalarLine_render (fits : layout.Fits yaml level)
    (done : layout.write path key text = some written) (back : List FileLine) :
    replaceYamlScalarLine text (parentIndent level) (path ++ [key])
        (layout.render level ++ back) =
      some (written.render level ++ back) := by
  induction layout generalizing level path written back with
  | done => cases done
  | note line rest ih =>
    obtain ⟨other, below, rfl⟩ := Option.map_eq_some_iff.mp done
    refine replaceYamlScalarLine_past [line] ?_ (ih fits.2 below back)
    intro passed member
    rw [List.mem_singleton.mp member]
    exact passed_note fits.1 level _
  | leaf name gap value comment rest ih =>
    obtain ⟨plain, _, fresh, blank, _, unmarked, _, _, fits⟩ := fits
    simp only [write] at done
    split at done
    · next here =>
        obtain ⟨rfl, rfl⟩ := here
        cases done
        simp only [List.nil_append, render, List.cons_append,
          replaceYamlScalarLine, keyPattern_entryLine plain,
          not_above_parentIndent le_rfl, target_parentIndent,
          trim_of_plain plain, Bool.false_eq_true, if_false, and_self,
          if_true, rewrite_entryLine plain blank unmarked]
    · obtain ⟨other, below, rfl⟩ := Option.map_eq_some_iff.mp done
      have member := (exists_name_of_write fits below).1
      refine replaceYamlScalarLine_past [_] ?_ (ih fits below back)
      intro passed here
      rw [List.mem_singleton.mp here]
      exact passed_entryLine plain (fun same => fresh (same ▸ member)) _
  | block name comment body rest bodyHypothesis ih =>
    obtain ⟨plain, _, fresh, _, _, inner, fits⟩ := fits
    have past : ∀ other, rest.write path key text = some other →
        replaceYamlScalarLine text (parentIndent level) (path ++ [key])
            ((block name comment body rest).render level ++ back) =
          some ((block name comment body other).render level ++ back) := by
      intro other below
      have member := (exists_name_of_write fits below).1
      have skipped := replaceYamlScalarLine_past
        (entryLine level name comment :: body.render (level + 1)) ?_
        (ih fits below back)
      · simpa [render] using skipped
      · intro passed here
        rcases List.mem_cons.mp here with rfl | deep
        · exact passed_entryLine plain (fun same => fresh (same ▸ member)) _
        · intro indent found pattern
          have deeper := render_deep inner passed deep indent found pattern
          exact ⟨by omega, fun same => absurd same (by omega)⟩
    cases path with
    | nil =>
      obtain ⟨other, below, rfl⟩ := Option.map_eq_some_iff.mp done
      exact past other below
    | cons first path =>
      simp only [write] at done
      split at done
      · next here =>
          obtain ⟨other, below, rfl⟩ := Option.map_eq_some_iff.mp done
          have found := bodyHypothesis inner below (rest.render level ++ back)
          obtain ⟨next, tail, shape⟩ : ∃ next tail,
              path ++ [key] = next :: tail := by
            cases path with
            | nil => exact ⟨key, [], rfl⟩
            | cons next path => exact ⟨next, path ++ [key], rfl⟩
          rw [shape] at found
          simp only [List.cons_append, shape, render,
            replaceYamlScalarLine, keyPattern_entryLine plain,
            not_above_parentIndent le_rfl, target_parentIndent,
            trim_of_plain plain, here, Bool.false_eq_true, if_false,
            and_self, if_true, List.append_assoc]
          exact congrArg (Option.map _) found
      · obtain ⟨other, below, rfl⟩ := Option.map_eq_some_iff.mp done
        exact past other below
  | other known lines rest ih =>
    obtain ⟨fresh, inside, _, fits⟩ := fits
    obtain ⟨other, below, rfl⟩ := Option.map_eq_some_iff.mp done
    obtain ⟨member, name, plain, named⟩ := exists_name_of_write fits below
    have skipped := replaceYamlScalarLine_past lines ?_ (ih fits below back)
    · simpa [render] using skipped
    · intro line here
      rw [← named] at member ⊢
      have different : keyOf name ≠ known := fun same =>
        fresh (same ▸ member)
      exact passed_inside plain different (inside line here)

/-! ## What a written setting changes -/

theorem keys_write (done : layout.write path key text = some written) :
    written.keys = layout.keys := by
  induction layout generalizing written with
  | done => cases done
  | note line rest ih =>
    obtain ⟨other, below, rfl⟩ := Option.map_eq_some_iff.mp done
    have later : other.keys = rest.keys := ih below
    exact later
  | leaf name gap value comment rest ih =>
    simp only [write] at done
    split at done
    · cases done
      rfl
    · obtain ⟨other, below, rfl⟩ := Option.map_eq_some_iff.mp done
      exact congrArg (List.cons _) (ih below)
  | block name comment body rest _ ih =>
    cases path with
    | nil =>
      obtain ⟨other, below, rfl⟩ := Option.map_eq_some_iff.mp done
      exact congrArg (List.cons _) (ih below)
    | cons first path =>
      simp only [write] at done
      split at done
      · obtain ⟨other, below, rfl⟩ := Option.map_eq_some_iff.mp done
        rfl
      · obtain ⟨other, below, rfl⟩ := Option.map_eq_some_iff.mp done
        exact congrArg (List.cons _) (ih below)
  | other known lines rest ih =>
    obtain ⟨other, below, rfl⟩ := Option.map_eq_some_iff.mp done
    exact congrArg (List.cons _) (ih below)

theorem commentText_writeComment (comment : Option FileLine) :
    CommentText (FileLine.writeComment comment) := by
  cases comment with
  | none => exact .inl (by simp [FileLine.writeComment, Blanks])
  | some comment =>
    exact .inr ⟨[' ', ' '], comment, rfl, by simp, by simp [Blanks]⟩

theorem fits_write (fits : layout.Fits yaml level)
    (done : layout.write path key text = some written)
    (readable : yaml.inlineText text)
    (unmarked : '#' ∉ text) : written.Fits yaml level := by
  induction layout generalizing level path written with
  | done => cases done
  | note line rest ih =>
    obtain ⟨other, below, rfl⟩ := Option.map_eq_some_iff.mp done
    exact ⟨fits.1, ih fits.2 below⟩
  | leaf name gap value comment rest ih =>
    obtain ⟨plain, known, fresh, blank, apart, old, scalar, noted, fits⟩ :=
      fits
    simp only [write] at done
    split at done
    · cases done
      exact ⟨plain, known, fresh, by simp [Blanks], .inl (by simp), unmarked,
        readable, commentText_writeComment _, fits⟩
    · obtain ⟨other, below, rfl⟩ := Option.map_eq_some_iff.mp done
      exact ⟨plain, known, (keys_write below).symm ▸ fresh, blank, apart,
        old, scalar, noted, ih fits below⟩
  | block name comment body rest bodyHypothesis ih =>
    obtain ⟨plain, known, fresh, noted, filled, inner, fits⟩ := fits
    cases path with
    | nil =>
      obtain ⟨other, below, rfl⟩ := Option.map_eq_some_iff.mp done
      exact ⟨plain, known, (keys_write below).symm ▸ fresh, noted, filled,
        inner, ih fits below⟩
    | cons first path =>
      simp only [write] at done
      split at done
      · obtain ⟨other, below, rfl⟩ := Option.map_eq_some_iff.mp done
        exact ⟨plain, known, fresh, noted,
          (keys_write below).symm ▸ filled, bodyHypothesis inner below,
          fits⟩
      · obtain ⟨other, below, rfl⟩ := Option.map_eq_some_iff.mp done
        exact ⟨plain, known, (keys_write below).symm ▸ fresh, noted,
          filled, inner, ih fits below⟩
  | other known lines rest ih =>
    obtain ⟨fresh, inside, form, fits⟩ := fits
    obtain ⟨other, below, rfl⟩ := Option.map_eq_some_iff.mp done
    exact ⟨(keys_write below).symm ▸ fresh, inside, form, ih fits below⟩

/-- The dictionary of the block has the new value. -/
theorem value_write (fits : layout.Fits yaml level)
    (done : layout.write path key text = some written) :
    written.value yaml level = (layout.value yaml level).setAt path key
        (yaml.inline text) := by
  induction layout generalizing level path written with
  | done => cases done
  | note line rest ih =>
    obtain ⟨other, below, rfl⟩ := Option.map_eq_some_iff.mp done
    have later : other.value yaml level = (rest.value yaml level).setAt
        path key (yaml.inline text) :=
      ih fits.2 below
    exact later
  | leaf name gap value comment rest ih =>
    obtain ⟨_, _, fresh, _, _, _, _, _, fits⟩ := fits
    simp only [write] at done
    split at done
    · next here =>
        obtain ⟨rfl, rfl⟩ := here
        cases done
        exact (if_pos rfl).symm
    · obtain ⟨other, below, rfl⟩ := Option.map_eq_some_iff.mp done
      have member := (exists_name_of_write fits below).1
      have different : path.headD key ≠ keyOf name :=
        fun same => fresh (same ▸ member)
      simp only [BlockLayout.value]
      rw [NestedDict.setAt_value_of_ne different, ih fits below]
  | block name comment body rest bodyHypothesis ih =>
    obtain ⟨_, _, fresh, _, _, inner, fits⟩ := fits
    have past : ∀ other, rest.write path key text = some other →
        (block name comment body other).value yaml level =
          ((block name comment body rest).value yaml level).setAt path key
            (yaml.inline text) := by
      intro other below
      have member := (exists_name_of_write fits below).1
      have different : path.headD key ≠ keyOf name :=
        fun same => fresh (same ▸ member)
      simp only [BlockLayout.value]
      rw [NestedDict.setAt_dict_of_ne different, ih fits below]
    cases path with
    | nil =>
      obtain ⟨other, below, rfl⟩ := Option.map_eq_some_iff.mp done
      exact past other below
    | cons first path =>
      simp only [write] at done
      split at done
      · next here =>
          obtain ⟨other, below, rfl⟩ := Option.map_eq_some_iff.mp done
          simp only [BlockLayout.value, bodyHypothesis inner below, here]
          exact (if_pos rfl).symm
      · obtain ⟨other, below, rfl⟩ := Option.map_eq_some_iff.mp done
        exact past other below
  | other known lines rest ih =>
    obtain ⟨fresh, _, _, fits⟩ := fits
    obtain ⟨other, below, rfl⟩ := Option.map_eq_some_iff.mp done
    have member := (exists_name_of_write fits below).1
    have different : path.headD key ≠ known :=
      fun same => fresh (same ▸ member)
    simp only [BlockLayout.value]
    rw [NestedDict.setAt_value_of_ne different, ih fits below]

end BlockLayout

end SmarTune
