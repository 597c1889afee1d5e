import SmarTune.Config.FileEdits

/-!
# A loader of plain files

Files in block layout whose values are numerals and truth values can be read line
by line from the end: a line puts its entry before those read at its level, and
takes the entries read one level deeper as its dictionary.
-/

namespace SmarTune

namespace PlainYaml

/-- A value without blanks. -/
def readScalar (text : FileLine) : Option Scalar :=
  if text = "true".toList then some (.bool true)
  else if text = "false".toList then some (.bool false)
  else if text = [] ∨ text.any Char.isWhitespace then none
  else if text.all Char.isDigit then
    some (.int (Scalar.readDigits text 0 0).1)
  else (Scalar.parseFloat (String.ofList text)).map .float

/-- Entries without lists and quoted texts. -/
def texts : YamlTexts Unit where
  headText head := head = []
  keyText _ := True
  inlineText text := (readScalar text).isSome = true
  otherText _ _ _ := False
  inline text := (readScalar text).elim (.other ()) .scalar
  other _ _ _ := ()

/-- The entries read so far, by their level. -/
abbrev Levels := ℕ → NestedDict String (ConfigValue Unit)

def valueText (line : FileLine) : FileLine :=
  FileLine.trim (((line.dropWhile (· ≠ ':')).drop 1).takeWhile (· ≠ '#'))

/-- One line before those read so far. -/
def readLine (line : FileLine) (levels : Levels) : Levels :=
  match line.keyPattern with
  | none => levels
  | some (indent, name) => fun level =>
    if level = indent / 2 then
      match readScalar (valueText line) with
      | some value => .value (keyOf name) (.scalar value) (levels level)
      | none => .dict (keyOf name) (levels (level + 1)) (levels level)
    else if indent / 2 < level then .empty
    else levels level

/-- The dictionary of the lines. -/
def load (lines : List FileLine) :
    Option (NestedDict String (ConfigValue Unit)) :=
  let data := lines.foldr readLine (fun _ => .empty) 0
  if data.keys = [] then none else some data

/-! ## Reading a line -/

variable {blanks gap value comment : FileLine}

theorem rstrip_append_blanks (blank : Blanks blanks) (front : FileLine) :
    FileLine.rstrip (front ++ blanks) = FileLine.rstrip front := by
  induction blanks using List.reverseRecOn with
  | nil => rw [List.append_nil]
  | append_singleton blanks last ih =>
    have white : last.isWhitespace = true :=
      blank.isWhitespace last (by simp)
    have fewer : Blanks blanks := fun char member =>
      blank char (List.mem_append_left _ member)
    rw [← List.append_assoc, FileLine.rstrip,
      List.rdropWhile_concat_pos _ _ _ white]
    exact ih fewer

/-- A text without blanks is what is left when those around it are cut off. -/
theorem trim_between (before : Blanks gap)
    (shown : ∀ char ∈ value, char.isWhitespace = false)
    (behind : Blanks blanks) :
    FileLine.trim (gap ++ (value ++ blanks)) = value := by
  rw [FileLine.trim, List.dropWhile_append_of_pos before.isWhitespace]
  cases value with
  | nil =>
    have none : ([] ++ blanks).dropWhile Char.isWhitespace = [] :=
      List.dropWhile_eq_nil_iff.mpr behind.isWhitespace
    rw [none]
    rfl
  | cons first rest =>
    have starts : first.isWhitespace = false :=
      shown first List.mem_cons_self
    rw [List.cons_append, List.dropWhile_cons_of_neg (by simp [starts]),
      ← List.cons_append, rstrip_append_blanks behind]
    refine List.rdropWhile_eq_self_iff.mpr fun filled => ?_
    simp [shown _ (List.getLast_mem filled)]

theorem blanks_takeWhile (noted : CommentText comment) :
    Blanks (comment.takeWhile (· ≠ '#')) := by
  rcases noted with blank | ⟨blanks, text, rfl, _, blank⟩
  · exact fun char member => blank char ((List.takeWhile_sublist _).mem member)
  · have passed : ∀ char ∈ blanks, decide (char ≠ '#') = true :=
      fun char member => decide_eq_true fun mark =>
        blank.notMem (by decide) (mark ▸ member)
    rw [FileLine.takeWhile_append_cons passed (by decide)]
    exact blank

theorem valueText_entryLine {name : FileLine} (plain : PlainName name)
    (before : Blanks gap) (shown : ∀ char ∈ value, char.isWhitespace = false)
    (unmarked : '#' ∉ value) (noted : CommentText comment) (level : ℕ) :
    valueText (entryLine level name (gap ++ (value ++ comment))) = value := by
  have named : ∀ char ∈ indentation level ++ name,
      decide (char ≠ ':') = true := by
    intro char member
    refine decide_eq_true fun mark => ?_
    rw [mark] at member
    rcases List.mem_append.mp member with blank | inside
    · exact (blanks_indentation level).notMem (by decide) blank
    · exact BlockLayout.notMem_of_plain plain rfl inside
  have passed : ∀ char ∈ gap ++ value, decide (char ≠ '#') = true := by
    intro char member
    refine decide_eq_true fun mark => ?_
    rw [mark] at member
    rcases List.mem_append.mp member with blank | inside
    · exact before.notMem (by decide) blank
    · exact unmarked inside
  rw [valueText, BlockLayout.entryLine_eq,
    FileLine.dropWhile_append_cons named (by decide), List.drop_one,
    List.tail_cons, ← List.append_assoc, List.takeWhile_append_of_pos passed,
    List.append_assoc]
  exact trim_between before shown (blanks_takeWhile noted)

theorem readScalar_nil : readScalar [] = none := by decide

theorem shown_of_readScalar {text : FileLine} {value : Scalar}
    (read : readScalar text = some value) :
    ∀ char ∈ text, char.isWhitespace = false := by
  simp only [readScalar] at read
  split at read
  · next same => simp [same]
  · split at read
    · next same => simp [same]
    · split at read
      · cases read
      · next shown =>
          simp only [not_or, List.any_eq_true, not_exists, not_and,
            Bool.not_eq_true] at shown
          exact shown.2

/-! ## Reading a file -/

theorem foldr_render {layout : BlockLayout} {level : ℕ} {levels : Levels}
    (fits : layout.Fits texts level)
    (closed : ∀ deeper, level < deeper → levels deeper = .empty) :
    ((layout.render level).foldr readLine levels) = fun other =>
      if other = level then (layout.value texts level).append (levels level)
      else levels other := by
  induction layout generalizing level levels with
  | done =>
    funext other
    simp only [BlockLayout.render, List.foldr_nil, BlockLayout.value,
      NestedDict.append]
    split
    · next same => rw [same]
    · rfl
  | note line rest ih =>
    simp only [BlockLayout.render, List.foldr_cons, readLine,
      keyPattern_of_note fits.1, BlockLayout.value]
    exact ih fits.2 closed
  | leaf name gap value comment rest ih =>
    obtain ⟨plain, _, _, before, _, unmarked, readable, noted, fits⟩ := fits
    obtain ⟨scalar, read⟩ := Option.isSome_iff_exists.mp readable
    funext other
    simp only [BlockLayout.render, List.foldr_cons, readLine,
      keyPattern_entryLine plain,
      valueText_entryLine plain before (shown_of_readScalar read) unmarked
        noted, read, ih fits closed,
      Nat.mul_div_cancel_left level Nat.two_pos]
    split
    · simp [BlockLayout.value, texts, NestedDict.append, *]
    · next different =>
        split
        · next deeper => exact (closed other deeper).symm
        · rfl
  | block name comment body rest bodyHypothesis ih =>
    obtain ⟨plain, _, _, noted, _, inner, fits⟩ := fits
    have nothing : Blanks [] := fun _ member => by cases member
    have shown : ∀ char ∈ ([] : FileLine), char.isWhitespace = false :=
      fun _ member => by cases member
    have bare : valueText (entryLine level name comment) = [] :=
      valueText_entryLine plain nothing shown List.not_mem_nil noted level
    have outer := ih fits closed
    have deeper : ∀ below, level + 1 < below →
        (rest.render level).foldr readLine levels below = .empty := by
      intro below under
      rw [outer]
      simp only [show below ≠ level by omega, if_false]
      exact closed below (by omega)
    have both : (body.render (level + 1) ++ rest.render level).foldr
        readLine levels = fun other =>
          if other = level + 1 then body.value texts (level + 1)
          else if other = level then
            (rest.value texts level).append (levels level)
          else levels other := by
      rw [List.foldr_append, bodyHypothesis inner deeper, outer]
      simp [closed (level + 1) (Nat.lt_succ_self level),
        NestedDict.append_empty]
    funext other
    simp only [BlockLayout.render, List.foldr_cons, readLine,
      keyPattern_entryLine plain, bare, readScalar_nil, both,
      Nat.mul_div_cancel_left level Nat.two_pos, BlockLayout.value,
      NestedDict.append]
    split
    · next here => simp [here]
    · next different =>
        split
        · next under => exact (closed other under).symm
        · next above =>
            have other_ne : other ≠ level + 1 := by omega
            simp [other_ne]
  | other key lines rest _ =>
    obtain ⟨_, _, never, _⟩ := fits
    cases never

theorem load_lines {file : ConfigFile} (fits : file.Fits texts) :
    load file.lines = some (file.layout.value texts 0) := by
  have bare : file.head = [] := fits.head
  have read := foldr_render fits.layout (fun _ _ => rfl : ∀ deeper, 0 < deeper →
      (fun _ => .empty : Levels) deeper = .empty)
  have filled : (file.layout.value texts 0).keys ≠ [] := by
    rw [BlockLayout.keys_value]
    exact fits.filled
  simp [load, ConfigFile.lines, bare, read, NestedDict.append_empty, filled]

/-- A loader of plain files. -/
def loader : YamlLoader Unit where
  toYamlTexts := texts
  load
  load_lines _ fits := load_lines fits

end PlainYaml

end SmarTune
