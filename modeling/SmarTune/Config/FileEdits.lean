import SmarTune.Config.BlockLayout

/-!
# Edits of a file

Writing a setting of a file in block layout replaces the text of its value, and
the blanks before its comment; every other line stays as it is.  The loader then
reads the dictionary with the new value.
-/

namespace SmarTune

namespace FileLine

theorem rstrip_rstrip (line : FileLine) :
    rstrip (rstrip line) = rstrip line :=
  List.rdropWhile_idempotent _ line

theorem trim_trim (line : FileLine) : trim (trim line) = trim line := by
  simp only [trim]
  cases shape : line.dropWhile Char.isWhitespace with
  | nil => rfl
  | cons first rest =>
    have shown : first.isWhitespace = false := by
      have stops := List.head?_dropWhile_not Char.isWhitespace line
      rw [shape] at stops
      exact stops
    rw [rstrip_cons shown, List.dropWhile_cons_of_neg (by simp [shown]),
      rstrip_cons shown, rstrip_rstrip]

/-- A comment that is written is read again. -/
theorem commentPart_writeComment (comment : FileLine) :
    commentPart (writeComment comment.commentPart) = comment.commentPart := by
  simp only [commentPart]
  cases comment.dropWhile (· ≠ '#') with
  | nil => rfl
  | cons mark rest => simp [writeComment, trim_trim]

end FileLine

namespace BlockLayout

/-! ## What stays -/

/-- Some of the settings at the edited places have other texts; the comments
behind them and all other lines stay as they are. -/
inductive Rewritten (edited : List String → String → Prop) :
    List String → BlockLayout → BlockLayout → Prop
  | done {path : List String} : Rewritten edited path done done
  | note {path : List String} {line : FileLine} {rest others : BlockLayout} :
      Rewritten edited path rest others →
        Rewritten edited path (note line rest) (note line others)
  | leaf {path : List String} {name gap value comment : FileLine}
      {rest others : BlockLayout} :
      Rewritten edited path rest others →
        Rewritten edited path (leaf name gap value comment rest)
          (leaf name gap value comment others)
  | edit {path : List String}
      {name gap value comment newGap newValue newComment : FileLine}
      {rest others : BlockLayout} :
      edited path (keyOf name) → newComment.commentPart = comment.commentPart →
        Rewritten edited path rest others →
          Rewritten edited path (leaf name gap value comment rest)
            (leaf name newGap newValue newComment others)
  | block {path : List String} {name comment : FileLine}
      {body inner rest others : BlockLayout} :
      Rewritten edited (path ++ [keyOf name]) body inner →
        Rewritten edited path rest others →
          Rewritten edited path (block name comment body rest)
            (block name comment inner others)
  | other {path : List String} {key : String} {lines : List FileLine}
      {rest others : BlockLayout} :
      Rewritten edited path rest others →
        Rewritten edited path (other key lines rest) (other key lines others)

namespace Rewritten

variable
  {edited : List String → String → Prop}
  {path : List String}
  {first second third : BlockLayout}

theorem refl (layout : BlockLayout) (path : List String) :
    Rewritten edited path layout layout := by
  induction layout generalizing path with
  | done => exact .done
  | note line rest ih => exact .note (ih path)
  | leaf name gap value comment rest ih => exact .leaf (ih path)
  | block name comment body rest bodyHypothesis ih =>
    exact .block (bodyHypothesis _) (ih path)
  | other key lines rest ih => exact .other (ih path)

theorem mono {larger : List String → String → Prop}
    (contained : ∀ path key, edited path key → larger path key)
    (rewritten : Rewritten edited path first second) :
    Rewritten larger path first second := by
  induction rewritten with
  | done => exact .done
  | note _ ih => exact .note ih
  | leaf _ ih => exact .leaf ih
  | edit named kept _ ih => exact .edit (contained _ _ named) kept ih
  | block _ _ bodyHypothesis ih => exact .block bodyHypothesis ih
  | other _ ih => exact .other ih

theorem trans (before : Rewritten edited path first second)
    (after : Rewritten edited path second third) :
    Rewritten edited path first third := by
  induction before generalizing third with
  | done => exact after
  | note _ ih =>
    cases after with
    | note later => exact .note (ih later)
  | leaf _ ih =>
    cases after with
    | leaf later => exact .leaf (ih later)
    | edit named kept later => exact .edit named kept (ih later)
  | edit named kept _ ih =>
    cases after with
    | leaf later => exact .edit named kept (ih later)
    | edit _ keptAgain later =>
      exact .edit named (keptAgain.trans kept) (ih later)
  | block _ _ bodyHypothesis ih =>
    cases after with
    | block inner later => exact .block (bodyHypothesis inner) (ih later)
  | other _ ih =>
    cases after with
    | other later => exact .other (ih later)

end Rewritten

variable {layout written : BlockLayout} {path : List String} {key : String}
  {text : FileLine}

/-- A write edits its own setting only. -/
theorem rewritten_write (done : layout.write path key text = some written)
    (outer : List String) :
    Rewritten (fun place name => place = outer ++ path ∧ name = key) outer
      layout written := by
  induction layout generalizing outer path written with
  | done => cases done
  | note line rest ih =>
    obtain ⟨others, below, rfl⟩ := Option.map_eq_some_iff.mp done
    exact .note (ih below outer)
  | leaf name gap value comment rest ih =>
    simp only [write] at done
    split at done
    · next here =>
        obtain ⟨rfl, rfl⟩ := here
        cases done
        exact .edit ⟨(List.append_nil outer).symm, rfl⟩
          (FileLine.commentPart_writeComment comment) (.refl rest outer)
    · obtain ⟨others, below, rfl⟩ := Option.map_eq_some_iff.mp done
      exact .leaf (ih below outer)
  | block name comment body rest bodyHypothesis ih =>
    cases path with
    | nil =>
      obtain ⟨others, below, rfl⟩ := Option.map_eq_some_iff.mp done
      exact .block (.refl body _) (ih below outer)
    | cons first path =>
      simp only [write] at done
      split at done
      · next here =>
          obtain ⟨inner, below, rfl⟩ := Option.map_eq_some_iff.mp done
          subst here
          have inside := bodyHypothesis below (outer ++ [keyOf name])
          simp only [List.append_assoc, List.singleton_append] at inside
          exact .block inside (.refl rest outer)
      · obtain ⟨others, below, rfl⟩ := Option.map_eq_some_iff.mp done
        exact .block (.refl body _) (ih below outer)
  | other known lines rest ih =>
    obtain ⟨others, below, rfl⟩ := Option.map_eq_some_iff.mp done
    exact .other (ih below outer)

/-! ## The dictionaries of a block -/

variable {ω : Type*} {yaml : YamlTexts ω}

theorem keys_value (layout : BlockLayout) (level : ℕ) :
    (layout.value yaml level).keys = layout.keys := by
  induction layout with
  | done => rfl
  | note line rest ih => exact ih
  | leaf name gap value comment rest ih => exact congrArg (List.cons _) ih
  | block name comment body rest _ ih => exact congrArg (List.cons _) ih
  | other key lines rest ih => exact congrArg (List.cons _) ih

theorem getValue?_of_write {level : ℕ} (fits : layout.Fits yaml level)
    (done : layout.write path key text = some written) :
    ∃ old, (layout.value yaml level).getValue? path key = some old := by
  induction layout generalizing level path written with
  | done => cases done
  | note line rest ih =>
    obtain ⟨others, below, _⟩ := Option.map_eq_some_iff.mp done
    exact ih fits.2 below
  | leaf name gap value comment rest ih =>
    obtain ⟨_, _, fresh, _, _, _, _, _, fits⟩ := fits
    simp only [write] at done
    split at done
    · next here =>
        obtain ⟨rfl, rfl⟩ := here
        refine ⟨yaml.inline value, ?_⟩
        rw [NestedDict.getValue?_nil_eq_some_iff]
        exact if_pos rfl
    · obtain ⟨others, below, _⟩ := Option.map_eq_some_iff.mp done
      have member := (exists_name_of_write fits below).1
      have different : path.headD key ≠ keyOf name :=
        fun same => fresh (same ▸ member)
      obtain ⟨old, found⟩ := ih fits below
      exact ⟨old, by
        rw [BlockLayout.value, NestedDict.getValue?_value_of_ne different]
        exact found⟩
  | block name comment body rest bodyHypothesis ih =>
    obtain ⟨_, _, fresh, _, _, inner, fits⟩ := fits
    have past : ∀ others, rest.write path key text = some others →
        ∃ old, ((block name comment body rest).value yaml level).getValue?
          path key = some old := by
      intro others below
      have member := (exists_name_of_write fits below).1
      have different : path.headD key ≠ keyOf name :=
        fun same => fresh (same ▸ member)
      obtain ⟨old, found⟩ := ih fits below
      refine ⟨old, ?_⟩
      rw [BlockLayout.value, NestedDict.getValue?_dict_of_ne different]
      exact found
    cases path with
    | nil =>
      obtain ⟨others, below, _⟩ := Option.map_eq_some_iff.mp done
      exact past others below
    | cons first path =>
      simp only [write] at done
      split at done
      · next here =>
          obtain ⟨others, below, _⟩ := Option.map_eq_some_iff.mp done
          obtain ⟨old, found⟩ := bodyHypothesis inner below
          refine ⟨old, NestedDict.getValue?_cons_eq_some_iff.mpr
            ⟨_, if_pos here, found⟩⟩
      · obtain ⟨others, below, _⟩ := Option.map_eq_some_iff.mp done
        exact past others below
  | other known lines rest ih =>
    obtain ⟨fresh, _, _, fits⟩ := fits
    obtain ⟨others, below, _⟩ := Option.map_eq_some_iff.mp done
    have member := (exists_name_of_write fits below).1
    have different : path.headD key ≠ known :=
      fun same => fresh (same ▸ member)
    obtain ⟨old, found⟩ := ih fits below
    refine ⟨old, ?_⟩
    rw [BlockLayout.value, NestedDict.getValue?_value_of_ne different]
    exact found

end BlockLayout

namespace ConfigFile

variable {ω : Type*} {yaml : YamlTexts ω}

def write (file : ConfigFile) (path : List String) (key : String)
    (text : FileLine) : Option ConfigFile :=
  (file.layout.write path key text).map fun layout => { file with layout }

variable
  {file written : ConfigFile}
  {path : List String}
  {key : String}
  {text : FileLine}

theorem replaceYamlScalarLine_lines (fits : file.Fits yaml)
    (done : file.write path key text = some written) :
    replaceYamlScalarLine text none (path ++ [key]) file.lines =
      some written.lines := by
  obtain ⟨layout, below, rfl⟩ := Option.map_eq_some_iff.mp done
  have found : replaceYamlScalarLine text (parentIndent 0) (path ++ [key])
      (file.layout.render 0) = some (layout.render 0) := by
    simpa using BlockLayout.replaceYamlScalarLine_render fits.layout below []
  have passed : ∀ line ∈ file.head, Passed 0 (path.headD key) line := by
    intro line member indent name pattern
    rw [fits.passed line member] at pattern
    cases pattern
  have past := BlockLayout.replaceYamlScalarLine_past file.head passed found
  exact past

theorem fits_write (fits : file.Fits yaml)
    (done : file.write path key text = some written)
    (readable : yaml.inlineText text)
    (unmarked : '#' ∉ text) : written.Fits yaml := by
  obtain ⟨layout, below, rfl⟩ := Option.map_eq_some_iff.mp done
  exact
    { head := fits.head
      passed := fits.passed
      filled := (BlockLayout.keys_write below).symm ▸ fits.filled
      layout := BlockLayout.fits_write fits.layout below readable unmarked }

end ConfigFile

end SmarTune
