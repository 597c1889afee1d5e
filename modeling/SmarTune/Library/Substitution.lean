import Mathlib.Data.List.Infix

/-!
# Substitution of a pattern

A text is cut at the occurrences of a pattern, from the left and without
overlap, and put together again with something else in their place.  An element
that the pattern does not contain keeps the two sides of it apart.
-/

namespace Substitution

variable {α β : Type*} {pattern : List α}

/-- An occurrence at the front ends before an element that it lacks. -/
theorem prefix_of_prefix_append {first rest : List α} {item : α}
    (lacks : item ∉ pattern) (occurs : pattern <+: first ++ item :: rest) :
    pattern <+: first := by
  rcases List.prefix_or_prefix_of_prefix occurs
    (List.prefix_append first (item :: rest)) with before | after
  · exact before
  · obtain ⟨others, rfl⟩ := after
    rw [List.prefix_append_right_inj] at occurs
    cases others with
    | nil => simp
    | cons other others =>
      obtain ⟨rfl, _⟩ := List.cons_prefix_cons.mp occurs
      exact absurd (by simp) lacks

/-- An element in front of the first piece is in front of the whole. -/
theorem intercalate_modifyHead {pieces : List (List β)} (nonempty : pieces ≠ [])
    (between first : List β) :
    between.intercalate (pieces.modifyHead (first ++ ·)) =
      first ++ between.intercalate pieces := by
  cases pieces with
  | nil => exact absurd rfl nonempty
  | cons piece pieces => cases pieces <;> simp [List.intercalate_cons_cons]

/-- What is in joined parts is in a part or between them. -/
theorem mem_of_mem_intercalate {between : List β} {pieces : List (List β)}
    {item : β} (member : item ∈ between.intercalate pieces) :
    item ∈ between ∨ ∃ piece ∈ pieces, item ∈ piece := by
  induction pieces with
  | nil => exact absurd member List.not_mem_nil
  | cons piece pieces ih =>
    cases pieces with
    | nil => exact .inr ⟨piece, by simp, by simpa using member⟩
    | cons next pieces =>
      rw [List.intercalate_cons_cons, List.append_assoc, List.mem_append,
        List.mem_append] at member
      rcases member with here | separator | later
      · exact .inr ⟨piece, by simp, here⟩
      · exact .inl separator
      · rcases ih later with separator | ⟨other, inside, found⟩
        · exact .inl separator
        · exact .inr ⟨other, by simp [inside], found⟩

theorem flatMap_intercalate (code : α → List β) (between : List α)
    (parts : List (List α)) :
    (between.intercalate parts).flatMap code =
      (between.flatMap code).intercalate (parts.map (List.flatMap code)) := by
  induction parts with
  | nil => rfl
  | cons part parts ih =>
    cases parts with
    | nil => simp
    | cons next parts =>
      rw [List.intercalate_cons_cons, List.flatMap_append,
        List.flatMap_append, ih]
      simp [List.intercalate_cons_cons]

variable [DecidableEq α]

/-- The pieces between the occurrences of the pattern, when the next `skip`
elements belong to one. -/
def cutAfter (pattern : List α) : ℕ → List α → List (List α)
  | _, [] => [[]]
  | skip + 1, _ :: rest => cutAfter pattern skip rest
  | 0, item :: rest =>
    if pattern <+: item :: rest then
      [] :: cutAfter pattern (pattern.length - 1) rest
    else (cutAfter pattern 0 rest).modifyHead (item :: ·)

/-- The pieces between the occurrences of the pattern. -/
def cut (pattern text : List α) : List (List α) := cutAfter pattern 0 text

/-- Put a replacement in the place of each occurrence. -/
def replace (pattern replacement text : List α) : List α :=
  replacement.intercalate (cut pattern text)

@[simp] theorem cut_nil : cut pattern [] = [[]] := rfl

theorem cutAfter_append (first rest : List α) :
    cutAfter pattern first.length (first ++ rest) = cut pattern rest := by
  induction first with
  | nil => rfl
  | cons item first ih => exact ih

theorem cut_occurrence (nonempty : pattern ≠ []) (rest : List α) :
    cut pattern (pattern ++ rest) = [] :: cut pattern rest := by
  obtain ⟨first, others, rfl⟩ := List.exists_cons_of_ne_nil nonempty
  have occurs : first :: others <+: first :: (others ++ rest) :=
    List.prefix_append (first :: others) rest
  change cutAfter _ 0 (first :: (others ++ rest)) = _
  rw [cutAfter, if_pos occurs]
  exact congrArg ([] :: ·) (cutAfter_append others rest)

/-- An element with no occurrence at it is kept. -/
theorem cut_cons {item : α} {rest : List α}
    (absent : ¬ pattern <+: item :: rest) :
    cut pattern (item :: rest) = (cut pattern rest).modifyHead (item :: ·) := by
  change cutAfter _ 0 (item :: rest) = _
  rw [cutAfter, if_neg absent]
  rfl

theorem cut_induction {motive : List α → Prop} (nonempty : pattern ≠ [])
    (nil : motive [])
    (occurrence : ∀ rest, motive rest → motive (pattern ++ rest))
    (cons : ∀ item rest, ¬ pattern <+: item :: rest → motive rest →
      motive (item :: rest))
    (text : List α) :
    motive text := by
  generalize size : text.length = length
  induction length using Nat.strong_induction_on generalizing text with
  | h length ih =>
    cases text with
    | nil => exact nil
    | cons item rest =>
      by_cases occurs : pattern <+: item :: rest
      · obtain ⟨others, whole⟩ := occurs
        rw [← whole]
        apply occurrence
        refine ih others.length ?_ others rfl
        have positive := List.length_pos_of_ne_nil nonempty
        have lengths := congrArg List.length whole
        rw [List.length_append] at lengths
        omega
      · apply cons item rest occurs
        refine ih rest.length ?_ rest rfl
        rw [List.length_cons] at size
        omega

theorem cut_ne_nil (nonempty : pattern ≠ []) (text : List α) :
    cut pattern text ≠ [] := by
  induction text using cut_induction nonempty with
  | nil => simp
  | occurrence rest _ => simp [cut_occurrence nonempty]
  | cons item rest absent ih => simpa [cut_cons absent] using ih

section Replace

variable {replacement : List α}

@[simp] theorem replace_nil : replace pattern replacement [] = [] := rfl

theorem replace_occurrence (nonempty : pattern ≠ []) (rest : List α) :
    replace pattern replacement (pattern ++ rest) =
      replacement ++ replace pattern replacement rest := by
  rw [replace, cut_occurrence nonempty,
    List.intercalate_cons_of_ne_nil (cut_ne_nil nonempty rest)]
  simp [replace]

theorem replace_cons (nonempty : pattern ≠ []) {item : α} {rest : List α}
    (absent : ¬ pattern <+: item :: rest) :
    replace pattern replacement (item :: rest) =
      item :: replace pattern replacement rest := by
  rw [replace, cut_cons absent]
  exact intercalate_modifyHead (cut_ne_nil nonempty rest) replacement [item]

end Replace

theorem intercalate_cut (nonempty : pattern ≠ []) (text : List α) :
    replace pattern pattern text = text := by
  induction text using cut_induction nonempty with
  | nil => rfl
  | occurrence rest ih => rw [replace_occurrence nonempty, ih]
  | cons item rest absent ih => rw [replace_cons nonempty absent, ih]

/-- There is one piece when the pattern does not occur. -/
theorem cut_eq_singleton_iff (nonempty : pattern ≠ []) (text : List α) :
    cut pattern text = [text] ↔ ¬ pattern <:+: text := by
  induction text using cut_induction nonempty with
  | nil => simp [nonempty]
  | occurrence rest _ =>
    rw [cut_occurrence nonempty]
    have occurs : pattern <:+: pattern ++ rest := ⟨[], rest, rfl⟩
    simp [occurs, cut_ne_nil nonempty]
  | cons item rest absent ih =>
    rw [cut_cons absent, List.infix_cons_iff, not_or, ← ih,
      and_iff_right absent]
    cases pieces : cut pattern rest with
    | nil => exact absurd pieces (cut_ne_nil nonempty rest)
    | cons piece others => simp

theorem replace_of_absent (nonempty : pattern ≠ []) {text : List α}
    (absent : ¬ pattern <:+: text) (replacement : List α) :
    replace pattern replacement text = text := by
  rw [replace, (cut_eq_singleton_iff nonempty text).mpr absent,
    List.intercalate_singleton]

/-- How many occurrences are replaced. -/
def occurrences (pattern text : List α) : ℕ := (cut pattern text).length - 1

theorem occurrences_eq_zero_iff (nonempty : pattern ≠ []) (text : List α) :
    occurrences pattern text = 0 ↔ ¬ pattern <:+: text := by
  rw [← cut_eq_singleton_iff nonempty]
  constructor
  · intro none
    cases pieces : cut pattern text with
    | nil => exact absurd pieces (cut_ne_nil nonempty text)
    | cons piece others =>
      have alone : others = [] := by
        simpa [occurrences, pieces] using none
      have whole := intercalate_cut nonempty text
      rw [replace, pieces, alone, List.intercalate_singleton] at whole
      rw [alone, whole]
  · intro single
    rw [occurrences, single]
    rfl

/-- How often an element stands in the text is changed by each replacement. -/
theorem count_replace (nonempty : pattern ≠ []) (replacement text : List α)
    (item : α) :
    (replace pattern replacement text).count item +
        occurrences pattern text * pattern.count item =
      text.count item + occurrences pattern text * replacement.count item := by
  have step : ∀ rest, occurrences pattern (pattern ++ rest) =
      occurrences pattern rest + 1 := by
    intro rest
    have some := List.length_pos_of_ne_nil (cut_ne_nil nonempty rest)
    simp only [occurrences, cut_occurrence nonempty, List.length_cons]
    omega
  induction text using cut_induction nonempty with
  | nil => simp [occurrences]
  | occurrence rest ih =>
    rw [replace_occurrence nonempty, step, List.count_append,
      List.count_append, Nat.add_mul, Nat.add_mul]
    omega
  | cons other rest absent ih =>
    have same : occurrences pattern (other :: rest) =
        occurrences pattern rest := by
      simp [occurrences, cut_cons absent]
    rw [replace_cons nonempty absent, same, List.count_cons, List.count_cons]
    omega

/-! ## Elements that keep their sides apart -/

theorem replace_append_cons (nonempty : pattern ≠ []) {item : α}
    (lacks : item ∉ pattern) (replacement first rest : List α) :
    replace pattern replacement (first ++ item :: rest) =
      replace pattern replacement first ++
        item :: replace pattern replacement rest := by
  induction first using cut_induction nonempty with
  | nil =>
    refine replace_cons nonempty ?_
    intro occurs
    have front : pattern <+: [] := prefix_of_prefix_append lacks occurs
    exact nonempty (List.prefix_nil.mp front)
  | occurrence first ih =>
    rw [List.append_assoc, replace_occurrence nonempty, ih,
      replace_occurrence nonempty, List.append_assoc]
  | cons other first absent ih =>
    rw [List.cons_append, replace_cons nonempty, ih,
      replace_cons nonempty absent, List.cons_append]
    intro occurs
    exact absent (prefix_of_prefix_append lacks occurs)

theorem replace_intercalate (nonempty : pattern ≠ []) {item : α}
    (lacks : item ∉ pattern) (replacement : List α) (parts : List (List α)) :
    replace pattern replacement ([item].intercalate parts) =
      [item].intercalate (parts.map (replace pattern replacement)) := by
  induction parts with
  | nil => rfl
  | cons part parts ih =>
    cases parts with
    | nil => simp
    | cons next parts =>
      rw [List.intercalate_cons_cons, List.append_assoc,
        List.singleton_append, replace_append_cons nonempty lacks,
        ih]
      simp [List.intercalate_cons_cons]

theorem replace_self (nonempty : pattern ≠ []) (replacement : List α) :
    replace pattern replacement pattern = replacement := by
  have whole : replace pattern replacement (pattern ++ []) = replacement ++ [] :=
    replace_occurrence nonempty []
  rwa [List.append_nil, List.append_nil] at whole

/-- The parts of a joined text are the parts of what was joined. -/
theorem splitOn_intercalate_eq_flatMap (item : α) {parts : List (List α)}
    (nonempty : parts ≠ []) :
    ([item].intercalate parts).splitOn item =
      parts.flatMap (List.splitOn item) := by
  induction parts with
  | nil => exact absurd rfl nonempty
  | cons part parts ih =>
    cases parts with
    | nil => simp
    | cons next parts =>
      rw [List.intercalate_cons_cons, List.append_assoc,
        List.singleton_append, List.splitOn_append_cons_self,
        ih (by simp)]
      rfl

/-! ## Coded texts -/

/-- Elements without a part in the pattern go to the piece that they precede. -/
theorem cut_append (nonempty : pattern ≠ []) {first : List α}
    (apart : ∀ item ∈ first, item ∉ pattern) (rest : List α) :
    cut pattern (first ++ rest) =
      (cut pattern rest).modifyHead (first ++ ·) := by
  induction first with
  | nil =>
    rw [List.nil_append]
    cases cut pattern rest <;> rfl
  | cons item first ih =>
    have absent : ¬ pattern <+: item :: (first ++ rest) := by
      obtain ⟨head, others, rfl⟩ := List.exists_cons_of_ne_nil nonempty
      intro occurs
      obtain ⟨rfl, _⟩ := List.cons_prefix_cons.mp occurs
      exact apart head (by simp) (by simp)
    rw [List.cons_append, cut_cons absent,
      ih fun other member => apart other (by simp [member])]
    cases cut pattern rest <;> rfl

/-- A code of single elements that keeps the elements of the pattern and writes
every other one without them. -/
structure Spares (code : α → List α) (pattern : List α) : Prop where
  kept : ∀ item ∈ pattern, code item = [item]
  written : ∀ item, item ∉ pattern → code item ≠ []
  apart : ∀ item, item ∉ pattern → ∀ other ∈ code item, other ∉ pattern

variable {code : α → List α}

theorem Spares.prefix_of_flatMap (spares : Spares code pattern)
    {part text : List α} (within : ∀ item ∈ part, item ∈ pattern)
    (occurs : part <+: text.flatMap code) :
    part <+: text := by
  induction part generalizing text with
  | nil => exact List.nil_prefix
  | cons item part ih =>
    have inside := within item (by simp)
    cases text with
    | nil => cases List.prefix_nil.mp occurs
    | cons first text =>
      rw [List.flatMap_cons] at occurs
      by_cases known : first ∈ pattern
      · rw [spares.kept first known, List.singleton_append] at occurs
        obtain ⟨rfl, later⟩ := List.cons_prefix_cons.mp occurs
        exact List.cons_prefix_cons.mpr ⟨rfl, ih
          (fun other member => within other (by simp [member])) later⟩
      · obtain ⟨head, others, written⟩ :=
          List.exists_cons_of_ne_nil (spares.written first known)
        rw [written, List.cons_append] at occurs
        obtain ⟨rfl, _⟩ := List.cons_prefix_cons.mp occurs
        exact absurd inside (spares.apart first known item (by simp [written]))

theorem Spares.cut_flatMap (spares : Spares code pattern)
    (nonempty : pattern ≠ []) (text : List α) :
    cut pattern (text.flatMap code) =
      (cut pattern text).map (List.flatMap code) := by
  have same : pattern.flatMap code = pattern := by
    have each : ∀ part : List α, (∀ item ∈ part, item ∈ pattern) →
        part.flatMap code = part := by
      intro part within
      induction part with
      | nil => rfl
      | cons item part ih =>
        rw [List.flatMap_cons, spares.kept item (within item (by simp)),
          ih fun other member => within other (by simp [member])]
        rfl
    exact each pattern fun _ member => member
  induction text using cut_induction nonempty with
  | nil => rfl
  | occurrence rest ih =>
    rw [List.flatMap_append, same, cut_occurrence nonempty,
      cut_occurrence nonempty, ih]
    rfl
  | cons item rest absent ih =>
    rw [cut_cons absent]
    by_cases known : item ∈ pattern
    · have coded : ¬ pattern <+: item :: rest.flatMap code := by
        intro occurs
        refine absent (spares.prefix_of_flatMap (fun _ member => member) ?_)
        rwa [List.flatMap_cons, spares.kept item known]
      rw [List.flatMap_cons, spares.kept item known, List.singleton_append,
        cut_cons coded, ih]
      cases cut pattern rest <;> simp [spares.kept item known]
    · rw [List.flatMap_cons, cut_append nonempty (spares.apart item known), ih]
      cases cut pattern rest <;> simp

theorem Spares.replace_flatMap (spares : Spares code pattern)
    (nonempty : pattern ≠ []) {replacement : List α}
    (kept : replacement.flatMap code = replacement) (text : List α) :
    replace pattern replacement (text.flatMap code) =
      (replace pattern replacement text).flatMap code := by
  rw [replace, replace, spares.cut_flatMap nonempty, flatMap_intercalate, kept]

end Substitution
