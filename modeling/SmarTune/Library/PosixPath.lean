import SmarTune.Library.Substitution

/-!
# Pure POSIX paths

A path is a root and a list of parts.  Reading a text drops empty parts and
single dots and keeps two dots, without regard to what there is on a disk;
writing the path gives a text that is read as the same path.
-/

/-- What a path starts from. -/
inductive PosixRoot
  | relative
  | slash
  | doubleSlash
  deriving DecidableEq

def PosixRoot.toText : PosixRoot → List Char
  | .relative => []
  | .slash => ['/']
  | .doubleSlash => ['/', '/']

/-- A part that is kept. -/
def IsPathPart (part : List Char) : Prop :=
  part ≠ [] ∧ part ≠ ['.'] ∧ '/' ∉ part

instance (part : List Char) : Decidable (IsPathPart part) :=
  inferInstanceAs (Decidable (_ ∧ _ ∧ _))

/-- A path. -/
@[ext] structure PosixPath where
  root : PosixRoot
  parts : List (List Char)
  valid : ∀ part ∈ parts, IsPathPart part
  deriving DecidableEq

namespace PosixPath

/-- The root that a text names: two slashes are not one, three are. -/
def rootOf (text : List Char) : PosixRoot :=
  if text[0]? ≠ some '/' then .relative
  else if text[1]? = some '/' ∧ text[2]? ≠ some '/' then .doubleSlash
  else .slash

def partsOf (text : List Char) : List (List Char) :=
  (text.splitOn '/').filter fun part => part ≠ [] ∧ part ≠ ['.']

theorem not_mem_of_mem_splitOn {item : Char} :
    ∀ {text part : List Char}, part ∈ text.splitOn item → item ∉ part
  | [], part, member => by
      rw [List.splitOn_nil, List.mem_singleton] at member
      simp [member]
  | first :: text, part, member => by
      rw [List.splitOn_cons_eq_if_modifyHead] at member
      split at member
      · rcases List.mem_cons.mp member with rfl | member
        · exact List.not_mem_nil
        · exact not_mem_of_mem_splitOn member
      · next different =>
          cases split : text.splitOn item with
          | nil => exact absurd split (List.splitOn_ne_nil item text)
          | cons head rest =>
            rw [split, List.modifyHead_cons, List.mem_cons] at member
            rcases member with rfl | member
            · have lacks : item ∉ head :=
                not_mem_of_mem_splitOn (split ▸ List.mem_cons_self)
              simp only [List.mem_cons, not_or]
              exact ⟨fun same => different (by simp [same]), lacks⟩
            · exact not_mem_of_mem_splitOn
                (split ▸ List.mem_cons_of_mem head member)

/-- `Path(text)`. -/
def ofText (text : List Char) : PosixPath where
  root := rootOf text
  parts := partsOf text
  valid := by
    intro part member
    obtain ⟨inside, kept⟩ := List.mem_filter.mp member
    simp only [decide_eq_true_eq] at kept
    exact ⟨kept.1, kept.2, not_mem_of_mem_splitOn inside⟩

/-- `str(path)`. -/
def toText (path : PosixPath) : List Char :=
  if path.root = .relative ∧ path.parts = [] then ['.']
  else path.root.toText ++ ['/'].intercalate path.parts

/-- `path.parent`. -/
def parent (path : PosixPath) : PosixPath where
  root := path.root
  parts := path.parts.dropLast
  valid := fun part member => path.valid part (List.mem_of_mem_dropLast member)

/-- `path.name`. -/
def name (path : PosixPath) : List Char := path.parts.getLast?.getD []

@[simp] theorem parts_parent (path : PosixPath) :
    path.parent.parts = path.parts.dropLast := rfl

theorem name_eq_nil_or (path : PosixPath) :
    path.name = [] ∨ IsPathPart path.name := by
  unfold name
  cases last : path.parts.getLast? with
  | none => exact .inl rfl
  | some part => exact .inr (path.valid part (List.mem_of_getLast? last))

variable {parts : List (List Char)} {path first second dir : PosixPath}
  {levels : ℕ}

theorem partsOf_intercalate (valid : ∀ part ∈ parts, IsPathPart part) :
    partsOf (['/'].intercalate parts) = parts := by
  by_cases empty : parts = []
  · subst empty
    decide
  · rw [partsOf, List.splitOn_intercalate '/'
      (fun part member => (valid part member).2.2) empty,
      List.filter_eq_self]
    intro part member
    simpa using ⟨(valid part member).1, (valid part member).2.1⟩

theorem partsOf_slash_cons (text : List Char) :
    partsOf ('/' :: text) = partsOf text := by
  rw [partsOf, List.splitOn_cons_eq_if_modifyHead, if_pos (by rfl),
    List.filter_cons_of_neg (by simp)]
  rfl

/-- Joined parts do not begin with a slash. -/
theorem head?_intercalate_ne (valid : ∀ part ∈ parts, IsPathPart part) :
    (['/'].intercalate parts).head? ≠ some '/' := by
  cases parts with
  | nil => simp
  | cons part parts =>
    obtain ⟨written, -, lacks⟩ := valid part (by simp)
    obtain ⟨first, rest, rfl⟩ := List.exists_cons_of_ne_nil written
    have different : first ≠ '/' := by
      rintro rfl
      exact lacks List.mem_cons_self
    cases parts with
    | nil => simpa using different
    | cons next parts =>
      rw [List.intercalate_cons_cons]
      simpa using different

/-- A written path is read as itself. -/
theorem ofText_toText (path : PosixPath) : ofText path.toText = path := by
  obtain ⟨root, parts, valid⟩ := path
  have start := head?_intercalate_ne valid
  have same := partsOf_intercalate valid
  unfold toText ofText
  ext1
  · dsimp only
    split
    · next relative => exact relative.1.symm
    · generalize ['/'].intercalate parts = text at start
      rw [List.head?_eq_getElem?] at start
      cases root <;> simp [rootOf, PosixRoot.toText, start]
  · dsimp only
    split
    · next relative =>
        rw [relative.2]
        decide
    · cases root with
      | relative => exact same
      | slash => exact (partsOf_slash_cons _).trans same
      | doubleSlash =>
        exact (partsOf_slash_cons _).trans ((partsOf_slash_cons _).trans same)

/-- Different paths are written differently. -/
theorem toText_injective : Function.Injective toText :=
  Function.LeftInverse.injective ofText_toText

theorem slash_mem_toText_of_ne_relative (absolute : path.root ≠ .relative) :
    '/' ∈ path.toText := by
  rw [toText, if_neg fun both => absolute both.1]
  cases root : path.root with
  | relative => exact absurd root absolute
  | slash => simp [PosixRoot.toText]
  | doubleSlash => simp [PosixRoot.toText]

/-- A path that is written without a slash has at most one part. -/
theorem toText_eq_of_slash_not_mem (lacks : '/' ∉ path.toText) :
    path.toText = ['.'] ∨ path.toText = path.name := by
  have relative : path.root = .relative := by
    by_contra absolute
    exact lacks (slash_mem_toText_of_ne_relative absolute)
  unfold toText at lacks ⊢
  cases parts : path.parts with
  | nil => exact .inl (if_pos ⟨relative, rfl⟩)
  | cons part rest =>
    rw [if_neg (by simp [parts])] at lacks
    rw [if_neg (by simp)]
    right
    cases rest with
    | nil => simp [relative, PosixRoot.toText, name, parts]
    | cons next rest =>
      rw [parts, List.intercalate_cons_cons] at lacks
      simp at lacks

/-! ## What lies below a directory -/

/-- A path is the directory or lies below it. -/
def Under (dir path : PosixPath) : Prop :=
  dir.root = path.root ∧ dir.parts <+: path.parts

instance (dir path : PosixPath) : Decidable (Under dir path) :=
  inferInstanceAs (Decidable (_ ∧ _))

/-- A path lies some levels below a directory. -/
def AtDepth (dir : PosixPath) (levels : ℕ) (path : PosixPath) : Prop :=
  Under dir path ∧ path.parts.length = dir.parts.length + levels

instance (dir : PosixPath) (levels : ℕ) (path : PosixPath) :
    Decidable (AtDepth dir levels path) :=
  inferInstanceAs (Decidable (_ ∧ _))

theorem under_refl (path : PosixPath) : Under path path :=
  ⟨rfl, List.prefix_rfl⟩

theorem Under.trans {third : PosixPath} (upper : Under first second)
    (lower : Under second third) :
    Under first third :=
  ⟨upper.1.trans lower.1, upper.2.trans lower.2⟩

/-- Of two directories above a path the one with fewer parts is above the
other. -/
theorem Under.of_length_le (upper : Under first path)
    (lower : Under second path)
    (shorter : first.parts.length ≤ second.parts.length) :
    Under first second :=
  ⟨upper.1.trans lower.1.symm,
    List.prefix_of_prefix_length_le upper.2 lower.2 shorter⟩

theorem under_parent (path : PosixPath) : Under path.parent path :=
  ⟨rfl, List.dropLast_prefix path.parts⟩

theorem Under.eq_of_length_eq (below : Under dir path)
    (same : path.parts.length = dir.parts.length) :
    path = dir := by
  ext1
  · exact below.1.symm
  · exact (below.2.eq_of_length same.symm).symm

/-- What is one level longer than a directory above it has it as its parent. -/
theorem Under.parent_eq (below : Under dir path)
    (longer : path.parts.length = dir.parts.length + 1) :
    path.parent = dir := by
  have above : Under dir path.parent := by
    refine ⟨below.1, ?_⟩
    rw [parts_parent]
    exact List.prefix_of_prefix_length_le below.2 (List.dropLast_prefix _)
      (by rw [List.length_dropLast]; omega)
  refine above.eq_of_length_eq ?_
  rw [parts_parent, List.length_dropLast]
  omega

theorem AtDepth.parent (depth : AtDepth dir (levels + 1) path) :
    AtDepth dir levels path.parent := by
  obtain ⟨below, length⟩ := depth
  refine ⟨⟨below.1, ?_⟩, ?_⟩
  · rw [parts_parent]
    exact List.prefix_of_prefix_length_le below.2 (List.dropLast_prefix _)
      (by rw [List.length_dropLast]; omega)
  · rw [parts_parent, List.length_dropLast]
    omega

theorem AtDepth.eq_of_under (one : AtDepth dir levels first)
    (other : AtDepth dir levels second) (below : Under first second) :
    second = first :=
  below.eq_of_length_eq (other.2.trans one.2.symm)

end PosixPath
