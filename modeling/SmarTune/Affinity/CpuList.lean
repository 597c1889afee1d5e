import SmarTune.Library.Ranges
import SmarTune.Library.UnicodeText

/-!
# CPU lists

The text format of `cpuset.cpus`: ranges between commas.  What
`format_cpu_list` prints, `parse_cpu_list` reads back.
-/

namespace SmarTune

/-- What `parse_cpu_list` raises. -/
inductive CpuListError
  | invalidList (spec : String)
  | invalidRange (token : String)
  deriving DecidableEq, Repr

/-- The characters between two tokens: a comma, or whitespace. -/
def isCpuListSeparator (character : Char) : Bool :=
  character = ',' || UnicodeText.isSpace character

/-- One token: a number, or the ends of a range. -/
def parseCpuToken (spec : String) (token : List Char) :
    Except CpuListError (Finset Nat) :=
  let digits := token.takeWhile UnicodeText.isDecimal
  let start := UnicodeText.numeral digits
  match token.dropWhile UnicodeText.isDecimal with
  | [] => if digits = [] then .error (.invalidList spec) else .ok {start}
  | '-' :: stop =>
    if digits = [] ∨ stop = [] ∨ !stop.all UnicodeText.isDecimal then
      .error (.invalidList spec)
    else if UnicodeText.numeral stop < start then
      .error (.invalidRange (String.ofList token))
    else .ok (Finset.Icc start (UnicodeText.numeral stop))
  | _ => .error (.invalidList spec)

/-- The tokens in turn. -/
def parseCpuTokens (spec : String) :
    List (List Char) → Except CpuListError (Finset Nat)
  | [] => .ok ∅
  | token :: rest =>
    match parseCpuToken spec token with
    | .error error => .error error
    | .ok cpus => (parseCpuTokens spec rest).map (cpus ∪ ·)

def cpuTokens (spec : String) : List (List Char) :=
  (spec.toList.splitOnP isCpuListSeparator).filter (· ≠ [])

/-- `parse_cpu_list`. -/
def parseCpuList (spec : String) : Except CpuListError (Finset Nat) :=
  parseCpuTokens spec (cpuTokens spec)

def formatCpuRange (range : Nat × Nat) : List Char :=
  if range.1 = range.2 then Nat.toDigits 10 range.1
  else Nat.toDigits 10 range.1 ++ '-' :: Nat.toDigits 10 range.2

/-- Ranges between commas. -/
def printRanges (ranges : List (Nat × Nat)) : String :=
  String.ofList ([','].intercalate (ranges.map formatCpuRange))

/-- `format_cpu_list`. -/
def formatCpuList (cpus : Finset Nat) : String :=
  printRanges (Ranges.group cpus.sort)

example : parseCpuList " 0-1,\t4" = .ok {0, 1, 4} := by decide

/-! ## Reading back -/

/-- The tokens with a meaning: a number, or a range whose ends are in order. -/
inductive CpuToken : List Char → Nat × Nat → Prop
  | single {digits} (some_ : digits ≠ [])
      (decimal : ∀ digit ∈ digits, UnicodeText.isDecimal digit = true) :
      CpuToken digits (UnicodeText.numeral digits, UnicodeText.numeral digits)
  | range {start stop} (startSome : start ≠ [])
      (startDecimal : ∀ digit ∈ start, UnicodeText.isDecimal digit = true)
      (stopSome : stop ≠ [])
      (stopDecimal : ∀ digit ∈ stop, UnicodeText.isDecimal digit = true)
      (ordered : UnicodeText.numeral start ≤ UnicodeText.numeral stop) :
      CpuToken (start ++ '-' :: stop)
        (UnicodeText.numeral start, UnicodeText.numeral stop)

theorem isDecimal_dash : UnicodeText.isDecimal '-' = false := by
  decide

/-- A token is accepted exactly when it has a meaning. -/
theorem parseCpuToken_eq_ok_iff (spec : String) (token : List Char)
    (cpus : Finset Nat) :
    parseCpuToken spec token = .ok cpus ↔
      ∃ range, CpuToken token range ∧ Finset.Icc range.1 range.2 = cpus := by
  constructor
  · intro parsed
    have whole : token.takeWhile UnicodeText.isDecimal ++
        token.dropWhile UnicodeText.isDecimal = token :=
      List.takeWhile_append_dropWhile
    have decimal : ∀ digit ∈ token.takeWhile UnicodeText.isDecimal,
        UnicodeText.isDecimal digit = true :=
      List.all_eq_true.mp List.all_takeWhile
    unfold parseCpuToken at parsed
    simp only at parsed
    split at parsed
    · next alone =>
      rw [alone, List.append_nil] at whole
      rw [whole] at decimal parsed
      split at parsed
      · cases parsed
      · next some_ =>
        refine ⟨_, .single some_ decimal, ?_⟩
        rw [Finset.Icc_self]
        exact Except.ok.inj parsed
    · next stop behind =>
      rw [behind] at whole
      split at parsed
      · cases parsed
      next formed =>
      split at parsed
      · cases parsed
      next ordered =>
      simp only [not_or, Bool.not_eq_true, Bool.not_eq_false',
        List.all_eq_true] at formed
      have meaning := CpuToken.range formed.1 decimal formed.2.1 formed.2.2
        (not_lt.mp ordered)
      rw [whole] at meaning
      exact ⟨_, meaning, Except.ok.inj parsed⟩
    · cases parsed
  · rintro ⟨range, meaning, rfl⟩
    unfold parseCpuToken
    cases meaning with
    | @single token some_ decimal =>
      have stops : ∀ character ∈ ([] : List Char).head?,
          UnicodeText.isDecimal character = false := by
        simp
      obtain ⟨digits, rest⟩ :=
        UnicodeText.takeWhile_digits_append decimal stops
      rw [List.append_nil] at digits rest
      simp [digits, rest, some_]
    | @range start stop startSome startDecimal stopSome stopDecimal ordered =>
      have stops : ∀ character ∈ ('-' :: stop).head?,
          UnicodeText.isDecimal character = false := by
        simp [isDecimal_dash]
      obtain ⟨digits, rest⟩ :=
        UnicodeText.takeWhile_digits_append startDecimal stops
      simp only [digits, rest]
      rw [if_neg (by simpa [startSome, stopSome] using stopDecimal),
        if_neg (not_lt.mpr ordered)]

variable {range : Nat × Nat} {character : Char} {ranges : List (Nat × Nat)}
  {token : List Char}

/-- A printed range has its own meaning. -/
theorem cpuToken_formatCpuRange (ordered : range.1 ≤ range.2) :
    CpuToken (formatCpuRange range) range := by
  obtain ⟨first, last⟩ := range
  have decimal : ∀ number, ∀ digit ∈ Nat.toDigits 10 number,
      UnicodeText.isDecimal digit = true := fun _ _ =>
    UnicodeText.isDecimal_of_mem_toDigits
  unfold formatCpuRange
  by_cases single : first = last
  · subst single
    have token := CpuToken.single Nat.toDigits_ne_nil (decimal first)
    rw [UnicodeText.numeral_toDigits] at token
    rwa [if_pos rfl]
  · have token := CpuToken.range Nat.toDigits_ne_nil (decimal first)
      Nat.toDigits_ne_nil (decimal last)
    rw [UnicodeText.numeral_toDigits, UnicodeText.numeral_toDigits] at token
    rw [if_neg single]
    exact token ordered

theorem not_separator_of_isDecimal
    (digit : UnicodeText.isDecimal character = true) :
    isCpuListSeparator character = false := by
  rw [isCpuListSeparator, UnicodeText.not_isSpace_of_isDecimal digit,
    Bool.or_false, decide_eq_false_iff_not]
  rintro rfl
  revert digit
  decide

theorem not_separator_of_mem_formatCpuRange
    (member : character ∈ formatCpuRange range) :
    isCpuListSeparator character = false := by
  unfold formatCpuRange at member
  split at member
  · exact not_separator_of_isDecimal
      (UnicodeText.isDecimal_of_mem_toDigits member)
  · rcases List.mem_append.mp member with first | rest
    · exact not_separator_of_isDecimal
        (UnicodeText.isDecimal_of_mem_toDigits first)
    · rcases List.mem_cons.mp rest with rfl | last
      · decide
      · exact not_separator_of_isDecimal
          (UnicodeText.isDecimal_of_mem_toDigits last)

theorem formatCpuRange_ne_nil (range : Nat × Nat) :
    formatCpuRange range ≠ [] := by
  unfold formatCpuRange
  split <;> simp [Nat.toDigits_ne_nil]

/-- Tokens without separators, put between commas, split back. -/
theorem splitOnP_intercalate (token : List Char) (tokens : List (List Char))
    (plain : ∀ other ∈ token :: tokens, ∀ character ∈ other,
      isCpuListSeparator character = false) :
    ([','].intercalate (token :: tokens)).splitOnP isCpuListSeparator =
      token :: tokens := by
  induction tokens generalizing token with
  | nil =>
    rw [List.intercalate_singleton]
    exact List.splitOnP_eq_singleton (plain token List.mem_cons_self)
  | cons next rest ih =>
    rw [List.intercalate_cons_cons, List.append_assoc,
      List.singleton_append, List.splitOnP_append_cons_of_forall_mem
        (plain token List.mem_cons_self) ',' rfl,
      ih next fun other member =>
        plain other (List.mem_cons_of_mem _ member)]

/-- Tokens are accepted exactly when each has a meaning, and mean what all of
them cover. -/
theorem parseCpuTokens_eq_ok_iff (spec : String) (tokens : List (List Char))
    (cpus : Finset Nat) :
    parseCpuTokens spec tokens = .ok cpus ↔
      ∃ ranges, List.Forall₂ CpuToken tokens ranges ∧
        Ranges.covered ranges = cpus := by
  induction tokens generalizing cpus with
  | nil =>
    constructor
    · intro parsed
      exact ⟨[], .nil, Except.ok.inj parsed⟩
    · rintro ⟨ranges, meanings, rfl⟩
      cases meanings
      rfl
  | cons token rest ih =>
    constructor
    · intro parsed
      rw [parseCpuTokens] at parsed
      split at parsed
      · cases parsed
      next first firstParsed =>
      cases restParsed : parseCpuTokens spec rest with
      | error error =>
        rw [restParsed] at parsed
        cases parsed
      | ok others =>
        rw [restParsed] at parsed
        obtain ⟨range, meaning, rfl⟩ :=
          (parseCpuToken_eq_ok_iff spec token first).mp firstParsed
        obtain ⟨ranges, meanings, rfl⟩ :=
          (ih others).mp restParsed
        exact ⟨range :: ranges, .cons meaning meanings, Except.ok.inj parsed⟩
    · rintro ⟨ranges, meanings, rfl⟩
      cases meanings with
      | @cons _ range _ ranges meaning meanings =>
        rw [parseCpuTokens,
          (parseCpuToken_eq_ok_iff spec token _).mpr ⟨range, meaning, rfl⟩,
          (ih _).mpr ⟨ranges, meanings, rfl⟩]
        rfl

theorem cpuTokens_printRanges (ranges : List (Nat × Nat)) :
    cpuTokens (printRanges ranges) = ranges.map formatCpuRange := by
  rw [cpuTokens, printRanges, String.toList_ofList]
  cases ranges with
  | nil => rfl
  | cons range ranges =>
    rw [List.map_cons, splitOnP_intercalate, ← List.map_cons,
      List.filter_eq_self.mpr]
    · intro token member
      obtain ⟨other, _, rfl⟩ := List.mem_map.mp member
      simpa using formatCpuRange_ne_nil other
    · intro token member character inToken
      rw [← List.map_cons] at member
      obtain ⟨other, _, rfl⟩ := List.mem_map.mp member
      exact not_separator_of_mem_formatCpuRange inToken

theorem parseCpuList_printRanges
    (ordered : ∀ range ∈ ranges, range.1 ≤ range.2) :
    parseCpuList (printRanges ranges) = .ok (Ranges.covered ranges) := by
  rw [parseCpuList, parseCpuTokens_eq_ok_iff, cpuTokens_printRanges]
  refine ⟨ranges, ?_, rfl⟩
  rw [List.forall₂_map_left_iff, List.forall₂_same]
  exact fun range member => cpuToken_formatCpuRange (ordered range member)

/-- A printed CPU list reads back as the set it was printed from. -/
theorem parseCpuList_formatCpuList (cpus : Finset Nat) :
    parseCpuList (formatCpuList cpus) = .ok cpus := by
  rw [formatCpuList, parseCpuList_printRanges fun _ => Ranges.le_of_mem_group,
    Ranges.covered_group_sort]

@[simp] theorem formatCpuList_empty : formatCpuList ∅ = "" := by
  simp [formatCpuList, printRanges, Ranges.group]

theorem formatCpuList_eq_empty_iff (cpus : Finset Nat) :
    formatCpuList cpus = "" ↔ cpus = ∅ := by
  constructor
  · intro printed
    have read := parseCpuList_formatCpuList cpus
    rw [printed, ← formatCpuList_empty, parseCpuList_formatCpuList] at read
    exact (Except.ok.inj read).symm
  · rintro rfl
    exact formatCpuList_empty

/-! ## The canonical form -/

theorem exists_meaning {tokens : List (List Char)}
    (meanings : List.Forall₂ CpuToken tokens ranges) (listed : token ∈ tokens) :
    ∃ range, CpuToken token range := by
  induction meanings with
  | nil => cases listed
  | cons meaning _ ih =>
    rcases List.mem_cons.mp listed with rfl | later
    · exact ⟨_, meaning⟩
    · exact ih later

theorem parseCpuList_raises {spec : String} (listed : token ∈ cpuTokens spec)
    (meaningless : ∀ range, ¬ CpuToken token range) :
    ∃ error, parseCpuList spec = .error error := by
  cases parsed : parseCpuList spec with
  | error error => exact ⟨error, rfl⟩
  | ok cpus =>
    obtain ⟨ranges, meanings, _⟩ :=
      (parseCpuTokens_eq_ok_iff _ _ _).mp parsed
    obtain ⟨range, meaning⟩ := exists_meaning meanings listed
    exact absurd meaning (meaningless range)

theorem formatCpuList_canonical (cpus : Finset Nat) :
    ∃ ranges, Ranges.Canonical ranges ∧ Ranges.covered ranges = cpus ∧
      formatCpuList cpus = printRanges ranges :=
  ⟨_, Ranges.canonical_group cpus.sortedLT_sort.pairwise,
    Ranges.covered_group_sort cpus, rfl⟩

/-- Printed sets read back; what is read is printed canonically, with its
meaning, and printed so again; and a token that is malformed or reversed makes
the whole list raise. -/
theorem cpu_lists_round_trip :
    (∀ cpus, parseCpuList (formatCpuList cpus) = .ok cpus) ∧
    (∀ spec cpus, parseCpuList spec = .ok cpus →
      (∃ ranges, Ranges.Canonical ranges ∧ Ranges.covered ranges = cpus ∧
        formatCpuList cpus = printRanges ranges) ∧
      parseCpuList (formatCpuList cpus) = .ok cpus ∧
      ∀ again, parseCpuList (formatCpuList cpus) = .ok again →
        formatCpuList again = formatCpuList cpus) ∧
    (∀ spec, ∀ token ∈ cpuTokens spec, (∀ range, ¬ CpuToken token range) →
      ∃ error, parseCpuList spec = .error error) := by
  refine ⟨parseCpuList_formatCpuList, ?_, ?_⟩
  · intro spec cpus _
    have read := parseCpuList_formatCpuList cpus
    refine ⟨formatCpuList_canonical cpus, read, ?_⟩
    intro again readAgain
    rw [Except.ok.inj (readAgain.symm.trans read)]
  · intro spec token listed
    exact parseCpuList_raises listed

end SmarTune
