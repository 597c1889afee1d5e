import SmarTune.Library.FirstUnused
import SmarTune.Controller.Swap

/-!
# The names of managed files

A managed file is known by its name alone: the number it carries is read back
from the name, however many digits it was written with.  A new file gets the
first number that no name in the directory carries.
-/

namespace SmarTune

/-! ## Names and numbers -/

/-- A name the pattern matches from end to end, with its digits. -/
structure FullMatch (name : String) (digits : List Char) : Prop where
  text : name.toList = "swap-".toList ++ digits ++ ".img".toList
  long : 2 ≤ digits.length
  decimal : ∀ digit ∈ digits, UnicodeText.isDecimal digit = true

theorem FullMatch.managedIndex {name : String} {digits : List Char}
    (whole : FullMatch name digits) :
    managedIndex name = some (UnicodeText.numeral digits) := by
  have stops : ∀ character ∈ ".img".toList.head?,
      UnicodeText.isDecimal character = false := by
    intro character member
    have dot : ".img".toList.head? = some '.' := by decide
    obtain rfl := Option.some.inj (dot.symm.trans member)
    decide
  obtain ⟨front, behind⟩ :=
    UnicodeText.takeWhile_digits_append whole.decimal stops
  have text : name.toList = 's' :: 'w' :: 'a' :: 'p' :: '-' ::
      (digits ++ ".img".toList) := whole.text
  unfold SmarTune.managedIndex
  rw [text]
  simp only [front, behind, whole.long, true_or, and_true, if_true]

/-- The digits a number is formatted with. -/
def paddedDigits (index : Nat) : List Char :=
  if index < 10 then '0' :: Nat.toDigits 10 index else Nat.toDigits 10 index

theorem numeral_paddedDigits (index : Nat) :
    UnicodeText.numeral (paddedDigits index) = index := by
  unfold paddedDigits
  split
  · rw [UnicodeText.numeral_zero_cons, UnicodeText.numeral_toDigits]
  · exact UnicodeText.numeral_toDigits index

theorem two_le_length_paddedDigits (index : Nat) :
    2 ≤ (paddedDigits index).length := by
  unfold paddedDigits
  split
  · have some_ : 0 < (Nat.toDigits 10 index).length := Nat.length_toDigits_pos
    rw [List.length_cons]
    omega
  · next large =>
    by_contra short
    have bound := (Nat.length_toDigits_le_iff (by decide) (by decide)).mp
      (Nat.le_of_lt_succ (not_le.mp short))
    omega

theorem fullMatch_managedName (index : Nat) :
    FullMatch (managedName index) (paddedDigits index) where
  text := by
    rw [managedName, paddedDigits, Nat.toString_eq_repr,
      Nat.repr_eq_ofList_toDigits]
    split <;> simp
  long := two_le_length_paddedDigits index
  decimal := by
    intro digit member
    unfold paddedDigits at member
    split at member
    · rcases List.mem_cons.mp member with rfl | digits
      · decide
      · exact UnicodeText.isDecimal_of_mem_toDigits digits
    · exact UnicodeText.isDecimal_of_mem_toDigits member

/-- A formatted name reads back as its number. -/
theorem managedIndex_managedName (index : Nat) :
    managedIndex (managedName index) = some index := by
  rw [(fullMatch_managedName index).managedIndex, numeral_paddedDigits]

/-! ## The next name -/

namespace SwapMachine

variable (machine : SwapMachine) (config : GrowthConfig)

def usedIndices : List Nat := machine.files.filterMap managedIndex

theorem nextManagedPath_eq {index : Nat}
    (found : FirstUnused.search machine.usedIndices
      (machine.usedIndices.length + 1) 1 = some index) :
    machine.nextManagedPath config = ⟨config.path, managedName index⟩ := by
  have rounds : ∀ used count number,
      (List.range' number count).find? (· ∉ used) =
        FirstUnused.search used count number := by
    intro used count
    induction count with
    | zero => exact fun _ => rfl
    | succ count hypothesis =>
      intro number
      rw [List.range'_succ, List.find?_cons, FirstUnused.search]
      by_cases taken : number ∈ used
      · simp only [taken, not_true_eq_false, decide_false, if_true]
        exact hypothesis (number + 1)
      · simp [taken]
  have indices : (List.range (machine.usedIndices.length + 1)).map (· + 1) =
      List.range' 1 (machine.usedIndices.length + 1) := by
    rw [List.range'_eq_map_range]
    exact List.map_congr_left fun number _ => Nat.add_comm number 1
  rw [nextManagedPath, ← usedIndices]
  simp only [indices, rounds, found, Option.getD_some]

variable {machine config}

theorem mem_usedIndices {name : String} (listed : name ∈ machine.files)
    {index : Nat} (carried : managedIndex name = some index) :
    index ∈ machine.usedIndices :=
  List.mem_filterMap.mpr ⟨name, listed, carried⟩

theorem grow_added {plan : GrowthPlan} {dryRun : Bool} {outcomes : GrowOutcomes}
    {allocator : Allocator}
    (added : (machine.grow config plan dryRun outcomes).1.outcome =
      .added allocator) :
    (machine.grow config plan dryRun outcomes).1.path =
        some (machine.nextManagedPath config) ∧
      ∃ size, (machine.grow config plan dryRun outcomes).2 =
        machine.switchOn (machine.nextManagedPath config) size := by
  unfold grow at added ⊢
  simp only at added ⊢
  split
  · next idle => simp [idle] at added
  next planned =>
  rw [if_neg planned] at added
  split
  · next refused => simp [refused] at added
  next allowed =>
  rw [if_neg allowed] at added
  split
  · next shrank => simp [shrank] at added
  next room =>
  rw [if_neg room] at added
  split
  · next dry => simp [dry] at added
  next real =>
  rw [if_neg real] at added
  split
  · next unprepared => simp [unprepared] at added
  next prepared =>
  rw [if_neg prepared] at added
  split
  · exact ⟨rfl, _, rfl⟩
  · next failed =>
    rw [failed] at added
    simp only at added
    split
    · exact ⟨rfl, _, rfl⟩
    · next failedAgain =>
      rw [failedAgain] at added
      cases added

theorem recognised_switchOn (machine : SwapMachine) (config : GrowthConfig)
    {path : SwapPath} (inside : path.directory = config.path)
    (managed : (managedIndex path.name).isSome = true) (size : Nat) :
    path.name ∈ (machine.switchOn path size).managedFilesOnDisk ∧
      ⟨path, size, 0⟩ ∈ (machine.switchOn path size).managedDevices config := by
  constructor
  · rw [managedFilesOnDisk, List.mem_insertionSort, List.mem_filter]
    exact ⟨by simp [switchOn], managed⟩
  · rw [managedDevices, List.mem_filter]
    exact ⟨by simp [switchOn], by simp [inside, managed]⟩

/-- A name for the next file: it is free, and matches the pattern in full with
the first number that no name carries. -/
structure IsNextName (machine : SwapMachine) (index : Nat) : Prop where
  free : managedName index ∉ machine.files
  fullMatch : FullMatch (managedName index) (paddedDigits index)
  carries : managedIndex (managedName index) = some index
  positive : 0 < index
  unused : index ∉ machine.usedIndices
  first : ∀ other, 0 < other → other < index → other ∈ machine.usedIndices

/-- Whatever the directory holds, the search for the next name ends on a free
name with the first unused number, and a growth that adds a file adds one that
is recognised. -/
theorem next_managed_path (machine : SwapMachine) (config : GrowthConfig) :
    ∃ index, (∀ rounds, machine.usedIndices.length < rounds →
        FirstUnused.search machine.usedIndices rounds 1 = some index) ∧
      machine.nextManagedPath config = ⟨config.path, managedName index⟩ ∧
      machine.IsNextName index ∧
      ∀ plan dryRun outcomes allocator,
        (machine.grow config plan dryRun outcomes).1.outcome =
            .added allocator →
          (machine.grow config plan dryRun outcomes).1.path =
              some ⟨config.path, managedName index⟩ ∧
            managedName index ∈
              (machine.grow config plan dryRun outcomes).2.managedFilesOnDisk ∧
            ∃ device ∈
              (machine.grow config plan dryRun outcomes).2.managedDevices
                config,
              device.path = ⟨config.path, managedName index⟩ := by
  obtain ⟨index, found⟩ :=
    FirstUnused.exists_search_eq_some machine.usedIndices 1
  have next := machine.nextManagedPath_eq config (found _ (Nat.lt_succ_self _))
  obtain ⟨positive, _, unused, first⟩ :=
    (FirstUnused.search_eq_some_iff _ _ _ _).mp (found _ (Nat.lt_succ_self _))
  have carries := managedIndex_managedName index
  refine ⟨index, found, next, ?_, ?_⟩
  · exact
      { free := fun listed => unused (mem_usedIndices listed carries)
        fullMatch := fullMatch_managedName index
        carries := carries
        positive := positive
        unused := unused
        first := first }
  · intro plan dryRun outcomes allocator added
    obtain ⟨path, size, after⟩ := grow_added added
    rw [next] at path after
    have managed : (managedIndex (managedName index)).isSome = true := by
      rw [carries]
      rfl
    obtain ⟨onDisk, swappedOn⟩ := recognised_switchOn machine config
      (rfl : (⟨config.path, managedName index⟩ : SwapPath).directory =
        config.path) managed size
    rw [after]
    exact ⟨path, onDisk, _, swappedOn, rfl⟩

end SwapMachine

end SmarTune
