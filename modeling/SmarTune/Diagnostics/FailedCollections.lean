import SmarTune.Diagnostics.ConfigRevision

/-!
# One failed collection

A section that is missing from one inventory leaves its fields without a value,
which is not yet a change.  The list of disks is the exception: its view of a
missing section is the empty list, a value like any other.
-/

namespace SmarTune

section Collections

variable {Digest : Type*} (digest : Json → Digest)

/-- The check neither makes a revision nor reports a change. -/
def Quiet (revisions : List (ConfigRevision Digest))
    (check : RevisionCheck) : Prop :=
  (checkAndRecordIfChanged digest revisions check).1 = [] ∧
    (checkAndRecordIfChanged digest revisions check).2.length = revisions.length

/-- The inventory gives no field a tuple. -/
def PlainReads (check : RevisionCheck) : Prop :=
  ∀ kind, ∀ field ∈ ViewKind.fields kind, (field.2.read check.inventory).Plain

/-- Some sections of the full inventory are missing or `None`. -/
def Misses (full partial_ : PyValue) : Prop :=
  ∀ section_, partial_.get section_ = full.get section_ ∨
    partial_.get section_ = .none

variable {digest} {revisions : List (ConfigRevision Digest)}
  {check : RevisionCheck} {kind : ViewKind}

theorem changesAt_eq_nil_iff :
    changesAt revisions check kind = [] ↔ ∀ field ∈ kind.fields,
        (classifyField field.1 (field.2.read check.inventory)
          (entryOf revisions kind field.1)).2 = none := by
  simp only [changesAt, classifyAndDiff, view, List.map_map,
    List.filterMap_map, List.filterMap_eq_nil_iff]
  rfl

/-- Once there is a baseline a stored check is quiet when it finds no change. -/
theorem quiet_iff (stored : check.stored = true) (based : revisions ≠ []) :
    Quiet digest revisions check ↔ ∀ kind, ∀ field ∈ kind.fields,
        (classifyField field.1 (field.2.read check.inventory)
          (entryOf revisions kind field.1)).2 = none := by
  obtain ⟨latest, found⟩ : ∃ latest, revisions.getLast? = some latest :=
    ⟨_, List.getLast?_eq_some_getLast based⟩
  simp only [← changesAt_eq_nil_iff]
  constructor
  · rintro ⟨-, same⟩
    by_contra notAll
    obtain ⟨kind, changed⟩ := not_forall.mp notAll
    rw [checkAndRecordIfChanged_of_changed digest stored found changed] at same
    simp at same
  · intro unchanged
    rw [Quiet,
      checkAndRecordIfChanged_of_unchanged digest stored found unchanged]
    simp [touchCheckedAt]

/-! ## One field -/

variable {field : String} {prev entry : FieldEntry} {read value : PyValue}

theorem classifyField_of_value (seen : read ≠ .none) :
    (classifyField field read prev).1 = ⟨read, .present, 0⟩ := by
  simp only [classifyField, seen, if_false]
  split_ifs <;> rfl

theorem change_of_present :
    (classifyField field read ⟨value, .present, 0⟩).2 = none ↔
      read = .none ∨ read.Same value := by
  by_cases missed : read = .none
  · simp [classifyField, missed, removedAfterMisses]
  · by_cases same : read.Same value <;> simp [classifyField, missed, same]

/-- How a missed read leaves a field: not present, and missed at least once if a
value is still kept for it. -/
def MissedBefore (entry : FieldEntry) : Prop :=
  entry.state ≠ .present ∧ (entry.state = .unknown → 1 ≤ entry.missStreak)

theorem missedBefore_classifyField :
    MissedBefore (classifyField field .none prev).1 := by
  unfold MissedBefore
  by_cases known : prev.state = .present ∨ prev.state = .unknown
  · by_cases twice : removedAfterMisses ≤ prev.missStreak + 1 <;>
      simp [classifyField, known, twice]
  · have absent := not_or.mp known
    simp [classifyField, absent.1, absent.2]

/-- Missed again, a field changes exactly when a value is kept for it. -/
theorem change_of_missed (missed : MissedBefore entry) :
    (classifyField field .none entry).2 = none ↔ entry.state ≠ .unknown := by
  by_cases unknown : entry.state = .unknown
  · have twice : removedAfterMisses ≤ entry.missStreak + 1 :=
      Nat.succ_le_succ (missed.2 unknown)
    simp [classifyField, unknown, twice]
  · simp [classifyField, unknown, missed.1]

/-- Otherwise it is left as it was. -/
theorem classifyField_of_missed (missed : MissedBefore entry)
    (unkept : entry.state ≠ .unknown) :
    (classifyField field .none entry).1 = entry := by
  simp [classifyField, unkept, missed.1]

/-! ## One field through three checks -/

variable {source : FieldSource} {full partial_ : RevisionCheck}

theorem entryOf_of_value (stored : check.stored = true)
    (member : (field, source) ∈ kind.fields)
    (seen : source.read check.inventory ≠ .none)
    (plain : (source.read check.inventory).Plain) :
    entryOf (checkAndRecordIfChanged digest revisions check).2 kind field =
      ⟨source.read check.inventory, .present, 0⟩ := by
  rw [entryOf_checkAndRecordIfChanged digest stored member,
    classifyField_of_value seen]
  simp only [(PyValue.loads_dumps_iff _).mpr plain]

theorem missedBefore_entryOf (stored : check.stored = true)
    (member : (field, source) ∈ kind.fields)
    (unseen : source.read check.inventory = .none) :
    MissedBefore (entryOf (checkAndRecordIfChanged digest revisions check).2 kind
      field) := by
  rw [entryOf_checkAndRecordIfChanged digest stored member, unseen]
  exact missedBefore_classifyField

def diskItems (inventory : PyValue) : List PyValue :=
  ((inventory.get "disk").get "devices").items

/-- The section of the disks is kept, or lists none. -/
def DisksKept (full partial_ : PyValue) : Prop :=
  partial_.get "disk" = full.get "disk" ∨ diskItems full = []

theorem read_diskDevices_ne_none (inventory : PyValue) :
    FieldSource.diskDevices.read inventory ≠ .none := by
  simp [FieldSource.read]

/-- A field of a missing section is missed, unless the disks are lost. -/
theorem read_of_disksKept (misses : Misses full.inventory partial_.inventory)
    (kept : DisksKept full.inventory partial_.inventory) :
    source.read partial_.inventory = source.read full.inventory ∨
      source.read partial_.inventory = .none := by
  cases source with
  | path section_ key =>
    rcases misses section_ with same | missing
    · exact Or.inl (by simp [FieldSource.read, same])
    · exact Or.inr (by simp [FieldSource.read, missing])
  | diskDevices =>
    left
    rcases misses "disk" with same | missing
    · simp [FieldSource.read, same]
    · rcases kept with same | empty
      · simp [FieldSource.read, same]
      · unfold diskItems at empty
        simp [FieldSource.read, missing, empty]

theorem read_eq_none_of_disksKept
    (misses : Misses full.inventory partial_.inventory)
    (kept : DisksKept full.inventory partial_.inventory)
    (unseen : source.read full.inventory = .none) :
    source.read partial_.inventory = .none := by
  rcases read_of_disksKept misses kept with same | missing
  · rw [same, unseen]
  · exact missing

theorem disksKept_of_same (misses : Misses full.inventory partial_.inventory)
    (same : (FieldSource.diskDevices.read partial_.inventory).Same
      (FieldSource.diskDevices.read full.inventory)) :
    DisksKept full.inventory partial_.inventory := by
  rcases misses "disk" with kept | missing
  · exact Or.inl kept
  · right
    unfold diskItems
    cases disks : ((full.inventory.get "disk").get "devices").items with
    | nil => rfl
    | cons disk others =>
      simp [FieldSource.read, missing, disks, PyValue.Same, PyItems.ofList,
        PyValue.canon, PyItems.canon] at same

theorem quiet_partial_iff (fullStored : full.stored = true)
    (partialStored : partial_.stored = true)
    (misses : Misses full.inventory partial_.inventory)
    (plain : PlainReads full) :
    Quiet digest (checkAndRecordIfChanged digest revisions full).2 partial_ ↔
      (∀ kind, ∀ field ∈ ViewKind.fields kind,
        (entryOf (checkAndRecordIfChanged digest revisions full).2 kind
          field.1).state ≠ .unknown) ∧
      DisksKept full.inventory partial_.inventory := by
  rw [quiet_iff partialStored (checkAndRecordIfChanged_ne_nil digest fullStored)]
  constructor
  · intro quiet
    have kept : DisksKept full.inventory partial_.inventory := by
      have listed : ("disk_devices", FieldSource.diskDevices) ∈
          ViewKind.hw.fields := by decide
      have unchanged := quiet .hw _ listed
      rw [entryOf_of_value fullStored listed (read_diskDevices_ne_none _)
        (plain .hw _ listed), change_of_present] at unchanged
      exact disksKept_of_same misses
        (unchanged.resolve_left (read_diskDevices_ne_none _))
    refine ⟨fun kind field member => ?_, kept⟩
    by_cases unseen : field.2.read full.inventory = .none
    · have missed := @missedBefore_entryOf _ digest revisions full kind field.1
        field.2 fullStored member unseen
      have again := read_eq_none_of_disksKept misses kept unseen
      have unchanged := quiet kind field member
      rwa [again, change_of_missed missed] at unchanged
    · rw [entryOf_of_value fullStored member unseen (plain kind field member)]
      simp
  · rintro ⟨unkept, kept⟩ kind field member
    by_cases unseen : field.2.read full.inventory = .none
    · have again := read_eq_none_of_disksKept misses kept unseen
      rw [again, change_of_missed (missedBefore_entryOf fullStored member
        unseen)]
      exact unkept kind field member
    · rw [entryOf_of_value fullStored member unseen (plain kind field member),
        change_of_present]
      rcases read_of_disksKept misses kept with same | missing
      · exact Or.inr (by rw [same])
      · exact Or.inl missing

theorem quiet_again {again : RevisionCheck} (fullStored : full.stored = true)
    (partialStored : partial_.stored = true) (againStored : again.stored = true)
    (identical : again.inventory = full.inventory)
    (misses : Misses full.inventory partial_.inventory)
    (plain : PlainReads full)
    (unkept : ∀ kind, ∀ field ∈ ViewKind.fields kind,
      (entryOf (checkAndRecordIfChanged digest revisions full).2 kind
        field.1).state ≠ .unknown)
    (kept : DisksKept full.inventory partial_.inventory) :
    Quiet digest (checkAndRecordIfChanged digest
        (checkAndRecordIfChanged digest revisions full).2 partial_).2 again := by
  rw [quiet_iff againStored
    (checkAndRecordIfChanged_ne_nil digest partialStored)]
  intro kind field member
  rw [identical, entryOf_checkAndRecordIfChanged digest partialStored member]
  by_cases unseen : field.2.read full.inventory = .none
  · have missing := read_eq_none_of_disksKept misses kept unseen
    have missed := @missedBefore_entryOf _ digest revisions full kind field.1
      field.2 fullStored member unseen
    have notKept := unkept kind field member
    rw [unseen, missing, classifyField_of_missed missed notKept]
    refine (change_of_missed ?_).mpr notKept
    exact missed
  · have isPlain := plain kind field member
    have reloaded := (PyValue.loads_dumps_iff _).mpr isPlain
    rw [entryOf_of_value fullStored member unseen isPlain]
    rcases read_of_disksKept misses kept with same | missing
    · rw [same, classifyField_of_value unseen]
      simp only [reloaded]
      exact change_of_present.mpr (Or.inr (.refl _))
    · rw [missing]
      simp [classifyField, unseen, removedAfterMisses, reloaded]

/-! ## A failure between two reads -/

/-- The read misses a value that is known and was not missed before. -/
def FirstMiss (entry : FieldEntry) (read : PyValue) : Prop :=
  read = .none ∧ (entry.state = .present ∨ entry.state = .unknown) ∧
    entry.missStreak + 1 < removedAfterMisses

/-- Exactly at its first miss a field is kept without being present. -/
theorem state_classifyField_eq_unknown_iff :
    (classifyField field read prev).1.state = .unknown ↔
      FirstMiss prev read := by
  by_cases missed : read = .none
  · by_cases known : prev.state = .present ∨ prev.state = .unknown
    · by_cases twice : removedAfterMisses ≤ prev.missStreak + 1
      · simp [classifyField, FirstMiss, missed, known, twice]
      · simp [classifyField, FirstMiss, missed, known, twice, not_le.mp twice]
    · have absent := not_or.mp known
      simp [classifyField, FirstMiss, missed, absent.1, absent.2]
  · simp [classifyField_of_value, FirstMiss, missed]

theorem state_entryOf_eq_unknown_iff (stored : check.stored = true)
    (member : (field, source) ∈ kind.fields) :
    (entryOf (checkAndRecordIfChanged digest revisions check).2 kind
        field).state = .unknown ↔
      FirstMiss (entryOf revisions kind field)
        (source.read check.inventory) := by
  rw [entryOf_checkAndRecordIfChanged digest stored member]
  exact state_classifyField_eq_unknown_iff

/-- The full inventory misses no known value for the first time, unless nothing
is written afterwards, and the disks are kept, unless the failure is not
written. -/
def FailureUnseen (revisions : List (ConfigRevision Digest))
    (full partial_ again : RevisionCheck) : Prop :=
  (partial_.stored = true ∨ again.stored = true → ∀ kind,
    ∀ field ∈ ViewKind.fields kind, ¬FirstMiss (entryOf revisions kind field.1)
        (field.2.read full.inventory)) ∧
  (partial_.stored = true → DisksKept full.inventory partial_.inventory)

theorem quiet_of_not_stored (lost : check.stored = false) :
    Quiet digest revisions check := by
  rw [Quiet, checkAndRecordIfChanged_of_not_stored digest lost]
  exact ⟨rfl, rfl⟩

theorem quiet_through_failure_iff {again : RevisionCheck}
    (fullStored : full.stored = true)
    (identical : again.inventory = full.inventory)
    (misses : Misses full.inventory partial_.inventory)
    (plain : PlainReads full) :
    (Quiet digest (checkAndRecordIfChanged digest revisions full).2 partial_ ∧
      Quiet digest (checkAndRecordIfChanged digest
          (checkAndRecordIfChanged digest revisions full).2 partial_).2
        again) ↔
      FailureUnseen revisions full partial_ again := by
  have unkept_iff : (∀ kind, ∀ field ∈ ViewKind.fields kind,
      ¬FirstMiss (entryOf revisions kind field.1)
        (field.2.read full.inventory)) ↔
      ∀ kind, ∀ field ∈ ViewKind.fields kind,
        (entryOf (checkAndRecordIfChanged digest revisions full).2 kind
          field.1).state ≠ .unknown :=
    forall_congr' fun kind => forall₂_congr fun field member =>
      not_congr (state_entryOf_eq_unknown_iff fullStored member).symm
  rw [FailureUnseen, unkept_iff]
  cases partialStored : partial_.stored with
  | true =>
    have partialQuiet :=
      @quiet_partial_iff _ digest revisions full partial_ fullStored
        partialStored misses plain
    constructor
    · rintro ⟨quiet, -⟩
      obtain ⟨unkept, kept⟩ := partialQuiet.mp quiet
      exact ⟨fun _ => unkept, fun _ => kept⟩
    · rintro ⟨unkept, kept⟩
      have noneKept := unkept (Or.inl rfl)
      refine ⟨partialQuiet.mpr ⟨noneKept, kept rfl⟩, ?_⟩
      cases againStored : again.stored with
      | true =>
        exact quiet_again fullStored partialStored againStored identical
          misses plain noneKept (kept rfl)
      | false => exact quiet_of_not_stored againStored
  | false =>
    rw [and_iff_right (quiet_of_not_stored partialStored),
      checkAndRecordIfChanged_of_not_stored digest partialStored]
    cases againStored : again.stored with
    | true =>
      rw [quiet_partial_iff fullStored againStored
        (fun _ => Or.inl (by rw [identical])) plain]
      have kept : DisksKept full.inventory again.inventory :=
        Or.inl (by rw [identical])
      simp [kept]
    | false => simp [quiet_of_not_stored againStored]

end Collections

end SmarTune
