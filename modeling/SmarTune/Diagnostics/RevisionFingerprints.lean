import SmarTune.Diagnostics.FailedCollections
import SmarTune.Library.SortedJson

/-!
# The fingerprints of revisions

The fingerprint of a view is the digest of a text of the values that were read of
it.  A revision keeps these values in its inventory, so its fingerprints are
those of what it records.
-/

namespace SmarTune

/-! ## The text behind a fingerprint -/

def sortedFields (kind : ViewKind) : List (String × FieldSource) :=
  kind.fields.insertionSort fun first second => first.1 ≤ second.1

def shownJson (kind : ViewKind)
    (read : String × FieldSource → PyValue) : Json :=
  (PyValue.dict (.ofList (((sortedFields kind).map fun field =>
    (field.1, read field)).filter fun entry => entry.2 ≠ .none))).dumps.sortKeys

theorem mem_sortedFields {kind : ViewKind} {field : String × FieldSource} :
    field ∈ sortedFields kind ↔ field ∈ kind.fields :=
  List.mem_insertionSort _

theorem nodup_sortedFields (kind : ViewKind) :
    ((sortedFields kind).map Prod.fst).Nodup :=
  ((List.perm_insertionSort _ kind.fields).map Prod.fst).nodup_iff.mpr
    kind.nodup_fields

theorem sortKeys_dumps_ofList_congr {fields : List (String × FieldSource)}
    {read other : String × FieldSource → PyValue}
    (same : ∀ field ∈ fields,
      (read field).dumps.sortKeys = (other field).dumps.sortKeys) :
    (PyEntries.ofList ((fields.map fun field =>
        (field.1, read field)).filter fun entry =>
          entry.2 ≠ .none)).dumps.sortKeys =
      (PyEntries.ofList ((fields.map fun field =>
        (field.1, other field)).filter fun entry =>
          entry.2 ≠ .none)).dumps.sortKeys := by
  induction fields with
  | nil => rfl
  | cons field fields ih =>
    have first := same field List.mem_cons_self
    have rest := ih fun later member =>
      same later (List.mem_cons_of_mem _ member)
    have absent : read field = .none ↔ other field = .none := by
      rw [← PyValue.sortKeys_dumps_eq_null_iff, first,
        PyValue.sortKeys_dumps_eq_null_iff]
    by_cases missed : other field = .none
    · simpa [missed, absent.mpr missed] using rest
    · have seen : read field ≠ .none := mt absent.mp missed
      simpa [missed, seen, PyEntries.ofList, PyEntries.dumps,
        JsonMembers.sortKeys, first] using congrArg _ rest

/-- Two texts of a view are the same exactly when every field has the same
text. -/
theorem shownJson_eq_iff {kind : ViewKind}
    {read other : String × FieldSource → PyValue} :
    shownJson kind read = shownJson kind other ↔ ∀ field ∈ kind.fields,
        (read field).dumps.sortKeys = (other field).dumps.sortKeys := by
  constructor
  · intro same field member
    have shown : ∀ read : String × FieldSource → PyValue,
        (PyEntries.ofList (((sortedFields kind).map fun field =>
          (field.1, read field)).filter fun entry =>
            entry.2 ≠ .none)).dumps.sortKeys.get? field.1 =
          if read field = .none then none
          else some (read field).dumps.sortKeys := by
      intro read
      have distinct : (((sortedFields kind).map fun field =>
          (field.1, read field)).map Prod.fst).Nodup := by
        rw [List.map_map]
        exact nodup_sortedFields kind
      rw [JsonMembers.get?_sortKeys, PyEntries.get?_dumps_ofList_filter distinct
          (List.mem_map.mpr ⟨field, mem_sortedFields.mpr member, rfl⟩)]
      split_ifs <;> rfl
    simp only [shownJson, PyValue.dumps, Json.sortKeys,
      Json.object.injEq] at same
    have members := (shown read).symm.trans
      ((congrArg (·.get? field.1) same).trans (shown other))
    by_cases missed : read field = .none
    · by_cases missedToo : other field = .none
      · rw [missed, missedToo]
      · simp [missed, missedToo] at members
    · by_cases missedToo : other field = .none
      · simp [missed, missedToo] at members
      · simpa [missed, missedToo] using members
  · intro same
    simp only [shownJson, PyValue.dumps, Json.sortKeys, Json.object.injEq]
    exact sortKeys_dumps_ofList_congr fun field member =>
      same field (mem_sortedFields.mp member)

section Revisions

variable {Digest : Type*} (digest : Json → Digest)
  {revisions : List (ConfigRevision Digest)} {check : RevisionCheck}
  {kind : ViewKind}

theorem state_classifyField_eq_present_iff {field : String} {read : PyValue}
    {prev : FieldEntry} :
    (classifyField field read prev).1.state = .present ↔ read ≠ .none := by
  by_cases missed : read = .none
  · have missedBefore := @missedBefore_classifyField field prev
    simp [missed, missedBefore.1]
  · simp [classifyField_of_value, missed]

theorem fingerprint_statusAt :
    fingerprint digest (statusAt revisions check kind) =
      digest (shownJson kind fun field => field.2.read check.inventory) := by
  let classified (field : String × FieldSource) : String × FieldEntry :=
    (field.1, (classifyField field.1 (field.2.read check.inventory)
      (entryOf revisions kind field.1)).1)
  have status : statusAt revisions check kind =
      kind.fields.map classified := by
    simp only [statusAt, classifyAndDiff, view, List.map_map]
    rfl
  have sorted : (kind.fields.map classified).insertionSort
      (fun first second => first.1 ≤ second.1) =
      (sortedFields kind).map classified := by
    rw [sortedFields]
    exact (List.map_insertionSort
      (fun first second : String × FieldSource => first.1 ≤ second.1)
      (fun first second : String × FieldEntry => first.1 ≤ second.1)
      classified kind.fields fun _ _ _ _ => Iff.rfl).symm
  have present : ∀ fields : List (String × FieldSource),
      ((fields.map classified).filterMap fun field =>
        if field.2.state = .present then some (field.1, field.2.value)
        else none) =
      (fields.map fun field =>
        (field.1, field.2.read check.inventory)).filter fun entry =>
          entry.2 ≠ .none := by
    intro fields
    induction fields with
    | nil => rfl
    | cons field fields ih =>
      by_cases missed : field.2.read check.inventory = .none
      · simpa [classified, state_classifyField_eq_present_iff, missed] using ih
      · simpa [classified, state_classifyField_eq_present_iff, missed,
          classifyField_of_value] using ih
  rw [fingerprint, status, sorted, present]
  rfl

/-! ## What a revision records -/

def ConfigRevision.fingerprintOf
    (revision : ConfigRevision Digest) : ViewKind → Digest
  | .hw => revision.hwFingerprint
  | .sw => revision.swFingerprint

/-- The change list of a view, empty for the baseline. -/
def ConfigRevision.changesOf (revision : ConfigRevision Digest)
    (kind : ViewKind) : List InventoryChange :=
  match revision.changeSummary, kind with
  | none, _ => []
  | some changes, .hw => changes.1
  | some changes, .sw => changes.2

def ConfigRevision.recorded (revision : ConfigRevision Digest) (kind : ViewKind)
    (field : String) : PyValue :=
  (revision.fullInventory.loads.get kind.key).get field

/-- The fingerprint is that of the recorded inventory. -/
def Fingerprinted (revision : ConfigRevision Digest) : Prop :=
  ∀ kind, revision.fingerprintOf kind =
    digest (shownJson kind fun field => revision.recorded kind field.1)

/-- An inventory without a tuple gives no field a tuple. -/
theorem plainReads_of_plain (plain : check.inventory.Plain) :
    PlainReads check := by
  rintro kind ⟨field, source⟩ -
  cases source with
  | path section_ key => exact (plain.get section_).get key
  | diskDevices =>
    apply PyItems.plain_ofList
    intro shown member
    obtain ⟨device, listed, rfl⟩ := List.mem_map.mp member
    have devicePlain : device.Plain :=
      ((plain.get "disk").get "devices").of_mem_items listed
    exact ⟨devicePlain.get "name", devicePlain.get "size_bytes", trivial⟩

theorem plain_recorded (revision : ConfigRevision Digest) (field : String) :
    (revision.recorded kind field).Plain :=
  ((Json.plain_loads _).get _).get _

theorem plain_entryOf (field : String) :
    (entryOf revisions kind field).value.Plain := by
  unfold entryOf statusOf
  cases revisions.getLast? with
  | none => trivial
  | some latest => exact (((Json.plain_loads _).get _).get _).get _

theorem recorded_of_fullInventory {revision : ConfigRevision Digest}
    (written : revision.fullInventory = inventoryJson check.inventory)
    {field : String × FieldSource} (member : field ∈ kind.fields) :
    revision.recorded kind field.1 =
      (field.2.read check.inventory).dumps.loads := by
  have read : (PyEntries.ofList (view kind check.inventory)).get field.1 =
      field.2.read check.inventory :=
    PyEntries.get_ofList (nodup_view kind check.inventory)
      (List.mem_map.mpr ⟨field, member, rfl⟩)
  rw [ConfigRevision.recorded, written, inventoryJson,
    get_loads_viewsPy kind fun kind =>
      .dict (.ofList (view kind check.inventory)),
    PyValue.get_loads_dumps, PyValue.get, read]

theorem fingerprinted_of_fullInventory {revision : ConfigRevision Digest}
    (written : revision.fullInventory = inventoryJson check.inventory)
    (fingerprints : ∀ kind, revision.fingerprintOf kind =
      fingerprint digest (statusAt revisions check kind)) :
    Fingerprinted digest revision := by
  intro kind
  have shown : shownJson kind (fun field => revision.recorded kind field.1) =
      shownJson kind fun field => field.2.read check.inventory := by
    rw [shownJson_eq_iff]
    intro field member
    rw [recorded_of_fullInventory written member, Json.dumps_loads]
  rw [shown, fingerprints, fingerprint_statusAt]

end Revisions

end SmarTune
