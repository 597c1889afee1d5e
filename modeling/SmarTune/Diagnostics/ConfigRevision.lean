import SmarTune.Library.PyValues
import Mathlib.Data.List.Sort

/-!
# Configuration revisions

An inventory is read into a hardware and a software view.  A check compares both
with the field status that the latest revision holds: fields that changed make a
new revision, otherwise only the status of the latest one is written again.

Revisions are kept in the order of their inserts, the latest one last; their
`create_time` is taken not to go back.
-/

namespace SmarTune

/-! ## The views of an inventory -/

/-- Where a view takes a field from. -/
inductive FieldSource
  /-- A key of a section. -/
  | path (section_ key : String)
  /-- The names and sizes of the disks. -/
  | diskDevices
  deriving DecidableEq

/-- The name and the size of a disk. -/
def diskDevice (device : PyValue) : PyValue :=
  .dict (.ofList [("name", device.get "name"),
    ("size_bytes", device.get "size_bytes")])

/-- Read a field; a section that is missing or `None` is empty. -/
def FieldSource.read (inventory : PyValue) : FieldSource → PyValue
  | .path section_ key => (inventory.get section_).get key
  | .diskDevices =>
    .list (.ofList
      (((inventory.get "disk").get "devices").items.map diskDevice))

/-- The fields of `_hw_view`. -/
def hwFields : List (String × FieldSource) :=
  [("bios_version", .path "bios" "version"),
    ("cpu_model", .path "cpu" "model_name"),
    ("cpu_core_count", .path "cpu" "core_count"),
    ("memory_total_gb", .path "memory" "total_gb"),
    ("memory_ddr_speeds", .path "memory" "ddr_speeds"),
    ("memory_devices", .path "memory" "devices"),
    ("disk_device_count", .path "disk" "device_count"),
    ("disk_total_size_bytes", .path "disk" "total_size_bytes"),
    ("disk_devices", .diskDevices),
    ("network_nic_count", .path "network" "nic_count"),
    ("network_speeds_mbps", .path "network" "network_speeds_mbps"),
    ("gpu_names", .path "gpu" "names"),
    ("gpu_count", .path "gpu" "count"),
    ("gpu_vram", .path "gpu" "vram"),
    ("gpu_eu_count", .path "gpu" "eu_count"),
    ("gpu_pci_addresses", .path "gpu" "pci_addresses"),
    ("gpu_freq_bounds_mhz", .path "gpu" "freq_bounds_mhz"),
    ("gpu_gt_freq_bounds_mhz", .path "gpu" "gt_freq_bounds_mhz"),
    ("npu_names", .path "npu" "names"),
    ("npu_freq_bounds_mhz", .path "npu" "freq_bounds_mhz")]

/-- The fields of `_sw_view`. -/
def swFields : List (String × FieldSource) :=
  [("os_version", .path "os" "version"),
    ("kernel_version", .path "driver" "kernel_version"),
    ("kernel_cmdline", .path "driver" "kernel_cmdline"),
    ("guc_fw", .path "driver" "guc_fw"),
    ("huc_fw", .path "driver" "huc_fw"),
    ("mesa", .path "driver" "mesa"),
    ("opencl", .path "driver" "opencl"),
    ("level_zero", .path "driver" "level_zero"),
    ("media", .path "driver" "media"),
    ("npu_fw", .path "driver" "npu_fw"),
    ("gpu_driver_names", .path "gpu" "driver_names")]

/-- The two views. -/
inductive ViewKind
  | hw
  | sw
  deriving DecidableEq

def ViewKind.key : ViewKind → String
  | .hw => "hw"
  | .sw => "sw"

def ViewKind.fields : ViewKind → List (String × FieldSource)
  | .hw => hwFields
  | .sw => swFields

theorem ViewKind.nodup_fields (kind : ViewKind) :
    (kind.fields.map Prod.fst).Nodup := by
  cases kind <;> decide

/-- `_hw_view` and `_sw_view`. -/
def view (kind : ViewKind) (inventory : PyValue) : List (String × PyValue) :=
  kind.fields.map fun field => (field.1, field.2.read inventory)

theorem nodup_view (kind : ViewKind) (inventory : PyValue) :
    ((view kind inventory).map Prod.fst).Nodup := by
  have names : (view kind inventory).map Prod.fst =
      kind.fields.map Prod.fst := by
    rw [view, List.map_map]
    rfl
  rw [names]
  exact kind.nodup_fields

/-! ## The status of a field -/

/-- What is known of a field. -/
inductive FieldState
  | present
  /-- Never seen a real value. -/
  | unavailable
  /-- A real value exists but the latest read failed once. -/
  | unknown
  /-- Failed `_REMOVED_AFTER_MISSES` times in a row. -/
  | removed
  deriving DecidableEq

def FieldState.name : FieldState → String
  | .present => "present"
  | .unavailable => "unavailable"
  | .unknown => "unknown"
  | .removed => "removed"

/-- The state of a name, `unavailable` when there is none. -/
def FieldState.ofPy (name : PyValue) : FieldState :=
  if name = .str "present" then .present
  else if name = .str "unknown" then .unknown
  else if name = .str "removed" then .removed
  else .unavailable

/-- The status of a field. -/
structure FieldEntry where
  value : PyValue
  state : FieldState
  missStreak : ℕ
  deriving DecidableEq

namespace FieldEntry

/-- The status as a dictionary. -/
def toPy (entry : FieldEntry) : PyValue :=
  .dict (.ofList [("value", entry.value), ("state", .str entry.state.name),
    ("miss_streak", .int entry.missStreak)])

/-- The status read from a dictionary, that of an unavailable field when there
is none. -/
def ofPy (entry : PyValue) : FieldEntry where
  value := entry.get "value"
  state := .ofPy (entry.get "state")
  missStreak :=
    match entry.get "miss_streak" with
    | .int streak => streak.toNat
    | _ => 0

/-- A status that was written is read back with its value read back. -/
theorem ofPy_loads_dumps_toPy (entry : FieldEntry) :
    ofPy entry.toPy.dumps.loads =
      { entry with value := entry.value.dumps.loads } := by
  obtain ⟨value, state, missStreak⟩ := entry
  cases state <;>
    simp [ofPy, toPy, PyValue.get, PyEntries.ofList, PyEntries.get,
      PyValue.dumps, PyEntries.dumps, Json.loads, JsonMembers.loads,
      FieldState.ofPy, FieldState.name]

end FieldEntry

/-- The kinds of a change. -/
inductive ChangeKind
  | removed
  | added
  | discovered
  | modified
  deriving DecidableEq

/-- A change of a field. -/
structure InventoryChange where
  field : String
  previous : PyValue
  current : PyValue
  change : ChangeKind
  deriving DecidableEq

/-- `_REMOVED_AFTER_MISSES`. -/
def removedAfterMisses : ℕ := 2

/-- `_classify_and_diff` at one field. -/
def classifyField (field : String) (value : PyValue)
    (prev : FieldEntry) : FieldEntry × Option InventoryChange :=
  if value = .none then
    if prev.state = .present ∨ prev.state = .unknown then
      let missStreak := prev.missStreak + 1
      if removedAfterMisses ≤ missStreak then
        (⟨.none, .removed, missStreak⟩,
          some ⟨field, prev.value, .none, .removed⟩)
      else (⟨prev.value, .unknown, missStreak⟩, none)
    else (⟨prev.value, prev.state, prev.missStreak⟩, none)
  else
    if prev.state = .unavailable then
      (⟨value, .present, 0⟩, some ⟨field, prev.value, value, .discovered⟩)
    else if prev.state = .removed then
      (⟨value, .present, 0⟩, some ⟨field, prev.value, value, .added⟩)
    else if ¬value.Same prev.value then
      (⟨value, .present, 0⟩, some ⟨field, prev.value, value, .modified⟩)
    else (⟨value, .present, 0⟩, none)

/-- `_classify_and_diff`. -/
def classifyAndDiff (current : List (String × PyValue)) (prevStatus : PyValue) :
    List (String × FieldEntry) × List InventoryChange :=
  let classified := current.map fun field =>
    (field.1, classifyField field.1 field.2 (.ofPy (prevStatus.get field.1)))
  (classified.map fun field => (field.1, field.2.1),
    classified.filterMap fun field => field.2.2)

/-- The status of a view as a dictionary. -/
def statusPy (status : List (String × FieldEntry)) : PyValue :=
  .dict (.ofList (status.map fun field => (field.1, field.2.toPy)))

section Revisions

variable {Digest : Type*} (digest : Json → Digest)

/-- `_fingerprint`, by the digest of a JSON text. -/
def fingerprint (status : List (String × FieldEntry)) : Digest :=
  let sorted := status.insertionSort fun first second => first.1 ≤ second.1
  let present := sorted.filterMap fun field =>
    if field.2.state = .present then some (field.1, field.2.value) else none
  digest (PyValue.dict (.ofList present)).dumps.sortKeys

/-- `ConfigRevision`. -/
structure ConfigRevision (Digest : Type*) where
  revisionId : String
  previousRevisionId : Option String
  bootId : Option String
  hwFingerprint : Digest
  swFingerprint : Digest
  fullInventory : Json
  /-- The hardware and the software changes, none for the baseline. -/
  changeSummary : Option (List InventoryChange × List InventoryChange)
  fieldStatus : Json
  checkedAt : Option String

/-- What a check reads and is given. -/
structure RevisionCheck where
  inventory : PyValue
  revisionId : String
  bootId : Option String
  tsUtc : String
  /-- The database takes the write. -/
  stored : Bool

/-- The event of changes in a view. -/
structure InventoryEvent where
  eventType : String
  severity : String
  summary : String
  changes : List InventoryChange
  previousRevisionId : String
  timeAccuracy : String
  configRevisionId : String
  identity : String

def viewsPy (hw sw : PyValue) : PyValue :=
  .dict (.ofList [("hw", hw), ("sw", sw)])

def inventoryJson (inventory : PyValue) : Json :=
  (viewsPy (.dict (.ofList (view .hw inventory)))
    (.dict (.ofList (view .sw inventory)))).dumps

/-- `ensure_baseline`. -/
def ensureBaseline (revisions : List (ConfigRevision Digest))
    (check : RevisionCheck) : List (ConfigRevision Digest) :=
  if revisions ≠ [] then revisions
  else
    let hwStatus := (classifyAndDiff (view .hw check.inventory) .none).1
    let swStatus := (classifyAndDiff (view .sw check.inventory) .none).1
    if check.stored then
      [{ revisionId := check.revisionId
         previousRevisionId := none
         bootId := check.bootId
         hwFingerprint := fingerprint digest hwStatus
         swFingerprint := fingerprint digest swStatus
         fullInventory := inventoryJson check.inventory
         changeSummary := none
         fieldStatus := (viewsPy (statusPy hwStatus) (statusPy swStatus)).dumps
         checkedAt := none }]
    else []

/-- `touch_checked_at`. -/
def touchCheckedAt (revisions : List (ConfigRevision Digest))
    (revisionId tsUtc : String)
    (fieldStatus : Json) : List (ConfigRevision Digest) :=
  revisions.map fun revision =>
    if revision.revisionId = revisionId then
      { revision with checkedAt := some tsUtc, fieldStatus := fieldStatus }
    else revision

/-- How exactly the time of a change is known. -/
def timeAccuracy (latestBoot boot : Option String) : String :=
  if latestBoot.getD "" ≠ "" ∧ boot.getD "" ≠ "" ∧ latestBoot ≠ boot then
    "observed_after_restart"
  else "exact"

def inventoryEvent (kind : ViewKind) (changes : List InventoryChange)
    (previousRevisionId accuracy revisionId : String) : List InventoryEvent :=
  if changes = [] then []
  else
    [{ eventType :=
        match kind with
        | .hw => "SYSTEM_HARDWARE_INVENTORY_CHANGED"
        | .sw => "SYSTEM_SOFTWARE_INVENTORY_CHANGED"
       severity :=
        match kind with
        | .hw => "warning"
        | .sw => "info"
       summary :=
        (match kind with
          | .hw => "Hardware"
          | .sw => "Software/driver") ++ " inventory changed (" ++
          toString changes.length ++ " field(s))"
       changes := changes
       previousRevisionId := previousRevisionId
       timeAccuracy := accuracy
       configRevisionId := revisionId
       identity := kind.key ++ ":" ++ revisionId }]

def ConfigRevision.status (revision : ConfigRevision Digest)
    (kind : ViewKind) : PyValue :=
  revision.fieldStatus.loads.get kind.key

/-- `check_and_record_if_changed`, with the events. -/
def checkAndRecordIfChanged (revisions : List (ConfigRevision Digest))
    (check : RevisionCheck) :
    List InventoryEvent × List (ConfigRevision Digest) :=
  match revisions.getLast? with
  | none => ([], ensureBaseline digest revisions check)
  | some latest =>
    let (hwStatus, hwChanges) :=
      classifyAndDiff (view .hw check.inventory) (latest.status .hw)
    let (swStatus, swChanges) :=
      classifyAndDiff (view .sw check.inventory) (latest.status .sw)
    let fieldStatus :=
      (viewsPy (statusPy hwStatus) (statusPy swStatus)).dumps
    if hwChanges = [] ∧ swChanges = [] then
      ([], if check.stored then
        touchCheckedAt revisions latest.revisionId check.tsUtc fieldStatus
      else revisions)
    else if check.stored then
      let accuracy := timeAccuracy latest.bootId check.bootId
      (inventoryEvent .hw hwChanges latest.revisionId accuracy
          check.revisionId ++
        inventoryEvent .sw swChanges latest.revisionId accuracy
          check.revisionId,
        revisions ++
          [{ revisionId := check.revisionId
             previousRevisionId := some latest.revisionId
             bootId := check.bootId
             hwFingerprint := fingerprint digest hwStatus
             swFingerprint := fingerprint digest swStatus
             fullInventory := inventoryJson check.inventory
             changeSummary := some (hwChanges, swChanges)
             fieldStatus := fieldStatus
             checkedAt := some check.tsUtc }])
    else ([], revisions)

/-! ## What a check leaves behind -/

/-- The field status that the next check compares with. -/
def statusOf (revisions : List (ConfigRevision Digest))
    (kind : ViewKind) : PyValue :=
  match revisions.getLast? with
  | none => .none
  | some latest => latest.status kind

/-- The stored status of a field. -/
def entryOf (revisions : List (ConfigRevision Digest)) (kind : ViewKind)
    (field : String) : FieldEntry :=
  .ofPy ((statusOf revisions kind).get field)

def changesAt (revisions : List (ConfigRevision Digest)) (check : RevisionCheck)
    (kind : ViewKind) : List InventoryChange :=
  (classifyAndDiff (view kind check.inventory) (statusOf revisions kind)).2

def statusAt (revisions : List (ConfigRevision Digest)) (check : RevisionCheck)
    (kind : ViewKind) : List (String × FieldEntry) :=
  (classifyAndDiff (view kind check.inventory) (statusOf revisions kind)).1

variable {revisions : List (ConfigRevision Digest)} {check : RevisionCheck}
  {kind : ViewKind}

theorem get_viewsPy (kind : ViewKind) (statuses : ViewKind → PyValue) :
    (viewsPy (statuses .hw) (statuses .sw)).get kind.key = statuses kind := by
  cases kind <;> simp [viewsPy, PyValue.get, PyEntries.ofList, PyEntries.get,
    ViewKind.key]

/-- The views of a written revision are read back one by one. -/
theorem get_loads_viewsPy (kind : ViewKind) (statuses : ViewKind → PyValue) :
    (viewsPy (statuses .hw) (statuses .sw)).dumps.loads.get kind.key =
      (statuses kind).dumps.loads := by
  rw [PyValue.get_loads_dumps, get_viewsPy]

theorem checkAndRecordIfChanged_of_not_stored (lost : check.stored = false) :
    checkAndRecordIfChanged digest revisions check = ([], revisions) := by
  unfold checkAndRecordIfChanged
  cases latest : revisions.getLast? with
  | none =>
    rw [List.getLast?_eq_none_iff] at latest
    simp [ensureBaseline, latest, lost]
  | some latest => simp [lost]

theorem checkAndRecordIfChanged_nil (stored : check.stored = true) :
    checkAndRecordIfChanged digest [] check =
      ([], [{ revisionId := check.revisionId
              previousRevisionId := none
              bootId := check.bootId
              hwFingerprint := fingerprint digest (statusAt
                ([] : List (ConfigRevision Digest)) check .hw)
              swFingerprint := fingerprint digest (statusAt
                ([] : List (ConfigRevision Digest)) check .sw)
              fullInventory := inventoryJson check.inventory
              changeSummary := none
              fieldStatus := (viewsPy
                (statusPy (statusAt ([] : List (ConfigRevision Digest)) check
                  .hw))
                (statusPy (statusAt ([] : List (ConfigRevision Digest)) check
                  .sw))).dumps
              checkedAt := none }]) := by
  simp [checkAndRecordIfChanged, ensureBaseline, stored, statusAt, statusOf]

variable {latest : ConfigRevision Digest} {field : String}
  {source : FieldSource} {value : PyValue} {prev : FieldEntry}
  {change : InventoryChange}

theorem checkAndRecordIfChanged_of_unchanged (stored : check.stored = true)
    (found : revisions.getLast? = some latest)
    (unchanged : ∀ kind, changesAt revisions check kind = []) :
    checkAndRecordIfChanged digest revisions check =
      ([], touchCheckedAt revisions latest.revisionId check.tsUtc
        (viewsPy (statusPy (statusAt revisions check .hw))
          (statusPy (statusAt revisions check .sw))).dumps) := by
  have hwUnchanged := unchanged .hw
  have swUnchanged := unchanged .sw
  simp only [changesAt, statusOf, found] at hwUnchanged swUnchanged
  simp [checkAndRecordIfChanged, found, hwUnchanged, swUnchanged, stored,
    statusAt, statusOf]

theorem checkAndRecordIfChanged_of_changed (stored : check.stored = true)
    (found : revisions.getLast? = some latest) {kind : ViewKind}
    (changed : changesAt revisions check kind ≠ []) :
    checkAndRecordIfChanged digest revisions check =
      (inventoryEvent .hw (changesAt revisions check .hw) latest.revisionId
          (timeAccuracy latest.bootId check.bootId) check.revisionId ++
        inventoryEvent .sw (changesAt revisions check .sw) latest.revisionId
          (timeAccuracy latest.bootId check.bootId) check.revisionId,
        revisions ++
          [{ revisionId := check.revisionId
             previousRevisionId := some latest.revisionId
             bootId := check.bootId
             hwFingerprint := fingerprint digest (statusAt revisions check .hw)
             swFingerprint := fingerprint digest (statusAt revisions check .sw)
             fullInventory := inventoryJson check.inventory
             changeSummary := some (changesAt revisions check .hw,
               changesAt revisions check .sw)
             fieldStatus := (viewsPy (statusPy (statusAt revisions check .hw))
               (statusPy (statusAt revisions check .sw))).dumps
             checkedAt := some check.tsUtc }]) := by
  have some_ : ¬(changesAt revisions check .hw = [] ∧
      changesAt revisions check .sw = []) := by
    rintro ⟨hwUnchanged, swUnchanged⟩
    cases kind with
    | hw => exact changed hwUnchanged
    | sw => exact changed swUnchanged
  simp only [changesAt, statusOf, found] at some_
  simp [checkAndRecordIfChanged, found, some_, stored, statusAt, statusOf,
    changesAt]

theorem checkAndRecordIfChanged_ne_nil (stored : check.stored = true) :
    (checkAndRecordIfChanged digest revisions check).2 ≠ [] := by
  cases found : revisions.getLast? with
  | none =>
    rw [List.getLast?_eq_none_iff] at found
    subst found
    rw [checkAndRecordIfChanged_nil digest stored]
    simp
  | some latest =>
    have based : revisions ≠ [] := by
      rintro rfl
      cases found
    by_cases unchanged : ∀ kind, changesAt revisions check kind = []
    · rw [checkAndRecordIfChanged_of_unchanged digest stored found unchanged]
      simpa [touchCheckedAt] using based
    · obtain ⟨other, changed⟩ := not_forall.mp unchanged
      rw [checkAndRecordIfChanged_of_changed digest stored found changed]
      simp

theorem statusOf_checkAndRecordIfChanged (stored : check.stored = true) :
    statusOf (checkAndRecordIfChanged digest revisions check).2 kind =
      (statusPy (statusAt revisions check kind)).dumps.loads := by
  cases found : revisions.getLast? with
  | none =>
    rw [List.getLast?_eq_none_iff] at found
    subst found
    rw [checkAndRecordIfChanged_nil digest stored]
    exact get_loads_viewsPy kind fun kind => statusPy (statusAt [] check kind)
  | some latest =>
    have read := get_loads_viewsPy kind fun kind =>
      statusPy (statusAt revisions check kind)
    by_cases unchanged : ∀ kind, changesAt revisions check kind = []
    · rw [checkAndRecordIfChanged_of_unchanged digest stored found unchanged]
      simpa [statusOf, touchCheckedAt, found, ConfigRevision.status] using read
    · obtain ⟨other, changed⟩ := not_forall.mp unchanged
      rw [checkAndRecordIfChanged_of_changed digest stored found changed]
      simpa [statusOf, ConfigRevision.status] using read

theorem mem_statusAt (member : (field, source) ∈ kind.fields) :
    (field, (classifyField field (source.read check.inventory)
      (entryOf revisions kind field)).1) ∈ statusAt revisions check kind := by
  simp only [statusAt, classifyAndDiff, view, List.map_map]
  exact List.mem_map.mpr ⟨(field, source), member, rfl⟩

theorem nodup_statusAt :
    ((statusAt revisions check kind).map Prod.fst).Nodup := by
  have names : (statusAt revisions check kind).map Prod.fst =
      (view kind check.inventory).map Prod.fst := by
    simp only [statusAt, classifyAndDiff, List.map_map]
    rfl
  rw [names]
  exact nodup_view kind check.inventory

theorem entryOf_checkAndRecordIfChanged (stored : check.stored = true)
    (member : (field, source) ∈ kind.fields) :
    entryOf (checkAndRecordIfChanged digest revisions check).2 kind field =
      let entry := (classifyField field (source.read check.inventory)
        (entryOf revisions kind field)).1
      { entry with value := entry.value.dumps.loads } := by
  have distinct : (((statusAt revisions check kind).map fun entry =>
      (entry.1, entry.2.toPy)).map Prod.fst).Nodup := by
    rw [List.map_map]
    exact nodup_statusAt
  have stored_ : (statusPy (statusAt revisions check kind)).get field =
      (classifyField field (source.read check.inventory)
        (entryOf revisions kind field)).1.toPy :=
    PyEntries.get_ofList distinct
      (List.mem_map.mpr ⟨_, mem_statusAt member, rfl⟩)
  rw [entryOf, statusOf_checkAndRecordIfChanged digest stored,
    PyValue.get_loads_dumps, stored_, FieldEntry.ofPy_loads_dumps_toPy]

/-! ## What a check reports -/

def emittedChanges (revisions : List (ConfigRevision Digest))
    (check : RevisionCheck) (field : String) : List InventoryChange :=
  ((checkAndRecordIfChanged digest revisions check).1.flatMap
    (·.changes)).filter fun change => change.field = field

theorem flatMap_changes_inventoryEvent (changes : List InventoryChange)
    (previousRevisionId accuracy revisionId : String) :
    (inventoryEvent kind changes previousRevisionId accuracy
      revisionId).flatMap (·.changes) = changes := by
  unfold inventoryEvent
  split
  · next none_ => simp [none_]
  · simp

theorem field_of_classifyField
    (found : (classifyField field value prev).2 = some change) :
    change.field = field := by
  simp only [classifyField] at found
  split_ifs at found <;> cases found <;> rfl

theorem value_of_change
    (found : (classifyField field value prev).2 = some change) :
    change.previous = prev.value ∧
      change.current = (classifyField field value prev).1.value := by
  simp only [classifyField] at found ⊢
  split_ifs at found ⊢ <;> cases found <;> exact ⟨rfl, rfl⟩

theorem value_of_no_change (found : (classifyField field value prev).2 = none) :
    (classifyField field value prev).1.value.Same prev.value := by
  simp only [classifyField] at found ⊢
  split_ifs at found ⊢ with missed known twice fresh gone differs
  · exact .refl _
  · exact .refl _
  · exact differs

/-- What is read off items with distinct labels belongs to the item of its
label. -/
private theorem filter_filterMap_of_nodup {Item Change Label : Type*}
    [DecidableEq Label] {label : Item → Label} {tag : Change → Label}
    {reads : Item → Option Change}
    (tagged : ∀ item change, reads item = some change → tag change = label item)
    {items : List Item} (distinct : (items.map label).Nodup) {item : Item}
    (member : item ∈ items) :
    (items.filterMap reads).filter (fun change => tag change = label item) =
      (reads item).toList := by
  induction items with
  | nil => cases member
  | cons first items ih =>
    rw [List.map_cons, List.nodup_cons] at distinct
    rcases List.mem_cons.mp member with rfl | later
    · have others : (items.filterMap reads).filter (fun change =>
          tag change = label item) = [] := by
        rw [List.filter_eq_nil_iff]
        intro change found
        obtain ⟨other, otherMember, read⟩ := List.mem_filterMap.mp found
        have different : label other ≠ label item := fun same =>
          distinct.1 (List.mem_map.mpr ⟨other, otherMember, same⟩)
        simpa [tagged other change read] using different
      cases read : reads item with
      | none => simpa [read] using others
      | some change => simp [read, tagged item change read, others]
    · have different : label first ≠ label item := fun same =>
        distinct.1 (List.mem_map.mpr ⟨item, later, same.symm⟩)
      rw [← ih distinct.2 later]
      cases read : reads first with
      | none => simp [read]
      | some change => simp [read, tagged first change read, different]

theorem filter_changesAt (member : (field, source) ∈ kind.fields) :
    (changesAt revisions check kind).filter (fun change =>
        change.field = field) =
      (classifyField field (source.read check.inventory)
        (entryOf revisions kind field)).2.toList := by
  have found := @filter_filterMap_of_nodup (String × FieldSource)
    InventoryChange String _ Prod.fst InventoryChange.field
    (fun field => (classifyField field.1 (field.2.read check.inventory)
      (entryOf revisions kind field.1)).2)
    (fun _ _ read => field_of_classifyField read) kind.fields kind.nodup_fields
    (field, source) member
  rw [← found]
  simp only [changesAt, classifyAndDiff, view, List.map_map, List.filterMap_map]
  rfl

theorem filter_changesAt_of_notMem {field : String}
    (absent : field ∉ kind.fields.map Prod.fst) :
    (changesAt revisions check kind).filter (fun change =>
        change.field = field) = [] := by
  rw [List.filter_eq_nil_iff]
  intro change found
  simp only [changesAt, classifyAndDiff, view, List.map_map,
    List.filterMap_map, List.mem_filterMap] at found
  obtain ⟨item, member, read⟩ := found
  have same := field_of_classifyField read
  simp only [decide_eq_true_eq]
  rintro rfl
  exact absent (List.mem_map.mpr ⟨item, member, same.symm⟩)

theorem emittedChanges_eq (stored : check.stored = true)
    (based : revisions ≠ []) (member : (field, source) ∈ kind.fields) :
    emittedChanges digest revisions check field =
      (classifyField field (source.read check.inventory)
        (entryOf revisions kind field)).2.toList := by
  obtain ⟨latest, found⟩ : ∃ latest, revisions.getLast? = some latest :=
    ⟨_, List.getLast?_eq_some_getLast based⟩
  rw [← filter_changesAt member]
  have apart : ∀ field, field ∈ hwFields.map Prod.fst →
      field ∉ swFields.map Prod.fst := by decide
  have both : emittedChanges digest revisions check field =
      (changesAt revisions check .hw).filter (fun change =>
          change.field = field) ++
        (changesAt revisions check .sw).filter (fun change =>
          change.field = field) := by
    unfold emittedChanges
    by_cases unchanged : ∀ kind, changesAt revisions check kind = []
    · rw [checkAndRecordIfChanged_of_unchanged digest stored found unchanged,
        unchanged .hw, unchanged .sw]
      rfl
    · obtain ⟨other, changed⟩ := not_forall.mp unchanged
      rw [checkAndRecordIfChanged_of_changed digest stored found changed,
        List.flatMap_append, flatMap_changes_inventoryEvent,
        flatMap_changes_inventoryEvent, List.filter_append]
  rw [both]
  have named : field ∈ kind.fields.map Prod.fst :=
    List.mem_map.mpr ⟨_, member, rfl⟩
  cases kind with
  | hw =>
    rw [@filter_changesAt_of_notMem _ revisions check .sw field
      (apart field named), List.append_nil]
  | sw =>
    rw [@filter_changesAt_of_notMem _ revisions check .hw field
      fun inHw => apart field inHw named, List.nil_append]

end Revisions

end SmarTune
