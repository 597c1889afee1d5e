import SmarTune.Identity.DiscoveryReaders

/-!
# Apps that left the configuration

At startup the app table is compared with `controlled_apps`: a controlled row
without an entry is switched to uncontrolled, and the snapshot of an entry is
refreshed in its row.  This comparison takes an entry with an id by its id
alone.  The list from which a dropped app can be enabled again leaves out the
rows that have an entry of their id or of their name.
-/

namespace SmarTune

/-- `build_config_meta`. -/
structure ConfigMeta where
  bpfName : List String
  processNames : List String
  commandline : String
  deriving DecidableEq

/-- A row of `AIAppPriority`; the snapshot as `_parse_config_meta` reads it. -/
@[ext] structure ControlRow where
  id : String
  appId : String
  name : String
  controlled : Bool
  cmdline : String
  storedMeta : Option ConfigMeta

/-- The app table: `id` is its primary key. -/
structure ControlTable where
  rows : List ControlRow
  once : (rows.map ControlRow.id).Nodup

variable (config : List ControlledEntry) (row : ControlRow)

def buildConfigMeta (entry : ControlledEntry) : ConfigMeta :=
  ⟨entry.bpfName, entry.processNames, entry.commandline⟩

/-- `_get_controlled_app_entry(...) is not None`. -/
def isRegistered (appId name : String) : Bool :=
  config.any fun entry => (appId ≠ "" && entry.id = appId) ||
    (name ≠ "" && lowerCase entry.name = lowerCase name)

/-- `by_id.get(app_id)`: a later entry replaces an earlier one. -/
def entryById (appId : String) : Option ControlledEntry :=
  config.reverse.find? fun entry =>
    strip entry.id ≠ "" && strip entry.id = appId

/-- `by_name.get(name.lower())`, of the entries without an id. -/
def entryByName (name : String) : Option ControlledEntry :=
  config.reverse.find? fun entry =>
    strip entry.id = "" && lowerCase (strip entry.name) ≠ "" &&
      lowerCase (strip entry.name) = lowerCase name

/-- The entry of a row in `diff_controlled_apps`. -/
def configEntryOf : Option ControlledEntry :=
  (entryById config (strip row.appId)).or (entryByName config (strip row.name))

/-- The orphans and the stale snapshots of `diff_controlled_apps`. -/
def diffControlledApps (rows : List ControlRow) :
    List ControlRow × List (String × ConfigMeta) :=
  (rows.filter fun row => (configEntryOf config row).isNone && row.controlled,
    rows.filterMap fun row => (configEntryOf config row).bind fun entry =>
      if row.storedMeta = some (buildConfigMeta entry) then none
      else some (row.id, buildConfigMeta entry))

/-- A row after the updates of `reconcile_controlled_apps`. -/
def reconcileRow (diff : List ControlRow × List (String × ConfigMeta)) :
    ControlRow :=
  { row with
    controlled := row.controlled && !diff.1.any fun other => other.id = row.id
    storedMeta :=
      ((diff.2.find? fun stale => stale.1 = row.id).map Prod.snd).or
        row.storedMeta }

/-- `reconcile_controlled_apps`. -/
def reconcileControlledApps (table : ControlTable) : List ControlRow :=
  table.rows.map fun row =>
    reconcileRow row (diffControlledApps config table.rows)

/-- The rows that `fetch_unregistered_apps` lists. -/
def fetchUnregisteredApps (rows : List ControlRow) : List ControlRow :=
  rows.filter fun row => strip row.appId ≠ "" &&
    !isRegistered config (strip row.appId) (strip row.name)

/-- A second comparison finds nothing, no row with an entry is switched to
uncontrolled, and each that is can be enabled again. -/
structure Recoverable (table : ControlTable) : Prop where
  settled : diffControlledApps config (reconcileControlledApps config table) =
    ([], [])
  gone : ∀ row ∈ (diffControlledApps config table.rows).1,
    isRegistered config (strip row.appId) (strip row.name) = false
  listed : ∀ row ∈ (diffControlledApps config table.rows).1,
    row.id ∈ (fetchUnregisteredApps config
      (reconcileControlledApps config table)).map ControlRow.id

/-- A controlled row whose entry is gone has an id, and no entry with another
id has its name. -/
def NamesGone (table : ControlTable) : Prop :=
  ∀ row ∈ table.rows, row.controlled = true → configEntryOf config row = none →
    strip row.appId ≠ "" ∧ ∀ entry ∈ config, strip entry.id ≠ "" →
      strip row.name ≠ "" →
      lowerCase entry.name ≠ lowerCase (strip row.name)

/-- `config_entry_from_row`. -/
def configEntryFromRow (appName cmdline : String) : ControlledEntry :=
  let stored := row.storedMeta.getD ⟨[], [], ""⟩
  { name := if strip row.name ≠ "" then strip row.name else appName
    id := strip row.appId
    commandline :=
      if stored.commandline ≠ "" then stored.commandline
      else if row.cmdline ≠ "" then row.cmdline else cmdline
    bpfName := stored.bpfName
    processNames := stored.processNames }

/-- `restore_config_entry`, when the file can be written. -/
def restoreConfigEntry (rows : List ControlRow)
    (appId appName cmdline : String) : Option (List ControlledEntry) :=
  if appId = "" || isRegistered config appId appName then none
  else
    match rows.find? fun row => row.appId = appId with
    | none => none
    | some row =>
      let entry := configEntryFromRow row appName cmdline
      if entry.name = "" || entry.id = "" then none
      else some (config ++ [entry])

/-! ## The two matchers -/

variable {config row}

theorem configEntryOf_eq_none_iff :
    configEntryOf config row = none ↔ ∀ entry ∈ config,
      (strip entry.id ≠ "" → strip entry.id ≠ strip row.appId) ∧
        (strip entry.id = "" → lowerCase (strip entry.name) ≠ "" →
          lowerCase (strip entry.name) ≠ lowerCase (strip row.name)) := by
  simp only [configEntryOf, entryById, entryByName, Option.or_eq_none_iff,
    List.find?_eq_none, List.mem_reverse, Bool.and_eq_true, decide_eq_true_eq,
    not_and, and_imp, ← forall₂_and]

/-- An entry that only the list sees has an id, and the name of the row. -/
theorem isRegistered_eq_false_iff (orphan : configEntryOf config row = none) :
    isRegistered config (strip row.appId) (strip row.name) = false ↔
      ∀ entry ∈ config, strip entry.id ≠ "" → strip row.name ≠ "" →
        lowerCase entry.name ≠ lowerCase (strip row.name) := by
  rw [configEntryOf_eq_none_iff] at orphan
  simp only [isRegistered, List.any_eq_false, Bool.or_eq_true, not_or,
    Bool.and_eq_true, decide_eq_true_eq, not_and]
  constructor
  · exact fun unseen entry member _ => (unseen entry member).2
  · intro apart entry member
    obtain ⟨otherId, otherName⟩ := orphan entry member
    constructor
    · intro identified same
      have trimmed : strip entry.id = strip row.appId := by
        rw [same, strip_strip]
      refine otherId ?_ trimmed
      rw [trimmed]
      exact identified
    · intro named same
      by_cases identified : strip entry.id = ""
      · have trimmed : lowerCase (strip entry.name) =
            lowerCase (strip row.name) := by
          rw [← strip_lowerCase, same, strip_lowerCase, strip_strip]
        refine otherName identified ?_ trimmed
        rw [trimmed]
        exact lowerCase_ne_empty named
      · exact apart entry member identified named same

/-! ## Applying a comparison -/

variable {table : ControlTable} {diff : List ControlRow × List (String × ConfigMeta)}

theorem mem_orphans_iff {rows : List ControlRow} :
    row ∈ (diffControlledApps config rows).1 ↔
      row ∈ rows ∧ configEntryOf config row = none ∧ row.controlled = true := by
  simp [diffControlledApps, List.mem_filter]

/-- Rows are updated by their own differences. -/
theorem eq_of_id_eq {other : ControlRow} (first : row ∈ table.rows)
    (second : other ∈ table.rows) (same : row.id = other.id) : row = other :=
  List.inj_on_of_nodup_map table.once first second same

theorem any_orphan_eq (member : row ∈ table.rows) :
    ((diffControlledApps config table.rows).1.any fun other =>
      other.id = row.id) =
      ((configEntryOf config row).isNone && row.controlled) := by
  rw [Bool.eq_iff_iff, List.any_eq_true, Bool.and_eq_true,
    Option.isNone_iff_eq_none]
  constructor
  · rintro ⟨other, among, same⟩
    obtain ⟨present, orphan⟩ := mem_orphans_iff.mp among
    obtain rfl := eq_of_id_eq present member (of_decide_eq_true same)
    exact orphan
  · exact fun orphan =>
      ⟨row, mem_orphans_iff.mpr ⟨member, orphan⟩, decide_eq_true rfl⟩

/-- What is stored for the id of a row is the snapshot of its entry. -/
theorem find?_stale_eq (member : row ∈ table.rows) :
    ((((diffControlledApps config table.rows).2.find? fun stale =>
      stale.1 = row.id).map Prod.snd).or row.storedMeta) =
      ((configEntryOf config row).map buildConfigMeta).or row.storedMeta := by
  have own : ∀ stale ∈ (diffControlledApps config table.rows).2,
      stale.1 = row.id →
      (configEntryOf config row).map buildConfigMeta = some stale.2 := by
    intro stale listed same
    obtain ⟨other, present, kept⟩ := List.mem_filterMap.mp listed
    obtain ⟨entry, found, kept⟩ := Option.bind_eq_some_iff.mp kept
    split at kept
    · cases kept
    · cases kept
      obtain rfl := eq_of_id_eq member present same.symm
      rw [found, Option.map_some]
  cases lookup : (diffControlledApps config table.rows).2.find? fun stale =>
      stale.1 = row.id with
  | some stale =>
    have same : stale.1 = row.id := by simpa using List.find?_some lookup
    rw [own stale (List.mem_of_find?_eq_some lookup) same]
    rfl
  | none =>
    cases found : configEntryOf config row with
    | none => rfl
    | some entry =>
      simp only [Option.map_none, Option.none_or, Option.map_some,
        Option.some_or]
      by_contra stale
      have listed : (row.id, buildConfigMeta entry) ∈
          (diffControlledApps config table.rows).2 := by
        refine List.mem_filterMap.mpr ⟨row, member, ?_⟩
        rw [found, Option.bind_some, if_neg stale]
      exact List.find?_eq_none.mp lookup _ listed (decide_eq_true rfl)

/-- A row after the updates, by its own entry. -/
def settledRow (config : List ControlledEntry) (row : ControlRow) :
    ControlRow :=
  { row with
    controlled := row.controlled && (configEntryOf config row).isSome
    storedMeta :=
      ((configEntryOf config row).map buildConfigMeta).or row.storedMeta }

theorem reconcileRow_eq (member : row ∈ table.rows) :
    reconcileRow row (diffControlledApps config table.rows) =
      settledRow config row := by
  unfold reconcileRow settledRow
  rw [any_orphan_eq member, find?_stale_eq member]
  congr 1
  cases (configEntryOf config row) <;> cases row.controlled <;> rfl

/-- The updates by id do to each row what its own entry asks for: the row keeps
its control exactly if it has an entry, and takes the snapshot of it. -/
theorem reconcileControlledApps_eq_map (config : List ControlledEntry)
    (table : ControlTable) :
    reconcileControlledApps config table =
      table.rows.map (settledRow config) :=
  List.map_congr_left fun _ member => reconcileRow_eq member

/-- The table after a startup. -/
def startup (table : ControlTable) (config : List ControlledEntry) :
    ControlTable where
  rows := reconcileControlledApps config table
  once := by
    have ids : (reconcileControlledApps config table).map ControlRow.id =
        table.rows.map ControlRow.id := List.map_map
    rw [ids]
    exact table.once

theorem diff_reconciled :
    diffControlledApps config (reconcileControlledApps config table) =
      ([], []) := by
  have settled : ∀ after ∈ reconcileControlledApps config table,
      ∃ row, after = settledRow config row := by
    intro after listed
    obtain ⟨row, member, rfl⟩ := List.mem_map.mp listed
    exact ⟨row, reconcileRow_eq member⟩
  refine Prod.ext ?_ ?_
  · apply List.filter_eq_nil_iff.mpr
    intro after listed
    obtain ⟨row, rfl⟩ := settled after listed
    change ¬ ((configEntryOf config row).isNone &&
      (row.controlled && (configEntryOf config row).isSome)) = true
    cases configEntryOf config row <;> simp
  · apply List.filterMap_eq_nil_iff.mpr
    intro after listed
    obtain ⟨row, rfl⟩ := settled after listed
    change (configEntryOf config row).bind _ = none
    cases found : configEntryOf config row with
    | none => rfl
    | some entry =>
      rw [Option.bind_some, if_pos]
      simp [settledRow, found]

theorem isSome_configEntryOf_append {entry : ControlledEntry} :
    (configEntryOf (config ++ [entry]) row).isSome ↔
      (configEntryOf config row).isSome ∨
        (configEntryOf [entry] row).isSome := by
  rw [← not_iff_not, not_or]
  simp only [Option.not_isSome_iff_eq_none, configEntryOf_eq_none_iff,
    List.forall_mem_append]

/-- An app whose id was changed in the configuration, and its row. -/
def renumbered : List ControlledEntry × ControlTable :=
  ([⟨"Foo", "new", "", [], []⟩],
    ⟨[⟨"1", "old", "Foo", true, "", none⟩], by decide⟩)

end SmarTune
