import Mathlib.Data.Fintype.Defs

/-!
# The methods that write the database

Each write runs under `db_lock` in one transaction, and calls
`_bump_write_epoch` in it for the classes it names.  A method is what its
transaction makes of the tables, and these calls.  Of the columns those are
spelled out that the snapshot of the controlled apps reads; the conditions and
the new values of the other methods are arguments.
-/

namespace SmarTune

/-- The classes of the database. -/
inductive ModelClass
  | aiAppPriority
  | monitorSnapshot
  | operationalEvent
  | alertState
  | alertEpisode
  | detectorCursor
  | configRevision
  deriving DecidableEq

/-- A row of `AIAppPriority`. -/
structure AppRow (Other : Type) where
  id : String
  appId : String
  name : String
  priority : ℤ
  networkPriority : Option String
  controlled : Bool
  cmdline : Option String
  /-- The other columns. -/
  other : Other
  deriving DecidableEq

def ModelRow (Other : Type) : ModelClass → Type
  | .aiAppPriority => AppRow Other
  | _ => Other

/-- The tables of the database. -/
abbrev Tables (Other : Type) := (cls : ModelClass) → List (ModelRow Other cls)

/-- What a transaction makes of the tables, and for which classes it calls
`_bump_write_epoch`. -/
structure WriteEffect (Other : Type) where
  tables : Tables Other
  bumps : List ModelClass

namespace WriteEffect

variable {Other : Type} (tables : Tables Other)

/-! ## Statements -/

/-- `create`. -/
def create (cls : ModelClass) (row : ModelRow Other cls) : Tables Other :=
  Function.update tables cls (tables cls ++ [row])

/-- `update(..).where(..)`. -/
def updateWhere (cls : ModelClass) (condition : ModelRow Other cls → Bool)
    (change : ModelRow Other cls → ModelRow Other cls) : Tables Other :=
  Function.update tables cls
    ((tables cls).map fun row => if condition row then change row else row)

/-- `delete().where(..)`. -/
def deleteWhere (cls : ModelClass)
    (condition : ModelRow Other cls → Bool) : Tables Other :=
  Function.update tables cls ((tables cls).filter fun row => !condition row)

def bumpIf (changed : ℕ) (cls : ModelClass) : List ModelClass :=
  if changed = 0 then [] else [cls]

/-! ## `DataBaseModel` -/

/-- `insert_record`. -/
def insertRecord (cls : ModelClass) (sameId : ModelRow Other cls → Bool)
    (row : ModelRow Other cls) : WriteEffect Other :=
  if (tables cls).any sameId then ⟨tables, []⟩
  else ⟨create tables cls row, [cls]⟩

/-- `update_all_records`. -/
def updateAllRecords (cls : ModelClass)
    (change : ModelRow Other cls → ModelRow Other cls) : WriteEffect Other :=
  ⟨updateWhere tables cls (fun _ => true) change,
    bumpIf (tables cls).length cls⟩

def updateCounted (cls : ModelClass) (condition : ModelRow Other cls → Bool)
    (change : ModelRow Other cls → ModelRow Other cls) : WriteEffect Other :=
  ⟨updateWhere tables cls condition change,
    bumpIf ((tables cls).countP condition) cls⟩

/-- `update_record`. -/
def updateRecord (cls : ModelClass) (sameId : ModelRow Other cls → Bool)
    (change : ModelRow Other cls → ModelRow Other cls) : WriteEffect Other :=
  updateCounted tables cls sameId change

/-- `delete_record`. -/
def deleteRecord (cls : ModelClass)
    (sameId : ModelRow Other cls → Bool) : WriteEffect Other :=
  ⟨deleteWhere tables cls sameId, bumpIf ((tables cls).countP sameId) cls⟩

/-- A retention delete, which does not bump. -/
def deleteOld (cls : ModelClass)
    (old : ModelRow Other cls → Bool) : WriteEffect Other :=
  ⟨deleteWhere tables cls old, []⟩

/-- A `create` that bumps. -/
def insertCounted (cls : ModelClass)
    (row : ModelRow Other cls) : WriteEffect Other :=
  ⟨create tables cls row, [cls]⟩

/-- Create the row or update the one there is, and bump. -/
def upsert (cls : ModelClass) (same : ModelRow Other cls → Bool)
    (row : ModelRow Other cls)
    (change : ModelRow Other cls → ModelRow Other cls) : WriteEffect Other :=
  if (tables cls).any same then ⟨updateWhere tables cls same change, [cls]⟩
  else insertCounted tables cls row

/-! ## `MonitorSnapshot` and `OperationalEvent` -/

/-- `MonitorSnapshot.insert_snapshot`, which does not bump. -/
def insertSnapshot (row : Other) : WriteEffect Other :=
  ⟨create tables .monitorSnapshot row, []⟩

/-- `MonitorSnapshot.delete_older_than`. -/
def deleteOldSnapshots (old : Other → Bool) : WriteEffect Other :=
  deleteOld tables .monitorSnapshot old

/-- `OperationalEvent.insert_event`. -/
def insertEvent (row : Other) : WriteEffect Other :=
  insertCounted tables .operationalEvent row

/-- `OperationalEvent.delete_older_than`. -/
def deleteOldEvents (old : Other → Bool) : WriteEffect Other :=
  deleteOld tables .operationalEvent old

/-! ## `AlertState` and `AlertEpisode` -/

/-- `AlertState.record_fire`. -/
def recordFire (same : Other → Bool) (row : Other)
    (change : Other → Other) : WriteEffect Other :=
  upsert tables .alertState same row change

/-- `AlertState.record_pending`. -/
def recordPending (same active : Other → Bool) (row : Other)
    (change : Other → Other) : WriteEffect Other :=
  if (tables .alertState).any fun row => same row && active row then
    ⟨tables, []⟩
  else upsert tables .alertState same row change

/-- `AlertState.acknowledge`. -/
def acknowledge (sameActive : Other → Bool)
    (change : Other → Other) : WriteEffect Other :=
  updateCounted tables .alertState sameActive change

/-- `AlertState.silence`. -/
def silence (sameActive : Other → Bool)
    (change : Other → Other) : WriteEffect Other :=
  updateCounted tables .alertState sameActive change

/-- `AlertEpisode.archive`; `episode` tells the episode of an alert. -/
def archive (episode : Other → Other) (sameEpisode : Other → Other → Bool)
    (row : Other) : Tables Other :=
  if (tables .alertEpisode).any (sameEpisode (episode row)) then tables
  else create tables .alertEpisode (episode row)

/-- `AlertState.resolve`; `close_acknowledged` does the same to one row. -/
def resolve (condition : Other → Bool) (episode : Other → Other)
    (sameEpisode : Other → Other → Bool)
    (change : Other → Other) : WriteEffect Other :=
  let closed : List Other := (tables .alertState).filter condition
  let archived := closed.foldl
    (fun tables row => archive tables episode sameEpisode row) tables
  ⟨updateWhere archived .alertState condition change,
    if closed.length = 0 then [] else [.alertState, .alertEpisode]⟩

/-- `AlertState.close_acknowledged`. -/
def closeAcknowledged (sameActive : Other → Bool) (episode : Other → Other)
    (sameEpisode : Other → Other → Bool)
    (change : Other → Other) : WriteEffect Other :=
  resolve tables sameActive episode sameEpisode change

/-- `AlertState.escalate`; `skips` tells that the alert is there already. -/
def escalate (same skips : Other → Bool)
    (change : Other → Other) : WriteEffect Other :=
  updateCounted tables .alertState (fun row => same row && !skips row) change

/-- `AlertState.delete_resolved_older_than`. -/
def deleteResolvedAlerts (old : Other → Bool) : WriteEffect Other :=
  deleteOld tables .alertState old

/-- `AlertEpisode.delete_older_than`. -/
def deleteOldEpisodes (old : Other → Bool) : WriteEffect Other :=
  deleteOld tables .alertEpisode old

/-! ## `DetectorCursor` and `ConfigRevision` -/

/-- `DetectorCursor.save_cursor`. -/
def saveCursor (same : Other → Bool) (row : Other)
    (change : Other → Other) : WriteEffect Other :=
  upsert tables .detectorCursor same row change

/-- `ConfigRevision.insert_revision`. -/
def insertRevision (row : Other) : WriteEffect Other :=
  insertCounted tables .configRevision row

/-- `ConfigRevision.touch_checked_at`, which always bumps. -/
def touchCheckedAt (same : Other → Bool)
    (change : Other → Other) : WriteEffect Other :=
  ⟨updateWhere tables .configRevision same change, [.configRevision]⟩

/-! ## What the bumps cover -/

/-- A class whose rows the transaction changed is bumped. -/
def Covers (tables : Tables Other) (effect : WriteEffect Other) : Prop :=
  ∀ cls, cls ∉ effect.bumps → effect.tables cls = tables cls

variable {tables}

variable {cls : ModelClass}

theorem covers_update {rows : List (ModelRow Other cls)}
    {bumps : List ModelClass} (bumped : cls ∈ bumps ∨ rows = tables cls) :
    Covers tables ⟨Function.update tables cls rows, bumps⟩ := by
  intro other unbumped
  by_cases here : other = cls
  · subst here
    simpa using bumped.resolve_left unbumped
  · simp [here]

theorem mem_bumpIf {changed : ℕ} {other : ModelClass} :
    other ∈ bumpIf changed cls ↔ changed ≠ 0 ∧ other = cls := by
  unfold bumpIf
  split <;> simp [*]

theorem covers_insertCounted (cls : ModelClass) (row : ModelRow Other cls) :
    Covers tables (insertCounted tables cls row) :=
  covers_update (.inl (by simp))

theorem covers_insertRecord (cls : ModelClass)
    (sameId : ModelRow Other cls → Bool) (row : ModelRow Other cls) :
    Covers tables (insertRecord tables cls sameId row) := by
  unfold insertRecord
  split
  · intro other _
    rfl
  · exact covers_insertCounted cls row

theorem covers_updateCounted (cls : ModelClass)
    (condition : ModelRow Other cls → Bool)
    (change : ModelRow Other cls → ModelRow Other cls) :
    Covers tables (updateCounted tables cls condition change) := by
  apply covers_update
  by_cases changed : (tables cls).countP condition = 0
  · right
    rw [List.countP_eq_zero] at changed
    conv_rhs => rw [← List.map_id (tables cls)]
    apply List.map_congr_left
    intro row member
    simp [changed row member]
  · left
    exact mem_bumpIf.mpr ⟨changed, rfl⟩

theorem covers_updateAllRecords (cls : ModelClass)
    (change : ModelRow Other cls → ModelRow Other cls) :
    Covers tables (updateAllRecords tables cls change) := by
  have same : updateAllRecords tables cls change =
      updateCounted tables cls (fun _ => true) change := by
    simp [updateAllRecords, updateCounted]
  rw [same]
  exact covers_updateCounted cls _ change

theorem covers_deleteRecord (cls : ModelClass)
    (sameId : ModelRow Other cls → Bool) :
    Covers tables (deleteRecord tables cls sameId) := by
  apply covers_update
  by_cases deleted : (tables cls).countP sameId = 0
  · right
    rw [List.countP_eq_zero] at deleted
    apply List.filter_eq_self.mpr
    intro row member
    simp [deleted row member]
  · left
    exact mem_bumpIf.mpr ⟨deleted, rfl⟩

theorem covers_upsert (cls : ModelClass) (same : ModelRow Other cls → Bool)
    (row : ModelRow Other cls)
    (change : ModelRow Other cls → ModelRow Other cls) :
    Covers tables (upsert tables cls same row change) := by
  unfold upsert
  split
  · exact covers_update (.inl (by simp))
  · exact covers_insertCounted cls row

theorem covers_recordPending (same active : Other → Bool) (row : Other)
    (change : Other → Other) :
    Covers tables (recordPending tables same active row change) := by
  unfold recordPending
  split
  · intro other _
    rfl
  · exact covers_upsert .alertState same row change

/-- Archiving leaves every other class alone. -/
theorem archive_of_ne (episode : Other → Other)
    (sameEpisode : Other → Other → Bool) (rows : List Other)
    (apart : cls ≠ .alertEpisode) :
    rows.foldl (fun tables row => archive tables episode sameEpisode row)
      tables cls = tables cls := by
  induction rows generalizing tables with
  | nil => rfl
  | cons row rows ih =>
    rw [List.foldl_cons, ih]
    unfold archive
    split
    · rfl
    · exact Function.update_of_ne apart _ _

theorem covers_resolve (condition : Other → Bool) (episode : Other → Other)
    (sameEpisode : Other → Other → Bool) (change : Other → Other) :
    Covers tables (resolve tables condition episode sameEpisode change) := by
  intro cls unbumped
  by_cases closed : List.length
      (List.filter condition (tables .alertState : List Other)) = 0
  · have none_closed := List.length_eq_zero_iff.mp closed
    have unmatched : ∀ row ∈ (tables .alertState : List Other),
        ¬ condition row = true :=
      List.filter_eq_nil_iff.mp none_closed
    simp only [resolve, none_closed, List.foldl_nil, updateWhere]
    by_cases here : cls = .alertState
    · subst here
      rw [Function.update_self]
      conv_rhs => rw [← List.map_id (tables .alertState)]
      apply List.map_congr_left
      intro row member
      simp [unmatched row member]
    · rw [Function.update_of_ne here]
  · simp only [resolve, closed, if_false, List.mem_cons, List.not_mem_nil,
      or_false, not_or] at unbumped
    simp only [resolve, updateWhere]
    rw [Function.update_of_ne unbumped.1, archive_of_ne _ _ _ unbumped.2]

theorem covers_touchCheckedAt (same : Other → Bool) (change : Other → Other) :
    Covers tables (touchCheckedAt tables same change) :=
  covers_update (.inl (by simp))

theorem covers_deleteOld {old : ModelRow Other cls → Bool}
    (without : (tables cls).countP old = 0) :
    Covers tables (deleteOld tables cls old) := by
  apply covers_update
  right
  rw [List.countP_eq_zero] at without
  apply List.filter_eq_self.mpr
  intro row member
  simp [without row member]

end WriteEffect

/-! ## The calls -/

/-- A call of one of the methods. -/
inductive WriteCall (Other : Type)
  | insertRecord (cls : ModelClass) (sameId : ModelRow Other cls → Bool)
      (row : ModelRow Other cls)
  | updateAllRecords (cls : ModelClass)
      (change : ModelRow Other cls → ModelRow Other cls)
  | updateRecord (cls : ModelClass) (sameId : ModelRow Other cls → Bool)
      (change : ModelRow Other cls → ModelRow Other cls)
  | deleteRecord (cls : ModelClass) (sameId : ModelRow Other cls → Bool)
  | insertSnapshot (row : Other)
  | deleteOldSnapshots (old : Other → Bool)
  | insertEvent (row : Other)
  | deleteOldEvents (old : Other → Bool)
  | recordFire (same : Other → Bool) (row : Other) (change : Other → Other)
  | recordPending (same active : Other → Bool) (row : Other)
      (change : Other → Other)
  | acknowledge (sameActive : Other → Bool) (change : Other → Other)
  | silence (sameActive : Other → Bool) (change : Other → Other)
  | closeAcknowledged (sameActive : Other → Bool) (episode : Other → Other)
      (sameEpisode : Other → Other → Bool) (change : Other → Other)
  | escalate (same skips : Other → Bool) (change : Other → Other)
  | resolve (condition : Other → Bool) (episode : Other → Other)
      (sameEpisode : Other → Other → Bool) (change : Other → Other)
  | deleteResolvedAlerts (old : Other → Bool)
  | deleteOldEpisodes (old : Other → Bool)
  | saveCursor (same : Other → Bool) (row : Other) (change : Other → Other)
  | insertRevision (row : Other)
  | touchCheckedAt (same : Other → Bool) (change : Other → Other)

namespace WriteCall

variable {Other : Type}

def effect (tables : Tables Other) : WriteCall Other → WriteEffect Other
  | .insertRecord cls sameId row =>
    WriteEffect.insertRecord tables cls sameId row
  | .updateAllRecords cls change =>
    WriteEffect.updateAllRecords tables cls change
  | .updateRecord cls sameId change =>
    WriteEffect.updateRecord tables cls sameId change
  | .deleteRecord cls sameId => WriteEffect.deleteRecord tables cls sameId
  | .insertSnapshot row => WriteEffect.insertSnapshot tables row
  | .deleteOldSnapshots old => WriteEffect.deleteOldSnapshots tables old
  | .insertEvent row => WriteEffect.insertEvent tables row
  | .deleteOldEvents old => WriteEffect.deleteOldEvents tables old
  | .recordFire same row change => WriteEffect.recordFire tables same row change
  | .recordPending same active row change =>
    WriteEffect.recordPending tables same active row change
  | .acknowledge sameActive change =>
    WriteEffect.acknowledge tables sameActive change
  | .silence sameActive change => WriteEffect.silence tables sameActive change
  | .closeAcknowledged sameActive episode sameEpisode change =>
    WriteEffect.closeAcknowledged tables sameActive episode sameEpisode change
  | .escalate same skips change => WriteEffect.escalate tables same skips change
  | .resolve condition episode sameEpisode change =>
    WriteEffect.resolve tables condition episode sameEpisode change
  | .deleteResolvedAlerts old => WriteEffect.deleteResolvedAlerts tables old
  | .deleteOldEpisodes old => WriteEffect.deleteOldEpisodes tables old
  | .saveCursor same row change => WriteEffect.saveCursor tables same row change
  | .insertRevision row => WriteEffect.insertRevision tables row
  | .touchCheckedAt same change => WriteEffect.touchCheckedAt tables same change

/-- How many rows the call inserts or deletes without a bump. -/
def unbumpedRows (tables : Tables Other) : WriteCall Other → ℕ
  | .insertSnapshot _ => 1
  | .deleteOldSnapshots old => (tables .monitorSnapshot).countP old
  | .deleteOldEvents old => (tables .operationalEvent).countP old
  | .deleteResolvedAlerts old => (tables .alertState).countP old
  | .deleteOldEpisodes old => (tables .alertEpisode).countP old
  | _ => 0

theorem covers_effect {tables : Tables Other} {call : WriteCall Other}
    (bumped : call.unbumpedRows tables = 0) :
    WriteEffect.Covers tables (call.effect tables) := by
  cases call with
  | insertRecord cls sameId row =>
    exact WriteEffect.covers_insertRecord cls sameId row
  | updateAllRecords cls change =>
    exact WriteEffect.covers_updateAllRecords cls change
  | updateRecord cls sameId change =>
    exact WriteEffect.covers_updateCounted cls sameId change
  | deleteRecord cls sameId => exact WriteEffect.covers_deleteRecord cls sameId
  | insertSnapshot row => cases bumped
  | deleteOldSnapshots old => exact WriteEffect.covers_deleteOld bumped
  | insertEvent row =>
    exact WriteEffect.covers_insertCounted .operationalEvent row
  | deleteOldEvents old => exact WriteEffect.covers_deleteOld bumped
  | recordFire same row change =>
    exact WriteEffect.covers_upsert .alertState same row change
  | recordPending same active row change =>
    exact WriteEffect.covers_recordPending same active row change
  | acknowledge sameActive change =>
    exact WriteEffect.covers_updateCounted .alertState sameActive change
  | silence sameActive change =>
    exact WriteEffect.covers_updateCounted .alertState sameActive change
  | closeAcknowledged sameActive episode sameEpisode change =>
    exact WriteEffect.covers_resolve sameActive episode sameEpisode change
  | escalate same skips change =>
    exact WriteEffect.covers_updateCounted .alertState _ change
  | resolve condition episode sameEpisode change =>
    exact WriteEffect.covers_resolve condition episode sameEpisode change
  | deleteResolvedAlerts old => exact WriteEffect.covers_deleteOld bumped
  | deleteOldEpisodes old => exact WriteEffect.covers_deleteOld bumped
  | saveCursor same row change =>
    exact WriteEffect.covers_upsert .detectorCursor same row change
  | insertRevision row =>
    exact WriteEffect.covers_insertCounted .configRevision row
  | touchCheckedAt same change =>
    exact WriteEffect.covers_touchCheckedAt same change

theorem apps_covered (tables : Tables Other) (call : WriteCall Other)
    (unbumped : ModelClass.aiAppPriority ∉ (call.effect tables).bumps) :
    (call.effect tables).tables .aiAppPriority = tables .aiAppPriority := by
  cases call with
  | insertSnapshot row => rfl
  | deleteOldSnapshots old => rfl
  | deleteOldEvents old => rfl
  | deleteResolvedAlerts old => rfl
  | deleteOldEpisodes old => rfl
  | _ => exact covers_effect rfl _ unbumped

end WriteCall

end SmarTune
