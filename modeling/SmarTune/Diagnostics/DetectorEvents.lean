import SmarTune.Diagnostics.EventStore
import SmarTune.Library.Intake

/-!
# Detectors

A detector scans a log source from a cursor on and reports records as events.
The rows of one detector in the ledger differ in the identity of the record or
in the event type; their source and boot are those of the detector and of the
running system.
-/

namespace SmarTune

/-- `_BoundedSeen`. -/
abbrev BoundedSeen (ι : Type*) := Intake.BoundedSet ι

/-- `_SEEN_MAX`. -/
def seenMax : ℕ := 8192

/-- `_SMARTUNE_SCAN_LIMIT` and `_JOURNAL_SCAN_LIMIT`. -/
def scanLimit : ℕ := 500

/-- `_INITIAL_BACKFILL_SECONDS`. -/
def initialBackfillSeconds : ℚ := 15 * 60

/-- An event that a detector reports. -/
structure DetectedEvent (ι : Type*) where
  identity : ι
  eventType : EventType
  severity : String
  category : String
  summary : String
  appId : Option String := none
  jobId : Option String := none
  resourceType : Option String := none
  attributes : List (String × Option String)
  tsUtc : Option String
  deriving DecidableEq

/-- What tells the rows of one detector apart within a boot. -/
def DetectedEvent.dedupKey {ι : Type*}
    (event : DetectedEvent ι) : ι × EventType :=
  (event.identity, event.eventType)

/-- `text or None`. -/
def nonempty (text : String) : Option String :=
  if text = "" then none else some text

/-- `text[:length]`. -/
def excerpt (length : ℕ) (text : String) : String :=
  String.ofList (text.toList.take length)

/-- What a detector keeps in memory and in the database. -/
structure Detector (Item ι : Type*) where
  /-- The records of the source, in the order in which they are read. -/
  log : List Item
  cursor : ℚ
  /-- The stored cursor, 0 before the first one. -/
  saved : ℚ
  books : Intake.Books ι (DetectedEvent ι)

namespace Detector

variable {Item ι : Type*}

/-- A detector that starts on an empty log. -/
def init (cursor saved : ℚ) : Detector Item ι :=
  ⟨[], cursor, saved, ⟨.empty seenMax, []⟩⟩

/-- A record is written; another file may be read after its own. -/
def append (detector : Detector Item ι) (position : ℕ)
    (item : Item) : Detector Item ι :=
  { detector with
    log := detector.log.take position ++ item :: detector.log.drop position }

theorem log_append_perm (detector : Detector Item ι) (position : ℕ)
    (item : Item) :
    (detector.append position item).log.Perm (item :: detector.log) := by
  have split : (detector.append position item).log.Perm
      (item :: (detector.log.take position ++ detector.log.drop position)) :=
    List.perm_middle
  rwa [List.take_append_drop] at split

/-- `initialize_cursors`: the stored cursor, or a bounded backfill. -/
def restoredCursor (detector : Detector Item ι) (loads : Bool) (now : ℚ) : ℚ :=
  if loads ∧ detector.saved ≠ 0 then detector.saved
  else max 0 (now - initialBackfillSeconds)

/-- The service restarts within the boot. -/
def restart (detector : Detector Item ι) (loads : Bool)
    (now : ℚ) : Detector Item ι :=
  { detector with
    cursor := detector.restoredCursor loads now
    books := ⟨.empty seenMax, detector.books.rows⟩ }

/-- The end of a scan. -/
def advance (detector : Detector Item ι) (highWater : ℚ) (saves : Bool)
    (books : Intake.Books ι (DetectedEvent ι)) : Detector Item ι :=
  let cursor := max detector.cursor highWater
  { detector with
    cursor := cursor
    saved := if saves then cursor else detector.saved
    books := books }

end Detector

end SmarTune
