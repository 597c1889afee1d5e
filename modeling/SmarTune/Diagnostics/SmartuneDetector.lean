import SmarTune.Diagnostics.DetectorEvents

/-!
# The detector of the application log

Every ERROR or CRITICAL record of the service's own log is reported as an
event.  The source returns the newest records of a window up to a limit; the
records are reported oldest first, and the cursor moves to the newest one.
-/

namespace SmarTune

/-! ## Text -/

/-- `str.isspace` of one character. -/
def isSpace (char : Char) : Bool :=
  let code := char.toNat
  decide (0x09 ≤ code ∧ code ≤ 0x0d ∨ 0x1c ≤ code ∧ code ≤ 0x20 ∨
    0x2000 ≤ code ∧ code ≤ 0x200a) ||
    [0x85, 0xa0, 0x1680, 0x2028, 0x2029, 0x202f, 0x205f, 0x3000].contains code

/-- The characters at which `str.splitlines` splits. -/
def isLineBreak (char : Char) : Bool :=
  let code := char.toNat
  decide (0x0a ≤ code ∧ code ≤ 0x0d ∨ 0x1c ≤ code ∧ code ≤ 0x1e) ||
    [0x85, 0x2028, 0x2029].contains code

/-- `str.strip`, on lists of characters. -/
def stripChars (chars : List Char) : List Char :=
  ((chars.dropWhile isSpace).reverse.dropWhile isSpace).reverse

/-- `str.strip().splitlines()[0]`; the list of lines of a blank text is
empty. -/
def firstLine (text : String) : Option String :=
  match stripChars text.toList with
  | [] => none
  | chars => some (String.ofList (chars.takeWhile fun char => !isLineBreak char))

/-- `level_rank`. -/
def levelRank (level : String) : ℕ :=
  match String.ofList ((stripChars level.toList).map Char.toLower) with
  | "debug" => 10
  | "info" => 20
  | "warning" | "warn" => 30
  | "error" | "err" => 40
  | "critical" | "crit" | "fatal" => 50
  | _ => 20

/-- The integer nearest to a number, the even one of two. -/
def roundHalfEven (value : ℚ) : ℤ :=
  let below := ⌊value⌋
  let rest := value - below
  if rest < 1 / 2 ∨ (rest = 1 / 2 ∧ below % 2 = 0) then below else below + 1

/-! ## Records -/

/-- `LogRecord` of the application log.  The logger writes no line number. -/
structure LogRecord where
  tsEpoch : ℚ
  tsIso : String
  level : String
  logger : String
  message : String
  service : Option String := none
  appId : Option String := none
  jobId : Option String := none
  line : Option ℕ := none
  deriving DecidableEq

/-- `_smartune_signature`. -/
structure SmartuneSignature where
  /-- `round(rec.ts_epoch, 3)`, in milliseconds. -/
  millis : ℤ
  logger : String
  line : Option ℕ
  text : String
  deriving DecidableEq

namespace LogRecord

variable (record : LogRecord)

/-- `_smartune_signature`. -/
def signature : SmartuneSignature where
  millis := roundHalfEven (record.tsEpoch * 1000)
  logger := record.logger
  line := record.line
  text := excerpt 200 record.message

/-- A record of at least the level `error`. -/
def reportable : Bool := decide (levelRank "error" ≤ levelRank record.level)

/-- A message of white space only, whose first line cannot be taken. -/
def blank : Bool := decide (record.message ≠ "") && (firstLine record.message).isNone

def eventType : EventType :=
  if "Traceback".toList <:+: record.message.toList then
    .other "LOG_EXCEPTION" none
  else .other "LOG_ERROR" none

/-- The event that `_emit_for_record` emits. -/
def event : DetectedEvent SmartuneSignature where
  identity := record.signature
  eventType := record.eventType
  severity :=
    if String.ofList (record.level.toList.map Char.toUpper) = "CRITICAL" then
      "critical"
    else "error"
  category := (record.service.bind nonempty).getD "service"
  summary := "[" ++ record.logger ++ "] " ++
    (if record.message = "" then record.level
      else (firstLine record.message).getD "")
  appId := record.appId
  jobId := record.jobId
  attributes :=
    [("logger", some record.logger), ("level", some record.level),
      ("excerpt", some (excerpt 2000 record.message))]
  tsUtc := nonempty record.tsIso

end LogRecord

/-! ## The source -/

/-- `int(since) if since else None`. -/
def startTime (since : ℚ) : Option ℤ :=
  if since = 0 then none else some ⌊since⌋

/-- `accepts`, of a query for errors from a start on. -/
def acceptsRecord (since : ℚ) (record : LogRecord) : Bool :=
  (startTime since).all (fun (start : ℤ) => decide (start ≤ record.tsEpoch)) &&
    record.reportable

def newestFirst (since : ℚ) (log : List LogRecord) : List LogRecord :=
  (log.filter (acceptsRecord since)).insertionSort
    fun first second => second.tsEpoch ≤ first.tsEpoch

/-- `query`. -/
def querySmartune (since : ℚ) (log : List LogRecord) : List LogRecord :=
  (newestFirst since log).take scanLimit

/-! ## The scan -/

abbrev SmartuneDetector := Detector LogRecord SmartuneSignature

def reportRecord (fails : LogRecord → Bool)
    (books : Intake.Books SmartuneSignature (DetectedEvent SmartuneSignature))
    (record : LogRecord) :
    Intake.Books SmartuneSignature (DetectedEvent SmartuneSignature) :=
  Intake.offer LogRecord.signature (fun record => some record.event)
    DetectedEvent.dedupKey fails books record

/-- The loop of `_scan_smartune`: the new high water mark and the books.  No
mark when a record that is not remembered is blank, which raises. -/
def scanRecords (since : ℚ) (fails : LogRecord → Bool) :
    List LogRecord → ℚ →
      Intake.Books SmartuneSignature (DetectedEvent SmartuneSignature) →
      Option ℚ × Intake.Books SmartuneSignature (DetectedEvent SmartuneSignature)
  | [], highWater, books => (some highWater, books)
  | record :: records, highWater, books =>
    if record.tsEpoch < since then
      scanRecords since fails records highWater books
    else if record.signature ∈ books.seen.order then
      scanRecords since fails records highWater books
    else if record.blank then
      (none, { books with seen := books.seen.add record.signature })
    else
      scanRecords since fails records (max highWater record.tsEpoch)
        (reportRecord fails books record)

/-- `_scan_smartune`. -/
def scanSmartune (detector : SmartuneDetector) (fails : LogRecord → Bool)
    (saves : Bool) : SmartuneDetector :=
  let since := detector.cursor
  let records := (querySmartune since detector.log).insertionSort
    fun first second => first.tsEpoch ≤ second.tsEpoch
  match scanRecords since fails records since detector.books with
  | (none, books) => { detector with books := books }
  | (some highWater, books) => detector.advance highWater saves books

/-! ## Runs -/

/-- What can happen to the detector and its log. -/
inductive SmartuneStep
  | append (position : ℕ) (record : LogRecord)
  | scan (fails : LogRecord → Bool) (saves : Bool)
  | restart (loads : Bool) (now : ℚ)

namespace SmartuneDetector

def step (detector : SmartuneDetector) : SmartuneStep → SmartuneDetector
  | .append position record => detector.append position record
  | .scan fails saves => scanSmartune detector fails saves
  | .restart loads now => detector.restart loads now

/-- The records that are to be reported. -/
def reportables (detector : SmartuneDetector) : List LogRecord :=
  detector.log.filter LogRecord.reportable

def HasEvent (detector : SmartuneDetector) (record : LogRecord) : Prop :=
  Intake.Stored (fun record => some (LogRecord.event record))
    DetectedEvent.dedupKey detector.books.rows record

/-- The number of stored events with the key of the record's event. -/
def eventCount (detector : SmartuneDetector) (record : LogRecord) : ℕ :=
  detector.books.rows.countP fun stored =>
    decide (stored.dedupKey = record.event.dedupKey)

/-- The number of records to be reported with the key of the record's
event. -/
def recordCount (detector : SmartuneDetector) (record : LogRecord) : ℕ :=
  detector.reportables.countP fun other =>
    decide (other.event.dedupKey = record.event.dedupKey)

/-- After a scan every record from the initial cursor on has one event; no step
leaves a record with more. -/
def ReportsOnce (initial : ℚ) (detector : SmartuneDetector)
    (label : SmartuneStep) : Prop :=
  let after := detector.step label
  ∀ record ∈ after.reportables, initial ≤ record.tsEpoch →
    after.eventCount record ≤ after.recordCount record ∧
      match label with
      | .scan _ _ => after.eventCount record = after.recordCount record
      | _ => True

/-- The condition on a step: a record to be reported is not blank and, from the
initial cursor on, has a signature of its own and is not older than the cursor;
a scan meets no more unreported records than its limit admits, and stores them;
a restart goes back to the oldest unreported record. -/
def Clear (initial : ℚ) (detector : SmartuneDetector) : SmartuneStep → Prop
  | .append _ record =>
    record.reportable = true → record.blank = false ∧
        (initial ≤ record.tsEpoch → detector.cursor ≤ record.tsEpoch) ∧
          ∀ other ∈ detector.reportables,
            initial ≤ record.tsEpoch ∨ initial ≤ other.tsEpoch →
              record.signature ≠ other.signature
  | .scan fails _ =>
    (∀ record ∈ (newestFirst detector.cursor detector.log).drop scanLimit,
      initial ≤ record.tsEpoch → detector.HasEvent record) ∧
    ∀ record ∈ detector.reportables, initial ≤ record.tsEpoch →
      ¬ detector.HasEvent record → fails record = false
  | .restart loads now =>
    ∀ record ∈ detector.reportables, initial ≤ record.tsEpoch →
      ¬ detector.HasEvent record →
        detector.restoredCursor loads now ≤ record.tsEpoch

/-! ## The cursor never passes an unreported record -/

/-- What the steps keep. -/
structure Tracks (initial : ℚ) (detector : SmartuneDetector) : Prop where
  sound : Intake.Sound LogRecord.signature
    (fun record => some (LogRecord.event record)) DetectedEvent.dedupKey
      (fun record => initial ≤ record.tsEpoch) detector.reportables
        detector.books
  apart : Intake.Apart LogRecord.signature
    (fun record => initial ≤ record.tsEpoch) detector.reportables
  visible : ∀ record ∈ detector.reportables, record.blank = false
  ahead : ∀ record ∈ detector.reportables, initial ≤ record.tsEpoch →
    detector.HasEvent record ∨ detector.cursor ≤ record.tsEpoch

variable {detector : SmartuneDetector} {initial : ℚ}

variable {record : LogRecord} {since : ℚ} {log : List LogRecord}

theorem mem_reportables :
    record ∈ detector.reportables ↔
      record ∈ detector.log ∧ record.reportable = true :=
  List.mem_filter

theorem tracks_init (cursor saved : ℚ) :
    Tracks initial (.init cursor saved) := by
  refine ⟨⟨?_, ?_, List.nodup_nil⟩, .nil, ?_, ?_⟩
  all_goals simp [reportables, Detector.init, Intake.BoundedSet.empty]

/-- The loop offers the records that are not before the cursor. -/
theorem scanRecords_eq (since : ℚ) (fails : LogRecord → Bool)
    (records : List LogRecord)
    (visible : ∀ record ∈ records, record.blank = false) (highWater : ℚ)
    (books : Intake.Books SmartuneSignature (DetectedEvent SmartuneSignature)) :
    ∃ mark, scanRecords since fails records highWater books = (some mark,
        (records.filter fun record => decide (since ≤ record.tsEpoch)).foldl
          (reportRecord fails) books) := by
  induction records generalizing highWater books with
  | nil => exact ⟨highWater, rfl⟩
  | cons record records ih =>
    have later := ih fun other member =>
      visible other (List.mem_cons_of_mem record member)
    have isVisible := visible record List.mem_cons_self
    unfold scanRecords
    by_cases early : record.tsEpoch < since
    · simpa [early] using later highWater books
    · by_cases known : record.signature ∈ books.seen.order
      · have skipped : reportRecord fails books record = books := by
          rw [reportRecord, Intake.offer, if_pos known]
        simpa [early, known, not_lt.mp early, skipped] using
          later highWater books
      · simpa [early, known, not_lt.mp early, isVisible] using
          later (max highWater record.tsEpoch) (reportRecord fails books record)

/-- The records that a scan offers, oldest first. -/
def offered (since : ℚ) (log : List LogRecord) : List LogRecord :=
  ((querySmartune since log).insertionSort
      fun first second => first.tsEpoch ≤ second.tsEpoch).filter
    fun record => decide (since ≤ record.tsEpoch)

theorem mem_offered_iff :
    record ∈ offered since log ↔
      record ∈ (newestFirst since log).take scanLimit ∧
        since ≤ record.tsEpoch := by
  rw [offered, List.mem_filter, List.mem_insertionSort, decide_eq_true_eq]
  rfl

theorem mem_newestFirst_iff :
    record ∈ newestFirst since log ↔
      record ∈ log ∧ acceptsRecord since record = true := by
  rw [newestFirst, List.mem_insertionSort, List.mem_filter]

theorem accepts_of_le (reportable : record.reportable = true)
    (after : since ≤ record.tsEpoch) :
    acceptsRecord since record = true := by
  unfold acceptsRecord startTime
  rw [reportable, Bool.and_true]
  split
  · rfl
  · rw [Option.all_some, decide_eq_true_eq]
    exact (Int.floor_le since).trans after

theorem mem_reportables_of_newestFirst
    (member : record ∈ newestFirst since detector.log) :
    record ∈ detector.reportables := by
  have accepted := mem_newestFirst_iff.mp member
  exact mem_reportables.mpr ⟨accepted.1, (Bool.and_eq_true_iff.mp accepted.2).2⟩

theorem scanSmartune_eq (tracks : detector.Tracks initial)
    (fails : LogRecord → Bool) (saves : Bool) :
    ∃ mark, scanSmartune detector fails saves = detector.advance mark saves
        ((offered detector.cursor detector.log).foldl (reportRecord fails)
          detector.books) := by
  have visible : ∀ record ∈ (querySmartune detector.cursor
      detector.log).insertionSort
        (fun first second => first.tsEpoch ≤ second.tsEpoch),
      record.blank = false := by
    intro record member
    rw [List.mem_insertionSort] at member
    exact tracks.visible record
      (mem_reportables_of_newestFirst (List.mem_of_mem_take member))
  obtain ⟨mark, scanned⟩ := scanRecords_eq detector.cursor fails _ visible
    detector.cursor detector.books
  exact ⟨mark, by simp only [scanSmartune, scanned, offered]⟩

theorem Tracks.scan {fails : LogRecord → Bool} {saves : Bool}
    (tracks : detector.Tracks initial)
    (clear : detector.Clear initial (.scan fails saves)) :
    (scanSmartune detector fails saves).Tracks initial ∧
      ∀ record ∈ (scanSmartune detector fails saves).reportables,
        initial ≤ record.tsEpoch →
          HasEvent (scanSmartune detector fails saves) record := by
  obtain ⟨mark, scanned⟩ := scanSmartune_eq tracks fails saves
  have listed : offered detector.cursor detector.log ⊆ detector.reportables := by
    intro record member
    exact mem_reportables_of_newestFirst
      (List.mem_of_mem_take (mem_offered_iff.mp member).1)
  obtain ⟨sound, stored⟩ := tracks.sound.offers tracks.apart listed
    fun record member => clear.2 record (listed member)
  have grows : detector.books.rows ⊆
      (scanSmartune detector fails saves).books.rows := by
    rw [scanned]
    change detector.books.rows ⊆ ((offered detector.cursor detector.log).foldl
      (Intake.offer LogRecord.signature (fun record => some record.event)
        DetectedEvent.dedupKey fails) detector.books).rows
    exact Intake.rows_subset_offers
  have reported : ∀ record ∈ detector.reportables, initial ≤ record.tsEpoch →
      HasEvent (scanSmartune detector fails saves) record := by
    intro record member inScope
    rcases tracks.ahead record member inScope with before | after
    · exact before.mono grows
    · have isReportable := (mem_reportables.mp member).2
      have isNew : record ∈ newestFirst detector.cursor detector.log :=
        mem_newestFirst_iff.mpr
          ⟨(mem_reportables.mp member).1, accepts_of_le isReportable after⟩
      rw [← List.take_append_drop scanLimit (newestFirst _ _),
        List.mem_append] at isNew
      rcases isNew with taken | cut
      · rw [scanned]
        exact stored record (mem_offered_iff.mpr ⟨taken, after⟩) inScope
      · exact (clear.1 record cut inScope).mono grows
  have sameLog : (scanSmartune detector fails saves).reportables =
      detector.reportables := by
    rw [scanned]
    rfl
  rw [sameLog]
  refine ⟨⟨?_, ?_, ?_, ?_⟩, reported⟩
  · rw [sameLog, scanned]
    exact sound
  · rw [sameLog]
    exact tracks.apart
  · rw [sameLog]
    exact tracks.visible
  · rw [sameLog]
    exact fun record member inScope => .inl (reported record member inScope)

/-- A record to be reported joins those before it. -/
theorem reportables_append (reportable : record.reportable = true)
    (position : ℕ) :
    (reportables (detector.append position record)).Perm
      (record :: detector.reportables) := by
  have perm := (detector.log_append_perm position record).filter
    LogRecord.reportable
  rwa [List.filter_cons_of_pos reportable] at perm

theorem reportables_append_of_not (other : record.reportable = false)
    (position : ℕ) :
    (reportables (detector.append position record)).Perm
      detector.reportables := by
  have perm := (detector.log_append_perm position record).filter
    LogRecord.reportable
  rwa [List.filter_cons_of_neg (by simp [other])] at perm

/-- A record that arrives clearly is behind no cursor. -/
theorem Tracks.append {position : ℕ} (tracks : detector.Tracks initial)
    (clear : detector.Clear initial (.append position record)) :
    Tracks initial (detector.append position record) := by
  cases reportable : record.reportable with
  | false =>
    have same : ∀ other, other ∈ reportables (detector.append position
        record) ↔ other ∈ detector.reportables := fun other =>
      (reportables_append_of_not reportable position).mem_iff
    refine ⟨?_, ?_, ?_, ?_⟩
    · exact tracks.sound.arrive (fun other => (same other).mpr)
        fun other member => .inl ((same other).mp member)
    · exact (Intake.apart_perm (reportables_append_of_not reportable
        position)).mpr tracks.apart
    · exact fun other member => tracks.visible other ((same other).mp member)
    · exact fun other member => tracks.ahead other ((same other).mp member)
  | true =>
    obtain ⟨visible, ahead, fresh⟩ := clear reportable
    have joined : ∀ other, other ∈ reportables (detector.append position
        record) ↔ other = record ∨ other ∈ detector.reportables := fun other =>
      (reportables_append reportable position).mem_iff.trans List.mem_cons
    refine ⟨?_, ?_, ?_, ?_⟩
    · refine tracks.sound.arrive (fun other member =>
        (joined other).mpr (.inr member)) fun other member => ?_
      rcases (joined other).mp member with rfl | old
      · refine .inr fun inScope shared => ?_
        obtain ⟨first, isFirst, same⟩ := List.mem_map.mp shared
        exact fresh first isFirst (.inl inScope) same.symm
      · exact .inl old
    · exact (Intake.apart_perm (reportables_append reportable position)).mpr
        (List.pairwise_cons.mpr ⟨fresh, tracks.apart⟩)
    · intro other member
      rcases (joined other).mp member with rfl | old
      · exact visible
      · exact tracks.visible other old
    · intro other member inScope
      rcases (joined other).mp member with rfl | old
      · exact .inr (ahead inScope)
      · exact tracks.ahead other old inScope

/-- A clear step keeps the cursor behind the unreported records. -/
theorem Tracks.step {label : SmartuneStep} (tracks : detector.Tracks initial)
    (clear : detector.Clear initial label) :
    (detector.step label).Tracks initial := by
  cases label with
  | append position record => exact tracks.append clear
  | scan fails saves => exact (tracks.scan clear).1
  | restart loads now =>
    refine ⟨tracks.sound.forget seenMax, tracks.apart, tracks.visible, ?_⟩
    intro record member inScope
    by_cases stored : detector.HasEvent record
    · exact .inl stored
    · exact .inr (clear record member inScope stored)

theorem Tracks.reportsOnce {label : SmartuneStep}
    (tracks : detector.Tracks initial) (clear : detector.Clear initial label) :
    detector.ReportsOnce initial label := by
  have after := tracks.step clear
  intro record member inScope
  constructor
  · exact Intake.count_rows_le (fun record => some (LogRecord.event record))
      after.sound.unique member rfl
  · cases label with
    | append => trivial
    | restart => trivial
    | scan fails saves =>
      have tells : ∀ first second new other,
          some (LogRecord.event first) = some new →
            some (LogRecord.event second) = some other →
              new.dedupKey = other.dedupKey →
                first.signature = second.signature := by
        intro first second new other isNew isOther same
        cases isNew
        cases isOther
        exact congrArg Prod.fst same
      have one := Intake.oneEach_of_stored after.sound.unique after.apart
        tells member inScope ((tracks.scan clear).2 record member inScope)
      exact one _ rfl

end SmartuneDetector

end SmarTune
