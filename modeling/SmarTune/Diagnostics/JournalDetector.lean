import SmarTune.Diagnostics.DetectorEvents

/-!
# The detector of the system journal

Kernel faults and repeated restarts of units are reported as events.  The
kernel's records are queried apart from the others, each query up to a limit,
and the cursor moves to the newest record of both.

`faultOf` is what the patterns find in a message.
-/

namespace SmarTune

/-- What the patterns find in a message, the first one that matches. -/
inductive JournalFault
  | kernelPanic
  | gpuHang
  | oomKill (process pid : String)
  | restart (count : ℕ)
  deriving DecidableEq

/-- `LogRecord` of the journal. -/
structure JournalEntry where
  tsEpoch : ℚ
  tsIso : String
  /-- Its transport is the kernel. -/
  kernel : Bool
  logger : String
  message : String
  service : Option String := none
  bootId : Option String := none
  cursor : Option String := none
  deriving DecidableEq

/-- `identity` of `_scan_journal`. -/
inductive JournalIdentity
  | cursor (text : String)
  | described (tsEpoch : ℚ) (logger text : String)
  deriving DecidableEq

/-- `_RESTART_LOOP_THRESHOLD`. -/
def restartLoopThreshold : ℕ := 3

namespace JournalEntry

variable (faultOf : String → Option JournalFault) (entry : JournalEntry)

/-- `identity` of `_scan_journal`. -/
def identity : JournalIdentity :=
  match entry.cursor with
  | some cursor => .cursor cursor
  | none => .described entry.tsEpoch entry.logger (excerpt 120 entry.message)

/-- The event that `_scan_journal` emits for an entry, if any. -/
def event : Option (DetectedEvent JournalIdentity) :=
  match faultOf entry.message with
  | some .kernelPanic => some
      { identity := entry.identity
        eventType := .platformKernelPanic
        severity := "critical"
        category := "platform.availability"
        summary := "Kernel panic recorded by the system journal"
        attributes :=
          [("source_event_code", some "journal.kernel_panic"),
            ("raw_message", some (excerpt 2000 entry.message)),
            ("boot_id", entry.bootId), ("journal_cursor", entry.cursor)]
        tsUtc := nonempty entry.tsIso }
  | some .gpuHang => some
      { identity := entry.identity
        eventType := .deviceGpuHang
        severity := "error"
        category := "device.gpu"
        summary := "GPU hang recorded by the system journal"
        resourceType := some "gpu"
        attributes :=
          [("source_event_code", some "journal.gpu_hang"),
            ("raw_message", some (excerpt 2000 entry.message)),
            ("boot_id", entry.bootId), ("journal_cursor", entry.cursor)]
        tsUtc := nonempty entry.tsIso }
  | some (.oomKill process pid) => some
      { identity := entry.identity
        eventType := .resourceMemoryOomKill
        severity := "error"
        category := "resource.memory"
        summary :=
          "Kernel OOM killed process " ++ process ++ " (pid " ++ pid ++ ")"
        resourceType := some "memory"
        attributes :=
          [("pid", some pid), ("process", some process),
            ("boot_id", entry.bootId), ("journal_cursor", entry.cursor),
            ("excerpt", some (excerpt 500 entry.message))]
        tsUtc := nonempty entry.tsIso }
  | some (.restart count) =>
    let unit := (entry.service.bind nonempty).getD entry.logger
    if restartLoopThreshold ≤ count then some
      { identity := entry.identity
        eventType := .platformSystemdRestartLoop
        severity := "error"
        category := "platform.availability"
        summary :=
          "Service " ++ unit ++ " restarted " ++ toString count ++ " times"
        attributes :=
          [("unit", some unit), ("restart_count", some (toString count)),
            ("boot_id", entry.bootId), ("journal_cursor", entry.cursor),
            ("excerpt", some (excerpt 500 entry.message))]
        tsUtc := nonempty entry.tsIso }
    else none
  | none => none

/-- A record of the kernel in which the patterns find a fault. -/
def kernelFault : Bool :=
  entry.kernel &&
    match faultOf entry.message with
    | some .kernelPanic | some .gpuHang | some (.oomKill _ _) => true
    | _ => false

end JournalEntry

/-! ## The source -/

/-- `_DEFAULT_WINDOW_SECONDS`. -/
def defaultWindowSeconds : ℤ := 60 * 60

/-- The start of a query: `int(since)`, or the default window. -/
def windowStart (since : ℚ) (endTime : ℤ) : ℤ :=
  if since = 0 then endTime - defaultWindowSeconds else ⌊since⌋

def inWindow (since : ℚ) (endTime : ℤ) (entry : JournalEntry) : Bool :=
  decide ((windowStart since endTime : ℚ) ≤ entry.tsEpoch) &&
    decide (entry.tsEpoch ≤ endTime)

def windowOf (kernelOnly : Bool) (since : ℚ) (endTime : ℤ)
    (journal : List JournalEntry) : List JournalEntry :=
  journal.filter fun entry =>
    inWindow since endTime entry && (!kernelOnly || entry.kernel)

/-- `query`: the last entries of the window, none when `journalctl` fails. -/
def queryJournal (kernelOnly answers : Bool) (since : ℚ) (endTime : ℤ)
    (journal : List JournalEntry) : List JournalEntry :=
  if answers then
    let entries := windowOf kernelOnly since endTime journal
    entries.drop (entries.length - scanLimit)
  else []

/-! ## The scan -/

abbrev JournalDetector := Detector JournalEntry JournalIdentity

/-- What the outside does during a scan. -/
structure JournalScan where
  /-- `time.time()`. -/
  now : ℚ
  kernelAnswers : Bool
  answers : Bool
  fails : JournalEntry → Bool
  saves : Bool

/-- The entries that a scan reads, oldest first. -/
def scannedEntries (detector : JournalDetector)
    (scan : JournalScan) : List JournalEntry :=
  (queryJournal true scan.kernelAnswers detector.cursor ⌊scan.now⌋
        detector.log ++
      queryJournal false scan.answers detector.cursor ⌊scan.now⌋
        detector.log).insertionSort
    fun first second => first.tsEpoch ≤ second.tsEpoch

/-- `_scan_journal`. -/
def scanJournal (faultOf : String → Option JournalFault)
    (detector : JournalDetector) (scan : JournalScan) : JournalDetector :=
  let since := detector.cursor
  let records := scannedEntries detector scan
  let highWater := records.foldl
    (fun highWater entry => max highWater entry.tsEpoch) since
  let books := records.foldl
    (Intake.offer JournalEntry.identity (JournalEntry.event faultOf)
      DetectedEvent.dedupKey scan.fails)
    detector.books
  detector.advance highWater scan.saves books

/-! ## Runs -/

/-- What can happen to the detector and the journal. -/
inductive JournalStep
  | append (position : ℕ) (entry : JournalEntry)
  | scan (scan : JournalScan)
  | restart (loads : Bool) (now : ℚ)

namespace JournalDetector

variable (faultOf : String → Option JournalFault)

def step (detector : JournalDetector) : JournalStep → JournalDetector
  | .append position entry => detector.append position entry
  | .scan scan => scanJournal faultOf detector scan
  | .restart loads now => detector.restart loads now

def HasEvent (detector : JournalDetector) (entry : JournalEntry) : Prop :=
  Intake.Stored (JournalEntry.event faultOf) DetectedEvent.dedupKey
    detector.books.rows entry

/-- The number of stored events with the key of an event. -/
def eventCount (detector : JournalDetector)
    (event : DetectedEvent JournalIdentity) : ℕ :=
  detector.books.rows.countP fun stored =>
    decide (stored.dedupKey = event.dedupKey)

/-- The number of entries whose event has the key of an event. -/
def entryCount (detector : JournalDetector)
    (event : DetectedEvent JournalIdentity) : ℕ :=
  detector.log.countP fun entry =>
    (entry.event faultOf).any fun theirs =>
      decide (theirs.dedupKey = event.dedupKey)

/-- After a scan whose kernel query answers, every kernel fault from the initial
cursor on and up to the scan has one event; no step leaves one with more. -/
def ReportsOnce (initial : ℚ) (detector : JournalDetector)
    (label : JournalStep) : Prop :=
  let after := step faultOf detector label
  ∀ entry ∈ after.log, entry.kernelFault faultOf = true →
    initial ≤ entry.tsEpoch → ∀ event ∈ entry.event faultOf,
      after.eventCount event ≤ entryCount faultOf after event ∧
        match label with
        | .scan scan =>
          scan.kernelAnswers = true → entry.tsEpoch ≤ ⌊scan.now⌋ →
            after.eventCount event = entryCount faultOf after event
        | _ => True

/-- A kernel fault from the initial cursor on. -/
def Wanted (initial : ℚ) (entry : JournalEntry) : Prop :=
  entry.kernelFault faultOf = true ∧ initial ≤ entry.tsEpoch

/-- The entries of the window that a query leaves out. -/
def leftOut (kernelOnly : Bool) (since : ℚ) (endTime : ℤ)
    (journal : List JournalEntry) : List JournalEntry :=
  let entries := windowOf kernelOnly since endTime journal
  entries.take (entries.length - scanLimit)

/-- The condition on a scan. -/
structure ScansClearly (initial : ℚ) (detector : JournalDetector)
    (scan : JournalScan) : Prop where
  /-- The query of the kernel's records, or the other one when only that
  answers, leaves out no unreported fault. -/
  within : ∀ entry, (scan.kernelAnswers = true ∧
        entry ∈ leftOut true detector.cursor ⌊scan.now⌋ detector.log ∨
      scan.kernelAnswers = false ∧ scan.answers = true ∧
        entry ∈ leftOut false detector.cursor ⌊scan.now⌋ detector.log) →
      Wanted faultOf initial entry → HasEvent faultOf detector entry
  /-- Without a cursor no unreported fault is older than the default window. -/
  opened : detector.cursor = 0 → ∀ entry ∈ detector.log,
    Wanted faultOf initial entry → ¬ HasEvent faultOf detector entry →
      (⌊scan.now⌋ - defaultWindowSeconds : ℚ) ≤ entry.tsEpoch
  /-- The store fails for no unreported fault. -/
  stores : ∀ entry ∈ detector.log, Wanted faultOf initial entry →
    ¬ HasEvent faultOf detector entry → scan.fails entry = false

/-- The condition on a step: a fault has an identity of its own and is not older
than the second of the cursor; a restart goes back to the oldest unreported
fault. -/
def Clear (initial : ℚ) (detector : JournalDetector) : JournalStep → Prop
  | .append _ entry =>
    (Wanted faultOf initial entry → (⌊detector.cursor⌋ : ℚ) ≤ entry.tsEpoch) ∧
      ∀ other ∈ detector.log,
        Wanted faultOf initial entry ∨ Wanted faultOf initial other →
          entry.identity ≠ other.identity
  | .scan scan => ScansClearly faultOf initial detector scan
  | .restart loads now =>
    ∀ entry ∈ detector.log, Wanted faultOf initial entry →
      ¬ HasEvent faultOf detector entry →
        (⌊detector.restoredCursor loads now⌋ : ℚ) ≤ entry.tsEpoch

/-! ## The cursor never passes an unreported fault -/

/-- What the steps keep. -/
structure Tracks (initial : ℚ) (detector : JournalDetector) : Prop where
  sound : Intake.Sound JournalEntry.identity (JournalEntry.event faultOf)
    DetectedEvent.dedupKey (Wanted faultOf initial) detector.log detector.books
  apart : Intake.Apart JournalEntry.identity (Wanted faultOf initial)
    detector.log
  ahead : ∀ entry ∈ detector.log, Wanted faultOf initial entry →
    HasEvent faultOf detector entry ∨ (⌊detector.cursor⌋ : ℚ) ≤ entry.tsEpoch

variable {faultOf} {detector : JournalDetector} {initial : ℚ}

theorem tracks_init (cursor saved : ℚ) :
    Tracks faultOf initial (.init cursor saved) := by
  refine ⟨⟨?_, ?_, List.nodup_nil⟩, .nil, ?_⟩
  all_goals simp [Detector.init, Intake.BoundedSet.empty]

theorem identity_of_event {entry : JournalEntry}
    {event : DetectedEvent JournalIdentity}
    (has : entry.event faultOf = some event) :
    event.identity = entry.identity := by
  unfold JournalEntry.event at has
  split at has
  · cases has; rfl
  · cases has; rfl
  · cases has; rfl
  · dsimp only at has
    split at has
    · cases has; rfl
    · cases has
  · cases has

/-- A query that answers reads what it does not leave out. -/
theorem mem_queryJournal_iff {kernelOnly : Bool} {since : ℚ} {endTime : ℤ}
    {journal : List JournalEntry} {entry : JournalEntry}
    (inside : entry ∈ windowOf kernelOnly since endTime journal) :
    entry ∈ leftOut kernelOnly since endTime journal ∨
      entry ∈ queryJournal kernelOnly true since endTime journal := by
  unfold leftOut queryJournal
  rw [← List.mem_append, if_pos rfl, List.take_append_drop]
  exact inside

theorem mem_windowOf_of_mem_query {kernelOnly answers : Bool} {since : ℚ}
    {endTime : ℤ} {journal : List JournalEntry} {entry : JournalEntry}
    (member : entry ∈ queryJournal kernelOnly answers since endTime journal) :
    entry ∈ windowOf kernelOnly since endTime journal := by
  unfold queryJournal at member
  split at member
  · exact List.mem_of_mem_drop member
  · cases member

theorem mem_scannedEntries_iff {entry : JournalEntry} {scan : JournalScan} :
    entry ∈ scannedEntries detector scan ↔
      entry ∈ queryJournal true scan.kernelAnswers detector.cursor ⌊scan.now⌋
          detector.log ∨
        entry ∈ queryJournal false scan.answers detector.cursor ⌊scan.now⌋
          detector.log := by
  rw [scannedEntries, List.mem_insertionSort, List.mem_append]

theorem scannedEntries_spec {entry : JournalEntry} {scan : JournalScan}
    (member : entry ∈ scannedEntries detector scan) :
    entry ∈ detector.log ∧ entry.tsEpoch ≤ ⌊scan.now⌋ := by
  have inside : ∃ kernelOnly, entry ∈ windowOf kernelOnly detector.cursor
      ⌊scan.now⌋ detector.log := by
    rcases mem_scannedEntries_iff.mp member with kernel | all
    · exact ⟨true, mem_windowOf_of_mem_query kernel⟩
    · exact ⟨false, mem_windowOf_of_mem_query all⟩
  obtain ⟨kernelOnly, isInside⟩ := inside
  obtain ⟨isLogged, accepted⟩ := List.mem_filter.mp isInside
  simp only [inWindow, Bool.and_eq_true, decide_eq_true_eq] at accepted
  exact ⟨isLogged, accepted.1.2⟩

theorem highWater_le {bound : ℚ} (entries : List JournalEntry) (since : ℚ)
    (above : since ≤ bound) (below : ∀ entry ∈ entries, entry.tsEpoch ≤ bound) :
    entries.foldl (fun highWater entry => max highWater entry.tsEpoch) since ≤
      bound := by
  induction entries generalizing since with
  | nil => exact above
  | cons entry entries ih =>
    refine ih _ ?_ fun other member =>
      below other (List.mem_cons_of_mem entry member)
    exact max_le above (below entry List.mem_cons_self)

theorem mem_scanned_of_unreported {entry : JournalEntry} {scan : JournalScan}
    (tracks : detector.Tracks faultOf initial)
    (clear : ScansClearly faultOf initial detector scan)
    (reads : scan.kernelAnswers = true ∨ scan.answers = true)
    (member : entry ∈ detector.log) (wanted : Wanted faultOf initial entry)
    (unreported : ¬ HasEvent faultOf detector entry)
    (early : entry.tsEpoch ≤ ⌊scan.now⌋) :
    entry ∈ scannedEntries detector scan := by
  have opened : (windowStart detector.cursor ⌊scan.now⌋ : ℚ) ≤
      entry.tsEpoch := by
    unfold windowStart
    split
    · rename_i none
      have recent := clear.opened none entry member wanted unreported
      exact_mod_cast recent
    · exact (tracks.ahead entry member wanted).resolve_left unreported
  have isKernel : entry.kernel = true :=
    (Bool.and_eq_true_iff.mp wanted.1).1
  have inside : ∀ kernelOnly, entry ∈ windowOf kernelOnly detector.cursor
      ⌊scan.now⌋ detector.log := by
    intro kernelOnly
    rw [windowOf, List.mem_filter]
    simp [member, inWindow, opened, early, isKernel]
  rw [mem_scannedEntries_iff]
  cases kernelAnswers : scan.kernelAnswers with
  | true =>
    rcases mem_queryJournal_iff (inside true) with left | read
    · exact absurd (clear.within entry (.inl ⟨kernelAnswers, left⟩) wanted)
        unreported
    · exact .inl read
  | false =>
    have answers : scan.answers = true :=
      reads.resolve_left (by simp [kernelAnswers])
    rw [answers]
    rcases mem_queryJournal_iff (inside false) with left | read
    · exact absurd
        (clear.within entry (.inr ⟨kernelAnswers, answers, left⟩) wanted)
        unreported
    · exact .inr read

/-- A clear scan keeps the cursor behind the unreported faults, and reports
those up to its second when the kernel query answers. -/
theorem Tracks.scan {scan : JournalScan}
    (tracks : detector.Tracks faultOf initial)
    (clear : ScansClearly faultOf initial detector scan) :
    (scanJournal faultOf detector scan).Tracks faultOf initial ∧
      (scan.kernelAnswers = true → ∀ entry ∈ detector.log,
        Wanted faultOf initial entry → entry.tsEpoch ≤ ⌊scan.now⌋ →
          HasEvent faultOf (scanJournal faultOf detector scan) entry) := by
  have listed : scannedEntries detector scan ⊆ detector.log :=
    fun entry member => (scannedEntries_spec member).1
  obtain ⟨sound, stored⟩ := tracks.sound.offers tracks.apart listed
    fun entry member => clear.stores entry (listed member)
  have grows : detector.books.rows ⊆
      (scanJournal faultOf detector scan).books.rows :=
    Intake.rows_subset_offers
  have reported : scan.kernelAnswers = true ∨ scan.answers = true →
      ∀ entry ∈ detector.log, Wanted faultOf initial entry →
        entry.tsEpoch ≤ ⌊scan.now⌋ →
          HasEvent faultOf (scanJournal faultOf detector scan) entry := by
    intro reads entry member wanted early
    by_cases before : HasEvent faultOf detector entry
    · exact before.mono grows
    · exact stored entry (mem_scanned_of_unreported tracks clear reads member
        wanted before early) wanted
  refine ⟨⟨sound, tracks.apart, ?_⟩, fun answers => reported (.inl answers)⟩
  intro entry member wanted
  by_cases reads : scan.kernelAnswers = true ∨ scan.answers = true
  · by_cases early : entry.tsEpoch ≤ ⌊scan.now⌋
    · exact .inl (reported reads entry member wanted early)
    · rcases tracks.ahead entry member wanted with before | ahead
      · exact .inl (before.mono grows)
      · right
        have late := (not_le.mp early).le
        have mark : (scanJournal faultOf detector scan).cursor ≤
            max detector.cursor ⌊scan.now⌋ := by
          refine max_le (le_max_left _ _) (highWater_le _ _ (le_max_left _ _) ?_)
          exact fun other isRead =>
            (scannedEntries_spec isRead).2.trans (le_max_right _ _)
        refine (Int.cast_le.mpr (Int.floor_mono mark)).trans ?_
        rcases le_total detector.cursor ⌊scan.now⌋ with behind | beyond
        · rw [max_eq_right behind, Int.floor_intCast]
          exact late
        · rw [max_eq_left beyond]
          exact ahead
  · have unread : scannedEntries detector scan = [] := by
      rw [not_or, Bool.not_eq_true, Bool.not_eq_true] at reads
      simp [scannedEntries, queryJournal, reads]
    have same : (scanJournal faultOf detector scan).cursor = detector.cursor := by
      simp [scanJournal, Detector.advance, unread]
    rw [same]
    exact (tracks.ahead entry member wanted).imp_left fun before =>
      before.mono grows

/-- A clear step keeps the cursor behind the unreported faults. -/
theorem Tracks.step {label : JournalStep}
    (tracks : detector.Tracks faultOf initial)
    (clear : Clear faultOf initial detector label) :
    (step faultOf detector label).Tracks faultOf initial := by
  cases label with
  | append position entry =>
    obtain ⟨ahead, fresh⟩ := clear
    have perm := detector.log_append_perm position entry
    have joined : ∀ other, other ∈ (detector.append position entry).log ↔
        other = entry ∨ other ∈ detector.log := fun other =>
      perm.mem_iff.trans List.mem_cons
    refine ⟨?_, ?_, ?_⟩
    · refine tracks.sound.arrive (fun other member =>
        (joined other).mpr (.inr member)) fun other member => ?_
      rcases (joined other).mp member with rfl | old
      · refine .inr fun wanted shared => ?_
        obtain ⟨first, isFirst, same⟩ := List.mem_map.mp shared
        exact fresh first isFirst (.inl wanted) same.symm
      · exact .inl old
    · exact (Intake.apart_perm perm).mpr
        (List.pairwise_cons.mpr ⟨fresh, tracks.apart⟩)
    · intro other member wanted
      rcases (joined other).mp member with rfl | old
      · exact .inr (ahead wanted)
      · exact tracks.ahead other old wanted
  | scan scan => exact (tracks.scan clear).1
  | restart loads now =>
    refine ⟨tracks.sound.forget seenMax, tracks.apart, ?_⟩
    intro entry member wanted
    by_cases stored : HasEvent faultOf detector entry
    · exact .inl stored
    · exact .inr (clear entry member wanted stored)

theorem Tracks.reportsOnce {label : JournalStep}
    (tracks : detector.Tracks faultOf initial)
    (clear : Clear faultOf initial detector label) :
    ReportsOnce faultOf initial detector label := by
  have after := tracks.step clear
  intro entry member fault inScope event has
  constructor
  · exact Intake.count_rows_le _ after.sound.unique member has
  · cases label with
    | append => trivial
    | restart => trivial
    | scan scan =>
      intro answers early
      have tells : ∀ first second new other,
          JournalEntry.event faultOf first = some new →
            JournalEntry.event faultOf second = some other →
              new.dedupKey = other.dedupKey →
                first.identity = second.identity := by
        intro first second new other isNew isOther same
        rw [← identity_of_event isNew, ← identity_of_event isOther]
        exact congrArg Prod.fst same
      exact Intake.oneEach_of_stored after.sound.unique after.apart tells
        member ⟨fault, inScope⟩ ((tracks.scan clear).2 answers entry member
          ⟨fault, inScope⟩ early) event has

end JournalDetector

end SmarTune
