import SmarTune.Diagnostics.ConfigRevision
import SmarTune.Library.Runs
import Mathlib.Data.List.Induction

/-!
# The changes of an inventory field

What the checks of a run report of one field is determined by what was read of
it: the last value, and how often it was missed since.  Replayed from the
baseline, the reported changes lead to the value that is known of the field.
-/

namespace SmarTune

section Reads

variable (reads : List PyValue)

def lastValue : Option PyValue :=
  (reads.filter fun read => read ≠ .none).getLast?

/-- How often the field was missed since. -/
def misses : ℕ := (reads.reverse.takeWhile fun read => read = .none).length

/-- The value that is known of the field: the last one, until it is missed
twice. -/
def knownValue : PyValue :=
  if misses reads < removedAfterMisses then (lastValue reads).getD .none
  else .none

/-- The change that the next read must report: removed at the second miss in a
row of a value; otherwise discovered at the first value, added at one after a
removal, modified at one that differs from the last. -/
def expectedChange (field : String) (read : PyValue) : Option InventoryChange :=
  match lastValue reads with
  | none =>
    if read = .none then none
    else some ⟨field, .none, read, .discovered⟩
  | some value =>
    if read = .none then
      if misses reads + 1 = removedAfterMisses then
        some ⟨field, value, .none, .removed⟩
      else none
    else if removedAfterMisses ≤ misses reads then
      some ⟨field, .none, read, .added⟩
    else if read.Same value then none
    else some ⟨field, value, read, .modified⟩

/-- The status of a field after the reads. -/
def expectedEntry : FieldEntry :=
  match lastValue reads with
  | none => ⟨.none, .unavailable, 0⟩
  | some value =>
    if misses reads = 0 then ⟨value, .present, 0⟩
    else if misses reads = 1 then ⟨value, .unknown, 1⟩
    else ⟨.none, .removed, 2⟩

variable {reads}

theorem lastValue_concat (read : PyValue) :
    lastValue (reads ++ [read]) =
      if read = .none then lastValue reads else some read := by
  unfold lastValue
  rw [List.filter_append]
  by_cases missed : read = .none
  · simp [missed]
  · simp [missed]

theorem misses_concat (read : PyValue) :
    misses (reads ++ [read]) = if read = .none then misses reads + 1 else 0 := by
  unfold misses
  by_cases missed : read = .none
  · simp [missed]
  · simp [missed]

theorem expectedEntry_concat (field : String) (read : PyValue) :
    (classifyField field read (expectedEntry reads)).1 =
      expectedEntry (reads ++ [read]) := by
  unfold expectedEntry
  rw [lastValue_concat, misses_concat]
  by_cases missed : read = .none
  · cases found : lastValue reads with
    | none => simp [classifyField, missed]
    | some value =>
      rcases Nat.lt_trichotomy (misses reads) 1 with few | one | many
      · have zero : misses reads = 0 := by omega
        simp [classifyField, missed, zero, removedAfterMisses]
      · simp [classifyField, missed, one, removedAfterMisses]
      · have notZero : misses reads ≠ 0 := by omega
        have notOne : misses reads ≠ 1 := by omega
        simp [classifyField, missed, notZero, notOne]
  · cases found : lastValue reads with
    | none => simp [classifyField, missed]
    | some value =>
      rcases Nat.lt_trichotomy (misses reads) 1 with few | one | many
      · have zero : misses reads = 0 := by omega
        by_cases same : read.Same value <;>
          simp [classifyField, missed, zero, same]
      · by_cases same : read.Same value <;>
          simp [classifyField, missed, one, same]
      · have notZero : misses reads ≠ 0 := by omega
        have notOne : misses reads ≠ 1 := by omega
        simp [classifyField, missed, notZero, notOne]

theorem classifyField_expectedEntry (field : String) (read : PyValue) :
    (classifyField field read (expectedEntry reads)).2 =
      expectedChange reads field read := by
  unfold expectedEntry expectedChange
  cases found : lastValue reads with
  | none => by_cases missed : read = .none <;> simp [classifyField, missed]
  | some value =>
    rcases Nat.lt_trichotomy (misses reads) 1 with few | one | many
    · have zero : misses reads = 0 := by omega
      by_cases missed : read = .none
      · simp [classifyField, missed, zero, removedAfterMisses]
      · by_cases same : read.Same value <;>
          simp [classifyField, missed, zero, removedAfterMisses, same]
    · by_cases missed : read = .none
      · simp [classifyField, missed, one, removedAfterMisses]
      · by_cases same : read.Same value <;>
          simp [classifyField, missed, one, removedAfterMisses, same]
    · have notZero : misses reads ≠ 0 := by omega
      have notOne : misses reads ≠ 1 := by omega
      by_cases missed : read = .none
      · simp [classifyField, missed, notZero, notOne, removedAfterMisses]
      · have enough : removedAfterMisses ≤ misses reads := many
        simp [classifyField, missed, notZero, notOne, enough]

end Reads

/-! ## The reads of a run -/

section Run

variable {Digest : Type*} (digest : Json → Digest)

def afterCheck (revisions : List (ConfigRevision Digest))
    (check : RevisionCheck) : List (ConfigRevision Digest) :=
  (checkAndRecordIfChanged digest revisions check).2

/-- The revisions after checks, from an empty table on. -/
def afterChecks (checks : List RevisionCheck) : List (ConfigRevision Digest) :=
  Runs.run (afterCheck digest) [] checks

def fieldReads (source : FieldSource)
    (checks : List RevisionCheck) : List PyValue :=
  (checks.filter (·.stored)).map fun check => source.read check.inventory

def reportedChanges (field : String)
    (checks : List RevisionCheck) : List InventoryChange :=
  (Runs.observations (afterCheck digest)
    (fun revisions check => emittedChanges digest revisions check field) []
    checks).flatten

def replay : PyValue → List InventoryChange → Option PyValue
  | value, [] => some value
  | value, change :: changes =>
    if change.previous.Same value then replay change.current changes else none

variable {kind : ViewKind} {field : String} {source : FieldSource}
  {checks : List RevisionCheck}

theorem afterChecks_concat (check : RevisionCheck) :
    afterChecks digest (checks ++ [check]) =
      afterCheck digest (afterChecks digest checks) check := by
  rw [afterChecks, Runs.run_append]
  rfl

theorem fieldReads_concat (check : RevisionCheck) :
    fieldReads source (checks ++ [check]) =
      if check.stored then
        fieldReads source checks ++ [source.read check.inventory]
      else fieldReads source checks := by
  unfold fieldReads
  by_cases stored : check.stored <;> simp [stored]

theorem reportedChanges_concat (check : RevisionCheck) :
    reportedChanges digest field (checks ++ [check]) =
      reportedChanges digest field checks ++
        emittedChanges digest (afterChecks digest checks) check field := by
  rw [reportedChanges, Runs.observations_append, List.flatten_append]
  simp [reportedChanges, afterChecks, Runs.observations]

theorem replay_append (value : PyValue) (first second : List InventoryChange) :
    replay value (first ++ second) =
      (replay value first).bind fun value => replay value second := by
  induction first generalizing value with
  | nil => rfl
  | cons change first ih =>
    by_cases same : change.previous.Same value <;> simp [replay, same, ih]

/-- There is a revision as soon as a check was stored. -/
theorem afterChecks_eq_nil_iff :
    afterChecks digest checks = [] ↔ fieldReads source checks = [] := by
  induction checks using List.reverseRecOn with
  | nil => simp [afterChecks, fieldReads]
  | append_singleton checks check ih =>
    rw [afterChecks_concat, fieldReads_concat, afterCheck]
    cases stored : check.stored with
    | false =>
      rw [checkAndRecordIfChanged_of_not_stored digest stored]
      simpa using ih
    | true => simpa using checkAndRecordIfChanged_ne_nil digest stored

/-- Of reads without tuples the status keeps a value without one. -/
theorem plain_expectedEntry {reads : List PyValue}
    (plain : ∀ read ∈ reads, read.Plain) :
    (expectedEntry reads).value.Plain := by
  unfold expectedEntry
  cases found : lastValue reads with
  | none => trivial
  | some value =>
    have member := List.mem_of_getLast? found
    have isPlain := plain value (List.mem_of_mem_filter member)
    dsimp only
    split
    · exact isPlain
    · split
      · exact isPlain
      · trivial

theorem entryOf_afterChecks (member : (field, source) ∈ kind.fields)
    (plain : ∀ check ∈ checks, (source.read check.inventory).Plain) :
    entryOf (afterChecks digest checks) kind field =
      expectedEntry (fieldReads source checks) := by
  induction checks using List.reverseRecOn with
  | nil => cases kind <;> rfl
  | append_singleton checks check ih =>
    have earlier := ih fun other found =>
      plain other (List.mem_append_left _ found)
    rw [afterChecks_concat, fieldReads_concat, afterCheck]
    cases stored : check.stored with
    | false =>
      rw [checkAndRecordIfChanged_of_not_stored digest stored]
      simpa using earlier
    | true =>
      have reads : ∀ read ∈ fieldReads source checks ++
          [source.read check.inventory], read.Plain := by
        intro read found
        rcases List.mem_append.mp found with before | now
        · obtain ⟨other, kept, rfl⟩ := List.mem_map.mp before
          exact plain other (List.mem_append_left _
            (List.mem_of_mem_filter kept))
        · rw [List.mem_singleton.mp now]
          exact plain check (List.mem_append_right _
            (List.mem_singleton_self check))
      have kept := (PyValue.loads_dumps_iff _).mpr (plain_expectedEntry reads)
      rw [entryOf_checkAndRecordIfChanged digest stored member, earlier,
        expectedEntry_concat, if_pos rfl]
      simp only [kept]

/-- A check after the baseline reports what it must. -/
theorem emittedChanges_afterChecks (member : (field, source) ∈ kind.fields)
    (plain : ∀ check ∈ checks, (source.read check.inventory).Plain)
    (based : fieldReads source checks ≠ []) {check : RevisionCheck}
    (stored : check.stored = true) :
    emittedChanges digest (afterChecks digest checks) check field =
      (expectedChange (fieldReads source checks) field
        (source.read check.inventory)).toList := by
  rw [emittedChanges_eq digest stored
      (mt (afterChecks_eq_nil_iff digest).mp based) member,
    entryOf_afterChecks digest member plain, classifyField_expectedEntry]

theorem reportedChanges_of_unread (unread : fieldReads source checks = []) :
    reportedChanges digest field checks = [] := by
  induction checks using List.reverseRecOn with
  | nil => rfl
  | append_singleton checks check ih =>
    rw [fieldReads_concat] at unread
    cases stored : check.stored with
    | true => simp [stored] at unread
    | false =>
      rw [stored, if_neg Bool.false_ne_true] at unread
      rw [reportedChanges_concat, ih unread,
        emittedChanges, checkAndRecordIfChanged_of_not_stored digest stored]
      rfl

theorem emittedChanges_of_unread (unread : fieldReads source checks = [])
    {check : RevisionCheck} (stored : check.stored = true) :
    emittedChanges digest (afterChecks digest checks) check field = [] := by
  rw [(afterChecks_eq_nil_iff digest).mpr unread, emittedChanges,
    checkAndRecordIfChanged_nil digest stored]
  rfl

theorem expectedEntry_value (reads : List PyValue) :
    (expectedEntry reads).value = knownValue reads := by
  unfold expectedEntry knownValue
  cases lastValue reads with
  | none => simp
  | some value =>
    rcases Nat.lt_trichotomy (misses reads) 1 with few | one | many
    · have zero : misses reads = 0 := by omega
      simp [zero, removedAfterMisses]
    · simp [one, removedAfterMisses]
    · have enough : ¬misses reads < removedAfterMisses := not_lt.mpr many
      have notZero : misses reads ≠ 0 := by omega
      have notOne : misses reads ≠ 1 := by omega
      simp [notZero, notOne, enough]

theorem replay_reportedChanges (member : (field, source) ∈ kind.fields)
    (plain : ∀ check ∈ checks, (source.read check.inventory).Plain)
    {baseline : PyValue} {rest : List PyValue}
    (reads : fieldReads source checks = baseline :: rest) :
    ∃ value, replay baseline (reportedChanges digest field checks) =
        some value ∧
      value.Same (expectedEntry (fieldReads source checks)).value := by
  induction checks using List.reverseRecOn generalizing rest with
  | nil => cases reads
  | append_singleton checks check ih =>
    have earlierPlain : ∀ other ∈ checks,
        (source.read other.inventory).Plain := fun other found =>
      plain other (List.mem_append_left _ found)
    rw [reportedChanges_concat]
    rw [fieldReads_concat] at reads ⊢
    cases stored : check.stored with
    | false =>
      rw [stored, if_neg Bool.false_ne_true] at reads
      rw [if_neg Bool.false_ne_true, emittedChanges,
        checkAndRecordIfChanged_of_not_stored digest stored]
      simpa using ih earlierPlain reads
    | true =>
      rw [stored, if_pos rfl] at reads
      rw [if_pos rfl]
      cases read : fieldReads source checks with
      | nil =>
        rw [read] at reads
        obtain ⟨rfl, -⟩ := List.cons.inj reads
        rw [reportedChanges_of_unread digest read,
          emittedChanges_of_unread digest read stored]
        refine ⟨_, rfl, ?_⟩
        rw [← expectedEntry_concat field]
        by_cases missed : source.read check.inventory = .none <;>
          simp [expectedEntry, lastValue, classifyField, missed]
      | cons first others =>
        have before : first = baseline ∧
            others ++ [source.read check.inventory] = rest := by
          rw [read] at reads
          exact List.cons.inj reads
        rw [before.1] at read
        obtain ⟨value, replayed, known⟩ :=
          ih earlierPlain read
        rw [emittedChanges_afterChecks digest member earlierPlain
          (by simp [read]) stored, replay_append, replayed,
          ← classifyField_expectedEntry]
        rw [before.1, ← read, ← expectedEntry_concat field]
        cases found : (classifyField field (source.read check.inventory)
            (expectedEntry (fieldReads source checks))).2 with
        | none =>
          exact ⟨value, rfl, known.trans (value_of_no_change found).symm⟩
        | some change =>
          obtain ⟨previous, current⟩ := value_of_change found
          refine ⟨change.current, ?_, by rw [current]⟩
          have follows : change.previous.Same value := by
            rw [previous]
            exact known.symm
          simp [replay, follows]

theorem expectedChange_of_single_miss {reads : List PyValue}
    {value again : PyValue} (last : reads.getLast? = some value)
    (known : value ≠ .none) (same : again.Same value) :
    expectedChange reads field .none = none ∧
      expectedChange (reads ++ [.none]) field again = none := by
  have read : lastValue reads = some value ∧ misses reads = 0 := by
    obtain ⟨earlier, rfl⟩ := List.getLast?_eq_some_iff.mp last
    simp [lastValue_concat, misses_concat, known]
  have present : again ≠ .none := by
    rintro rfl
    exact known ((PyValue.same_none_iff value).mp same.symm)
  constructor
  · simp [expectedChange, read, removedAfterMisses]
  · simp [expectedChange, lastValue_concat, misses_concat, read, present, same,
      removedAfterMisses]

/-- Every stored check after the baseline reports of a field exactly the change
that its reads so far call for, a single miss none; replayed from the baseline,
the changes lead to the value that is known of the field. -/
theorem inventory_change_chain (member : (field, source) ∈ kind.fields)
    (plain : ∀ check ∈ checks, (source.read check.inventory).Plain) :
    (∀ before check after, checks = before ++ check :: after →
      check.stored = true → fieldReads source before ≠ [] →
        emittedChanges digest (afterChecks digest before) check field =
          (expectedChange (fieldReads source before) field
            (source.read check.inventory)).toList) ∧
    (∀ before miss again after value,
      checks = before ++ miss :: again :: after →
      miss.stored = true → again.stored = true →
      (fieldReads source before).getLast? = some value → value ≠ .none →
      source.read miss.inventory = .none →
      (source.read again.inventory).Same value →
        emittedChanges digest (afterChecks digest before) miss field = [] ∧
        emittedChanges digest (afterChecks digest (before ++ [miss])) again
          field = []) ∧
    ∀ baseline rest, fieldReads source checks = baseline :: rest →
      (∃ value, replay baseline (reportedChanges digest field checks) =
          some value ∧ value.Same (knownValue (fieldReads source checks))) ∧
      (entryOf (afterChecks digest checks) kind field).value =
        knownValue (fieldReads source checks) := by
  refine ⟨?_, ?_, ?_⟩
  · rintro before check after rfl stored based
    exact emittedChanges_afterChecks digest member
      (fun other found => plain other (List.mem_append_left _ found)) based
      stored
  · rintro before miss again after value rfl missStored againStored last known
      missed same
    have based : fieldReads source before ≠ [] := by
      intro unread
      rw [unread] at last
      cases last
    have missRead : fieldReads source (before ++ [miss]) =
        fieldReads source before ++ [.none] := by
      rw [fieldReads_concat, missStored, if_pos rfl, missed]
    have silent := @expectedChange_of_single_miss field _ _ _ last known same
    constructor
    · rw [emittedChanges_afterChecks digest member
        (fun other found => plain other (List.mem_append_left _ found)) based
        missStored, missed, silent.1]
      rfl
    · rw [emittedChanges_afterChecks digest member
        (fun other found => plain other ?_) (by simp [missRead]) againStored,
        missRead, silent.2]
      · rfl
      · rcases List.mem_append.mp found with earlier | now
        · exact List.mem_append_left _ earlier
        · rw [List.mem_singleton.mp now]
          exact List.mem_append_right _ List.mem_cons_self
  · intro baseline rest reads
    obtain ⟨value, replayed, same⟩ :=
      replay_reportedChanges digest member plain reads
    rw [expectedEntry_value] at same
    refine ⟨⟨value, replayed, same⟩, ?_⟩
    rw [entryOf_afterChecks digest member plain, expectedEntry_value]

end Run

/-! ## An NPU that goes away -/

/-- A stored check of an inventory in which only the NPU is read. -/
def npuCheck (names : PyValue) : RevisionCheck where
  inventory := .dict (.ofList [("npu", .dict (.ofList [("names", names)]))])
  revisionId := "revision"
  bootId := none
  tsUtc := "2026-01-01T00:00:00.000+00:00"
  stored := true

/-- The NPU is seen once and missed twice. -/
theorem removed_at_second_miss :
    emittedChanges id (afterChecks id
      [npuCheck (.list (.ofList [.str "NPU"])), npuCheck .none])
      (npuCheck .none) "npu_names" =
        [⟨"npu_names", .list (.ofList [.str "NPU"]), .none, .removed⟩] :=
  (@inventory_change_chain _ id .hw "npu_names" (.path "npu" "names")
    [npuCheck (.list (.ofList [.str "NPU"])), npuCheck .none, npuCheck .none]
    (by decide) (by simp [npuCheck, FieldSource.read, PyValue.get,
      PyEntries.ofList, PyEntries.get, PyItems.ofList, PyValue.Plain,
      PyItems.Plain])).1 [npuCheck (.list (.ofList [.str "NPU"])),
        npuCheck .none] (npuCheck .none) [] rfl rfl (by decide)

end SmarTune
