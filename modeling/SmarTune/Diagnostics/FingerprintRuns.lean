import SmarTune.Diagnostics.InventoryChanges
import SmarTune.Diagnostics.RevisionFingerprints
import Mathlib.Data.List.Chain

/-!
# Fingerprints and changes

Between neighbouring revisions a fingerprint differs exactly when some field was
read with another text, which is not the same as a change: a field that is missed
for the first time, or found again, changes the text and is no change, and a
removal is a change of which the text says nothing when the field was missed
before as well.
-/

namespace SmarTune

/-! ## What a field shows -/

def FieldChanges (entry : FieldEntry) (read : PyValue) : Prop :=
  if read = .none then
    (entry.state = .present ∨ entry.state = .unknown) ∧
      removedAfterMisses ≤ entry.missStreak + 1
  else
    entry.state = .unavailable ∨ entry.state = .removed ∨ ¬read.Same entry.value

/-- Without a change, a field that the latest revision records is missed for the
first time, or one that it misses is found again, or an equal value has another
text. -/
def Flaps (recorded : PyValue) (entry : FieldEntry) (read : PyValue) : Prop :=
  (recorded ≠ .none ∧ FirstMiss entry read) ∨
  (recorded = .none ∧ read ≠ .none ∧
    (entry.state = .present ∨ entry.state = .unknown) ∧ read.Same entry.value) ∨
  (recorded ≠ .none ∧ read ≠ .none ∧ read.Same entry.value ∧
    recorded.dumps.sortKeys ≠ read.dumps.sortKeys)

/-- The status of a field keeps what the latest revision records of it. -/
def Tracks (recorded : PyValue) (entry : FieldEntry) : Prop :=
  recorded ≠ .none → (entry.state = .present ∨ entry.state = .unknown) ∧
      entry.value.Same recorded

section Field

variable {field : String} {recorded read : PyValue} {entry : FieldEntry}

theorem change_iff_fieldChanges :
    (classifyField field read entry).2 ≠ none ↔ FieldChanges entry read := by
  by_cases missed : read = .none
  · by_cases known : entry.state = .present ∨ entry.state = .unknown
    · by_cases twice : removedAfterMisses ≤ entry.missStreak + 1 <;>
        simp [classifyField, FieldChanges, missed, known, twice]
    · simp [classifyField, FieldChanges, missed, known]
  · by_cases fresh : entry.state = .unavailable
    · simp [classifyField, FieldChanges, missed, fresh]
    · by_cases gone : entry.state = .removed
      · simp [classifyField, FieldChanges, missed, gone]
      · by_cases same : read.Same entry.value <;>
          simp [classifyField, FieldChanges, missed, fresh, gone, same]

theorem text_ne_none_iff (tracks : Tracks recorded entry) :
    recorded.dumps.sortKeys ≠ PyValue.none.dumps.sortKeys ↔
      Flaps recorded entry .none ∨
        (FieldChanges entry .none ∧ recorded ≠ .none) := by
  have text : recorded.dumps.sortKeys ≠ PyValue.none.dumps.sortKeys ↔
      recorded ≠ .none :=
    not_congr (PyValue.sortKeys_dumps_eq_null_iff recorded)
  rw [text]
  constructor
  · intro known
    have kept := (tracks known).1
    by_cases twice : removedAfterMisses ≤ entry.missStreak + 1
    · exact Or.inr ⟨by simp [FieldChanges, kept, twice], known⟩
    · exact Or.inl (Or.inl ⟨known, rfl, kept, not_le.mp twice⟩)
  · rintro (flaps | ⟨-, known⟩)
    · rcases flaps with first | found | rewritten
      · exact first.1
      · exact absurd rfl found.2.1
      · exact rewritten.1
    · exact known

/-- A value of what was not recorded is found again or is a change. -/
theorem flaps_or_fieldChanges_of_unrecorded (seen : read ≠ .none) :
    Flaps .none entry read ∨ FieldChanges entry read := by
  by_cases changes : FieldChanges entry read
  · exact Or.inr changes
  · simp only [FieldChanges, seen, if_false, not_or, not_not] at changes
    obtain ⟨fresh, gone, same⟩ := changes
    refine Or.inl (Or.inr (Or.inl ⟨rfl, seen, ?_, same⟩))
    cases state : entry.state with
    | present => exact Or.inl rfl
    | unknown => exact Or.inr rfl
    | unavailable => exact absurd state fresh
    | removed => exact absurd state gone

theorem text_ne_iff (tracks : Tracks recorded entry)
    (recordedPlain : recorded.Plain) (readPlain : read.Plain) :
    recorded.dumps.sortKeys ≠ read.dumps.sortKeys ↔ Flaps recorded entry read ∨
        (FieldChanges entry read ∧ (recorded ≠ .none ∨ read ≠ .none)) := by
  by_cases missed : read = .none
  · rw [missed, text_ne_none_iff tracks]
    simp
  · by_cases unrecorded : recorded = .none
    · have text : recorded.dumps.sortKeys ≠ read.dumps.sortKeys := by
        rw [unrecorded]
        exact fun same => missed
          ((PyValue.sortKeys_dumps_eq_null_iff read).mp same.symm)
      refine iff_of_true text ?_
      rw [unrecorded]
      exact (flaps_or_fieldChanges_of_unrecorded missed).imp_right
        fun changes => ⟨changes, Or.inr missed⟩
    · obtain ⟨kept, same⟩ := tracks unrecorded
      by_cases equal : read.Same entry.value
      · have unchanged : ¬FieldChanges entry read := by
          rcases kept with state | state <;>
            simp [FieldChanges, missed, state, equal]
        simp [Flaps, FirstMiss, unchanged, unrecorded, missed, equal]
      · have text : recorded.dumps.sortKeys ≠ read.dumps.sortKeys :=
          fun same_ => equal ((same.trans (PyValue.same_of_sortKeys_dumps
            recordedPlain readPlain same_)).symm)
        refine iff_of_true text (Or.inr ⟨?_, Or.inr missed⟩)
        simp [FieldChanges, missed, equal]

/-- A change is tracked from the revision that it makes. -/
theorem tracks_of_recorded :
    Tracks read.dumps.loads
      { (classifyField field read entry).1 with
        value := (classifyField field read entry).1.value.dumps.loads } := by
  intro known
  have seen : read ≠ .none := by
    rintro rfl
    exact known rfl
  rw [classifyField_of_value seen]
  exact ⟨Or.inl rfl, .refl _⟩

theorem Tracks.of_no_change (tracks : Tracks recorded entry)
    (unchanged : (classifyField field read entry).2 = none)
    (readPlain : read.Plain) (entryPlain : entry.value.Plain) :
    Tracks recorded
      { (classifyField field read entry).1 with
        value := (classifyField field read entry).1.value.dumps.loads } := by
  intro known
  obtain ⟨kept, same⟩ := tracks known
  have value := value_of_no_change unchanged
  have plain : (classifyField field read entry).1.value.Plain ∧
      ((classifyField field read entry).1.state = .present ∨
        (classifyField field read entry).1.state = .unknown) := by
    by_cases missed : read = .none
    · simp only [classifyField, missed, kept, if_true] at unchanged ⊢
      split_ifs at unchanged ⊢
      exact ⟨entryPlain, Or.inr rfl⟩
    · rw [classifyField_of_value missed]
      exact ⟨readPlain, Or.inl rfl⟩
  refine ⟨plain.2, ?_⟩
  simp only [(PyValue.loads_dumps_iff _).mpr plain.1]
  exact value.trans same

end Field

section Revisions

variable {Digest : Type*} (digest : Json → Digest)
  {revisions : List (ConfigRevision Digest)} {check : RevisionCheck}
  {kind : ViewKind}

/-! ## One check -/

/-- A revision's fingerprint of a view differs from the one before exactly when
its change list is not empty. -/
def FingerprintsTell (previous revision : ConfigRevision Digest) : Prop :=
  ∀ kind, previous.fingerprintOf kind ≠ revision.fingerprintOf kind ↔
    revision.changesOf kind ≠ []

def ChangesField (revisions : List (ConfigRevision Digest))
    (check : RevisionCheck) (kind : ViewKind)
    (field : String × FieldSource) : Prop :=
  FieldChanges (entryOf revisions kind field.1) (field.2.read check.inventory)

def FlapsField (revisions : List (ConfigRevision Digest))
    (latest : ConfigRevision Digest) (check : RevisionCheck) (kind : ViewKind)
    (field : String × FieldSource) : Prop :=
  Flaps (latest.recorded kind field.1) (entryOf revisions kind field.1)
    (field.2.read check.inventory)

/-- A view without a change has no field that flaps, and one with a change has
such a field or a change other than a removal of what was not recorded. -/
def ViewShows (revisions : List (ConfigRevision Digest))
    (latest : ConfigRevision Digest) (check : RevisionCheck)
    (kind : ViewKind) : Prop :=
  ((∀ field ∈ kind.fields, ¬ChangesField revisions check kind field) →
    ∀ field ∈ kind.fields, ¬FlapsField revisions latest check kind field) ∧
  ((∃ field ∈ kind.fields, ChangesField revisions check kind field) →
    ∃ field ∈ kind.fields, FlapsField revisions latest check kind field ∨
      (ChangesField revisions check kind field ∧
        (latest.recorded kind field.1 ≠ .none ∨
          field.2.read check.inventory ≠ .none)))

/-- When the check makes a revision, both views show what changes. -/
def ChangesShown (revisions : List (ConfigRevision Digest))
    (check : RevisionCheck) : Prop :=
  check.stored = true → ∀ latest, revisions.getLast? = some latest →
    (∃ kind, ∃ field ∈ ViewKind.fields kind,
      ChangesField revisions check kind field) →
    ∀ kind, ViewShows revisions latest check kind

/-- The texts that the check compares have different digests unless they are
the same. -/
def NoCollision (revisions : List (ConfigRevision Digest))
    (check : RevisionCheck) : Prop :=
  ∀ latest, revisions.getLast? = some latest → ∀ kind,
    digest (shownJson kind fun field => latest.recorded kind field.1) =
        digest (shownJson kind fun field => field.2.read check.inventory) →
      shownJson kind (fun field => latest.recorded kind field.1) =
        shownJson kind fun field => field.2.read check.inventory

/-- The latest revision is tracked by the status. -/
def Tracked (revisions : List (ConfigRevision Digest)) : Prop :=
  ∀ latest, revisions.getLast? = some latest → ∀ kind,
    ∀ field ∈ ViewKind.fields kind,
      Tracks (latest.recorded kind field.1) (entryOf revisions kind field.1)

variable {digest} {latest : ConfigRevision Digest}

theorem changesAt_ne_nil_iff :
    changesAt revisions check kind ≠ [] ↔
      ∃ field ∈ kind.fields, ChangesField revisions check kind field := by
  rw [Ne, changesAt_eq_nil_iff]
  push Not
  exact exists_congr fun field => and_congr_right fun _ =>
    change_iff_fieldChanges

theorem viewShows_iff (tracked : Tracked revisions)
    (found : revisions.getLast? = some latest) (plain : PlainReads check) :
    (shownJson kind (fun field => latest.recorded kind field.1) ≠
        shownJson kind (fun field => field.2.read check.inventory) ↔
      changesAt revisions check kind ≠ []) ↔
      ViewShows revisions latest check kind := by
  have text : ∀ field ∈ kind.fields,
      ((latest.recorded kind field.1).dumps.sortKeys ≠
          (field.2.read check.inventory).dumps.sortKeys ↔
        FlapsField revisions latest check kind field ∨
          (ChangesField revisions check kind field ∧
            (latest.recorded kind field.1 ≠ .none ∨
              field.2.read check.inventory ≠ .none))) :=
    fun field member => text_ne_iff (tracked latest found kind field member)
      (plain_recorded latest field.1) (plain kind field member)
  have differ : shownJson kind (fun field => latest.recorded kind field.1) ≠
        shownJson kind (fun field => field.2.read check.inventory) ↔
      ∃ field ∈ kind.fields, FlapsField revisions latest check kind field ∨
        (ChangesField revisions check kind field ∧
          (latest.recorded kind field.1 ≠ .none ∨
            field.2.read check.inventory ≠ .none)) := by
    rw [Ne, shownJson_eq_iff]
    push Not
    exact exists_congr fun field => and_congr_right fun member =>
      text field member
  rw [differ, changesAt_ne_nil_iff]
  constructor
  · rintro ⟨told, shown⟩
    refine ⟨fun unchanged field member flaps => ?_, shown⟩
    obtain ⟨other, otherMember, changes⟩ :=
      told ⟨field, member, Or.inl flaps⟩
    exact unchanged other otherMember changes
  · rintro ⟨calm, shown⟩
    refine ⟨?_, shown⟩
    rintro ⟨field, member, flaps | ⟨changes, -⟩⟩
    · by_contra unchanged
      push Not at unchanged
      exact calm unchanged field member flaps
    · exact ⟨field, member, changes⟩

/-- The revisions have the same fingerprints, changes and inventory. -/
def SameRecord (first second : ConfigRevision Digest) : Prop :=
  ∀ kind, first.fingerprintOf kind = second.fingerprintOf kind ∧
    first.changesOf kind = second.changesOf kind ∧
    ∀ field, first.recorded kind field = second.recorded kind field

theorem touchCheckedAt_eq_map (revisions : List (ConfigRevision Digest))
    (revisionId tsUtc : String) (fieldStatus : Json) :
    ∃ touch : ConfigRevision Digest → ConfigRevision Digest,
      touchCheckedAt revisions revisionId tsUtc fieldStatus =
          revisions.map touch ∧
        ∀ revision, SameRecord (touch revision) revision := by
  refine ⟨_, rfl, fun revision kind => ?_⟩
  split_ifs <;> cases kind <;> exact ⟨rfl, rfl, fun _ => rfl⟩

theorem afterCheck_cases (stored : check.stored = true) :
    (∃ revision, afterCheck digest revisions check = revisions ++ [revision] ∧
      revision.fullInventory = inventoryJson check.inventory ∧
      (∀ kind, revision.fingerprintOf kind =
        fingerprint digest (statusAt revisions check kind)) ∧
      (revisions = [] ∨ (∃ kind, changesAt revisions check kind ≠ []) ∧
        ∀ kind, revision.changesOf kind = changesAt revisions check kind)) ∨
    ((∀ kind, changesAt revisions check kind = []) ∧
      ∃ touch : ConfigRevision Digest → ConfigRevision Digest,
        afterCheck digest revisions check = revisions.map touch ∧
        ∀ revision, SameRecord (touch revision) revision) := by
  cases found : revisions.getLast? with
  | none =>
    rw [List.getLast?_eq_none_iff] at found
    subst found
    left
    rw [afterCheck, checkAndRecordIfChanged_nil digest stored]
    refine ⟨_, rfl, rfl, fun kind => ?_, Or.inl rfl⟩
    cases kind <;> rfl
  | some latest =>
    by_cases unchanged : ∀ kind, changesAt revisions check kind = []
    · right
      rw [afterCheck, checkAndRecordIfChanged_of_unchanged digest stored found
        unchanged]
      exact ⟨unchanged, touchCheckedAt_eq_map _ _ _ _⟩
    · obtain ⟨other, changed⟩ := not_forall.mp unchanged
      left
      rw [afterCheck,
        checkAndRecordIfChanged_of_changed digest stored found changed]
      refine ⟨_, rfl, rfl, fun kind => ?_,
        Or.inr ⟨⟨other, changed⟩, fun kind => ?_⟩⟩
      · cases kind <;> rfl
      · cases kind <;> rfl

theorem fingerprinted_afterCheck
    (fingerprinted : ∀ revision ∈ revisions, Fingerprinted digest revision) :
    ∀ revision ∈ afterCheck digest revisions check,
      Fingerprinted digest revision := by
  cases stored : check.stored with
  | false =>
    rw [afterCheck, checkAndRecordIfChanged_of_not_stored digest stored]
    exact fingerprinted
  | true =>
    rcases afterCheck_cases stored with
      ⟨new, after, written, fingerprints, -⟩ | ⟨-, touch, after, same⟩
    · rw [after]
      intro revision member
      rcases List.mem_append.mp member with earlier | last
      · exact fingerprinted revision earlier
      · rw [List.mem_singleton.mp last]
        exact fingerprinted_of_fullInventory digest written fingerprints
    · rw [after]
      intro revision member kind
      obtain ⟨before, beforeMember, rfl⟩ := List.mem_map.mp member
      have kept := same before kind
      simp only [kept.1, kept.2.2]
      exact fingerprinted before beforeMember kind

theorem tracked_afterCheck (tracked : Tracked revisions)
    (plain : PlainReads check) :
    Tracked (afterCheck digest revisions check) := by
  cases stored : check.stored with
  | false =>
    rw [afterCheck, checkAndRecordIfChanged_of_not_stored digest stored]
    exact tracked
  | true =>
    intro latest found kind field member
    have entry : entryOf (afterCheck digest revisions check) kind field.1 =
        _ := entryOf_checkAndRecordIfChanged digest stored member
    rw [entry]
    rcases afterCheck_cases stored with
      ⟨new, after, written, -, -⟩ | ⟨unchanged, touch, after, same⟩
    · rw [after, List.getLast?_concat, Option.some_inj] at found
      rw [← found, recorded_of_fullInventory written member]
      exact tracks_of_recorded
    · rw [after, List.getLast?_map, Option.map_eq_some_iff] at found
      obtain ⟨before, beforeFound, rfl⟩ := found
      rw [(same before kind).2.2]
      have calm := changesAt_eq_nil_iff.mp (unchanged kind) field member
      exact (tracked before beforeFound kind field member).of_no_change calm
        (plain kind field member) (plain_entryOf field.1)

theorem fingerprintsTell_iff {new : ConfigRevision Digest}
    (recorded : Fingerprinted digest latest) (tracked : Tracked revisions)
    (found : revisions.getLast? = some latest) (plain : PlainReads check)
    (apart : NoCollision digest revisions check)
    (fingerprints : ∀ kind, new.fingerprintOf kind =
      fingerprint digest (statusAt revisions check kind))
    (changes : ∀ kind, new.changesOf kind = changesAt revisions check kind) :
    FingerprintsTell latest new ↔
      ∀ kind, ViewShows revisions latest check kind := by
  refine forall_congr' fun kind => ?_
  have digests :
      digest (shownJson kind fun field => latest.recorded kind field.1) ≠
          digest (shownJson kind fun field =>
            field.2.read check.inventory) ↔
        shownJson kind (fun field => latest.recorded kind field.1) ≠
          shownJson kind fun field => field.2.read check.inventory :=
    not_congr ⟨apart latest found kind, congrArg digest⟩
  rw [changes, recorded kind, fingerprints, fingerprint_statusAt, digests]
  exact viewShows_iff tracked found plain

theorem isChain_afterCheck_iff
    (fingerprinted : ∀ revision ∈ revisions, Fingerprinted digest revision)
    (tracked : Tracked revisions) (plain : PlainReads check)
    (apart : NoCollision digest revisions check) :
    (afterCheck digest revisions check).IsChain FingerprintsTell ↔
      revisions.IsChain FingerprintsTell ∧ ChangesShown revisions check := by
  cases stored : check.stored with
  | false =>
    have shown : ChangesShown revisions check := by
      intro written
      rw [stored] at written
      cases written
    rw [afterCheck, checkAndRecordIfChanged_of_not_stored digest stored,
      and_iff_left shown]
  | true =>
    rcases afterCheck_cases stored with
      ⟨new, after, -, fingerprints, based⟩ | ⟨unchanged, touch, after, same⟩
    · rw [after, List.isChain_append,
        and_iff_right (List.isChain_singleton new)]
      refine and_congr_right fun _ => ?_
      rcases based with rfl | ⟨⟨other, changed⟩, changes⟩
      · simp [ChangesShown]
      · have some_ : ∃ kind, ∃ field ∈ ViewKind.fields kind,
            ChangesField revisions check kind field :=
          ⟨other, changesAt_ne_nil_iff.mp changed⟩
        have telling : ∀ latest, revisions.getLast? = some latest →
            (FingerprintsTell latest new ↔
              ∀ kind, ViewShows revisions latest check kind) :=
          fun latest found => fingerprintsTell_iff
            (fingerprinted latest (List.mem_of_getLast? found)) tracked found
            plain apart fingerprints changes
        constructor
        · intro tell _ latest found _
          exact (telling latest found).mp (tell latest found new rfl)
        · intro shown latest found revision last
          obtain rfl : new = revision := by simpa using last
          exact (telling latest found).mpr (shown stored latest found some_)
    · have shown : ChangesShown revisions check := by
        rintro - latest - ⟨kind, changed⟩
        exact absurd (unchanged kind) (changesAt_ne_nil_iff.mpr changed)
      have tells : ∀ first second,
          FingerprintsTell (touch first) (touch second) ↔
            FingerprintsTell first second := by
        intro first second
        refine forall_congr' fun kind => ?_
        rw [(same first kind).1, (same second kind).1, (same second kind).2.1]
      rw [after, List.isChain_map, and_iff_left shown]
      simp only [tells]

/-! ## A run of checks -/

theorem fingerprinted_and_tracked_afterChecks {checks : List RevisionCheck}
    (plain : ∀ check ∈ checks, PlainReads check) :
    (∀ revision ∈ afterChecks digest checks, Fingerprinted digest revision) ∧
      Tracked (afterChecks digest checks) := by
  induction checks using List.reverseRecOn with
  | nil =>
    constructor
    · intro revision member
      cases member
    · intro latest found
      cases found
  | append_singleton checks check ih =>
    obtain ⟨fingerprinted, tracked⟩ := ih
      fun other member => plain other (List.mem_append_left _ member)
    rw [afterChecks_concat]
    exact ⟨fingerprinted_afterCheck fingerprinted,
      tracked_afterCheck tracked (plain check (by simp))⟩

theorem isChain_afterChecks_iff {checks : List RevisionCheck}
    (plain : ∀ check ∈ checks, PlainReads check)
    (apart : Runs.EveryStep (afterCheck digest) (NoCollision digest) []
      checks) :
    (afterChecks digest checks).IsChain FingerprintsTell ↔
      Runs.EveryStep (afterCheck digest) ChangesShown [] checks := by
  induction checks using List.reverseRecOn with
  | nil => simp [afterChecks]
  | append_singleton checks check ih =>
    have earlier : ∀ other ∈ checks, PlainReads other :=
      fun other member => plain other (List.mem_append_left _ member)
    obtain ⟨fingerprinted, tracked⟩ :=
      @fingerprinted_and_tracked_afterChecks _ digest _ earlier
    rw [Runs.everyStep_append] at apart
    rw [afterChecks_concat, Runs.everyStep_append, ← ih earlier apart.1,
      isChain_afterCheck_iff fingerprinted tracked
        (plain check (by simp)) apart.2.1]
    exact and_congr_right fun _ => (and_iff_left trivial).symm

/-- A failed inventory between two equal ones stays quiet exactly when it goes
unseen, and along a run every fingerprint tells of its changes exactly when every
check shows what it changes. -/
theorem failed_collection_iff {full partial_ again : RevisionCheck}
    (fullStored : full.stored = true)
    (identical : again.inventory = full.inventory)
    (misses : Misses full.inventory partial_.inventory)
    (fullPlain : PlainReads full) {checks : List RevisionCheck}
    (plain : ∀ check ∈ checks, PlainReads check)
    (apart : Runs.EveryStep (afterCheck digest) (NoCollision digest) []
      checks) :
    ((Quiet digest (afterCheck digest revisions full) partial_ ∧ Quiet digest
          (afterCheck digest (afterCheck digest revisions full) partial_)
          again) ↔
      FailureUnseen revisions full partial_ again) ∧
    ((afterChecks digest checks).IsChain FingerprintsTell ↔
      Runs.EveryStep (afterCheck digest) ChangesShown [] checks) :=
  ⟨quiet_through_failure_iff fullStored identical misses fullPlain,
    isChain_afterChecks_iff plain apart⟩

end Revisions

/-! ## A disk that is lost and a processor that is missed -/

def inventoryCheck (inventory : PyValue) : RevisionCheck where
  inventory := inventory
  revisionId := "revision"
  bootId := none
  tsUtc := "2026-01-01T00:00:00.000+00:00"
  stored := true

/-- The inventory of one disk. -/
def oneDisk : PyValue :=
  .dict (.ofList [("disk", .dict (.ofList [("devices", .list (.ofList
    [.dict (.ofList [("name", .str "sda"), ("size_bytes", .int 1)])]))]))])

/-- The inventory of a processor and an operating system. -/
def cpuAndOs (model version : PyValue) : PyValue :=
  .dict (.ofList [("cpu", .dict (.ofList [("model_name", model)])),
    ("os", .dict (.ofList [("version", version)]))])

/-- Without disks an empty inventory goes unseen. -/
theorem processor_missed_once :
    Quiet id
        (afterCheck id [] (inventoryCheck (cpuAndOs (.str "A") (.str "1"))))
        (inventoryCheck .none) ∧
      Quiet id (afterCheck id
          (afterCheck id [] (inventoryCheck (cpuAndOs (.str "A") (.str "1"))))
          (inventoryCheck .none))
        (inventoryCheck (cpuAndOs (.str "A") (.str "1"))) := by
  have known : FailureUnseen ([] : List (ConfigRevision Json))
      (inventoryCheck (cpuAndOs (.str "A") (.str "1"))) (inventoryCheck .none)
      (inventoryCheck (cpuAndOs (.str "A") (.str "1"))) := by
    refine ⟨fun _ kind field _ first => ?_, fun _ => Or.inr rfl⟩
    rcases first.2.1 with state | state <;> cases state
  have plain : PlainReads (inventoryCheck (cpuAndOs (.str "A") (.str "1"))) :=
    plainReads_of_plain (by simp [inventoryCheck, cpuAndOs, PyValue.Plain,
      PyEntries.ofList, PyEntries.Plain])
  have run : ∀ check ∈
      [inventoryCheck (cpuAndOs (.str "A") (.str "1"))], PlainReads check := by
    simpa using plain
  have apart : Runs.EveryStep (afterCheck id) (NoCollision id) []
      [inventoryCheck (cpuAndOs (.str "A") (.str "1"))] :=
    ⟨fun _ _ _ same => same, trivial⟩
  exact (failed_collection_iff rfl rfl (fun _ => Or.inr rfl) plain run
    apart).1.mpr known

/-- The disk is reported lost at its first miss, and a processor that is missed
as another system is found changes the hardware fingerprint alone. -/
theorem one_failure_is_a_change :
    (Misses oneDisk .none ∧ ¬Quiet id (afterChecks id [inventoryCheck oneDisk])
        (inventoryCheck .none)) ∧
    ¬(afterChecks id [inventoryCheck (cpuAndOs (.str "A") (.str "1")),
        inventoryCheck (cpuAndOs .none (.str "2"))]).IsChain
      FingerprintsTell := by
  refine ⟨⟨fun _ => Or.inr rfl, ?_⟩, ?_⟩
  · rintro ⟨-, same⟩
    exact absurd same (by decide)
  · intro telling
    have hardware := telling.imp fun _ _ tells => tells .hw
    exact absurd hardware (by decide)

end SmarTune
