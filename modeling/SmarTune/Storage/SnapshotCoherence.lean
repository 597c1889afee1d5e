import SmarTune.Storage.AppSnapshot

/-!
# What the write epoch tells

The snapshot of the controlled apps is as good as its epoch: `query` waits for
the writers that the epoch counts.  For the other classes the epoch tells less,
since some of their writers never bump it.
-/

namespace SmarTune
namespace AppStore

variable {Other Reader : Type} [DecidableEq Reader]

/-- The snapshot reflects every committed write counted in its epoch. -/
def SnapshotCoherent (system : AppStore Other Reader) : Prop :=
  ∀ epoch apps, system.cached = some (epoch, apps) → system.Reflected epoch apps

/-- A call during which no writer was at work, and whose read did not fail,
returns the committed table. -/
def ReturnsCommitted (system : AppStore Other Reader)
    (label : StoreStep Other Reader) : Prop :=
  ∀ reader call answered,
    (∀ call answered, system.readers reader ≠ .returned call answered) →
      (∀ call, system.readers reader ≠ .fetched call none) →
        (system.step label).readers reader = .returned call answered →
          call.calm = true → answered = answerFrom
              (fetchControlledApps (appRows system.tables)) call.priority

/-- No writer of the class stands between its bump and its commit. -/
def AtRest (system : AppStore Other Reader) (cls : ModelClass) : Prop :=
  ∀ writing, system.writing = some writing → cls ∉ writing.bumped

/-- An epoch that reads the same before and after tells that no row of its
class was inserted, changed or deleted in between, if the first reading was not
taken between a bump and its commit. -/
def EpochTells (start : AppStore Other Reader)
    (labels : List (StoreStep Other Reader)) : Prop :=
  ∀ cls, start.AtRest cls →
    (Runs.run step start labels).epochs cls = start.epochs cls →
      Runs.EveryPrefix step (fun system => system.tables cls = start.tables cls)
        start labels

/-- No call inserts or deletes rows without a bump. -/
def BumpsItsRows (system : AppStore Other Reader) :
    StoreStep Other Reader → Prop
  | .update call => call.unbumpedRows system.tables = 0
  | _ => True

instance (system : AppStore Other Reader) (label : StoreStep Other Reader) :
    Decidable (BumpsItsRows system label) := by
  unfold BumpsItsRows
  split <;> infer_instance

/-! ## Calls of `get_controlled_apps` -/

section Calls

variable {system : AppStore Other Reader}

omit [DecidableEq Reader] in
theorem copy_of_current (sound : system.StoreSound) {epoch : ℕ}
    {apps : List SnapshotApp} (current : system.Current epoch)
    (reflected : system.Reflected epoch apps) :
    apps = fetchControlledApps (appRows system.tables) := by
  obtain ⟨rows, copied, reflects⟩ := reflected
  have counted : ∀ version ∈ system.versions, version.1 ≤ epoch := by
    rw [current.2]
    exact sound.numbered
  have last := reflects.latest_eq counted
  rw [sound.latest] at last
  rw [copied, Option.some.inj last]

theorem goOn_readers {reader other : Reader} {phase : ReadPhase} :
    (system.goOn reader phase).readers other =
      if other = reader then phase else system.readers other := by
  simp [goOn, Function.update_apply]

theorem returnsCommitted_enter (sound : system.StoreSound) (reader : Reader) :
    ReturnsCommitted system (.enter reader) := by
  intro other call answered fresh _ returns calm
  simp only [step, enter] at returns
  split at returns
  · rename_i here
    split at returns
    · exact absurd returns (fresh call answered)
    · split at returns
      · rename_i hit
        rw [goOn_readers] at returns
        split at returns
        · cases returns
          have known : system.ReaderSound (.epochRead call) := by
            rw [← here]
            exact sound.readers reader
          obtain ⟨⟨epoch, apps⟩, cached, same⟩ := Option.map_eq_some_iff.mp hit
          have same : epoch = call.epoch := same
          subst same
          have copy := copy_of_current sound (known.2 calm)
            (sound.cached _ _ cached).2
          simp [answer, cached, copy]
        · exact absurd returns (fresh call answered)
      · rw [goOn_readers] at returns
        split at returns
        · cases returns
        · exact absurd returns (fresh call answered)
  · exact absurd returns (fresh call answered)

theorem returnsCommitted_store (sound : system.StoreSound) (reader : Reader) :
    ReturnsCommitted system (.store reader) := by
  intro other call answered fresh succeeds returns calm
  simp only [step, store] at returns
  split at returns
  · rename_i apps here
    rw [goOn_readers] at returns
    split at returns
    · rename_i own
      cases returns
      subst own
      have known : system.ReaderSound (.fetched call apps) := by
        rw [← here]
        exact sound.readers other
      cases apps with
      | none => exact absurd here (succeeds call)
      | some apps =>
        have copy := copy_of_current sound (known.1.2 calm) (known.2 apps rfl)
        simp [answer, copy]
    · exact absurd returns (fresh call answered)
  · exact absurd returns (fresh call answered)

theorem returnsCommitted_of_sound (sound : system.StoreSound)
    (label : StoreStep Other Reader) :
    ReturnsCommitted system label := by
  cases label with
  | enter reader => exact returnsCommitted_enter sound reader
  | store reader => exact returnsCommitted_store sound reader
  | update call =>
    intro reader read answered fresh _ returns
    simp only [step, update] at returns
    split at returns
    · exact absurd returns (fresh read answered)
    · cases here : system.readers reader with
      | returned call answered => exact absurd here (fresh call answered)
      | _ => simp [here, ReadPhase.disturb] at returns
  | bump =>
    intro reader read answered fresh _ returns
    simp only [step, bump] at returns
    split at returns <;> exact absurd returns (fresh read answered)
  | commit succeeds =>
    intro reader read answered fresh _ returns
    simp only [step, commit] at returns
    split at returns
    · split at returns <;> exact absurd returns (fresh read answered)
    · exact absurd returns (fresh read answered)
  | readEpoch reader priority =>
    intro other read answered fresh _ returns
    simp only [step, readEpoch] at returns
    split at returns
    · rw [goOn_readers] at returns
      split at returns
      · cases returns
      · exact absurd returns (fresh read answered)
    · rw [goOn_readers] at returns
      split at returns
      · cases returns
      · exact absurd returns (fresh read answered)
    · exact absurd returns (fresh read answered)
  | query reader =>
    intro other read answered fresh _ returns
    simp only [step, query] at returns
    split at returns
    · split at returns
      · exact absurd returns (fresh read answered)
      · rw [goOn_readers] at returns
        split at returns
        · cases returns
        · exact absurd returns (fresh read answered)
    · exact absurd returns (fresh read answered)
  | fetch reader fails =>
    intro other read answered fresh _ returns
    simp only [step, fetch] at returns
    split at returns
    · rw [goOn_readers] at returns
      split at returns
      · cases returns
      · exact absurd returns (fresh read answered)
    · exact absurd returns (fresh read answered)

end Calls

/-! ## Two readings of an epoch -/

section Readings

variable {system : AppStore Other Reader}

/-- A row of the class that a transaction changes has its bump. -/
def PendingCovered (system : AppStore Other Reader) : Prop :=
  ∀ writing, system.writing = some writing → ∀ cls,
    cls ∉ writing.bumped ++ writing.left →
      writing.pending cls = system.tables cls

/-- While the epoch of the class is that of the first reading, so are its
rows. -/
structure Since (start system : AppStore Other Reader)
    (cls : ModelClass) : Prop where
  covered : system.PendingCovered
  grown : start.epochs cls ≤ system.epochs cls
  unchanged : system.epochs cls = start.epochs cls →
    system.tables cls = start.tables cls ∧ system.AtRest cls

/-- The steps of the readers leave the database and the epochs alone. -/
structure ReadsOnly (before after : AppStore Other Reader) : Prop where
  tables : after.tables = before.tables
  epochs : after.epochs = before.epochs
  writing : after.writing = before.writing

omit [DecidableEq Reader] in
theorem ReadsOnly.refl (system : AppStore Other Reader) :
    ReadsOnly system system :=
  ⟨rfl, rfl, rfl⟩

theorem readsOnly_readEpoch (reader : Reader) (priority : Option ℤ) :
    ReadsOnly system (system.readEpoch reader priority) := by
  unfold readEpoch
  dsimp only
  split <;> exact ⟨rfl, rfl, rfl⟩

theorem readsOnly_enter (reader : Reader) :
    ReadsOnly system (system.enter reader) := by
  unfold enter
  split
  · split
    · exact .refl system
    · split <;> exact ⟨rfl, rfl, rfl⟩
  · exact .refl system

theorem readsOnly_query (reader : Reader) :
    ReadsOnly system (system.query reader) := by
  unfold query
  split
  · split <;> exact ⟨rfl, rfl, rfl⟩
  · exact .refl system

theorem readsOnly_fetch (reader : Reader) (fails : Bool) :
    ReadsOnly system (system.fetch reader fails) := by
  unfold fetch
  split <;> exact ⟨rfl, rfl, rfl⟩

theorem readsOnly_store (reader : Reader) :
    ReadsOnly system (system.store reader) := by
  unfold store
  split <;> exact ⟨rfl, rfl, rfl⟩

variable {start : AppStore Other Reader} {cls : ModelClass}

omit [DecidableEq Reader] in
theorem since_reads {after : AppStore Other Reader}
    (since : Since start system cls) (reads : ReadsOnly system after) :
    Since start after cls := by
  refine ⟨?_, ?_, ?_⟩
  · intro writing now other uncovered
    rw [reads.writing] at now
    rw [reads.tables]
    exact since.covered writing now other uncovered
  · rw [reads.epochs]
    exact since.grown
  · intro same
    rw [reads.epochs] at same
    obtain ⟨rows, rest⟩ := since.unchanged same
    refine ⟨by rw [reads.tables, rows], ?_⟩
    intro writing now
    rw [reads.writing] at now
    exact rest writing now

omit [DecidableEq Reader] in
theorem since_update (since : Since start system cls) {call : WriteCall Other}
    (bumped : call.unbumpedRows system.tables = 0) :
    Since start (system.update call) cls := by
  unfold update
  split
  · exact since
  · refine ⟨?_, since.grown, ?_⟩
    · intro writing now other uncovered
      cases now
      exact WriteCall.covers_effect bumped other (by simpa using uncovered)
    · intro same
      refine ⟨(since.unchanged same).1, ?_⟩
      intro writing now
      cases now
      exact List.not_mem_nil

omit [DecidableEq Reader] in
/-- A bump of the class ends what the first reading tells. -/
theorem since_bump (since : Since start system cls) :
    Since start system.bump cls := by
  unfold bump
  split
  · rename_i pending bumping left bumped here
    refine ⟨?_, ?_, ?_⟩
    · intro writing now other uncovered
      cases now
      exact since.covered _ here other (by simpa using uncovered)
    · by_cases own : cls = bumping
      · subst own
        simpa using since.grown.trans (Nat.le_succ _)
      · simpa [own] using since.grown
    · intro same
      by_cases own : cls = bumping
      · subst own
        have same : system.epochs cls + 1 = start.epochs cls := by
          simpa using same
        have grown := since.grown
        omega
      · have same : system.epochs cls = start.epochs cls := by
          simpa [own] using same
        obtain ⟨rows, rest⟩ := since.unchanged same
        refine ⟨rows, ?_⟩
        intro writing now
        cases now
        simpa [own] using rest _ here
  · exact since

omit [DecidableEq Reader] in
theorem since_commit (since : Since start system cls) (succeeds : Bool) :
    Since start (system.commit succeeds) cls := by
  unfold commit
  split
  · rename_i pending bumped here
    cases succeeds with
    | false =>
      refine ⟨?_, since.grown, ?_⟩
      · intro writing now
        cases now
      · intro same
        refine ⟨(since.unchanged same).1, ?_⟩
        intro writing now
        cases now
    | true =>
      refine ⟨?_, since.grown, ?_⟩
      · intro writing now
        cases now
      · intro same
        obtain ⟨rows, rest⟩ := since.unchanged same
        have covered : pending cls = system.tables cls :=
          since.covered _ here cls (by simpa using rest _ here)
        refine ⟨covered.trans rows, ?_⟩
        intro writing now
        cases now
  · exact since

theorem since_step (since : Since start system cls)
    {label : StoreStep Other Reader} (bumps : BumpsItsRows system label) :
    Since start (system.step label) cls := by
  cases label with
  | update call => exact since_update since bumps
  | bump => exact since_bump since
  | commit succeeds => exact since_commit since succeeds
  | readEpoch reader priority =>
    exact since_reads since (readsOnly_readEpoch reader priority)
  | enter reader => exact since_reads since (readsOnly_enter reader)
  | query reader => exact since_reads since (readsOnly_query reader)
  | fetch reader fails => exact since_reads since (readsOnly_fetch reader fails)
  | store reader => exact since_reads since (readsOnly_store reader)

theorem epochs_step (label : StoreStep Other Reader) (cls : ModelClass) :
    system.epochs cls ≤ (system.step label).epochs cls := by
  have reads : ∀ {after : AppStore Other Reader}, ReadsOnly system after →
      system.epochs cls ≤ after.epochs cls := by
    intro after only
    rw [only.epochs]
  cases label with
  | update call =>
    simp only [step, update]
    split <;> exact le_rfl
  | bump =>
    simp only [step, bump]
    split
    · rename_i bumping left bumped here
      by_cases own : cls = bumping
      · subst own
        simp
      · simp [own]
    · exact le_rfl
  | commit succeeds =>
    simp only [step, commit]
    split
    · split <;> exact le_rfl
    · exact le_rfl
  | readEpoch reader priority => exact reads (readsOnly_readEpoch reader priority)
  | enter reader => exact reads (readsOnly_enter reader)
  | query reader => exact reads (readsOnly_query reader)
  | fetch reader fails => exact reads (readsOnly_fetch reader fails)
  | store reader => exact reads (readsOnly_store reader)

theorem epochs_run (system : AppStore Other Reader)
    (labels : List (StoreStep Other Reader)) (cls : ModelClass) :
    system.epochs cls ≤ (Runs.run step system labels).epochs cls := by
  induction labels generalizing system with
  | nil => exact le_rfl
  | cons label labels ih => exact (epochs_step label cls).trans (ih _)

end Readings

/-! ## Whole runs -/

variable {labels : List (StoreStep Other Reader)}

/-- What was read first is there wherever the run is cut short before the
second reading. -/
theorem epochTells_of_bumps {start : AppStore Other Reader}
    (covered : start.PendingCovered)
    (bumps : Runs.EveryStep step BumpsItsRows start labels) :
    EpochTells start labels := by
  intro cls rest same count
  have whole : labels = labels.take count ++ labels.drop count :=
    (List.take_append_drop count labels).symm
  have here : Since start (Runs.run step start (labels.take count)) cls := by
    apply Runs.invariant_run (fun system => Since start system cls)
    · intro system label since bumped
      exact since_step since bumped
    · exact ⟨covered, le_rfl, fun _ => ⟨rfl, rest⟩⟩
    · rw [whole, Runs.everyStep_append] at bumps
      exact bumps.1
  -- The epoch never falls, so it is that of the first reading at the cut too.
  have later := epochs_run (Runs.run step start (labels.take count))
    (labels.drop count) cls
  rw [← Runs.run_append, ← whole, same] at later
  exact (here.unchanged (Nat.le_antisymm later here.grown)).1

theorem pendingCovered_run {tables : Tables Other}
    (bumps : Runs.EveryStep step BumpsItsRows (init tables) labels) :
    (Runs.run step (init tables) labels).PendingCovered := by
  have start : (init tables : AppStore Other Reader).PendingCovered := by
    intro writing now
    cases now
  have since := Runs.invariant_run
    (fun system => Since (init tables) system .aiAppPriority)
    (fun system label since bumped => since_step since bumped)
    ⟨start, le_rfl, fun _ => ⟨rfl, fun _ now => by cases now⟩⟩ bumps
  exact since.covered

/-- In every run without unbumped rows the snapshot is coherent, undisturbed
calls return the committed table, and two equal readings of an epoch tell that
no row changed between them. -/
theorem epochs_keep_snapshots_coherent (tables : Tables Other)
    (labels : List (StoreStep Other Reader))
    (bumps : Runs.EveryStep step BumpsItsRows (init tables) labels) :
    Runs.EveryPrefix step SnapshotCoherent (init tables) labels ∧
      Runs.EveryStep step ReturnsCommitted (init tables) labels ∧
        ∀ first between, labels = first ++ between →
          EpochTells (Runs.run step (init tables) first) between := by
  refine ⟨?_, ?_, ?_⟩
  · refine Runs.everyPrefix_of_invariant StoreSound ?_ ?_
      (storeSound_init tables) bumps
    · intro system label sound _
      exact storeSound_step sound label
    · intro system sound epoch apps cached
      exact (sound.cached epoch apps cached).2
  · apply Runs.everyStep_of_invariant StoreSound _ _ labels
      (storeSound_init tables)
    · intro system label sound
      exact storeSound_step sound label
    · intro system label sound
      exact returnsCommitted_of_sound sound label
  · rintro first between rfl
    rw [Runs.everyStep_append] at bumps
    exact epochTells_of_bumps (pendingCovered_run bumps.1) bumps.2

/-- A database without rows. -/
def noRows : Tables Nat
  | .aiAppPriority => []
  | .monitorSnapshot => ([] : List Nat)
  | .operationalEvent => ([] : List Nat)
  | .alertState => ([] : List Nat)
  | .alertEpisode => ([] : List Nat)
  | .detectorCursor => ([] : List Nat)
  | .configRevision => ([] : List Nat)

/-- An app comes, its writer overtaken by a reader. -/
def overtakenWriter : List (StoreStep Nat Bool) :=
  [.update (.insertRecord .aiAppPriority
      (fun row : AppRow Nat => row.id = "app")
      (⟨"app", "app", "App", 5, none, true, none, 0⟩ : AppRow Nat)),
    .bump, .readEpoch true none, .enter true, .query true, .commit true,
    .query true, .fetch true false, .store true, .readEpoch false none,
    .enter false]

theorem epochs_keep_snapshots_coherent_witness :
    Runs.EveryPrefix step SnapshotCoherent (init noRows) overtakenWriter ∧
      Runs.EveryStep step ReturnsCommitted (init noRows) overtakenWriter ∧
        ∀ first between, overtakenWriter = first ++ between →
          EpochTells (Runs.run step (init noRows) first) between :=
  epochs_keep_snapshots_coherent _ _ (by decide)

/-- A monitor snapshot is inserted, and no epoch tells. -/
theorem inserted_snapshot_is_not_told :
    ¬ EpochTells (init noRows : AppStore Nat Bool)
      [.update (.insertSnapshot 7), .commit true] := by
  intro tells
  have rest : (init noRows : AppStore Nat Bool).AtRest .monitorSnapshot := by
    intro writing now
    cases now
  have same := (tells .monitorSnapshot rest (by decide)).finally
  have changed : ([7] : List Nat) = [] := same
  cases changed

end AppStore
end SmarTune
