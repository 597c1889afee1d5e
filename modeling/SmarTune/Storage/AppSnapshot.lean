import SmarTune.Library.Runs
import SmarTune.Library.Versions
import SmarTune.Storage.WriteMethods

/-!
# The snapshot of the controlled apps

`get_controlled_apps` serves a copy of the app table, taken again when the
write epoch of the table has moved.  A writer changes the rows, bumps the
epoch and commits, all under `db_lock`; a reader reads the epoch without the
lock, passes through it in `query` and fetches the committed rows afterwards.
-/

namespace SmarTune

/-- An entry of the snapshot. -/
structure SnapshotApp where
  appName : String
  appId : String
  controlled : Bool
  priority : ℤ
  networkPriority : String ⊕ ℤ
  cmdline : Option String
  deriving DecidableEq

variable {Other : Type}

/-- `getattr(app, "network_priority", None) or app.priority`. -/
def AppRow.networkPriorityOrPriority (row : AppRow Other) : String ⊕ ℤ :=
  match row.networkPriority with
  | some text => if text = "" then .inr row.priority else .inl text
  | none => .inr row.priority

/-- `_fetch_controlled_apps`, on the committed rows. -/
def fetchControlledApps (rows : List (AppRow Other)) : List SnapshotApp :=
  (rows.filter AppRow.controlled).map fun row =>
    { appName := row.name
      appId := row.appId
      controlled := row.controlled
      priority := row.priority
      networkPriority := row.networkPriorityOrPriority
      cmdline := row.cmdline }

def appRows (tables : Tables Other) : List (AppRow Other) :=
  tables .aiAppPriority

/-- What `get_controlled_apps` answers from a snapshot. -/
def answerFrom (apps : List SnapshotApp)
    (priority : Option ℤ) : Option (List SnapshotApp) :=
  let selected := match priority with
    | some priority => apps.filter fun app => app.priority = priority
    | none => apps
  if selected.isEmpty then none else some selected

/-- A transaction under way. -/
structure Writing (Other : Type) where
  pending : Tables Other
  /-- The bumps to come. -/
  left : List ModelClass
  bumped : List ModelClass

/-- A call of `get_controlled_apps` that has read the epoch. -/
structure ReadCall where
  priority : Option ℤ
  epoch : ℕ
  /-- No writer has been at work since the epoch was read; not stored by the
  service. -/
  calm : Bool
  deriving DecidableEq

/-- Where a reader is. -/
inductive ReadPhase
  | idle
  | epochRead (call : ReadCall)
  /-- It holds `_controlled_apps_lock` and is going to fetch. -/
  | entered (call : ReadCall)
  /-- `query` has passed through `db_lock`. -/
  | queried (call : ReadCall)
  /-- `none` when the read failed. -/
  | fetched (call : ReadCall) (apps : Option (List SnapshotApp))
  | returned (call : ReadCall) (apps : Option (List SnapshotApp))
  deriving DecidableEq

/-- A writer has come. -/
def ReadPhase.disturb : ReadPhase → ReadPhase
  | .idle => .idle
  | .epochRead call => .epochRead { call with calm := false }
  | .entered call => .entered { call with calm := false }
  | .queried call => .queried { call with calm := false }
  | .fetched call apps => .fetched { call with calm := false } apps
  | .returned call apps => .returned call apps

/-- The database, the write epochs and the snapshot. -/
structure AppStore (Other Reader : Type) where
  /-- The committed rows. -/
  tables : Tables Other
  /-- `_write_epochs`. -/
  epochs : ModelClass → ℕ
  /-- The holder of `db_lock`. -/
  writing : Option (Writing Other)
  /-- `_controlled_apps_epoch` and `_controlled_apps_snapshot`, once set. -/
  cached : Option (ℕ × List SnapshotApp)
  /-- The holder of `_controlled_apps_lock`. -/
  cacheLock : Option Reader
  readers : Reader → ReadPhase
  /-- The versions of the app table, each with the bump of its writer; not
  stored by the service. -/
  versions : Versions.History (List (AppRow Other))

/-- What can happen next. -/
inductive StoreStep (Other Reader : Type)
  /-- A writer takes `db_lock` and changes the rows. -/
  | update (call : WriteCall Other)
  | bump
  /-- The transaction ends and the lock is released. -/
  | commit (succeeds : Bool)
  | readEpoch (reader : Reader) (priority : Option ℤ)
  | enter (reader : Reader)
  | query (reader : Reader)
  | fetch (reader : Reader) (fails : Bool)
  | store (reader : Reader)

namespace AppStore

variable {Reader : Type}

/-- The service starts with a table, and nothing cached. -/
def init (tables : Tables Other) : AppStore Other Reader where
  tables := tables
  epochs := fun _ => 0
  writing := none
  cached := none
  cacheLock := none
  readers := fun _ => .idle
  versions := [(0, appRows tables)]

def answer (system : AppStore Other Reader)
    (priority : Option ℤ) : Option (List SnapshotApp) :=
  system.cached.bind fun cached => answerFrom cached.2 priority

/-! ## The writers -/

/-- The row update. -/
def update (system : AppStore Other Reader)
    (call : WriteCall Other) : AppStore Other Reader :=
  match system.writing with
  | some _ => system
  | none =>
    let effect := call.effect system.tables
    { system with
      writing := some ⟨effect.tables, effect.bumps, []⟩
      readers := fun reader => (system.readers reader).disturb }

/-- `_bump_write_epoch`. -/
def bump (system : AppStore Other Reader) : AppStore Other Reader :=
  match system.writing with
  | some ⟨pending, cls :: left, bumped⟩ =>
    { system with
      epochs := Function.update system.epochs cls (system.epochs cls + 1)
      writing := some ⟨pending, left, bumped ++ [cls]⟩ }
  | _ => system

/-- The end of `with db.atomic()`: a commit that fails is rolled back. -/
def commit (system : AppStore Other Reader)
    (succeeds : Bool) : AppStore Other Reader :=
  match system.writing with
  | some ⟨pending, [], bumped⟩ =>
    if succeeds then
      { system with
        tables := pending
        writing := none
        versions :=
          if ModelClass.aiAppPriority ∈ bumped then
            system.versions ++
              [(system.epochs .aiAppPriority, appRows pending)]
          else system.versions }
    else { system with writing := none }
  | _ => system

/-! ## `get_controlled_apps` -/

variable [DecidableEq Reader]

def goOn (system : AppStore Other Reader) (reader : Reader)
    (phase : ReadPhase) : AppStore Other Reader :=
  { system with readers := Function.update system.readers reader phase }

/-- `get_write_epoch(AIAppPriority)`. -/
def readEpoch (system : AppStore Other Reader) (reader : Reader)
    (priority : Option ℤ) : AppStore Other Reader :=
  let call := ReadCall.mk priority (system.epochs .aiAppPriority)
    system.writing.isNone
  match system.readers reader with
  | .idle => system.goOn reader (.epochRead call)
  | .returned _ _ => system.goOn reader (.epochRead call)
  | _ => system

/-- The comparison under `_controlled_apps_lock`. -/
def enter (system : AppStore Other Reader)
    (reader : Reader) : AppStore Other Reader :=
  match system.readers reader with
  | .epochRead call =>
    if system.cacheLock.isSome then system
    else if system.cached.map Prod.fst = some call.epoch then
      system.goOn reader (.returned call (system.answer call.priority))
    else
      { system with cacheLock := some reader }.goOn reader (.entered call)
  | _ => system

/-- `AIAppPriority.query()` waits for `db_lock`. -/
def query (system : AppStore Other Reader)
    (reader : Reader) : AppStore Other Reader :=
  match system.readers reader with
  | .entered call =>
    if system.writing.isSome then system
    else system.goOn reader (.queried call)
  | _ => system

/-- The rows are read, on a connection of the reader's own. -/
def fetch (system : AppStore Other Reader) (reader : Reader)
    (fails : Bool) : AppStore Other Reader :=
  match system.readers reader with
  | .queried call =>
    system.goOn reader (.fetched call (if fails then none
        else some (fetchControlledApps (appRows system.tables))))
  | _ => system

/-- The snapshot is replaced, and the call returns. -/
def store (system : AppStore Other Reader)
    (reader : Reader) : AppStore Other Reader :=
  match system.readers reader with
  | .fetched call apps =>
    let stored := { system with
      cached := (apps.map fun apps => (call.epoch, apps)).or system.cached
      cacheLock := none }
    stored.goOn reader (.returned call (stored.answer call.priority))
  | _ => system

def step (system : AppStore Other Reader) :
    StoreStep Other Reader → AppStore Other Reader
  | .update call => system.update call
  | .bump => system.bump
  | .commit succeeds => system.commit succeeds
  | .readEpoch reader priority => system.readEpoch reader priority
  | .enter reader => system.enter reader
  | .query reader => system.query reader
  | .fetch reader fails => system.fetch reader fails
  | .store reader => system.store reader

/-! ## What is kept -/

section Invariant

variable {system : AppStore Other Reader}

omit [DecidableEq Reader]

/-- A copy under the epoch reflects every committed write whose bump is
counted in it. -/
def Reflected (system : AppStore Other Reader) (epoch : ℕ)
    (apps : List SnapshotApp) : Prop :=
  ∃ rows, apps = fetchControlledApps rows ∧
    Versions.Reflects system.versions epoch rows

/-- Every write that is counted in the epoch has ended. -/
structure Ended (system : AppStore Other Reader) (epoch : ℕ) : Prop where
  counted : epoch ≤ system.epochs .aiAppPriority
  underWay : ∀ writing, system.writing = some writing →
    ModelClass.aiAppPriority ∈ writing.bumped →
      epoch < system.epochs .aiAppPriority

/-- The epoch is that of the committed rows. -/
def Current (system : AppStore Other Reader) (epoch : ℕ) : Prop :=
  system.writing = none ∧ epoch = system.epochs .aiAppPriority

/-- What is known of a reader where it is. -/
def ReaderSound (system : AppStore Other Reader) : ReadPhase → Prop
  | .idle => True
  | .epochRead call =>
    call.epoch ≤ system.epochs .aiAppPriority ∧
      (call.calm = true → system.Current call.epoch)
  | .entered call =>
    call.epoch ≤ system.epochs .aiAppPriority ∧
      (call.calm = true → system.Current call.epoch)
  | .queried call =>
    system.Ended call.epoch ∧ (call.calm = true → system.Current call.epoch)
  | .fetched call apps =>
    (system.Ended call.epoch ∧ (call.calm = true → system.Current call.epoch)) ∧
      (∀ copy, apps = some copy → system.Reflected call.epoch copy)
  | .returned _ _ => True

/-- The invariant of the store. -/
structure StoreSound (system : AppStore Other Reader) : Prop where
  latest : Versions.latest system.versions = some (appRows system.tables)
  numbered : ∀ version ∈ system.versions,
    version.1 ≤ system.epochs .aiAppPriority
  pending : ∀ writing, system.writing = some writing →
    ModelClass.aiAppPriority ∉ writing.bumped ++ writing.left →
      appRows writing.pending = appRows system.tables
  cached : ∀ epoch apps, system.cached = some (epoch, apps) →
    system.Ended epoch ∧ system.Reflected epoch apps
  readers : ∀ reader, system.ReaderSound (system.readers reader)

/-- What a step must keep of what the readers know. -/
structure Keeps (before after : AppStore Other Reader) : Prop where
  epochs : before.epochs .aiAppPriority ≤ after.epochs .aiAppPriority
  ended : ∀ epoch, before.Ended epoch → after.Ended epoch
  reflected : ∀ epoch apps, before.Ended epoch →
    before.Reflected epoch apps → after.Reflected epoch apps

variable {before after : AppStore Other Reader} {phase : ReadPhase} {epoch : ℕ}

theorem Keeps.readerSound (keeps : Keeps before after)
    (current : ∀ epoch, before.Current epoch → after.Current epoch)
    (sound : before.ReaderSound phase) :
    after.ReaderSound phase := by
  cases phase with
  | idle => trivial
  | epochRead call =>
    exact ⟨sound.1.trans keeps.epochs, fun calm => current _ (sound.2 calm)⟩
  | entered call =>
    exact ⟨sound.1.trans keeps.epochs, fun calm => current _ (sound.2 calm)⟩
  | queried call =>
    exact ⟨keeps.ended _ sound.1, fun calm => current _ (sound.2 calm)⟩
  | fetched call apps =>
    refine ⟨⟨keeps.ended _ sound.1.1,
      fun calm => current _ (sound.1.2 calm)⟩, ?_⟩
    intro copy copied
    exact keeps.reflected _ _ sound.1.1 (sound.2 copy copied)
  | returned call apps => trivial

theorem Keeps.readerSound_disturb (keeps : Keeps before after)
    (sound : before.ReaderSound phase) :
    after.ReaderSound phase.disturb := by
  cases phase with
  | idle => trivial
  | epochRead call =>
    exact ⟨sound.1.trans keeps.epochs, fun calm => by cases calm⟩
  | entered call =>
    exact ⟨sound.1.trans keeps.epochs, fun calm => by cases calm⟩
  | queried call => exact ⟨keeps.ended _ sound.1, fun calm => by cases calm⟩
  | fetched call apps =>
    refine ⟨⟨keeps.ended _ sound.1.1, fun calm => by cases calm⟩, ?_⟩
    intro copy copied
    exact keeps.reflected _ _ sound.1.1 (sound.2 copy copied)
  | returned call apps => trivial

theorem Keeps.cached (keeps : Keeps before after) {apps : List SnapshotApp}
    (kept : before.Ended epoch ∧ before.Reflected epoch apps) :
    after.Ended epoch ∧ after.Reflected epoch apps :=
  ⟨keeps.ended epoch kept.1, keeps.reflected epoch apps kept.1 kept.2⟩

/-! ## The writers keep it -/

theorem storeSound_update (sound : system.StoreSound) (call : WriteCall Other) :
    (system.update call).StoreSound := by
  unfold update
  split
  · exact sound
  · rename_i free
    have keeps : Keeps system { system with
        writing := some ⟨(call.effect system.tables).tables,
          (call.effect system.tables).bumps, []⟩
        readers := fun reader => (system.readers reader).disturb } := by
      refine ⟨le_rfl, ?_, fun _ _ _ reflected => reflected⟩
      intro epoch ended
      refine ⟨ended.counted, ?_⟩
      intro writing here bumped
      cases here
      cases bumped
    refine ⟨sound.latest, sound.numbered, ?_, ?_, ?_⟩
    · intro writing here unbumped
      cases here
      exact WriteCall.apps_covered system.tables call (by simpa using unbumped)
    · intro epoch apps here
      exact keeps.cached (sound.cached epoch apps here)
    · intro reader
      exact keeps.readerSound_disturb (sound.readers reader)

theorem storeSound_bump (sound : system.StoreSound) :
    system.bump.StoreSound := by
  unfold bump
  split
  · rename_i pending cls left bumped here
    have grows : system.epochs .aiAppPriority ≤
        Function.update system.epochs cls (system.epochs cls + 1)
          .aiAppPriority := by
      by_cases app : ModelClass.aiAppPriority = cls
      · rw [app, Function.update_self]
        omega
      · rw [Function.update_of_ne app]
    have keeps : Keeps system { system with
        epochs := Function.update system.epochs cls (system.epochs cls + 1)
        writing := some ⟨pending, left, bumped ++ [cls]⟩ } := by
      refine ⟨grows, ?_, fun _ _ _ reflected => reflected⟩
      intro epoch ended
      refine ⟨ended.counted.trans grows, ?_⟩
      intro writing now counted
      cases now
      rcases List.mem_append.mp counted with before | last
      · exact (ended.underWay _ here before).trans_le grows
      · cases List.mem_singleton.mp last
        simpa using Nat.lt_succ_of_le ended.counted
    refine ⟨sound.latest, ?_, ?_, ?_, ?_⟩
    · intro version member
      exact (sound.numbered version member).trans grows
    · intro writing now unbumped
      cases now
      exact sound.pending ⟨pending, cls :: left, bumped⟩ here
        (by simpa using unbumped)
    · intro epoch apps cached
      exact keeps.cached (sound.cached epoch apps cached)
    · intro reader
      refine keeps.readerSound ?_ (sound.readers reader)
      intro epoch current
      simp [current.1] at here
  · exact sound

omit [DecidableEq Reader] in
/-- When the lock is released every write counted so far has ended. -/
theorem ended_of_free (free : after.writing = none)
    (same : after.epochs = before.epochs) (ended : before.Ended epoch) :
    after.Ended epoch := by
  refine ⟨by rw [same]; exact ended.counted, ?_⟩
  intro writing now
  rw [free] at now
  cases now

theorem storeSound_released {after : AppStore Other Reader}
    (sound : system.StoreSound) (busy : system.writing ≠ none)
    (free : after.writing = none) (epochs : after.epochs = system.epochs)
    (cached : after.cached = system.cached)
    (readers : after.readers = system.readers)
    (latest : Versions.latest after.versions = some (appRows after.tables))
    (numbered : ∀ version ∈ after.versions,
      version.1 ≤ system.epochs .aiAppPriority)
    (reflected : ∀ epoch apps, system.Ended epoch →
      system.Reflected epoch apps → after.Reflected epoch apps) :
    after.StoreSound := by
  have keeps : Keeps system after :=
    ⟨by rw [epochs], fun _ => ended_of_free free epochs, reflected⟩
  refine ⟨latest, by rwa [epochs], ?_, ?_, ?_⟩
  · intro writing now
    rw [free] at now
    cases now
  · intro epoch apps here
    rw [cached] at here
    exact keeps.cached (sound.cached epoch apps here)
  · intro reader
    rw [readers]
    refine keeps.readerSound ?_ (sound.readers reader)
    intro epoch current
    exact absurd current.1 busy

theorem storeSound_commit (sound : system.StoreSound) (succeeds : Bool) :
    (system.commit succeeds).StoreSound := by
  unfold commit
  split
  · rename_i pending bumped here
    have busy : system.writing ≠ none := by simp [here]
    cases succeeds with
    | false =>
      exact storeSound_released sound busy rfl rfl rfl rfl sound.latest
        sound.numbered fun _ _ _ reflected => reflected
    | true =>
      by_cases counted : ModelClass.aiAppPriority ∈ bumped
      · simp only [if_true, counted]
        refine storeSound_released sound busy rfl rfl rfl rfl ?_ ?_ ?_
        · simp
        · intro version member
          rcases List.mem_append.mp member with before | last
          · exact sound.numbered version before
          · rw [List.mem_singleton.mp last]
        · rintro epoch apps ended ⟨rows, copied, reflects⟩
          exact ⟨rows, copied,
            reflects.append (ended.underWay _ here counted) _⟩
      · simp only [if_true, counted, if_false]
        have same : appRows pending = appRows system.tables :=
          sound.pending _ here (by simpa using counted)
        refine storeSound_released sound busy rfl rfl rfl rfl ?_ ?_ ?_
        · simpa [same] using sound.latest
        · exact sound.numbered
        · exact fun _ _ _ reflected => reflected
  · exact sound

end Invariant

/-! ## The readers keep it -/

section Readers

variable {system : AppStore Other Reader}

theorem storeSound_replace (sound : system.StoreSound)
    {cached : Option (ℕ × List SnapshotApp)} {cacheLock : Option Reader}
    {reader : Reader} {phase : ReadPhase}
    (kept : ∀ epoch apps, cached = some (epoch, apps) →
      system.Ended epoch ∧ system.Reflected epoch apps)
    (known : system.ReaderSound phase) :
    ({ system with cached, cacheLock }.goOn reader phase).StoreSound := by
  have keeps : Keeps system
      ({ system with cached, cacheLock }.goOn reader phase) :=
    ⟨le_rfl, fun _ ended => ⟨ended.counted, ended.underWay⟩,
      fun _ _ _ reflected => reflected⟩
  refine ⟨sound.latest, sound.numbered, sound.pending, ?_, ?_⟩
  · intro epoch apps here
    exact keeps.cached (kept epoch apps here)
  · intro other
    apply keeps.readerSound (fun _ current => current)
    by_cases here : other = reader
    · subst here
      simpa [goOn] using known
    · simpa [goOn, here] using sound.readers other

theorem storeSound_goOn (sound : system.StoreSound) {reader : Reader}
    {phase : ReadPhase} (known : system.ReaderSound phase) :
    (system.goOn reader phase).StoreSound :=
  storeSound_replace sound sound.cached known

theorem storeSound_readEpoch (sound : system.StoreSound) (reader : Reader)
    (priority : Option ℤ) :
    (system.readEpoch reader priority).StoreSound := by
  have known : system.ReaderSound (.epochRead ⟨priority,
      system.epochs .aiAppPriority, system.writing.isNone⟩) := by
    refine ⟨le_rfl, ?_⟩
    intro calm
    exact ⟨by simpa using calm, rfl⟩
  unfold readEpoch
  dsimp only
  split
  · exact storeSound_goOn sound known
  · exact storeSound_goOn sound known
  · exact sound

theorem storeSound_enter (sound : system.StoreSound) (reader : Reader) :
    (system.enter reader).StoreSound := by
  unfold enter
  split
  · rename_i call here
    split
    · exact sound
    · split
      · exact storeSound_goOn sound trivial
      · have known : system.ReaderSound (.epochRead call) := by
          rw [← here]
          exact sound.readers reader
        exact storeSound_replace sound sound.cached known
  · exact sound

/-- A reader that has passed through the lock has seen the writers of its
epoch end. -/
theorem storeSound_query (sound : system.StoreSound) (reader : Reader) :
    (system.query reader).StoreSound := by
  unfold query
  split
  · rename_i call here
    split
    · exact sound
    · rename_i free
      have free : system.writing = none := by simpa using free
      have known : system.ReaderSound (.entered call) := by
        rw [← here]
        exact sound.readers reader
      apply storeSound_goOn sound
      refine ⟨⟨known.1, ?_⟩, known.2⟩
      intro writing now
      rw [free] at now
      cases now
  · exact sound

theorem storeSound_fetch (sound : system.StoreSound) (reader : Reader)
    (fails : Bool) :
    (system.fetch reader fails).StoreSound := by
  unfold fetch
  split
  · rename_i call here
    have known : system.ReaderSound (.queried call) := by
      rw [← here]
      exact sound.readers reader
    apply storeSound_goOn sound
    refine ⟨known, ?_⟩
    intro copy copied
    cases fails with
    | true => cases copied
    | false =>
      refine ⟨appRows system.tables, ?_,
        Versions.reflects_latest sound.latest _⟩
      simpa using copied.symm
  · exact sound

theorem storeSound_store (sound : system.StoreSound) (reader : Reader) :
    (system.store reader).StoreSound := by
  unfold store
  split
  · rename_i call apps here
    have known : system.ReaderSound (.fetched call apps) := by
      rw [← here]
      exact sound.readers reader
    refine storeSound_replace sound ?_ trivial
    intro epoch copy cached
    cases apps with
    | none => exact sound.cached epoch copy cached
    | some apps =>
      cases cached
      exact ⟨known.1.1, known.2 _ rfl⟩
  · exact sound

theorem storeSound_step (sound : system.StoreSound)
    (label : StoreStep Other Reader) :
    (system.step label).StoreSound := by
  cases label with
  | update call => exact storeSound_update sound call
  | bump => exact storeSound_bump sound
  | commit succeeds => exact storeSound_commit sound succeeds
  | readEpoch reader priority => exact storeSound_readEpoch sound reader priority
  | enter reader => exact storeSound_enter sound reader
  | query reader => exact storeSound_query sound reader
  | fetch reader fails => exact storeSound_fetch sound reader fails
  | store reader => exact storeSound_store sound reader

omit [DecidableEq Reader] in
theorem storeSound_init (tables : Tables Other) :
    (init tables : AppStore Other Reader).StoreSound := by
  refine ⟨rfl, ?_, ?_, ?_, fun _ => trivial⟩
  · intro version member
    rw [List.mem_singleton.mp member]
    exact Nat.zero_le _
  · intro writing now
    cases now
  · intro epoch apps cached
    cases cached

end Readers

end AppStore

end SmarTune
