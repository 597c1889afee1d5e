import SmarTune.Monitor.ConfigVersions
import Mathlib.Data.Fintype.Basic

/-!
# Conflicting configuration writes

A version that a client holds identifies the section it read when three things
are kept: no POST is checked while another one is between its check and the
write of its `updated_at`, every new `updated_at` is later than the stored one,
and no save falls between the two reads of a GET.
-/

namespace SmarTune

/-! ## What a client's turn can be -/

namespace ConfigTurn

variable {Value : Type*} {handler : ConfigHandler} {now : ℕ}
  {turn after : ConfigTurn Value} {move : ConfigMove Value}

/-- The outcomes of a turn. -/
inductive Moves (now : ℕ) (turn : ConfigTurn Value) :
    ConfigMove Value → ConfigTurn Value → Prop
  | stay (move : ConfigMove Value) : Moves now turn move turn
  | getSection :
      turn.client.phase = .idle →
      Moves now turn .getSection (turn.goto (.reading turn.saves))
  | getUpdatedAt (seen : ℕ) :
      turn.client.phase = .reading seen →
      Moves now turn .getUpdatedAt (turn.learn seen turn.updatedAt)
  | post (expected : ExpectedRaw) (update : Value → Value) :
      turn.client.phase = .idle →
      checkConfigConflict expected turn.updatedAt turn.value = none →
      Moves now turn (.post expected update)
        (turn.goto (.accepted ⟨update, turn.honest expected⟩))
  | save (update : ConfigUpdate Value) :
      turn.client.phase = .accepted update →
      Moves now turn .save ((turn.overwrite update).goto .saved)
  | stamp (update : Option (ConfigUpdate Value)) :
      turn.client.phase.inFlight = true →
      turn.client.phase.unsaved = update →
      Moves now turn .stamp (turn.goto (.stamped update (newUpdatedAt now)))
  | store (update : Option (ConfigUpdate Value)) (newTs : ℕ) (persists : Bool) :
      turn.client.phase = .stamped update newTs →
      Moves now turn (.store persists) (turn.store update newTs persists)
  | respond (newTs : ℕ) :
      turn.client.phase = .stored newTs →
      Moves now turn .respond (turn.learn turn.saves newTs)

theorem moves_move : Moves now turn move (turn.move handler now move) := by
  unfold ConfigTurn.move
  split
  · rename_i idle
    exact .getSection idle
  · rename_i reading
    exact .getUpdatedAt _ reading
  · rename_i expected update idle
    unfold ConfigTurn.post
    split
    · exact .stay _
    · rename_i proceeds
      exact .post expected update idle proceeds
  · rename_i accepted
    cases handler with
    | bump => exact .save _ accepted
    | retention => exact .stay _
  · rename_i accepted
    cases handler with
    | bump => exact .stay _
    | retention =>
      exact .stamp _ (by rw [accepted]; rfl) (by rw [accepted]; rfl)
  · rename_i saved
    exact .stamp _ (by rw [saved]; rfl) (by rw [saved]; rfl)
  · rename_i stamped
    exact .store _ _ _ stamped
  · rename_i stored
    exact .respond _ stored
  · exact .stay _

theorem proceeds_of_accepted {expected : ExpectedRaw} {update : Value → Value}
    (idle : turn.client.phase.inFlight = false)
    (accepted : (turn.move handler now
      (.post expected update)).client.phase.inFlight = true) :
    checkConfigConflict expected turn.updatedAt turn.value = none := by
  have moves : Moves now turn (.post expected update)
    (turn.move handler now (.post expected update)) := moves_move
  generalize turn.move handler now (.post expected update) = after
    at moves accepted
  cases moves with
  | stay => simp [idle] at accepted
  | post _ _ _ proceeds => exact proceeds

end ConfigTurn

namespace ConfigSystem

variable {Client Value : Type*} [DecidableEq Client]

/-! ## The law and the condition -/

/-- A POST that carries what its client last read is accepted only while no
other POST has been accepted since. -/
def AcceptsCurrent (turn after : ConfigTurn Value) : ConfigMove Value → Prop
  | .post expected _ =>
    turn.client.phase.inFlight = false → after.client.phase.inFlight = true →
        turn.client.carries expected → turn.client.othersAccepted = false
  | _ => True

/-- A save overwrites what its client has seen. -/
def OverwritesSeen (turn after : ConfigTurn Value) : Prop :=
  ∀ update ∈ turn.client.phase.unsaved,
    update.honest = true → after.saves ≠ turn.saves →
      turn.client.seen = turn.saves

def LosesNoUpdate (handler : ConfigHandler)
    (system : ConfigSystem Client Value) : ConfigStep Client Value → Prop
  | .tick _ => True
  | .move client move =>
    let turn := system.turn client
    let after := turn.move handler system.now move
    AcceptsCurrent turn after move ∧ OverwritesSeen turn after

/-- No other client is between its check and the write of its `updated_at`. -/
def Alone (system : ConfigSystem Client Value) (client : Client) : Prop :=
  ∀ other, other ≠ client → (system.clients other).phase.inFlight = false

/-- A POST passes its check alone; a GET whose section was saved over has not
read its `updated_at` yet; a new `updated_at` is later than the stored one and
is persisted. -/
def Undisturbed (system : ConfigSystem Client Value) :
    ConfigStep Client Value → Prop
  | .move client (.post expected _) =>
    checkConfigConflict expected system.updatedAt () = none →
      system.Alone client
  | .move client .getUpdatedAt =>
    ∀ seen ∈ (system.clients client).phase.torn, seen = system.saves
  | .move client .stamp =>
    (system.clients client).phase.inFlight = true →
      system.updatedAt < newUpdatedAt system.now
  | .move _ (.store persists) => persists = true
  | _ => True

instance
    (turn after : ConfigTurn Value)
    (move : ConfigMove Value) : Decidable (AcceptsCurrent turn after move) := by
  cases move <;> unfold AcceptsCurrent <;> infer_instance

instance (turn after : ConfigTurn Value) :
    Decidable (OverwritesSeen turn after) :=
  inferInstanceAs (Decidable (∀ update ∈ turn.client.phase.unsaved, _))

instance
    (handler : ConfigHandler)
    (system : ConfigSystem Client Value)
    (label : ConfigStep Client Value) :
    Decidable (system.LosesNoUpdate handler label) := by
  cases label <;> unfold LosesNoUpdate <;> infer_instance

instance [Fintype Client]
    (system : ConfigSystem Client Value)
    (client : Client) : Decidable (system.Alone client) :=
  inferInstanceAs (Decidable (∀ other, other ≠ client →
    (system.clients other).phase.inFlight = false))

instance [Fintype Client]
    (system : ConfigSystem Client Value)
    (label : ConfigStep Client Value) :
    Decidable (system.Undisturbed label) := by
  rcases label with seconds | ⟨client, move⟩
  · exact .isTrue trivial
  · cases move <;> unfold Undisturbed <;> infer_instance

/-! ## What the versions in the hands of clients are worth -/

/-- What a client holds, when `alone` says that no other POST is in flight. -/
structure ClientConsistent (updatedAt saves : ℕ) (alone : Prop)
    (client : ConfigClient Value) : Prop where
  known : ∀ lastRead ∈ client.lastRead, lastRead ≤ updatedAt
  stored : ∀ newTs, client.phase = .stored newTs → newTs ≤ updatedAt
  stamped : ∀ update newTs,
    client.phase = .stamped update newTs → updatedAt < newTs
  seen : client.seen ≤ saves
  /-- A client that holds the current version has seen every save. -/
  current : alone → client.lastRead = some updatedAt →
    client.seen = saves ∧ client.othersAccepted = false
  /-- So has one whose write the check has let through. -/
  unsaved : ∀ update ∈ client.phase.unsaved,
    update.honest = true → client.seen = saves

/-- The section and all its clients. -/
structure Consistent (system : ConfigSystem Client Value) : Prop where
  alone : ∀ client,
    (system.clients client).phase.inFlight = true → system.Alone client
  clients : ∀ client,
    ClientConsistent system.updatedAt system.saves (system.Alone client)
      (system.clients client)
  first : system.updatedAt = 0 →
    (∀ client, (system.clients client).phase.inFlight = false) →
      system.saves = 0

omit [DecidableEq Client] in
theorem consistent_init (value : Value) (updatedAt now : ℕ) :
    Consistent (init value updatedAt now : ConfigSystem Client Value) where
  alone := by
    intro client inFlight
    cases inFlight
  clients := by
    intro client
    constructor <;> simp [init, ConfigPhase.unsaved]
  first := fun _ _ => rfl

/-! ## One turn against the other clients -/

section Turn

variable {system : ConfigSystem Client Value} {client other : Client}
  {after : ConfigTurn Value}

@[simp] theorem put_self :
    (system.put client after).clients client = after.client := by
  simp [put]

theorem put_other (different : other ≠ client) :
    (system.put client after).clients other =
      { system.clients other with
        othersAccepted := (system.clients other).othersAccepted ||
          (!(system.clients client).phase.inFlight &&
            after.client.phase.inFlight) } := by
  simp [put, different]

/-- A turn that leaves the section alone and neither comes in flight nor
leaves. -/
structure Keeps (system : ConfigSystem Client Value) (client : Client)
    (after : ConfigTurn Value) : Prop where
  updatedAt : after.updatedAt = system.updatedAt
  saves : after.saves = system.saves
  inFlight : after.client.phase.inFlight =
    (system.clients client).phase.inFlight

theorem Keeps.inFlight_eq (keeps : Keeps system client after) (other : Client) :
    ((system.put client after).clients other).phase.inFlight =
      (system.clients other).phase.inFlight := by
  by_cases same : other = client
  · rw [same, put_self, keeps.inFlight]
  · rw [put_other same]

theorem Keeps.alone_iff (keeps : Keeps system client after) (other : Client) :
    (system.put client after).Alone other ↔ system.Alone other := by
  simp only [Alone, keeps.inFlight_eq]

/-- Such a turn keeps everything but the client's own part. -/
theorem consistent_of_keeps (consistent : system.Consistent)
    (keeps : Keeps system client after)
    (own : ClientConsistent system.updatedAt system.saves
      (system.Alone client) after.client) :
    (system.put client after).Consistent where
  alone := by
    intro other inFlight
    rw [keeps.inFlight_eq] at inFlight
    exact (keeps.alone_iff other).mpr (consistent.alone other inFlight)
  clients := by
    intro other
    rw [show (system.put client after).updatedAt = system.updatedAt from
        keeps.updatedAt,
      show (system.put client after).saves = system.saves from keeps.saves,
      propext (keeps.alone_iff other)]
    by_cases same : other = client
    · rw [same, put_self]
      exact own
    · have before := consistent.clients other
      rw [put_other same, keeps.inFlight, Bool.not_and_self, Bool.or_false]
      exact before
  first := by
    intro unsaved idle
    simp only [keeps.inFlight_eq] at idle
    exact keeps.saves.trans
      (consistent.first (keeps.updatedAt.symm.trans unsaved) idle)

/-- A turn made while no other POST is in flight, and after which either this
one is or the version has moved on. -/
structure Exclusive (system : ConfigSystem Client Value) (client : Client)
    (after : ConfigTurn Value) : Prop where
  alone : system.Alone client
  updatedAt : system.updatedAt ≤ after.updatedAt
  saves : system.saves ≤ after.saves
  moves : after.client.phase.inFlight = true ∨
    system.updatedAt < after.updatedAt

/-- Such a turn makes every version the others hold an old one. -/
theorem consistent_of_exclusive (consistent : system.Consistent)
    (exclusive : Exclusive system client after)
    (own : ClientConsistent after.updatedAt after.saves
      (system.Alone client) after.client) :
    (system.put client after).Consistent where
  alone := by
    intro holder inFlight other different
    by_cases same : holder = client
    · subst same
      rw [put_other different]
      exact exclusive.alone other different
    · rw [put_other same] at inFlight
      exact absurd inFlight (by simp [exclusive.alone holder same])
  clients := by
    intro other
    by_cases same : other = client
    · subst same
      rw [put_self]
      refine ⟨own.known, own.stored, own.stamped, own.seen, ?_, own.unsaved⟩
      exact fun _ => own.current exclusive.alone
    · have before := consistent.clients other
      have idle := exclusive.alone other same
      rw [put_other same]
      refine ⟨?_, ?_, ?_, before.seen.trans exclusive.saves, ?_, ?_⟩
      · intro lastRead read
        exact (before.known lastRead read).trans exclusive.updatedAt
      · intro newTs stored
        exact (before.stored newTs stored).trans exclusive.updatedAt
      · intro update newTs stamped
        have phase : (system.clients other).phase =
          .stamped update newTs := stamped
        simp [phase, ConfigPhase.inFlight] at idle
      · intro alone read
        rcases exclusive.moves with inFlight | later
        · have left := alone client (Ne.symm same)
          rw [put_self, inFlight] at left
          cases left
        · have known := before.known _ (Option.mem_def.mpr read)
          exact absurd later (Nat.not_lt.mpr known)
      · intro update unsaved
        cases phase : (system.clients other).phase <;>
          simp [phase, ConfigPhase.inFlight, ConfigPhase.unsaved] at idle unsaved
  first := by
    intro unsaved idle
    rcases exclusive.moves with inFlight | later
    · have left := idle client
      rw [put_self, inFlight] at left
      cases left
    · exact absurd (show after.updatedAt = 0 from unsaved) (by omega)

/-! ## One turn of a client -/

/-- The check lets a POST through on the version it read, or on none. -/
theorem accepted_seen (consistent : system.Consistent)
    (alone : system.Alone client)
    (idle : (system.clients client).phase.inFlight = false)
    {expected : ExpectedRaw}
    (proceeds : checkConfigConflict expected system.updatedAt
      system.value = none)
    (honest : (system.turn client).honest expected = true) :
    (system.clients client).seen = system.saves := by
  have own := consistent.clients client
  have carriesOrNone : expected = .missing ∨
      (system.clients client).carries expected := of_decide_eq_true honest
  rcases checkConfigConflict_eq_none_iff.mp proceeds with current | first
  · rcases carriesOrNone with missing | carries
    · simp [missing] at current
    · rw [ConfigClient.carries, current, Option.map_eq_some_iff] at carries
      obtain ⟨lastRead, read, same⟩ := carries
      have equal : lastRead = system.updatedAt := by
        injection same with cast
        omega
      exact (own.current alone (equal ▸ read)).1
  · have unsaved : system.saves = 0 := by
      apply consistent.first first.2
      intro other
      by_cases same : other = client
      · rw [same, idle]
      · exact alone other same
    have seen := own.seen
    omega

omit [DecidableEq Client] in
theorem accepted_current (consistent : system.Consistent)
    (alone : system.Alone client) {expected : ExpectedRaw}
    (proceeds : checkConfigConflict expected system.updatedAt
      system.value = none)
    (carries : (system.clients client).carries expected) :
    (system.clients client).othersAccepted = false := by
  rw [ConfigClient.carries, Option.map_eq_some_iff] at carries
  obtain ⟨lastRead, read, rfl⟩ := carries
  rcases checkConfigConflict_eq_none_iff.mp proceeds with current | first
  · have equal : lastRead = system.updatedAt := by
      injection current with cast
      omega
    exact ((consistent.clients client).current alone (equal ▸ read)).2
  · cases first.1

omit [DecidableEq Client] in
theorem alone_of_proceeds {expected : ExpectedRaw} {update : Value → Value}
    (undisturbed : system.Undisturbed (.move client (.post expected update)))
    (proceeds : checkConfigConflict expected system.updatedAt
      system.value = none) :
    system.Alone client := by
  have passes : checkConfigConflict expected system.updatedAt () = none :=
    checkConfigConflict_eq_none_iff.mpr
      (checkConfigConflict_eq_none_iff.mp proceeds)
  exact undisturbed passes

/-- The write of a later version makes every version that is held an old
one. -/
theorem consistent_store {update : Option (ConfigUpdate Value)} {newTs : ℕ}
    (consistent : system.Consistent)
    (phase : (system.clients client).phase = .stamped update newTs) :
    (system.put client
      ((system.turn client).store update newTs true)).Consistent := by
  have own := consistent.clients client
  have alone := consistent.alone client (by rw [phase]; rfl)
  have later := own.stamped update newTs phase
  have outdated : ∀ lastRead ∈ (system.clients client).lastRead,
      lastRead < newTs := fun lastRead read =>
    (own.known lastRead read).trans_lt later
  generalize written : (system.turn client).store update newTs true = after
  have version : after.updatedAt = newTs := by
    rw [← written]
    cases update <;> rfl
  have reached : after.client.phase = .stored newTs := by
    rw [← written]
    cases update <;> rfl
  have held : after.client.lastRead = (system.clients client).lastRead := by
    rw [← written]
    cases update <;> rfl
  have saved : system.saves ≤ after.saves ∧ after.client.seen ≤ after.saves := by
    rw [← written]
    cases update with
    | none => exact ⟨le_rfl, own.seen⟩
    | some update => exact ⟨Nat.le_succ _, le_rfl⟩
  refine consistent_of_exclusive consistent
    ⟨alone, version.symm ▸ later.le, saved.1, .inr (version.symm ▸ later)⟩ ?_
  rw [version]
  refine ⟨?_, ?_, ?_, saved.2, ?_, ?_⟩
  · rw [held]
    exact fun lastRead read => (outdated lastRead read).le
  · simp [reached]
  · simp [reached]
  · rw [held]
    exact fun _ read => absurd (outdated newTs read) (lt_irrefl newTs)
  · simp [reached, ConfigPhase.unsaved]

theorem consistent_move {move : ConfigMove Value}
    (consistent : system.Consistent)
    (undisturbed : system.Undisturbed (.move client move))
    (moves : (system.turn client).Moves system.now move after) :
    (system.put client after).Consistent := by
  have own := consistent.clients client
  cases moves with
  | stay move => exact consistent_of_keeps consistent ⟨rfl, rfl, rfl⟩ own
  | getSection idle =>
    have phase : (system.clients client).phase = .idle := idle
    refine consistent_of_keeps consistent
      ⟨rfl, rfl, by rw [phase]; rfl⟩ ⟨own.known, ?_, ?_, own.seen,
        own.current, ?_⟩
    all_goals simp [ConfigTurn.goto, ConfigPhase.unsaved]
  | getUpdatedAt seen reading =>
    have phase : (system.clients client).phase = .reading seen := reading
    have latest : seen = system.saves :=
      undisturbed seen (by rw [phase]; rfl)
    refine consistent_of_keeps consistent ⟨rfl, rfl, by rw [phase]; rfl⟩ ?_
    constructor <;>
      simp [ConfigTurn.learn, ConfigSystem.turn, ConfigPhase.unsaved, latest]
  | post expected update idle proceeds =>
    have phase : (system.clients client).phase = .idle := idle
    have alone := alone_of_proceeds undisturbed proceeds
    refine consistent_of_exclusive consistent
      ⟨alone, le_rfl, le_rfl, .inl rfl⟩ ⟨own.known, ?_, ?_, own.seen,
        own.current, ?_⟩
    · simp [ConfigTurn.goto]
    · simp [ConfigTurn.goto]
    · intro accepted member honest
      have written : accepted =
          ⟨update, (system.turn client).honest expected⟩ := by
        simpa [ConfigTurn.goto, ConfigPhase.unsaved, eq_comm] using member
      rw [written] at honest
      exact accepted_seen consistent alone (by rw [phase]; rfl) proceeds honest
  | save update accepted =>
    have phase : (system.clients client).phase = .accepted update := accepted
    have alone := consistent.alone client (by rw [phase]; rfl)
    refine consistent_of_exclusive consistent
      ⟨alone, le_rfl, Nat.le_succ _, .inl rfl⟩ ⟨own.known, ?_, ?_, le_rfl,
        ?_, ?_⟩
    · simp [ConfigTurn.goto]
    · simp [ConfigTurn.goto]
    · intro _ read
      exact ⟨rfl, (own.current alone read).2⟩
    · simp [ConfigTurn.goto, ConfigPhase.unsaved]
  | stamp update inFlight unsaved =>
    have later := undisturbed inFlight
    refine consistent_of_keeps consistent ⟨rfl, rfl, inFlight.symm⟩
      ⟨own.known, ?_, ?_, own.seen, own.current, ?_⟩
    · simp [ConfigTurn.goto]
    · intro _ newTs stamped
      simp only [ConfigTurn.goto, ConfigPhase.stamped.injEq] at stamped
      exact stamped.2 ▸ later
    · intro _ member
      exact own.unsaved _ (unsaved.trans (Option.mem_def.mp member))
  | store update newTs persists stamped =>
    have persisted : persists = true := undisturbed
    subst persisted
    exact consistent_store consistent stamped
  | respond newTs stored =>
    have phase : (system.clients client).phase = .stored newTs := stored
    have known := own.stored newTs phase
    refine consistent_of_keeps consistent ⟨rfl, rfl, by rw [phase]; rfl⟩ ?_
    constructor <;>
      simp [ConfigTurn.learn, ConfigSystem.turn, ConfigPhase.unsaved, known]

variable {handler : ConfigHandler} {label : ConfigStep Client Value}

theorem consistent_step (consistent : system.Consistent)
    (undisturbed : system.Undisturbed label) :
    (system.step handler label).Consistent := by
  cases label with
  | tick seconds =>
    exact ⟨consistent.alone, consistent.clients, consistent.first⟩
  | move client move =>
    exact consistent_move consistent undisturbed ConfigTurn.moves_move

omit [DecidableEq Client] in
theorem losesNoUpdate_of_consistent (consistent : system.Consistent)
    (undisturbed : system.Undisturbed label) :
    system.LosesNoUpdate handler label := by
  cases label with
  | tick seconds => trivial
  | move client move =>
    constructor
    · cases move with
      | post expected update =>
        intro idle inFlight carries
        have proceeds := ConfigTurn.proceeds_of_accepted idle inFlight
        have alone := alone_of_proceeds undisturbed proceeds
        exact accepted_current consistent alone proceeds carries
      | _ => trivial
    · intro update unsaved honest _
      exact (consistent.clients client).unsaved update unsaved honest

end Turn

/-! ## The versions over whole runs -/

/-- A GET and a POST of one client that carries what it read. -/
def savesInTurn (client : Fin 2) (read : ℕ)
    (value : ℕ) : List (ConfigStep (Fin 2) ℕ) :=
  [.move client .getSection, .move client .getUpdatedAt,
    .move client (.post (.integer read) fun _ => value), .move client .save,
    .move client .stamp, .move client (.store true), .move client .respond]

end ConfigSystem

end SmarTune
