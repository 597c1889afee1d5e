import SmarTune.Diagnostics.LiveProtections
import SmarTune.Library.Runs

/-!
# Retention of the event ledger

A pruning pass deletes the events older than a cutoff, except those of the
protections that the scan of the control events tells it to retain.
-/

namespace SmarTune

variable {Ts Id : Type*}

/-! ## The pass -/

/-- The cutoff of `delete_older_than`. -/
def retentionCutoff (now days : ℤ) : ℤ := now - max 1 days * 86400

/-- `_protection_ids_to_retain`. -/
def protectionIdsToRetain (ledger : List (OperationalEvent Ts Id))
    (cutoff : ℤ) : List ProtectionId :=
  protectionsWith
    (fun state => state.isUnresolved || decide (cutoff ≤ state.latest)) ledger

/-- The row is older than the cutoff and of no retained protection. -/
def expires (ledger : List (OperationalEvent Ts Id)) (cutoff : ℤ)
    (row : OperationalEvent Ts Id) : Bool :=
  decide (row.createTime < cutoff) && (match row.protectionId with
    | none => true
    | some protectionId =>
      decide (protectionId ∉ protectionIdsToRetain ledger cutoff))

/-- `delete_older_than`, with the number of deleted rows. -/
def deleteOlderThan (ledger : List (OperationalEvent Ts Id))
    (now days : ℤ) : ℕ × List (OperationalEvent Ts Id) :=
  let cutoff := retentionCutoff now days
  (ledger.countP (expires ledger cutoff),
    ledger.filter fun row => !expires ledger cutoff row)

/-- What happens to the ledger. -/
inductive LedgerStep (Ts Id : Type*)
  | record (row : OperationalEvent Ts Id)
  | prune (now days : ℤ)

def ledgerStep (ledger : List (OperationalEvent Ts Id)) :
    LedgerStep Ts Id → List (OperationalEvent Ts Id)
  | .record row => (insertEvent ledger row).2
  | .prune now days => (deleteOlderThan ledger now days).2

/-! ## What a pass keeps -/

variable {ledger : List (OperationalEvent Ts Id)} {cutoff : ℤ}
  {protectionId : ProtectionId} {row : OperationalEvent Ts Id}

theorem mem_protectionIdsToRetain :
    protectionId ∈ protectionIdsToRetain ledger cutoff ↔
      controlRows ledger protectionId ≠ [] ∧
        (protectionId ∈ unresolvedProtectionIds ledger ∨
          cutoff ≤ (tallyOf (controlRows ledger protectionId)).latest) := by
  rw [protectionIdsToRetain, mem_protectionsWith, mem_unresolvedProtectionIds,
    Bool.or_eq_true, decide_eq_true_eq]

theorem expires_iff (owned : row.protectionId = some protectionId) :
    expires ledger cutoff row = true ↔ row.createTime < cutoff ∧
        protectionId ∉ protectionIdsToRetain ledger cutoff := by
  simp [expires, owned]

theorem retained_of_newer (member : row ∈ controlRows ledger protectionId)
    (newer : cutoff ≤ row.createTime) :
    protectionId ∈ protectionIdsToRetain ledger cutoff :=
  mem_protectionIdsToRetain.mpr ⟨List.ne_nil_of_mem member,
    .inr (newer.trans (createTime_le_latest member))⟩

/-! ## Whole lifecycles and live limits -/

/-- The rows of a protection are deleted all or none. -/
def PrunesWhole (ledger : List (OperationalEvent Ts Id)) (cutoff : ℤ) : Prop :=
  ∀ protectionId, (∀ row ∈ ledger, row.protectionId = some protectionId →
        expires ledger cutoff row = false) ∨
      ∀ row ∈ ledger, row.protectionId = some protectionId →
        expires ledger cutoff row = true

variable [LinearOrder Ts] [LinearOrder Id]

/-- A limit of the protection is in force, and no reboot has cleared it. -/
def LimitLive (ledger : List (OperationalEvent Ts Id))
    (protectionId : ProtectionId) : Prop :=
  inForce (controlEntries ledger protectionId) ≠ ∅ ∧
    hasType (controlEntries ledger protectionId)
      .controlLifecycleClearedByReboot = false

/-- No row of a live limit is deleted. -/
def KeepsLive (ledger : List (OperationalEvent Ts Id)) (cutoff : ℤ) : Prop :=
  ∀ protectionId, LimitLive ledger protectionId →
    ∀ row ∈ ledger, row.protectionId = some protectionId →
      expires ledger cutoff row = false

/-- A pass deletes whole protections only, and no live one. -/
def PrunesFaithfully (ledger : List (OperationalEvent Ts Id)) :
    LedgerStep Ts Id → Prop
  | .record _ => True
  | .prune now days =>
    PrunesWhole ledger (retentionCutoff now days) ∧
      KeepsLive ledger (retentionCutoff now days)

/-- An event of another category that is newer than the cutoff belongs to a
retained protection, or to one without older events. -/
def OthersExpireTogether (ledger : List (OperationalEvent Ts Id))
    (cutoff : ℤ) : Prop :=
  ∀ row ∈ ledger, row.category ≠ platformControl → cutoff ≤ row.createTime →
    ∀ protectionId, row.protectionId = some protectionId →
      protectionId ∈ protectionIdsToRetain ledger cutoff ∨
        ∀ other ∈ ledger, other.protectionId = some protectionId →
          cutoff ≤ other.createTime

/-- A live limit whose control events are all old counts as live. -/
def OldLimitsCount (ledger : List (OperationalEvent Ts Id))
    (cutoff : ℤ) : Prop :=
  ∀ protectionId, LimitLive ledger protectionId →
    (tallyOf (controlRows ledger protectionId)).latest < cutoff →
      CountsAsLive (controlEntries ledger protectionId)

/-- The condition on a pass. -/
def PrunableLedger (ledger : List (OperationalEvent Ts Id)) :
    LedgerStep Ts Id → Prop
  | .record _ => True
  | .prune now days =>
    OthersExpireTogether ledger (retentionCutoff now days) ∧
      OldLimitsCount ledger (retentionCutoff now days)

omit [LinearOrder Ts] [LinearOrder Id] in
theorem prunesWhole_iff :
    PrunesWhole ledger cutoff ↔ OthersExpireTogether ledger cutoff := by
  constructor
  · intro whole row member _ newer protectionId owned
    by_cases retained : protectionId ∈ protectionIdsToRetain ledger cutoff
    · exact .inl retained
    · right
      intro other otherMember otherOwned
      have kept : expires ledger cutoff row ≠ true := by
        rw [ne_eq, expires_iff owned]
        omega
      rcases whole protectionId with all | none
      · by_contra older
        have deleted := (expires_iff otherOwned).mpr ⟨not_le.mp older, retained⟩
        simp [all other otherMember otherOwned] at deleted
      · exact absurd (none row member owned) kept
  · intro together protectionId
    by_cases retained : protectionId ∈ protectionIdsToRetain ledger cutoff
    · left
      intro row _ owned
      rw [← Bool.not_eq_true, expires_iff owned]
      exact fun expired => expired.2 retained
    · by_cases newer : ∃ row ∈ ledger,
          row.protectionId = some protectionId ∧ cutoff ≤ row.createTime
      · obtain ⟨row, member, owned, new⟩ := newer
        have foreign : row.category ≠ platformControl := by
          intro control
          have counted : row ∈ controlRows ledger protectionId :=
            mem_controlRows.mpr ⟨member, control, owned⟩
          exact retained (retained_of_newer counted new)
        have all := (together row member foreign new protectionId
          owned).resolve_left retained
        left
        intro other otherMember otherOwned
        rw [← Bool.not_eq_true, expires_iff otherOwned]
        exact fun expired =>
          absurd expired.1 (not_lt.mpr (all other otherMember otherOwned))
      · right
        intro row member owned
        refine (expires_iff owned).mpr ⟨?_, retained⟩
        by_contra new
        exact newer ⟨row, member, owned, not_lt.mp new⟩

theorem exists_controlRow_of_live (live : LimitLive ledger protectionId) :
    ∃ row, row ∈ controlRows ledger protectionId := by
  apply List.exists_mem_of_ne_nil
  intro nothing
  have same : (controlEntries ledger protectionId).Perm [] :=
    nothing ▸ controlEntries_perm
  have empty := same.eq_nil
  have held := live.1
  rw [empty] at held
  exact held rfl

theorem keepsLive_iff :
    KeepsLive ledger cutoff ↔ OldLimitsCount ledger cutoff := by
  constructor
  · intro keeps protectionId live old
    obtain ⟨row, counted⟩ := exists_controlRow_of_live live
    obtain ⟨member, _, owned⟩ := mem_controlRows.mp counted
    have kept := keeps protectionId live row member owned
    have expired : row.createTime < cutoff :=
      (createTime_le_latest counted).trans_lt old
    rw [← Bool.not_eq_true, expires_iff owned, not_and_not_right] at kept
    have retained := mem_protectionIdsToRetain.mp (kept expired)
    have unresolved := retained.2.resolve_right (not_le.mpr old)
    exact (mem_unresolvedProtectionIds_iff_counts.mp unresolved).2
  · intro counts protectionId live row member owned
    rw [← Bool.not_eq_true, expires_iff owned]
    rintro ⟨_, dropped⟩
    obtain ⟨counted, isCounted⟩ := exists_controlRow_of_live live
    apply dropped
    refine mem_protectionIdsToRetain.mpr ⟨List.ne_nil_of_mem isCounted, ?_⟩
    by_cases old : (tallyOf (controlRows ledger protectionId)).latest < cutoff
    · left
      exact mem_unresolvedProtectionIds_iff_counts.mpr
        ⟨live.2, counts protectionId live old⟩
    · exact .inr (not_lt.mp old)

/-- In every run, every pass deletes whole protections and no live one exactly
when every pass meets a prunable ledger. -/
theorem retention_faithful_iff (ledger : List (OperationalEvent Ts Id))
    (labels : List (LedgerStep Ts Id)) :
    Runs.EveryStep ledgerStep PrunesFaithfully ledger labels ↔
      Runs.EveryStep ledgerStep PrunableLedger ledger labels := by
  apply Runs.everyStep_congr
  intro ledger label
  cases label with
  | record row => exact Iff.rfl
  | prune now days => exact and_congr prunesWhole_iff keepsLive_iff

/-- A reclaim reported under the protection, newer than its lifecycle. -/
def laterReclaim : OperationalEvent ℕ ℕ :=
  EventRequest.row
    { eventType := .resourceMemoryReclaim .applied
      category := "resource.memory"
      summary := "Reclaimed memory"
      resourceType := some "memory"
      protectionId := some ⟨.auto, "app", "app.scope", 0⟩ }
    (some "boot") ⟨500, 500, 500⟩

/-- A limit whose restore failed is deleted while in force, and a lifecycle
with a later reclaim loses its control events only. -/
theorem retention_deletes_live_and_partial :
    ¬ Runs.EveryStep ledgerStep PrunesFaithfully
        (cpuLimitEvents [.applied, .failed]) [.prune 86500 1] ∧
      ¬ Runs.EveryStep ledgerStep PrunesFaithfully
        (cpuLimitEvents [.applied, .recovered])
        [.record laterReclaim, .prune 86500 1] := by
  constructor
  · rintro ⟨⟨_, keeps⟩, _⟩
    have kept := keeps ⟨.auto, "app", "app.scope", 0⟩
      (by unfold LimitLive; decide)
    have first := kept ((cpuLimitEvents [.applied, .failed]).get ⟨0, by decide⟩)
      (List.get_mem _ _) rfl
    revert first
    decide
  · rintro ⟨_, ⟨whole, _⟩, _⟩
    rcases whole ⟨.auto, "app", "app.scope", 0⟩ with all | none
    · have first := all ((cpuLimitEvents [.applied, .recovered]).get
        ⟨0, by decide⟩) (by decide) rfl
      revert first
      decide
    · have last := none laterReclaim (by decide) rfl
      revert last
      decide

end SmarTune
