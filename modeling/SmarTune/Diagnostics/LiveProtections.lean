import SmarTune.Diagnostics.ControlLifecycle
import SmarTune.Library.OpenBook

/-!
# Live protections, twice

The ledger decides whether a protection is live in two ways: a scan counts
APPLIED events against terminal ones, and a summary takes the latest action of
each resource.  Counted from the events in force, the two agree unless failed,
void or repeated actions outweigh the limits in force.
-/

namespace SmarTune

variable {Ts Id : Type*}

/-! ## The scan -/

/-- What the scan counts for one protection. -/
structure LifecycleTally where
  applied : ℕ
  closed : ℕ
  rebooted : Bool
  latest : ℤ
  deriving DecidableEq

namespace LifecycleTally

/-- The tally of a protection that has not been seen yet. -/
def empty : LifecycleTally := ⟨0, 0, false, 0⟩

/-- Count one row. -/
def add (state : LifecycleTally)
    (row : OperationalEvent Ts Id) : LifecycleTally :=
  let counted :=
    match row.eventType.suffix with
    | some .applied => { state with applied := state.applied + 1 }
    | some .recovered | some .failed =>
      { state with closed := state.closed + 1 }
    | none =>
      if row.eventType = EventType.controlLifecycleClearedByReboot then
        { state with rebooted := true }
      else state
  { counted with latest := max state.latest row.createTime }

/-- `_is_unresolved`. -/
def isUnresolved (state : LifecycleTally) : Bool :=
  !state.rebooted && decide (state.closed < state.applied)

end LifecycleTally

/-- The rows the scan selects, with the protection they belong to. -/
def OperationalEvent.controlProtection
    (row : OperationalEvent Ts Id) : Option ProtectionId :=
  if row.category = platformControl then row.protectionId else none

/-- `_scan_control_lifecycles`. -/
def scanControlLifecycles (ledger : List (OperationalEvent Ts Id)) :
    OrderedDict ProtectionId LifecycleTally :=
  ledger.foldl (fun stats row =>
      match row.controlProtection with
      | none => stats
      | some protectionId =>
        stats.set protectionId
          (((stats.get? protectionId).getD .empty).add row))
    .empty

def protectionsWith (choose : LifecycleTally → Bool)
    (ledger : List (OperationalEvent Ts Id)) : List ProtectionId :=
  (scanControlLifecycles ledger).entries.filterMap fun entry =>
    if choose entry.2 then some entry.1 else none

/-- `unresolved_protection_ids`. -/
def unresolvedProtectionIds (ledger : List (OperationalEvent Ts Id)) :
    List ProtectionId :=
  protectionsWith LifecycleTally.isUnresolved ledger

def controlRows (ledger : List (OperationalEvent Ts Id))
    (protectionId : ProtectionId) : List (OperationalEvent Ts Id) :=
  ledger.filter fun row => row.controlProtection = some protectionId

theorem mem_controlRows {ledger : List (OperationalEvent Ts Id)}
    {protectionId : ProtectionId} {row : OperationalEvent Ts Id} :
    row ∈ controlRows ledger protectionId ↔
      row ∈ ledger ∧ row.category = platformControl ∧
        row.protectionId = some protectionId := by
  rw [controlRows, List.mem_filter, OperationalEvent.controlProtection,
    decide_eq_true_eq]
  split <;> simp_all

def tallyOf (rows : List (OperationalEvent Ts Id)) : LifecycleTally :=
  rows.foldl LifecycleTally.add .empty

theorem get?_scanControlLifecycles (ledger : List (OperationalEvent Ts Id))
    (protectionId : ProtectionId) :
    (scanControlLifecycles ledger).get? protectionId =
      if controlRows ledger protectionId = [] then none
      else some (tallyOf (controlRows ledger protectionId)) := by
  induction ledger using List.reverseRecOn with
  | nil => rfl
  | append_singleton ledger row ih =>
    have counted : scanControlLifecycles (ledger ++ [row]) =
        match row.controlProtection with
        | none => scanControlLifecycles ledger
        | some other =>
          (scanControlLifecycles ledger).set other
            ((((scanControlLifecycles ledger).get? other).getD .empty).add
              row) := by
      rw [scanControlLifecycles, List.foldl_append]
      rfl
    have rows : controlRows (ledger ++ [row]) protectionId =
        controlRows ledger protectionId ++
          if row.controlProtection = some protectionId then [row] else [] := by
      rw [controlRows, List.filter_append]
      by_cases own : row.controlProtection = some protectionId <;>
        simp [own, controlRows]
    rw [counted, rows]
    cases named : row.controlProtection with
    | none => simpa using ih
    | some other =>
      by_cases same : protectionId = other
      · subst same
        simp only [OrderedDict.get?_set_self, ih, if_true,
          List.append_eq_nil_iff, List.cons_ne_self, and_false, if_false]
        by_cases fresh : controlRows ledger protectionId = []
        · simp [fresh, tallyOf]
        · simp [fresh, tallyOf, List.foldl_append]
      · have foreign : some other ≠ some protectionId :=
          fun equal => same (Option.some.inj equal).symm
        simp only [foreign, if_false, List.append_nil]
        rw [OrderedDict.get?_set_of_ne _ _ same, ih]

/-! ## What the tally counts -/

def failures (rows : List (OperationalEvent Ts Id)) : ℕ :=
  rows.countP fun row => row.actionFor = some .failed

/-- Whether an event puts a limit in force or lifts it. -/
def OperationalEvent.limitMark
    (event : OperationalEvent Ts Id) : Option (String × Bool) :=
  match event.actionFor with
  | some .applied => some (event.resourceFor, true)
  | some .recovered => some (event.resourceFor, false)
  | some .failed | none => none

theorem any_limitMark_opens (event : OperationalEvent Ts Id) :
    event.limitMark.any Prod.snd = decide (event.actionFor = some .applied) := by
  unfold OperationalEvent.limitMark
  rcases event.actionFor with _ | _ | _ | _ <;> rfl

theorem any_limitMark_closes (event : OperationalEvent Ts Id) :
    (event.limitMark.any fun entry => !entry.2) =
      decide (event.actionFor = some .recovered) := by
  unfold OperationalEvent.limitMark
  rcases event.actionFor with _ | _ | _ | _ <;> rfl

namespace LifecycleTally

variable (state : LifecycleTally) (row : OperationalEvent Ts Id)

theorem add_applied :
    (state.add row).applied =
      state.applied + if row.actionFor = some .applied then 1 else 0 := by
  unfold add OperationalEvent.actionFor
  rcases row.eventType.suffix with _ | _ | _ | _
  · simp only [reduceCtorEq, if_false, Nat.add_zero]
    split <;> rfl
  all_goals rfl

theorem add_closed :
    (state.add row).closed =
      state.closed + (if row.actionFor = some .recovered then 1 else 0) +
        if row.actionFor = some .failed then 1 else 0 := by
  unfold add OperationalEvent.actionFor
  rcases row.eventType.suffix with _ | _ | _ | _
  · simp only [reduceCtorEq, if_false, Nat.add_zero]
    split <;> rfl
  all_goals rfl

theorem add_rebooted :
    (state.add row).rebooted = (state.rebooted ||
        decide (row.eventType = .controlLifecycleClearedByReboot)) := by
  unfold add
  by_cases marker : row.eventType = .controlLifecycleClearedByReboot
  · simp [marker, EventType.suffix]
  · rcases row.eventType.suffix with _ | _ | _ | _ <;> simp [marker]

end LifecycleTally

theorem tallyOf_concat (rows : List (OperationalEvent Ts Id))
    (row : OperationalEvent Ts Id) :
    tallyOf (rows ++ [row]) = (tallyOf rows).add row := by
  rw [tallyOf, List.foldl_append]
  rfl

theorem tallyOf_applied (rows : List (OperationalEvent Ts Id)) :
    (tallyOf rows).applied =
      OpenBook.openings OperationalEvent.limitMark rows := by
  simp only [OpenBook.openings, any_limitMark_opens]
  induction rows using List.reverseRecOn with
  | nil => rfl
  | append_singleton rows row ih =>
    rw [tallyOf_concat, LifecycleTally.add_applied, ih,
      List.countP_append, List.countP_singleton]
    simp only [decide_eq_true_eq]

theorem tallyOf_closed (rows : List (OperationalEvent Ts Id)) :
    (tallyOf rows).closed =
      OpenBook.closings OperationalEvent.limitMark rows + failures rows := by
  simp only [OpenBook.closings, any_limitMark_closes, failures]
  induction rows using List.reverseRecOn with
  | nil => rfl
  | append_singleton rows row ih =>
    rw [tallyOf_concat, LifecycleTally.add_closed, ih,
      List.countP_append, List.countP_append, List.countP_singleton,
      List.countP_singleton]
    simp only [decide_eq_true_eq]
    omega

theorem tallyOf_rebooted (rows : List (OperationalEvent Ts Id)) :
    (tallyOf rows).rebooted =
      hasType rows .controlLifecycleClearedByReboot := by
  induction rows using List.reverseRecOn with
  | nil => rfl
  | append_singleton rows row ih =>
    rw [tallyOf_concat, LifecycleTally.add_rebooted, ih,
      hasType, hasType, List.any_append]
    simp

theorem createTime_le_latest {rows : List (OperationalEvent Ts Id)}
    {row : OperationalEvent Ts Id} (member : row ∈ rows) :
    row.createTime ≤ (tallyOf rows).latest := by
  induction rows using List.reverseRecOn with
  | nil => cases member
  | append_singleton rows last ih =>
    rw [tallyOf_concat]
    rcases List.mem_append.mp member with earlier | newest
    · exact (ih earlier).trans (le_max_left _ _)
    · rw [List.mem_singleton.mp newest]
      exact le_max_right _ _

variable {ledger : List (OperationalEvent Ts Id)} {protectionId : ProtectionId}

theorem mem_protectionsWith {choose : LifecycleTally → Bool} :
    protectionId ∈ protectionsWith choose ledger ↔
      controlRows ledger protectionId ≠ [] ∧
        choose (tallyOf (controlRows ledger protectionId)) = true := by
  have scanned := get?_scanControlLifecycles ledger protectionId
  constructor
  · intro member
    obtain ⟨⟨other, state⟩, stored, listed⟩ := List.mem_filterMap.mp member
    by_cases chosen : choose state = true
    · rw [if_pos chosen] at listed
      cases listed
      have found := (OrderedDict.get?_eq_some_iff _ _ _).mpr stored
      rw [scanned] at found
      split at found
      · cases found
      · rename_i present
        rw [Option.some.inj found]
        exact ⟨present, chosen⟩
    · simp [chosen] at listed
  · rintro ⟨present, chosen⟩
    rw [if_neg present] at scanned
    apply List.mem_filterMap.mpr
    exact ⟨_, (OrderedDict.get?_eq_some_iff _ _ _).mp scanned, if_pos chosen⟩

/-- A protection is unresolved when its control events hold more applications
than terminal actions and no reboot marker. -/
theorem mem_unresolvedProtectionIds :
    protectionId ∈ unresolvedProtectionIds ledger ↔
      (tallyOf (controlRows ledger protectionId)).isUnresolved = true := by
  refine mem_protectionsWith.trans (and_iff_right_of_imp ?_)
  intro unresolved none
  rw [none] at unresolved
  cases unresolved

/-! ## The limits in force -/

/-- The resources applied and not recovered since. -/
def inForce (entries : List (OperationalEvent Ts Id)) : Finset String :=
  OpenBook.after OperationalEvent.limitMark ∅ entries

theorem valueFor_actionEntry (event : OperationalEvent Ts Id)
    (resource : String) :
    Latest.valueFor OperationalEvent.actionEntry resource event =
      if event.resourceFor = resource then event.actionFor else none := by
  unfold Latest.valueFor OperationalEvent.actionEntry
  cases event.actionFor <;> simp

theorem limitMark_eq_some_iff {event : OperationalEvent Ts Id}
    {resource : String} {opens : Bool} :
    event.limitMark = some (resource, opens) ↔ event.resourceFor = resource ∧
        event.actionFor = some (if opens then .applied else .recovered) := by
  unfold OperationalEvent.limitMark
  rcases event.actionFor with _ | _ | _ | _ <;> cases opens <;> simp

/-- An active resource has its limit in force, and a limit in force was neither
recovered last nor never touched. -/
theorem latest_of_inForce (entries : List (OperationalEvent Ts Id))
    (resource : String) :
    (Latest.latest OperationalEvent.actionEntry entries resource =
        some .applied → resource ∈ inForce entries) ∧
      (resource ∈ inForce entries →
        Latest.latest OperationalEvent.actionEntry entries resource =
            some .applied ∨
          Latest.latest OperationalEvent.actionEntry entries resource =
            some .failed) := by
  induction entries using List.reverseRecOn with
  | nil => simp [inForce]
  | append_singleton entries event ih =>
    rw [Latest.latest_concat, inForce, OpenBook.after_concat, ← inForce,
      OpenBook.mem_next, valueFor_actionEntry, limitMark_eq_some_iff, ne_eq,
      limitMark_eq_some_iff]
    by_cases own : event.resourceFor = resource
    · rcases action : event.actionFor with _ | _ | _ | _
      · simpa [own] using ih
      · simp [own]
      · simp [own]
      · simp [own]
    · simpa [own] using ih

/-- A summary reports a limit as active, or its restore as failed. -/
theorem reported_iff_inForce_nonempty
    (entries : List (OperationalEvent Ts Id)) :
    (resourcesWithLatest entries .applied ≠ [] ∨
        ∃ resource ∈ resourcesWithLatest entries .failed,
          resource ∈ inForce entries) ↔
      inForce entries ≠ ∅ := by
  rw [← Finset.nonempty_iff_ne_empty]
  constructor
  · rintro (active | ⟨resource, _, held⟩)
    · obtain ⟨resource, listed⟩ := List.exists_mem_of_ne_nil _ active
      exact ⟨resource, (latest_of_inForce entries resource).1
        (mem_resourcesWithLatest.mp listed)⟩
    · exact ⟨resource, held⟩
  · rintro ⟨resource, held⟩
    rcases (latest_of_inForce entries resource).2 held with active | failed
    · exact .inl (List.ne_nil_of_mem (mem_resourcesWithLatest.mpr active))
    · exact .inr ⟨resource, mem_resourcesWithLatest.mpr failed, held⟩

def cpuLimitEvents (actions : List ControlAction) :
    List (OperationalEvent ℕ ℕ) :=
  actions.zipIdx.map fun entry =>
    EventRequest.row
      { eventType := .controlLimit .cpu entry.1
        category := platformControl
        summary := "Cpu limit"
        resourceType := some "cpu"
        protectionId := some ⟨.auto, "app", "app.scope", 0⟩
        attributes := { bootId := some "boot" } }
      (some "boot") ⟨entry.2, entry.2, entry.2⟩

/-! ## The two readings -/

section Agreement

variable [LinearOrder Ts] [LinearOrder Id]

/-- The events that summaries of the control ledger are built from. -/
def controlEvents (ledger : List (OperationalEvent Ts Id)) :
    List (OperationalEvent Ts Id) :=
  ledger.filter fun event => event.category = platformControl

/-- A summary reports the protection with an active resource, or with a restore
failure not followed by a recovery, and not as cleared. -/
def ReportedLive (ledger : List (OperationalEvent Ts Id))
    (protectionId : ProtectionId) : Prop :=
  ∃ lifecycle ∈ summarize (controlEvents ledger),
    lifecycle.protectionId = protectionId ∧ (lifecycle.activeResources ≠ [] ∨
        ∃ resource ∈ lifecycle.failedResources,
          resource ∈ inForce lifecycle.events) ∧
      lifecycle.status ≠ .clearedByReboot ∧
      lifecycle.status ≠ .clearedWithoutRuntimeState

/-- The control events of a protection, oldest first. -/
def controlEntries (ledger : List (OperationalEvent Ts Id))
    (protectionId : ProtectionId) : List (OperationalEvent Ts Id) :=
  entriesFor (controlEvents ledger) protectionId

/-- The limits in force and the applications of a resource in force outnumber
the failures and the recoveries of a resource not in force. -/
def CountsAsLive (entries : List (OperationalEvent Ts Id)) : Prop :=
  OpenBook.voids OperationalEvent.limitMark ∅ entries + failures entries <
    (inForce entries).card + OpenBook.repeats OperationalEvent.limitMark ∅ entries

/-- After a reboot marker anything goes; before one, the entries count as live
exactly when a limit is in force and no marker says that its state is gone. -/
def CountsFaithfully (entries : List (OperationalEvent Ts Id)) : Prop :=
  hasType entries .controlLifecycleClearedByReboot = true ∨
    if hasType entries .controlLifecycleClearedWithoutRuntimeState = false ∧
        inForce entries ≠ ∅ then CountsAsLive entries
    else ¬ CountsAsLive entries

instance (entries : List (OperationalEvent Ts Id)) :
    Decidable (CountsAsLive entries) :=
  inferInstanceAs (Decidable (_ < _))

variable {ledger : List (OperationalEvent Ts Id)} {protectionId : ProtectionId}

theorem controlEntries_perm :
    (controlEntries ledger protectionId).Perm
      (controlRows ledger protectionId) := by
  refine (Latest.chronological_perm _ _).trans (.of_eq ?_)
  rw [controlEvents, List.filter_filter, controlRows]
  congr 1
  funext event
  unfold OperationalEvent.controlProtection
  by_cases control : event.category = platformControl <;> simp [control]

theorem mem_unresolvedProtectionIds_iff_counts :
    protectionId ∈ unresolvedProtectionIds ledger ↔
      hasType (controlEntries ledger protectionId)
          .controlLifecycleClearedByReboot = false ∧
        CountsAsLive (controlEntries ledger protectionId) := by
  have same : (controlEntries ledger protectionId).Perm
      (controlRows ledger protectionId) := controlEntries_perm
  have balance := OpenBook.card_after OperationalEvent.limitMark ∅
    (controlEntries ledger protectionId)
  have rebooted : hasType (controlEntries ledger protectionId)
        .controlLifecycleClearedByReboot =
      hasType (controlRows ledger protectionId)
        .controlLifecycleClearedByReboot := same.any_eq
  have opened : OpenBook.openings OperationalEvent.limitMark
        (controlEntries ledger protectionId) =
      OpenBook.openings OperationalEvent.limitMark
        (controlRows ledger protectionId) := same.countP_eq _
  have closed : OpenBook.closings OperationalEvent.limitMark
        (controlEntries ledger protectionId) =
      OpenBook.closings OperationalEvent.limitMark
        (controlRows ledger protectionId) := same.countP_eq _
  have failed : failures (controlEntries ledger protectionId) =
      failures (controlRows ledger protectionId) := same.countP_eq _
  rw [mem_unresolvedProtectionIds, LifecycleTally.isUnresolved,
    tallyOf_applied, tallyOf_closed, tallyOf_rebooted, rebooted, Bool.and_eq_true,
    Bool.not_eq_true', decide_eq_true_eq, CountsAsLive, failed, inForce]
  rw [Finset.card_empty] at balance
  apply and_congr_right
  intro _
  omega

/-- A summary reports a protection live when a limit is in force and no marker
says otherwise. -/
theorem reportedLive_iff :
    ReportedLive ledger protectionId ↔
      inForce (controlEntries ledger protectionId) ≠ ∅ ∧
        hasType (controlEntries ledger protectionId)
          .controlLifecycleClearedByReboot = false ∧
        hasType (controlEntries ledger protectionId)
          .controlLifecycleClearedWithoutRuntimeState = false := by
  constructor
  · rintro ⟨lifecycle, member, rfl, reported, status⟩
    rw [(mem_summarize.mp member).2] at reported status
    exact ⟨(reported_iff_inForce_nonempty _).mp reported,
      (lifecycleStatus_uncleared_iff _).mp status⟩
  · rintro ⟨held, markers⟩
    obtain ⟨event, entry⟩ : ∃ event,
        event ∈ controlEntries ledger protectionId := by
      apply List.exists_mem_of_ne_nil
      intro nothing
      rw [nothing] at held
      exact held rfl
    exact ⟨lifecycleOf protectionId (controlEntries ledger protectionId),
      mem_summarize.mpr ⟨⟨event, mem_entriesFor.mp entry⟩, rfl⟩, rfl,
      (reported_iff_inForce_nonempty _).mpr held,
      (lifecycleStatus_uncleared_iff _).mpr markers⟩

/-- The scan and the summary agree on a protection exactly when its events
count faithfully. -/
theorem live_protections_agree_iff (ledger : List (OperationalEvent Ts Id))
    (protectionId : ProtectionId) :
    (protectionId ∈ unresolvedProtectionIds ledger ↔
        ReportedLive ledger protectionId) ↔
      CountsFaithfully (controlEntries ledger protectionId) := by
  rw [mem_unresolvedProtectionIds_iff_counts, reportedLive_iff,
    CountsFaithfully]
  cases hasType (controlEntries ledger protectionId)
    .controlLifecycleClearedByReboot
  · simp only [true_and, reduceCtorEq, false_or]
    split
    · rename_i live
      simp [live]
    · rename_i idle
      constructor
      · intro agree counts
        have reported := agree.mp counts
        exact idle ⟨reported.2, reported.1⟩
      · intro uncounted
        constructor
        · intro counts
          exact absurd counts uncounted
        · rintro ⟨held, cleared⟩
          exact absurd ⟨cleared, held⟩ idle
  · simp

/-- A restore that fails leaves the limit in force, but closes the count. -/
theorem failed_restore_is_not_unresolved :
    ¬ ((⟨.auto, "app", "app.scope", 0⟩ : ProtectionId) ∈ unresolvedProtectionIds
            (cpuLimitEvents [.applied, .failed]) ↔
        ReportedLive (cpuLimitEvents [.applied, .failed])
          ⟨.auto, "app", "app.scope", 0⟩) := by
  rw [mem_unresolvedProtectionIds_iff_counts, reportedLive_iff]
  decide

end Agreement

end SmarTune
