import SmarTune.Library.SavedCopies
import SmarTune.Network.Pressure

/-!
# Receive escalation

Each escalated NIC has its own copy of the files it changed: the masks of its
queues, and the sysctls, which it shares with the others.  The oldest copy of a
file, or its value, is the one before escalation, provided that a mask that
cannot be read is `"0"` and that a NIC that saved a file first leaves last.
-/

namespace SmarTune

namespace RxEscalation

def savedAt (state : RxEscalation) (path : RxFile) : Option String :=
  (state.rps.get? path).or (state.sysctl.get? path)

/-- The files that were saved. -/
def paths (state : RxEscalation) : List RxFile :=
  state.rps.keys ++ state.sysctl.keys

theorem mem_paths_of_savedAt {state : RxEscalation} {path : RxFile}
    {value : String} (saved : state.savedAt path = some value) :
    path ∈ state.paths := by
  rw [paths, List.mem_append]
  rcases Option.or_eq_some_iff.mp saved with rps | ⟨-, sysctl⟩
  · exact .inl (List.mem_map_of_mem
      ((OrderedDict.get?_eq_some_iff _ _ _).mp rps))
  · exact .inr (List.mem_map_of_mem
      ((OrderedDict.get?_eq_some_iff _ _ _).mp sysctl))

/-- An escalation in progress, which saved no file twice. -/
structure Tidy (state : RxEscalation) : Prop where
  active : state.active = true
  once : ∀ path, state.rps.get? path = none ∨ state.sysctl.get? path = none

end RxEscalation

namespace NetworkController

variable {controller : NetworkController} {config : NetworkConfig}

/-! ## Escalating -/

/-- What was found is saved, at keys of one kind, and nothing else changed. -/
structure SavesInto (kind : RxFile → Prop) (before : RxFile → String)
    (result : (RxFile → String) × OrderedDict RxFile String) : Prop where
  kind : ∀ path value, result.2.get? path = some value → kind path
  saved : ∀ path value, result.2.get? path = some value → value = before path
  unsaved : ∀ path, result.2.get? path = none → result.1 path = before path

section SavesInto

variable {kind : RxFile → Prop} {before : RxFile → String}
  {result : (RxFile → String) × OrderedDict RxFile String}

theorem savesInto_empty (kind : RxFile → Prop) (before : RxFile → String) :
    SavesInto kind before (before, .empty) :=
  ⟨fun _ _ absent => (nomatch absent), fun _ _ absent => (nomatch absent),
    fun _ _ => rfl⟩

theorem writeFile_of_ne (environment : RxEnvironment) (files : RxFile → String)
    {path other : RxFile} (different : other ≠ path) (value : String) :
    writeFile environment files path value other = files other := by
  unfold writeFile
  split
  · exact Function.update_of_ne different _ _
  · rfl

theorem SavesInto.write (saves : SavesInto kind before result) {path : RxFile}
    {old : String} (found : result.2.get? path = some old)
    (environment : RxEnvironment) (value : String) :
    SavesInto kind before
      (writeFile environment result.1 path value, result.2) := by
  refine ⟨saves.kind, saves.saved, fun other absent => ?_⟩
  have different : other ≠ path := by
    rintro rfl
    rw [found] at absent
    cases absent
  exact (writeFile_of_ne environment result.1 different value).trans
    (saves.unsaved other absent)

theorem SavesInto.save (saves : SavesInto kind before result) {path : RxFile}
    (isKind : kind path) {value : String} (same : value = before path) :
    SavesInto kind before (result.1, result.2.set path value) := by
  refine ⟨?_, ?_, ?_⟩
  · intro other held found
    rcases OrderedDict.get?_set_eq_some_iff.mp found with
      ⟨rfl, -⟩ | ⟨-, before⟩
    · exact isKind
    · exact saves.kind other held before
  · intro other held found
    rcases OrderedDict.get?_set_eq_some_iff.mp found with
      ⟨rfl, rfl⟩ | ⟨-, before⟩
    · exact same
    · exact saves.saved other held before
  · intro other absent
    rw [OrderedDict.get?_set] at absent
    split at absent
    · cases absent
    · exact saves.unsaved other absent

theorem SavesInto.escalateQueue {environment : RxEnvironment} {dev : String}
    (saves : SavesInto (fun path => ∃ queue, path = .rpsCpus dev queue) before
      result)
    {queue : Nat}
    (readable : environment.readable (.rpsCpus dev queue) ∨
      before (.rpsCpus dev queue) = "0") :
    SavesInto (fun path => ∃ queue, path = .rpsCpus dev queue) before
      (escalateQueue environment dev result queue) := by
  simp only [NetworkController.escalateQueue]
  cases found : result.2.get? (.rpsCpus dev queue) with
  | some old =>
    rw [Option.isSome_some, if_pos rfl]
    exact saves.write found environment _
  | none =>
    have value : (if environment.readable (.rpsCpus dev queue) then
        result.1 (.rpsCpus dev queue) else "0") =
        before (.rpsCpus dev queue) := by
      split
      · exact saves.unsaved _ found
      · next unreadable =>
        exact (readable.resolve_left (by simpa using unreadable)).symm
    have saved := saves.save ⟨queue, rfl⟩ value
    rw [Option.isSome_none, if_neg Bool.false_ne_true]
    exact saved.write (OrderedDict.get?_set_self ..) environment _

theorem SavesInto.escalateSysctl (saves : SavesInto kind before result)
    (environment : RxEnvironment) {bump : RxFile × String}
    (isKind : kind bump.1) :
    SavesInto kind before (escalateSysctl environment result bump) := by
  unfold NetworkController.escalateSysctl
  cases found : result.2.get? bump.1 with
  | some old =>
    rw [Option.isSome_some, if_pos rfl]
    exact saves.write found environment _
  | none =>
    rw [Option.isSome_none, if_neg Bool.false_ne_true]
    split
    · have saved := saves.save isKind (saves.unsaved _ found)
      exact saved.write (OrderedDict.get?_set_self ..) environment _
    · exact saves

theorem savesInto_queues (config : NetworkConfig) {environment : RxEnvironment}
    {dev : String}
    (readable : config.policy.enableRpsEscalation = true →
      ∀ queue ∈ environment.queues dev,
        environment.readable (.rpsCpus dev queue) ∨
          before (.rpsCpus dev queue) = "0") :
    SavesInto (fun path => ∃ queue, path = .rpsCpus dev queue) before
      (if config.policy.enableRpsEscalation then
        (environment.queues dev).foldl (escalateQueue environment dev)
          (before, .empty)
      else (before, .empty)) := by
  split
  · next enabled =>
    exact List.foldlRecOn _ (escalateQueue environment dev)
      (savesInto_empty _ _) fun _ saves queue listed =>
        saves.escalateQueue (readable enabled queue listed)
  · exact savesInto_empty _ _

theorem savesInto_sysctls (config : NetworkConfig) (environment : RxEnvironment)
    (before : RxFile → String) :
    SavesInto (· ∈ sysctlBumps.map Prod.fst) before
      (if config.policy.enableNetdevBudgetBump then
        sysctlBumps.foldl (escalateSysctl environment) (before, .empty)
      else (before, .empty)) := by
  split
  · exact List.foldlRecOn _ (escalateSysctl environment)
      (savesInto_empty _ _) fun _ saves bump listed =>
        saves.escalateSysctl environment (List.mem_map_of_mem listed)
  · exact savesInto_empty _ _

theorem SavesInto.saves {other : RxFile → Prop}
    {later : (RxFile → String) × OrderedDict RxFile String}
    (first : SavesInto kind before result)
    (second : SavesInto other result.1 later) :
    SavedCopies.Saves (RxEscalation.savedAt ⟨result.2, later.2, true⟩) before
      later.1 := by
  intro path
  simp only [RxEscalation.savedAt]
  cases mask : result.2.get? path with
  | some value => exact first.saved path value mask
  | none =>
    rw [Option.none_or]
    have unchanged := first.unsaved path mask
    cases sysctl : later.2.get? path with
    | some value => exact (second.saved path value sysctl).trans unchanged
    | none => exact (second.unsaved path sysctl).trans unchanged

end SavesInto

/-- The copies of the escalated NICs, the oldest first. -/
def copies (controller : NetworkController) : List (RxFile → Option String) :=
  controller.rxEscalationState.entries.map fun entry => entry.2.savedAt

/-- The files as they were before escalation. -/
def originalFiles (controller : NetworkController) : RxFile → String :=
  SavedCopies.original controller.copies controller.files

/-- Every escalation is in progress. -/
def TidyEscalations (controller : NetworkController) : Prop :=
  ∀ dev state, controller.rxEscalationState.get? dev = some state → state.Tidy

/-- A mask that is saved can be read, or is the one saved instead. -/
def ReadsMasks (config : NetworkConfig) (controller : NetworkController)
    (environment : RxEnvironment) (dev : String) : Prop :=
  controller.rxEscalationState.get? dev = none →
    config.policy.enableRpsEscalation = true →
    ∀ queue ∈ environment.queues dev,
      environment.readable (.rpsCpus dev queue) = true ∨
        controller.files (.rpsCpus dev queue) = "0"

variable {dev : String} {state : RxEscalation} {environment : RxEnvironment}

/-- An escalation already in progress is left alone. -/
theorem escalateRx_of_some (environment : RxEnvironment)
    (found : controller.rxEscalationState.get? dev = some state)
    (tidy : state.Tidy) :
    controller.escalateRx config environment dev = controller := by
  simp only [escalateRx, escalationOf, found, Option.getD_some]
  rw [if_pos tidy.active]

theorem escalateRx_of_none
    (absent : controller.rxEscalationState.get? dev = none)
    (reads : ReadsMasks config controller environment dev) :
    ∃ state, (controller.escalateRx config environment dev).rxEscalationState =
        controller.rxEscalationState.set dev state ∧
      state.Tidy ∧
      SavedCopies.Saves state.savedAt controller.files
        (controller.escalateRx config environment dev).files := by
  simp only [escalateRx, escalationOf, absent, Option.getD_none,
    Bool.false_eq_true, if_false]
  have queues := savesInto_queues config (reads absent)
  generalize (if config.policy.enableRpsEscalation then
    (environment.queues dev).foldl (escalateQueue environment dev)
      (controller.files, .empty)
    else (controller.files, .empty)) = masked at queues
  have sysctls := savesInto_sysctls config environment masked.1
  generalize (if config.policy.enableNetdevBudgetBump then
    sysctlBumps.foldl (escalateSysctl environment) (masked.1, .empty)
    else (masked.1, .empty)) = bumped at sysctls
  refine ⟨⟨masked.2, bumped.2, true⟩, rfl, ⟨rfl, ?_⟩, queues.saves sysctls⟩
  intro path
  rw [or_iff_not_imp_left]
  intro isMask
  obtain ⟨value, saved⟩ := Option.ne_none_iff_exists'.mp isMask
  obtain ⟨queue, rfl⟩ := queues.kind _ value saved
  -- a mask is no sysctl
  cases alsoSysctl : bumped.2.get? (.rpsCpus dev queue) with
  | none => rfl
  | some other =>
    have kind := sysctls.kind _ other alsoSysctl
    simp [sysctlBumps] at kind

theorem escalateRx_apart (config : NetworkConfig) (environment : RxEnvironment)
    (controller : NetworkController) (dev : String) :
    (controller.escalateRx config environment dev).iptables =
        controller.iptables ∧
      (controller.escalateRx config environment dev).appFilterInfo =
        controller.appFilterInfo := by
  obtain ⟨files, states, same⟩ :=
    controller.exists_escalateRx_eq config environment dev
  rw [same]
  exact ⟨rfl, rfl⟩

theorem restoreRx_apart (environment : RxEnvironment)
    (controller : NetworkController) (dev : String) :
    (controller.restoreRx environment dev).iptables = controller.iptables ∧
      (controller.restoreRx environment dev).appFilterInfo =
        controller.appFilterInfo := by
  obtain ⟨files, states, same⟩ :=
    controller.exists_restoreRx_eq environment dev
  rw [same]
  exact ⟨rfl, rfl⟩

theorem TidyEscalations.escalateRx (tidy : controller.TidyEscalations)
    (reads : ReadsMasks config controller environment dev) :
    (controller.escalateRx config environment dev).TidyEscalations ∧
      (controller.escalateRx config environment dev).originalFiles =
        controller.originalFiles := by
  cases found : controller.rxEscalationState.get? dev with
  | some state =>
    rw [escalateRx_of_some environment found (tidy dev state found)]
    exact ⟨tidy, rfl⟩
  | none =>
    obtain ⟨state, entered, isTidy, saves⟩ := escalateRx_of_none found reads
    constructor
    · intro other otherState otherFound
      rw [entered] at otherFound
      rcases OrderedDict.get?_set_eq_some_iff.mp otherFound with
        ⟨-, rfl⟩ | ⟨-, before⟩
      · exact isTidy
      · exact tidy other otherState before
    · rw [originalFiles, copies, entered,
        OrderedDict.entries_set_of_get?_eq_none found, List.map_append,
        List.map_cons, List.map_nil]
      exact saves.original_append _

/-! ## Restoring -/

theorem foldl_writeFile_of_ne (environment : RxEnvironment)
    {entries : List (RxFile × String)} {path : RxFile}
    (elsewhere : ∀ entry ∈ entries, entry.1 ≠ path) (files : RxFile → String) :
    entries.foldl (fun files entry =>
      writeFile environment files entry.1 entry.2) files path = files path := by
  refine List.foldlRecOn entries _
    (motive := fun after : RxFile → String => after path = files path) rfl
    fun after same entry member => ?_
  rw [writeFile_of_ne environment after (elsewhere entry member).symm, same]

/-- Every saved value is written back, unless its file cannot be written. -/
theorem restoreFiles_apply (environment : RxEnvironment)
    (files : RxFile → String) (saved : OrderedDict RxFile String)
    (path : RxFile) :
    restoreFiles environment files saved path =
      match saved.get? path with
      | none => files path
      | some value => if environment.writable path then value else files path
      := by
  cases found : saved.get? path with
  | none =>
    apply foldl_writeFile_of_ne
    rintro ⟨other, value⟩ member rfl
    rw [(OrderedDict.get?_eq_some_iff saved other value).mpr member] at found
    cases found
  | some value =>
    obtain ⟨older, younger, split, -, others⟩ :=
      OrderedDict.exists_split found
    rw [restoreFiles, split, List.foldl_append, List.foldl_cons,
      foldl_writeFile_of_ne environment fun entry member =>
        others entry (List.mem_append_right _ member), writeFile]
    split
    · exact Function.update_self ..
    · exact foldl_writeFile_of_ne environment (fun entry member =>
        others entry (List.mem_append_left _ member)) files

/-- What a NIC saved has an older copy, or no other one and can be written. -/
def RestoresInTurn (controller : NetworkController)
    (environment : RxEnvironment) (dev : String) : Prop :=
  match controller.rxEscalationState.get? dev with
  | none => True
  | some state => ∀ path ∈ state.paths,
      (∃ older ∈ controller.rxEscalationState.entries.takeWhile
          fun entry => entry.1 ≠ dev, (older.2.savedAt path).isSome) ∨
      environment.writable path = true ∧
        ∀ other ∈ controller.rxEscalationState.entries, other.1 ≠ dev →
          other.2.savedAt path = none

theorem files_restoreRx (environment : RxEnvironment)
    (found : controller.rxEscalationState.get? dev = some state)
    (tidy : state.Tidy) (path : RxFile) :
    (controller.restoreRx environment dev).files path =
      match state.savedAt path with
      | none => controller.files path
      | some value => if environment.writable path then value
          else controller.files path := by
  simp only [restoreRx, found, restoreFiles_apply, RxEscalation.savedAt]
  rcases tidy.once path with mask | sysctl
  · simp only [mask, Option.none_or]
  · simp only [sysctl, Option.or_none]

theorem TidyEscalations.restoreRx (tidy : controller.TidyEscalations)
    (inTurn : RestoresInTurn controller environment dev) :
    (controller.restoreRx environment dev).TidyEscalations ∧
      (controller.restoreRx environment dev).originalFiles =
        controller.originalFiles := by
  cases found : controller.rxEscalationState.get? dev with
  | none =>
    have same : controller.restoreRx environment dev = controller := by
      rw [NetworkController.restoreRx, found]
    rw [same]
    exact ⟨tidy, rfl⟩
  | some state =>
    have left : (controller.restoreRx environment dev).rxEscalationState =
        controller.rxEscalationState.erase dev := by
      simp only [NetworkController.restoreRx, found]
    have files := files_restoreRx environment found (tidy dev state found)
    constructor
    · intro other otherState otherFound
      rw [left] at otherFound
      exact tidy other otherState
        (OrderedDict.get?_erase_eq_some_iff.mp otherFound).2
    · obtain ⟨older, younger, split, erased, others⟩ :=
        OrderedDict.exists_split found
      rw [RestoresInTurn, found] at inTurn
      have first : (controller.rxEscalationState.entries.takeWhile
          fun entry => entry.1 ≠ dev) = older := by
        rw [split, List.takeWhile_append_of_pos]
        · simp
        · exact fun entry member => decide_eq_true
            (others entry (List.mem_append_left _ member))
      rw [originalFiles, originalFiles, copies, copies, left, erased, split,
        List.map_append, List.map_append, List.map_cons]
      apply SavedCopies.original_leave
      · intro path unsaved
        rw [files, unsaved]
      · intro path value saved
        have turn := inTurn path (RxEscalation.mem_paths_of_savedAt saved)
        rw [first] at turn
        rcases turn with ⟨holder, isOlder, holds⟩ | ⟨writable, alone⟩
        · left
          rw [SavedCopies.oldest, List.findSome?_isSome_iff]
          exact ⟨_, List.mem_map_of_mem isOlder, holds⟩
        · right
          rw [SavedCopies.oldest_eq_none_iff, files, saved]
          refine ⟨?_, if_pos writable⟩
          intro copy isCopy
          obtain ⟨entry, member, rfl⟩ := List.mem_map.mp isCopy
          apply alone
          · rw [split]
            exact List.mem_append_right _ (List.mem_cons_of_mem _ member)
          · exact others entry (List.mem_append_right _ member)

end NetworkController

end SmarTune
