import SmarTune.Affinity.SharedScopes

/-!
# What a failed request leaves

A request that binds directories one after another undoes those it has set when
one of them fails, back to what they were held to before the first pin.  The
directories after the failed one stay as they are, and may hold an earlier pin.
-/

namespace SmarTune

namespace CpuController

/-- The CPUs a directory is held to, `none` for no restriction. -/
def held (allowed : String → Option (Finset Nat)) (controller : CpuController)
    (directory : String) : Option (Finset Nat) :=
  (controller.files directory).cpus.bind (heldTo (allowed directory))

/-- The CPUs it was held to before it was pinned. -/
def unpinned (allowed : String → Option (Finset Nat))
    (controller : CpuController) (directory : String) : Option (Finset Nat) :=
  match controller.originals.get? directory with
  | none => controller.held allowed directory
  | some original =>
    match parseCpuList original with
    | .ok cpus => heldTo (allowed directory) cpus
    | .error _ => none

/-- A restore finds our value in a file and the kernel takes the original. -/
def Yields (allowed : String → Option (Finset Nat)) (controller : CpuController)
    (directory : String) (file : CpusetFile)
    (outcomes : RestoreCpusOutcomes) : Prop :=
  ∃ original cpus, controller.originals.get? directory = some original ∧
    file = .present cpus ∧
    changedElsewhere (some (formatCpuList cpus))
      (controller.applied.get? directory) = false ∧
    outcomes.refuses (PinSystem.parent allowed directory) original = false

end CpuController

/-- The request fails. -/
def AffinityReply.fails : AffinityReply → Bool
  | .restoreFailed _ | .noRunningCgroup | .refused _ | .setFailed _ => true
  | .restored _ | .bound _ => false

namespace AffinityService

variable (service : AffinityService)

/-- The directories a request is about. -/
def requestDirs (request : AffinityRequest)
    (answers : AffinityAnswers) : List String :=
  if lowerCase request.cpuClass = "restore" then
    service.restoreDirs request answers
  else answers.dirs.filter (inScope request.targetCgroups)

/-- After the request every directory is held as before it, or every one as
before it was pinned. -/
def FailsAlike (request : AffinityRequest) (answers : AffinityAnswers) : Prop :=
  let after := (service.setCpuAffinity request answers).2.cpu
  (∀ directory ∈ service.requestDirs request answers,
    after.held answers.allowed directory =
      service.cpu.held answers.allowed directory) ∨
  ∀ directory ∈ service.requestDirs request answers,
    after.held answers.allowed directory =
      service.cpu.unpinned answers.allowed directory

/-- The failing request puts the directory back.  A request to restore does so
where the kernel lets it; one that binds does so with what it has written, and
with the directory that failed when that held an earlier pin. -/
def PutsBack (request : AffinityRequest) (answers : AffinityAnswers)
    (directory : String) : Prop :=
  if lowerCase request.cpuClass = "restore" then
    service.cpu.Yields answers.allowed directory (service.cpu.files directory)
      (answers.restoring directory)
  else
    ∃ value, resolveCpus request.cpuClass request.cpus answers.groups
        (Finset.range (max answers.cpuCount 1)) = .ok value ∧
      directory ∈ service.cpu.walked answers.setting value
        (service.requestDirs request answers) ∧
      (service.cpu.accepts directory (answers.setting directory) = true ∨
        service.cpu.Yields answers.allowed directory
          (service.cpu.enabledFiles directory
            (answers.setting directory).appears directory)
          (answers.restoring directory))

/-- Every directory that is put back held no pin, or none that is left alone
does. -/
def UndoesAlike (request : AffinityRequest)
    (answers : AffinityAnswers) : Prop :=
  let pinned := fun directory =>
    service.cpu.held answers.allowed directory ≠
      service.cpu.unpinned answers.allowed directory
  (∀ directory ∈ service.requestDirs request answers,
    service.PutsBack request answers directory → ¬ pinned directory) ∨
  ∀ directory ∈ service.requestDirs request answers,
    pinned directory → service.PutsBack request answers directory

end AffinityService

/-! ## Restores -/

namespace CpuController

variable
  {allowed : String → Option (Finset Nat)}
  {controller left right : CpuController}
  {directory : String}

theorem SameAt.held (same : SameAt left right directory) :
    left.held allowed directory = right.held allowed directory := by
  rw [CpuController.held, CpuController.held, same.files]

theorem SameAt.unpinned (same : SameAt left right directory) :
    left.unpinned allowed directory = right.unpinned allowed directory := by
  rw [CpuController.unpinned, CpuController.unpinned, same.originals, same.held]

theorem SameAt.yields (same : SameAt left right directory) (file : CpusetFile)
    (outcomes : RestoreCpusOutcomes) :
    left.Yields allowed directory file outcomes ↔
      right.Yields allowed directory file outcomes := by
  simp only [Yields, same.originals, same.applied]

theorem unpinned_of_not_bound
    (notBound : controller.isBound directory = false) :
    controller.unpinned allowed directory =
      controller.held allowed directory := by
  rw [isBound, Option.isSome_eq_false_iff, Option.isNone_iff_eq_none]
    at notBound
  rw [unpinned, notBound]

theorem not_yields_of_not_bound
    (notBound : controller.isBound directory = false) (file : CpusetFile)
    (outcomes : RestoreCpusOutcomes) :
    ¬ controller.Yields allowed directory file outcomes := by
  rintro ⟨original, cpus, bound, -⟩
  rw [isBound, bound] at notBound
  cases notBound

@[simp] theorem held_update (files : CpusetFiles) (cpus : Finset Nat) :
    ({ controller with
        files := Function.update files directory
          (.present cpus) }.forget directory).held allowed directory =
      heldTo (allowed directory) cpus := by
  simp [held, forget, CpusetFile.cpus]

/-- A bound directory with a value yields when the value is ours and the kernel
takes the original. -/
theorem yields_present_iff {allowed : String → Option (Finset Nat)}
    {directory original : String}
    (bound : controller.originals.get? directory = some original)
    {cpus : Finset Nat} {outcomes : RestoreCpusOutcomes} :
    controller.Yields allowed directory (.present cpus) outcomes ↔
      changedElsewhere (some (formatCpuList cpus))
          (controller.applied.get? directory) = false ∧
        outcomes.refuses (PinSystem.parent allowed directory) original =
          false := by
  constructor
  · rintro ⟨other, now, again, same, kept, takes⟩
    cases bound.symm.trans again
    cases same
    exact ⟨kept, takes⟩
  · rintro ⟨kept, takes⟩
    exact ⟨original, cpus, bound, rfl, kept, takes⟩

/-- A restore puts a directory back when it finds our value there and the
kernel takes the original; else the file stays. -/
theorem held_restore (allowed : String → Option (Finset Nat))
    (readable : Readable controller) (directory : String)
    (outcomes : RestoreCpusOutcomes) :
    let after := (controller.restore (PinSystem.parent allowed directory)
      directory outcomes).2
    (controller.Yields allowed directory (controller.files directory) outcomes →
      after.held allowed directory = controller.unpinned allowed directory) ∧
    (¬ controller.Yields allowed directory (controller.files directory)
        outcomes →
      after.held allowed directory = controller.held allowed directory) := by
  simp only
  cases bound : controller.originals.get? directory with
  | none =>
    have notBound : controller.isBound directory = false := by
      rw [isBound, bound, Option.isSome_none]
    obtain ⟨-, same⟩ := restore_of_not_bound bound outcomes
    rw [same, unpinned_of_not_bound notBound]
    exact ⟨fun _ => rfl, fun _ => rfl⟩
  | some original =>
  cases file : controller.files directory with
  | gone | disabled =>
    obtain ⟨-, forgotten⟩ := restore_of_unreadable bound
      (by rw [file]; rfl) outcomes
    rw [forgotten]
    refine ⟨?_, fun _ => rfl⟩
    rintro ⟨_, _, -, present, -⟩
    cases present
  | present cpus =>
  obtain ⟨set, parses⟩ := readable directory original bound
  have back : controller.unpinned allowed directory =
      heldTo (allowed directory) set := by
    rw [unpinned, bound]
    simp only [parses]
  rw [yields_present_iff bound, back]
  simp only [restore, bound, file, CpusetFile.read, reduceCtorEq, if_false]
  cases changed : changedElsewhere (some (formatCpuList cpus))
      (controller.applied.get? directory) with
  | true => exact ⟨fun kept => (by cases kept.1), fun _ => rfl⟩
  | false =>
  simp only [Bool.false_eq_true, if_false, RestoreCpusOutcomes.refuses,
    true_and]
  cases outcomes.refused with
  | none =>
    rw [CpusetFiles.write_accepted parses]
    exact ⟨fun _ => held_update _ _, fun refused => absurd rfl refused⟩
  | some errno =>
  simp only [CpusetFiles.write_refused]
  cases fallback : unpinFallback (PinSystem.parent allowed directory) original
      errno with
  | none => exact ⟨fun takes => (by cases takes), fun _ => rfl⟩
  | some others =>
  obtain ⟨rfl, free, known, rfl⟩ := unpinFallback_eq_some fallback
  have nothing : set = ∅ := by
    rw [← formatCpuList_empty, parseCpuList_formatCpuList] at parses
    exact (Except.ok.inj parses).symm
  cases outcomes.fallbackRefused with
  | some errno => exact ⟨fun takes => (by cases takes), fun _ => rfl⟩
  | none =>
    simp only [CpusetFiles.write_accepted (parseCpuList_formatCpuList free)]
    refine ⟨fun _ => ?_, fun refused => absurd rfl refused⟩
    rw [held_update, nothing, known, heldTo_allowed, heldTo_empty]

theorem held_restoreEach (allowed : String → Option (Finset Nat))
    (readable : Readable controller) (outcomes : String → RestoreCpusOutcomes)
    {directories : List String} (member : directory ∈ directories) :
    let after := (controller.restoreEach allowed outcomes directories).2
    (controller.Yields allowed directory (controller.files directory)
        (outcomes directory) →
      after.held allowed directory = controller.unpinned allowed directory) ∧
    (¬ controller.Yields allowed directory (controller.files directory)
        (outcomes directory) →
      after.held allowed directory = controller.held allowed directory) := by
  induction directories generalizing controller with
  | nil => cases member
  | cons first rest ih =>
  have readableNext :=
    readable_restore allowed readable first (outcomes first)
  simp only [restoreEach]
  by_cases here : directory = first
  · subst here
    have now := held_restore allowed readable directory (outcomes directory)
    obtain ⟨-, -, same⟩ | ⟨-, -, notBound, -⟩ :=
      restore_spec allowed readable directory (outcomes directory)
    · rw [same] at now readableNext ⊢
      by_cases again : directory ∈ rest
      · exact ih readable again
      · rw [(sameAt_restoreEach readable fun listed =>
          absurd listed again).held]
        exact now
    · have settled : ((controller.restore (PinSystem.parent allowed directory)
          directory (outcomes directory)).2.restoreEach allowed outcomes
            rest).2.held allowed directory =
          (controller.restore (PinSystem.parent allowed directory) directory
            (outcomes directory)).2.held allowed directory := by
        by_cases again : directory ∈ rest
        · exact (ih readableNext again).2 (not_yields_of_not_bound notBound _ _)
        · exact (sameAt_restoreEach readableNext fun listed =>
            absurd listed again).held
      rw [settled]
      exact now
  · have later : directory ∈ rest := (List.mem_cons.mp member).resolve_left here
    have same : SameAt (controller.restore (PinSystem.parent allowed first)
        first (outcomes first)).2 controller directory := by
      obtain ⟨-, -, same⟩ | ⟨-, -, -, elsewhere⟩ :=
        restore_spec allowed readable first (outcomes first)
      · rw [same]
        exact SameAt.refl controller directory
      · exact elsewhere directory here
    have rest := ih readableNext later
    rw [same.files, same.yields, same.unpinned, same.held] at rest
    exact rest

/-! ## Writes -/

section BindEach

variable
  {cpus : CpuList}
  {outcomes : String → SetCpusOutcomes}
  {directories : List String}

/-- The original on record after a write: the earlier one, or the value found
there. -/
def originalAt (allowed : String → Option (Finset Nat))
    (controller : CpuController) (directory : String)
    (appears : Bool) : String :=
  (controller.originals.get? directory).getD
    (controller.originalOf allowed directory appears)

theorem pinnedAt_setCpus_of_accepts (allowed : String → Option (Finset Nat))
    {outcomes : SetCpusOutcomes}
    (accepted : controller.accepts directory outcomes = true) (cpus : CpuList) :
    (controller.setCpus (PinSystem.parent allowed directory) directory
        cpus.text outcomes).2.PinnedAt directory cpus
      (controller.originalAt allowed directory outcomes.appears) := by
  cases bound : controller.originals.get? directory with
  | none =>
    have notBound : controller.isBound directory = false := by
      rw [isBound, bound, Option.isSome_none]
    rw [originalAt, bound]
    exact pinnedAt_setCpus allowed notBound accepted cpus
  | some original =>
    have wrote := (controller.setCpus_spec
      (PinSystem.parent allowed directory) directory cpus outcomes).2
    have isBound : controller.isBound directory = true := by
      rw [CpuController.isBound, bound, Option.isSome_some]
    obtain ⟨refused, -⟩ | ⟨-, before, present, same⟩ :=
      controller.setCpus_cases (PinSystem.parent allowed directory) directory
        cpus outcomes
    · rw [refused, accepted] at wrote
      cases wrote
    · rw [same, originalAt, bound]
      simp only [recordWrite, isBound, if_true]
      exact ⟨Function.update_self _ _ _, bound, OrderedDict.get?_set_self _ _ _⟩

/-- A directory that is not reached stays as it is. -/
theorem sameAt_bindEach
    (unreached : directory ∉ controller.walked outcomes cpus.text directories) :
    SameAt (controller.bindEach allowed cpus.text outcomes
      directories).controller controller directory := by
  induction directories generalizing controller with
  | nil => exact SameAt.refl controller directory
  | cons first rest ih =>
  have spec := (controller.setCpus_spec (PinSystem.parent allowed first) first
    cpus (outcomes first)).1
  rw [walked_cons, List.mem_cons, not_or] at unreached
  have now := sameAt_setCpus controller (PinSystem.parent allowed first)
    unreached.1 cpus (outcomes first)
  simp only [bindEach]
  split
  · next bound =>
    have binding := spec.mp bound
    rw [binding, if_pos rfl,
      ← walked_setCpus binding (PinSystem.parent allowed first)] at unreached
    exact (ih unreached.2).trans now
  · exact now

theorem pinnedAt_bindEach_of_accepts (allowed : String → Option (Finset Nat))
    (reached : directory ∈ controller.walked outcomes cpus.text directories)
    (accepted : controller.accepts directory (outcomes directory) = true) :
    (controller.bindEach allowed cpus.text outcomes
        directories).controller.PinnedAt directory cpus
      (controller.originalAt allowed directory
        (outcomes directory).appears) := by
  induction directories generalizing controller with
  | nil => cases reached
  | cons first rest ih =>
  have spec := (controller.setCpus_spec (PinSystem.parent allowed first) first
    cpus (outcomes first)).1
  rw [walked_cons] at reached
  by_cases here : directory = first
  · subst here
    have pinned := pinnedAt_setCpus_of_accepts allowed accepted cpus
    simp only [bindEach]
    split
    · exact pinned.bindEach rest
    · exact pinned
  cases binding : controller.binds cpus.text first (outcomes first) with
  | false => simp [binding, here] at reached
  | true =>
    have sets := accepts_of_binds binding
    have same := sameAt_setCpus controller (PinSystem.parent allowed first)
      here cpus (outcomes first)
    simp only [binding, if_true, List.mem_cons, here, false_or] at reached
    rw [← walked_setCpus binding (PinSystem.parent allowed first)] at reached
    rw [← accepts_setCpus sets (PinSystem.parent allowed first)] at accepted
    have later := ih reached accepted
    simp only [bindEach, spec.mpr binding, if_true]
    simpa only [originalAt, originalOf, enabledFiles_self, same.files,
      same.originals] using later

theorem setCpus_of_refused (controller : CpuController) (parent : Option String)
    (directory : String) (cpus : CpuList) {outcomes : SetCpusOutcomes}
    (refused : controller.accepts directory outcomes = false) :
    let after := (controller.setCpus parent directory cpus.text outcomes).2
    after.files directory =
      controller.enabledFiles directory outcomes.appears directory ∧
    after.originals = controller.originals ∧
    after.applied = controller.applied := by
  unfold setCpus
  by_cases gone : controller.files directory = .gone
  · rw [if_pos gone, enabledFiles_self, gone]
    simp [gone]
  rw [if_neg gone]
  simp only
  split
  · exact ⟨rfl, rfl, rfl⟩
  rename_i enabled
  split
  · exact ⟨rfl, rfl, rfl⟩
  rename_i original seen
  obtain ⟨before, present, -⟩ := CpusetFile.read_eq_some_iff.mp seen
  split
  · exact ⟨rfl, rfl, rfl⟩
  rename_i written accepted
  obtain ⟨taken, -⟩ := CpusetFiles.write_eq_ok_iff.mp accepted
  have takes : controller.accepts directory outcomes = true := by
    rw [Bool.not_eq_true', Bool.not_eq_false] at enabled
    simp [accepts, gone, enabled, present, taken, CpusetFile.cpus]
  rw [refused] at takes
  cases takes

theorem refusedAt_bindEach (allowed : String → Option (Finset Nat))
    (reached : directory ∈ controller.walked outcomes cpus.text directories)
    (refused : controller.accepts directory (outcomes directory) = false) :
    let after := (controller.bindEach allowed cpus.text outcomes
      directories).controller
    after.files directory = controller.enabledFiles directory
        (outcomes directory).appears directory ∧
    after.originals.get? directory = controller.originals.get? directory ∧
    after.applied.get? directory = controller.applied.get? directory := by
  induction directories generalizing controller with
  | nil => cases reached
  | cons first rest ih =>
  have spec := (controller.setCpus_spec (PinSystem.parent allowed first) first
    cpus (outcomes first)).1
  rw [walked_cons] at reached
  by_cases here : directory = first
  · subst here
    have failed : ¬(controller.setCpus (PinSystem.parent allowed directory)
        directory cpus.text (outcomes directory)).1 = .ok := by
      rw [spec]
      intro binding
      rw [accepts_of_binds binding] at refused
      cases refused
    obtain ⟨files, originals, applied⟩ := controller.setCpus_of_refused
      (PinSystem.parent allowed directory) directory cpus refused
    simp only [bindEach, failed, if_false]
    rw [originals, applied]
    exact ⟨files, rfl, rfl⟩
  cases binding : controller.binds cpus.text first (outcomes first) with
  | false => simp [binding, here] at reached
  | true =>
    have sets := accepts_of_binds binding
    have same := sameAt_setCpus controller (PinSystem.parent allowed first)
      here cpus (outcomes first)
    simp only [binding, if_true, List.mem_cons, here, false_or] at reached
    rw [← walked_setCpus binding (PinSystem.parent allowed first)] at reached
    rw [← accepts_setCpus sets (PinSystem.parent allowed first)] at refused
    have later := ih reached refused
    simp only [bindEach, spec.mpr binding, if_true]
    simpa only [enabledFiles_self, same.files, same.originals,
      same.applied] using later

end BindEach

theorem heldTo_enabledFiles (allowed : String → Option (Finset Nat))
    (controller : CpuController) (directory : String) (appears : Bool) :
    heldTo (allowed directory)
        ((controller.enabledFiles directory appears directory).cpus.getD ∅) =
      controller.held allowed directory := by
  rw [enabledFiles_self, held]
  split
  · next enabled => simp [enabled.2, CpusetFile.cpus]
  · cases controller.files directory <;> simp [CpusetFile.cpus]

theorem bind_heldTo_enabledFiles (allowed : String → Option (Finset Nat))
    (controller : CpuController) (directory : String) (appears : Bool) :
    (controller.enabledFiles directory appears directory).cpus.bind
        (heldTo (allowed directory)) =
      controller.held allowed directory := by
  rw [enabledFiles_self, held]
  split
  · next enabled => simp [enabled.2, CpusetFile.cpus]
  · rfl

/-- The original on record after a write restricts as before the pin. -/
theorem heldTo_originalAt (allowed : String → Option (Finset Nat))
    (readable : Readable controller) (directory : String) (appears : Bool) :
    ∃ set, parseCpuList (controller.originalAt allowed directory appears) =
        .ok set ∧
      heldTo (allowed directory) set =
        controller.unpinned allowed directory := by
  cases bound : controller.originals.get? directory with
  | some original =>
    obtain ⟨set, parses⟩ := readable directory original bound
    refine ⟨set, by rw [originalAt, bound]; exact parses, ?_⟩
    rw [unpinned, bound]
    simp only [parses]
  | none =>
    have notBound : controller.isBound directory = false := by
      rw [isBound, bound, Option.isSome_none]
    obtain ⟨set, parses, same⟩ := exists_parse_recordedOriginal
      (allowed directory)
      ((controller.enabledFiles directory appears directory).cpus.getD ∅)
    refine ⟨set, by rw [originalAt, bound]; exact parses, ?_⟩
    rw [same, heldTo_enabledFiles, unpinned_of_not_bound notBound]

section Undone

variable
  {cpus : CpuList}
  {setting : String → SetCpusOutcomes}
  {restoring : String → RestoreCpusOutcomes}
  {directories undone : List String}

theorem held_undone_of_accepts (allowed : String → Option (Finset Nat))
    (readable : Readable controller)
    (takes : ∀ original, (restoring directory).refuses
      (PinSystem.parent allowed directory) original = false)
    (reached : directory ∈ controller.walked setting cpus.text directories)
    (accepted : controller.accepts directory (setting directory) = true)
    (listed : directory ∈ undone) :
    ((controller.bindEach allowed cpus.text setting
        directories).controller.restoreEach allowed restoring undone).2.held
          allowed directory =
      controller.unpinned allowed directory := by
  have pinned := pinnedAt_bindEach_of_accepts allowed reached accepted
  obtain ⟨set, parses, same⟩ := heldTo_originalAt allowed readable directory
    (setting directory).appears
  have yields : (controller.bindEach allowed cpus.text setting
      directories).controller.Yields allowed directory
        ((controller.bindEach allowed cpus.text setting
          directories).controller.files directory) (restoring directory) := by
    refine ⟨_, cpus.cpus, pinned.originals, pinned.files, ?_, takes _⟩
    rw [pinned.applied, changedElsewhere_formatCpuList cpus.parses]
    simp
  rw [(held_restoreEach allowed (readable_bindEach readable directories)
    restoring listed).1 yields, unpinned, pinned.originals]
  simp only [parses]
  exact same

/-- A directory that was reached but not written is held as it was, unless the
undoing finds an earlier pin there. -/
theorem held_undone_of_refused (allowed : String → Option (Finset Nat))
    (restoring : String → RestoreCpusOutcomes) (readable : Readable controller)
    (reached : directory ∈ controller.walked setting cpus.text directories)
    (refused : controller.accepts directory (setting directory) = false)
    (listed : directory ∈ undone ↔ controller.isBound directory = true) :
    let yields := controller.Yields allowed directory
      (controller.enabledFiles directory (setting directory).appears directory)
      (restoring directory)
    let after := ((controller.bindEach allowed cpus.text setting
      directories).controller.restoreEach allowed restoring undone).2
    (yields → after.held allowed directory =
      controller.unpinned allowed directory) ∧
    (¬ yields → after.held allowed directory =
      controller.held allowed directory) := by
  intro yields after
  have readableNext : (controller.bindEach allowed cpus.text setting
      directories).controller.Readable := readable_bindEach readable directories
  obtain ⟨files, originals, applied⟩ :=
    refusedAt_bindEach allowed reached refused
  have same : (controller.bindEach allowed cpus.text setting
      directories).controller.held allowed directory =
        controller.held allowed directory := by
    rw [held, files]
    exact bind_heldTo_enabledFiles allowed controller directory _
  cases bound : controller.isBound directory with
  | true =>
    have back := held_restoreEach allowed readableNext restoring
      (listed.mpr bound)
    rw [files, same] at back
    have unpinnedSame : (controller.bindEach allowed cpus.text setting
        directories).controller.unpinned allowed directory =
          controller.unpinned allowed directory := by
      obtain ⟨original, recorded⟩ := Option.isSome_iff_exists.mp bound
      rw [unpinned, unpinned, originals, recorded]
    rw [unpinnedSame] at back
    simp only [Yields, originals, applied] at back
    exact back
  | false =>
    have unlisted : directory ∉ undone := by
      rw [listed, bound]
      exact Bool.false_ne_true
    refine ⟨fun takes => absurd takes (not_yields_of_not_bound bound _ _),
      fun _ => ?_⟩
    rw [← same]
    exact (sameAt_restoreEach readableNext fun member =>
      absurd member unlisted).held

theorem held_undone_of_unreached (allowed : String → Option (Finset Nat))
    (readable : Readable controller)
    (unreached : directory ∉ controller.walked setting cpus.text directories)
    (unlisted : directory ∉ undone) :
    ((controller.bindEach allowed cpus.text setting
        directories).controller.restoreEach allowed restoring undone).2.held
          allowed directory =
      controller.held allowed directory := by
  have readableNext : (controller.bindEach allowed cpus.text setting
      directories).controller.Readable := readable_bindEach readable directories
  rw [(sameAt_restoreEach readableNext fun member =>
    absurd member unlisted).held]
  exact (sameAt_bindEach unreached).held

end Undone

end CpuController

namespace AffinityService

variable
  {service : AffinityService}
  {request : AffinityRequest}
  {answers : AffinityAnswers}

/-! ## Failed requests -/

open CpuController in
theorem held_rollBack (readable : service.cpu.Readable) (appId : String)
    (cpus : CpuList) {dirs : List String} {failed : String}
    {detail : SetCpusReply}
    (fails : (service.cpu.bindEach answers.allowed cpus.text answers.setting
      dirs).failed = some (failed, detail))
    (undoes : ∀ directory original, (answers.restoring directory).refuses
        (PinSystem.parent answers.allowed directory) original = false)
    (directory : String) :
    let result :=
      service.cpu.bindEach answers.allowed cpus.text answers.setting dirs
    let after := ({ service with cpu := result.controller }.rollBack appId
      answers result.done failed).cpu
    let putsBack :=
      directory ∈ service.cpu.walked answers.setting cpus.text dirs ∧
      (service.cpu.accepts directory (answers.setting directory) = true ∨
        service.cpu.Yields answers.allowed directory
          (service.cpu.enabledFiles directory
            (answers.setting directory).appears directory)
          (answers.restoring directory))
    (putsBack → after.held answers.allowed directory =
      service.cpu.unpinned answers.allowed directory) ∧
    (¬ putsBack → after.held answers.allowed directory =
      service.cpu.held answers.allowed directory) := by
  intro result after putsBack
  have walked : service.cpu.walked answers.setting cpus.text dirs =
      result.done ++ [failed] := by
    rw [walked_eq answers.allowed, fails]
    rfl
  have same : after = (result.controller.restoreEach answers.allowed
      answers.restoring (result.done ++
        if result.controller.isBound failed then [failed] else [])).2 :=
    cpu_forgetAffinity _ _
  have bound : ∀ other ∈ result.done,
      ({ service with cpu := result.controller } :
        AffinityService).cpu.isBound other = true :=
    fun other member => isBound_of_mem_done member
  have listed : (directory ∈ result.done ++
        if result.controller.isBound failed then [failed] else []) ↔
      directory ∈ service.cpu.walked answers.setting cpus.text dirs ∧
        result.controller.isBound directory = true := by
    rw [walked]
    exact mem_rollback_iff bound
  rw [same]
  by_cases reached :
      directory ∈ service.cpu.walked answers.setting cpus.text dirs
  · cases accepted : service.cpu.accepts directory
        (answers.setting directory) with
    | true =>
      have pinned :=
        pinnedAt_bindEach_of_accepts answers.allowed reached accepted
      refine ⟨fun _ => ?_, fun other => absurd ⟨reached, .inl accepted⟩ other⟩
      exact held_undone_of_accepts answers.allowed readable
        (undoes directory) reached accepted
        (listed.mpr ⟨reached, pinned.isBound⟩)
    | false =>
      have kept :=
        (refusedAt_bindEach answers.allowed reached accepted).2.1
      have member := listed
      have boundSame : result.controller.isBound directory =
          service.cpu.isBound directory := congrArg Option.isSome kept
      rw [and_iff_right reached, boundSame] at member
      have back := held_undone_of_refused answers.allowed answers.restoring
        readable reached accepted member
      constructor
      · rintro ⟨-, takes | yields⟩
        · rw [accepted] at takes
          cases takes
        · exact back.1 yields
      · intro other
        exact back.2 fun yields => other ⟨reached, .inr yields⟩
  · refine ⟨fun puts => absurd puts.1 reached, fun _ => ?_⟩
    exact held_undone_of_unreached answers.allowed readable reached
      fun member => reached (listed.mp member).1

theorem held_after_failure (readable : service.cpu.Readable)
    (fails : (service.setCpuAffinity request answers).1.fails = true)
    (undoes : lowerCase request.cpuClass ≠ "restore" →
      ∀ directory original, (answers.restoring directory).refuses
        (PinSystem.parent answers.allowed directory) original = false)
    {directory : String}
    (member : directory ∈ service.requestDirs request answers) :
    let after := (service.setCpuAffinity request answers).2.cpu
    (service.PutsBack request answers directory →
      after.held answers.allowed directory =
        service.cpu.unpinned answers.allowed directory) ∧
    (¬ service.PutsBack request answers directory →
      after.held answers.allowed directory =
        service.cpu.held answers.allowed directory) := by
  by_cases restores : lowerCase request.cpuClass = "restore"
  · simp only [requestDirs, restores, if_true] at member
    have back := CpuController.held_restoreEach answers.allowed readable
      answers.restoring member
    have same : (service.setCpuAffinity request answers).2.cpu =
        (service.cpu.restoreEach answers.allowed answers.restoring
          (service.restoreDirs request answers)).2 := by
      simp only [setCpuAffinity, restores, if_true, requestRestore]
      split
      · rfl
      · exact cpu_forgetAffinity _ _
    simp only [same, PutsBack, restores, if_true]
    exact back
  simp only [requestDirs, restores, if_false] at member
  have dirs : answers.dirs.filter (inScope request.targetCgroups) ≠ [] :=
    List.ne_nil_of_mem member
  cases resolved : resolveCpus request.cpuClass request.cpus answers.groups
      (Finset.range (max answers.cpuCount 1)) with
  | error reason =>
    simp only [setCpuAffinity, PutsBack, restores, if_false, dirs, resolved]
    refine ⟨?_, fun _ => trivial⟩
    rintro ⟨value, found, -⟩
    cases found
  | ok value =>
  obtain ⟨set, parses⟩ := parses_of_resolveCpus resolved
  let cpus : CpuList := ⟨value, set, parses⟩
  simp only [setCpuAffinity, restores, if_false, dirs, resolved] at fails ⊢
  simp only [PutsBack, restores, if_false, resolved, Except.ok.injEq,
    exists_eq_left', requestDirs]
  split at fails
  · next failed detail found =>
    exact held_rollBack readable request.appId cpus found (undoes restores)
      directory
  · cases fails

/-- A failed request leaves every directory as it was, or every one as before
its pin, exactly when it puts back no pinned one or all of them. -/
theorem failsAlike_iff (readable : service.cpu.Readable)
    (fails : (service.setCpuAffinity request answers).1.fails = true)
    (undoes : lowerCase request.cpuClass ≠ "restore" →
      ∀ directory original, (answers.restoring directory).refuses
        (PinSystem.parent answers.allowed directory) original = false) :
    service.FailsAlike request answers ↔
      service.UndoesAlike request answers := by
  have back := fun (directory : String)
    (member : directory ∈ service.requestDirs request answers) =>
      held_after_failure readable fails undoes member
  unfold FailsAlike UndoesAlike
  apply or_congr
  · refine forall₂_congr fun directory member => ?_
    obtain ⟨puts, leaves⟩ := back directory member
    constructor
    · intro kept putsBack pinned
      exact pinned (kept.symm.trans (puts putsBack))
    · intro free
      by_cases putsBack : service.PutsBack request answers directory
      · exact (puts putsBack).trans (not_not.mp (free putsBack)).symm
      · exact leaves putsBack
  · refine forall₂_congr fun directory member => ?_
    obtain ⟨puts, leaves⟩ := back directory member
    constructor
    · intro undone pinned
      by_contra left
      exact pinned ((leaves left).symm.trans undone)
    · intro all
      by_cases putsBack : service.PutsBack request answers directory
      · exact puts putsBack
      · exact (leaves putsBack).trans
          (not_not.mp fun pinned => putsBack (all pinned))

/-- After any run, a failed request leaves every directory as it was, or every
one as before its pin, exactly when it puts back no pinned one or all of
them. -/
theorem failed_requests_iff (files : CpusetFiles) (labels : List AffinityLabel)
    (request : AffinityRequest) (answers : AffinityAnswers)
    (fails : ((Runs.run step (fresh files) labels).setCpuAffinity request
      answers).1.fails = true)
    (undoes : lowerCase request.cpuClass ≠ "restore" →
      ∀ directory original, (answers.restoring directory).refuses
        (PinSystem.parent answers.allowed directory) original = false) :
    (Runs.run step (fresh files) labels).FailsAlike request answers ↔
      (Runs.run step (fresh files) labels).UndoesAlike request answers := by
  have initially : (fresh files).cpu.Readable :=
    fun _ _ absent => nomatch absent
  have always : Runs.EveryStep step (fun _ _ => True) (fresh files) labels :=
    Runs.everyStep_of_forall (fun _ _ => trivial) _ labels
  have readable : (Runs.run step (fresh files) labels).cpu.Readable :=
    Runs.invariant_run (fun service : AffinityService => service.cpu.Readable)
      (fun _ label readable _ => readable_step readable label) initially always
  exact failsAlike_iff readable fails undoes

/-- A request to pin two scopes to one CPU; the write to the first fails when
asked. -/
def pinBoth (cpu : String) (fails : Bool) : AffinityRequest × AffinityAnswers :=
  (⟨"editor", "Editor", "custom", some cpu, []⟩,
    { dirs := ["/cg/a.scope", "/cg/b.scope"]
      pids := [10]
      groups := ⟨[], [], []⟩
      cpuCount := 2
      allowed := fun _ => none
      setting := fun directory =>
        ⟨true, false,
          if fails && directory = "/cg/a.scope" then some .other else none,
          some cpu⟩
      restoring := fun _ => ⟨none, none⟩ })

/-- Both scopes are pinned to the first CPU. -/
def bothPinned : List AffinityLabel :=
  [.request (pinBoth "0" false).1 (pinBoth "0" false).2]

theorem failed_requests_iff_witness :
    (Runs.run step (fresh fun _ => .present ∅) bothPinned).FailsAlike
        (pinBoth "1" true).1 (pinBoth "1" true).2 ↔
      (Runs.run step (fresh fun _ => .present ∅) bothPinned).UndoesAlike
        (pinBoth "1" true).1 (pinBoth "1" true).2 :=
  failed_requests_iff (fun _ => .present ∅) bothPinned (pinBoth "1" true).1
    (pinBoth "1" true).2 (by decide +kernel) (fun _ _ _ => rfl)

/-- The scope that failed loses its earlier pin, the other one keeps it. -/
theorem repinning_leaves_mix :
    ((Runs.run step (fresh fun _ => .present ∅) bothPinned).setCpuAffinity
        (pinBoth "1" true).1 (pinBoth "1" true).2).1.fails = true ∧
      ¬ (Runs.run step (fresh fun _ => .present ∅) bothPinned).FailsAlike
        (pinBoth "1" true).1 (pinBoth "1" true).2 := by
  refine ⟨by decide +kernel, ?_⟩
  rintro (kept | undone)
  · have first := kept "/cg/a.scope" (by decide)
    revert first
    decide +kernel
  · have second := undone "/cg/b.scope" (by decide)
    revert second
    decide +kernel

end AffinityService

end SmarTune
