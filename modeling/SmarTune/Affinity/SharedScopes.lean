import SmarTune.Affinity.Tracking

/-!
# Shared scopes and lost pins

The affinity operations in any order, changes of others in between.  A pin is
lost when the controller has a directory bound that no app tracks any more.  A
shared pin is broken when one app's end unpins a directory another app has.
The conditions under which neither happens are exact.
-/

namespace SmarTune

/-- One operation, or a change of a cpuset file by someone else. -/
inductive AffinityLabel
  | request (request : AffinityRequest) (answers : AffinityAnswers)
  | release (appId : String) (allowed : String → Option (Finset Nat))
      (restoring : String → RestoreCpusOutcomes)
  | reap (answers : ReaperAnswers)
  | outside (directory : String) (file : CpusetFile)

namespace AffinityService

/-- What an operation does. -/
def step (service : AffinityService) : AffinityLabel → AffinityService
  | .request request answers => (service.setCpuAffinity request answers).2
  | .release appId allowed restoring =>
    (service.releaseCpuAffinity appId allowed restoring).2
  | .reap answers => service.reapClosedAffinity answers
  | .outside directory file =>
    { service with
      cpu :=
        { service.cpu with
          files := Function.update service.cpu.files directory file } }

/-- The directory is among the tracked ones of the app. -/
def Tracks (service : AffinityService) (appId directory : String) : Prop :=
  ∃ tracked, service.apps.get? appId = some tracked ∧ directory ∈ tracked.dirs

def Closed (service : AffinityService) (answers : ReaperAnswers)
    (appId : String) : Prop :=
  ∃ tracked, service.apps.get? appId = some tracked ∧
    answers.gone (appId, tracked) = true

/-- Every bound directory is tracked for some app. -/
def NoPinLost (service : AffinityService) : Prop :=
  ∀ directory, service.cpu.isBound directory = true →
    ∃ appId, service.Tracks appId directory

/-- A directory tracked for an app that stays is not unpinned because another
app was released or closed. -/
def SharedPinKept (service : AffinityService) : AffinityLabel → Prop
  | .release appId allowed restoring =>
    ∀ directory, service.cpu.isBound directory = true →
      (∃ other ≠ appId, service.Tracks other directory) →
        (service.releaseCpuAffinity appId allowed
          restoring).2.cpu.isBound directory = true
  | .reap answers =>
    ∀ directory, service.cpu.isBound directory = true →
      (∃ other, service.Tracks other directory ∧
        ¬service.Closed answers other) →
        (service.reapClosedAffinity answers).cpu.isBound directory = true
  | .request _ _ | .outside _ _ => True

/-- A request that fails part-way can undo what it pinned and no app tracks;
a release unpins no directory of another app; a reaper pass unpins a directory
of a closed app exactly when no app that stays has it. -/
def Undoes (service : AffinityService) : AffinityLabel → Prop
  | .request request answers =>
    let dirs := answers.dirs.filter (inScope request.targetCgroups)
    lowerCase request.cpuClass ≠ "restore" →
    ∀ value, resolveCpus request.cpuClass request.cpus answers.groups
        (Finset.range (max answers.cpuCount 1)) = .ok value →
    (∃ directory ∈ dirs, service.cpu.binds value directory
      (answers.setting directory) = false) →
    ∀ directory ∈ service.cpu.walked answers.setting value dirs,
      service.cpu.accepts directory (answers.setting directory) = true →
      (∀ appId, ¬service.Tracks appId directory) →
        (answers.restoring directory).refuses
          (PinSystem.parent answers.allowed directory)
          (service.cpu.originalOf answers.allowed directory
            (answers.setting directory).appears) = false
  | .release appId allowed restoring =>
    ∀ directory, service.cpu.isBound directory = true →
      service.Tracks appId directory →
      service.cpu.stuck allowed directory (restoring directory) = false →
        ∀ other ≠ appId, ¬service.Tracks other directory
  | .reap answers =>
    ∀ directory, service.cpu.isBound directory = true →
      ((∃ other, service.Tracks other directory ∧
          ¬service.Closed answers other) ↔
        ∀ appId, service.Tracks appId directory → service.Closed answers appId →
            service.cpu.stuck answers.allowed directory
              (answers.restoring appId directory) = true)
  | .outside _ _ => True

variable {service : AffinityService}

/-! ### Tracking -/

theorem tracks_forgetAffinity (appId : String) (dirs : List String)
    (other directory : String) :
    (service.forgetAffinity appId dirs).Tracks other directory ↔
      service.Tracks other directory ∧ (other = appId → directory ∉ dirs) := by
  cases entry : service.apps.get? appId with
  | none =>
    have here : service.Tracks other directory → other ≠ appId := by
      rintro ⟨tracked, found, -⟩ rfl
      rw [entry] at found
      cases found
    simp only [forgetAffinity, entry]
    exact ⟨fun tracks => ⟨tracks, fun same => (here tracks same).elim⟩,
      And.left⟩
  | some tracked =>
  simp only [Tracks, forgetAffinity, entry]
  by_cases here : other = appId
  · subst here
    split
    · next nothing =>
      have all : ∀ directory ∈ tracked.dirs, directory ∈ dirs := by
        intro directory member
        by_contra away
        have left : directory ∈ tracked.dirs \ dirs.toFinset := by
          simp [member, away]
        rw [nothing] at left
        cases left
      simpa [entry] using all directory
    · simp [entry]
  · split <;>
      simp [here, OrderedDict.get?_erase_of_ne, OrderedDict.get?_set_of_ne]

theorem tracks_track (appId appName : String) (pids : List Nat)
    (done : List String) (other directory : String) :
    (service.track appId appName pids done).Tracks other directory ↔
      service.Tracks other directory ∨ other = appId ∧ directory ∈ done := by
  by_cases here : other = appId
  · subst here
    cases entry : service.apps.get? other <;> simp [Tracks, track, entry]
  · simp [Tracks, track, here, OrderedDict.get?_set_of_ne]

@[simp] theorem mem_trackedAffinityDirs (appId directory : String) :
    directory ∈ service.trackedAffinityDirs appId ↔
      service.Tracks appId directory := by
  cases entry : service.apps.get? appId <;>
    simp [trackedAffinityDirs, Tracks, entry, SetOrder.mem_walk]

@[simp] theorem cpu_forgetAffinity (appId : String) (dirs : List String) :
    (service.forgetAffinity appId dirs).cpu = service.cpu := by
  unfold forgetAffinity
  split <;> rfl

/-! ### Releases -/

theorem isBound_releaseCpuAffinity (readable : service.cpu.Readable)
    (appId : String) (allowed : String → Option (Finset Nat))
    (restoring : String → RestoreCpusOutcomes) (directory : String) :
    (service.releaseCpuAffinity appId allowed
        restoring).2.cpu.isBound directory = true ↔
      service.cpu.isBound directory = true ∧ (service.Tracks appId directory →
          service.cpu.stuck allowed directory (restoring directory) = true) := by
  rw [← mem_trackedAffinityDirs]
  by_cases none : service.trackedAffinityDirs appId = []
  · simp [releaseCpuAffinity, none]
  simp only [releaseCpuAffinity, none, if_false, cpu_forgetAffinity,
    CpuController.isBound_restoreEach readable]
  split
  · next listed =>
    exact ⟨fun held => ⟨CpuController.isBound_of_stuck held, fun _ => held⟩,
      fun held => held.2 listed⟩
  · next absent =>
    exact ⟨fun bound => ⟨bound, fun listed => (absent listed).elim⟩, And.left⟩

theorem tracks_releaseCpuAffinity (readable : service.cpu.Readable)
    (appId : String) (allowed : String → Option (Finset Nat))
    (restoring : String → RestoreCpusOutcomes) (other directory : String) :
    (service.releaseCpuAffinity appId allowed restoring).2.Tracks other
        directory ↔
      service.Tracks other directory ∧ (other = appId →
          service.cpu.stuck allowed directory (restoring directory) = true) := by
  by_cases none : service.trackedAffinityDirs appId = []
  · have absent : ¬service.Tracks appId directory := by
      rw [← mem_trackedAffinityDirs, none]
      exact List.not_mem_nil
    simp only [releaseCpuAffinity, none, if_true]
    exact ⟨fun tracks => ⟨tracks, fun same => (absent (same ▸ tracks)).elim⟩,
      And.left⟩
  simp only [releaseCpuAffinity, none, if_false, tracks_forgetAffinity,
    CpuController.restoredOf_restoreEach readable, List.mem_filter,
    mem_trackedAffinityDirs, Bool.not_eq_true', not_and, Bool.not_eq_false]
  apply and_congr_right
  intro tracks
  exact ⟨fun held same => held same (same ▸ tracks),
    fun held same _ => held same⟩

theorem release_iff (readable : service.cpu.Readable)
    (tracked : service.NoPinLost) (appId : String)
    (allowed : String → Option (Finset Nat))
    (restoring : String → RestoreCpusOutcomes) :
    (service.releaseCpuAffinity appId allowed restoring).2.NoPinLost ∧
        service.SharedPinKept (.release appId allowed restoring) ↔
      service.Undoes (.release appId allowed restoring) := by
  have kept :
      (service.releaseCpuAffinity appId allowed restoring).2.NoPinLost := by
    intro directory bound
    rw [isBound_releaseCpuAffinity readable] at bound
    obtain ⟨other, tracks⟩ := tracked directory bound.1
    exact ⟨other, (tracks_releaseCpuAffinity readable appId allowed restoring
      other directory).mpr ⟨tracks, fun same => bound.2 (same ▸ tracks)⟩⟩
  simp only [kept, true_and, SharedPinKept, Undoes,
    isBound_releaseCpuAffinity readable]
  constructor
  · intro shared directory bound tracks free other different tracksOther
    have held := (shared directory bound ⟨other, different, tracksOther⟩).2
      tracks
    rw [free] at held
    cases held
  · rintro undoes directory bound ⟨other, different, tracksOther⟩
    refine ⟨bound, fun tracks => ?_⟩
    by_contra free
    exact undoes directory bound tracks (Bool.not_eq_true _ ▸ free) other
      different tracksOther

/-! ### Reaper passes -/

theorem foldl_reapApp (answers : ReaperAnswers)
    (readable : service.cpu.Readable) (closed : List (String × TrackedApp))
    (directory : String) :
    let after := closed.foldl (reapApp answers) service
    (∀ appId, after.apps.get? appId =
        if appId ∈ closed.map Prod.fst then none
        else service.apps.get? appId) ∧
      (after.cpu.isBound directory = true ↔
        service.cpu.isBound directory = true ∧
          ∀ entry ∈ closed, directory ∈ entry.2.dirs →
            service.cpu.stuck answers.allowed directory
              (answers.restoring entry.1 directory) = true) ∧
      after.cpu.Readable := by
  induction closed generalizing service with
  | nil => simp [readable]
  | cons first rest ih =>
  have readableNext : (reapApp answers service first).cpu.Readable :=
    CpuController.readable_restoreEach readable _ _
  obtain ⟨apps, bound, readableAfter⟩ := ih readableNext
  refine ⟨fun appId => ?_, ?_, readableAfter⟩
  · rw [List.foldl_cons, apps appId, reapApp, OrderedDict.get?_erase]
    by_cases here : appId = first.1
    · simp [here]
    · have members : appId ∈ (first :: rest).map Prod.fst ↔
          appId ∈ rest.map Prod.fst := by
        rw [List.map_cons, List.mem_cons, or_iff_right here]
      simp only [here, members, if_false]
  rw [List.foldl_cons, bound, List.forall_mem_cons]
  by_cases held : directory ∈ first.2.dirs →
      service.cpu.stuck answers.allowed directory
        (answers.restoring first.1 directory) = true
  · have same : (reapApp answers service first).cpu.SameAt service.cpu
        directory :=
      CpuController.sameAt_restoreEach readable fun listed =>
        held ((answers.order.mem_walk _ _).mp listed)
    rw [and_iff_right held]
    simp only [same.isBound, same.stuck]
  · have gone : (reapApp answers service first).cpu.isBound directory =
        false := by
      rw [not_forall] at held
      obtain ⟨listed, free⟩ := held
      rw [reapApp]
      simp only [CpuController.isBound_restoreEach readable,
        (answers.order.mem_walk _ _).mpr listed, if_true]
      simpa using free
    simp only [gone, held, false_and, and_false, Bool.false_eq_true]

theorem isBound_reapClosedAffinity (answers : ReaperAnswers)
    (readable : service.cpu.Readable) (directory : String) :
    (service.reapClosedAffinity answers).cpu.isBound directory = true ↔
      service.cpu.isBound directory = true ∧
        ∀ appId, service.Tracks appId directory → service.Closed answers appId →
            service.cpu.stuck answers.allowed directory
              (answers.restoring appId directory) = true := by
  rw [reapClosedAffinity, (foldl_reapApp answers readable _ directory).2.1]
  apply and_congr_right
  intro _
  constructor
  · rintro held appId ⟨tracked, found, member⟩ ⟨other, again, gone⟩
    obtain rfl : tracked = other := Option.some.inj (found.symm.trans again)
    exact held (appId, tracked) (List.mem_filter.mpr
        ⟨(service.apps.get?_eq_some_iff appId tracked).mp found, gone⟩) member
  · rintro held ⟨appId, tracked⟩ member listed
    obtain ⟨entry, gone⟩ := List.mem_filter.mp member
    have found := (service.apps.get?_eq_some_iff appId tracked).mpr entry
    exact held appId ⟨tracked, found, listed⟩ ⟨tracked, found, gone⟩

theorem tracks_reapClosedAffinity (answers : ReaperAnswers)
    (readable : service.cpu.Readable) (appId directory : String) :
    (service.reapClosedAffinity answers).Tracks appId directory ↔
      service.Tracks appId directory ∧ ¬service.Closed answers appId := by
  have closed : appId ∈ (service.apps.entries.filter answers.gone).map
      Prod.fst ↔ service.Closed answers appId := by
    simp only [List.mem_map, List.mem_filter, Prod.exists, Closed,
      OrderedDict.get?_eq_some_iff]
    constructor
    · rintro ⟨_, tracked, ⟨entry, gone⟩, rfl⟩
      exact ⟨tracked, entry, gone⟩
    · rintro ⟨tracked, entry, gone⟩
      exact ⟨appId, tracked, ⟨entry, gone⟩, rfl⟩
  rw [Tracks, reapClosedAffinity,
    (foldl_reapApp answers readable _ directory).1 appId]
  by_cases here : service.Closed answers appId
  · simp [closed, here]
  · simp [closed, here, Tracks]

theorem reap_iff (readable : service.cpu.Readable) (answers : ReaperAnswers) :
    (service.reapClosedAffinity answers).NoPinLost ∧
        service.SharedPinKept (.reap answers) ↔
      service.Undoes (.reap answers) := by
  simp only [NoPinLost, SharedPinKept, Undoes,
    isBound_reapClosedAffinity answers readable,
    tracks_reapClosedAffinity answers readable]
  constructor
  · rintro ⟨kept, shared⟩ directory bound
    exact ⟨fun stays => (shared directory bound stays).2,
      fun held => kept directory ⟨bound, held⟩⟩
  · intro undoes
    exact ⟨fun directory held => (undoes directory held.1).mpr held.2,
      fun directory bound stays => ⟨bound, (undoes directory bound).mp stays⟩⟩

/-! ### Requests -/

theorem noPinLost_requestRestore (readable : service.cpu.Readable)
    (tracked : service.NoPinLost) (request : AffinityRequest)
    (answers : AffinityAnswers) :
    (service.requestRestore request answers).2.NoPinLost := by
  intro directory bound
  simp only [requestRestore] at bound ⊢
  split at bound
  · next failures =>
    rw [if_pos failures]
    simp only [CpuController.isBound_restoreEach readable] at bound
    have boundBefore : service.cpu.isBound directory = true := by
      split at bound
      · exact CpuController.isBound_of_stuck bound
      · exact bound
    exact tracked directory boundBefore
  · next failures =>
    rw [if_neg failures]
    simp only [cpu_forgetAffinity,
      CpuController.isBound_restoreEach readable] at bound
    rw [not_not, CpuController.failuresOf_restoreEach_eq_nil_iff readable]
      at failures
    by_cases listed : directory ∈ service.restoreDirs request answers
    · rw [if_pos listed, failures directory listed] at bound
      cases bound
    · rw [if_neg listed] at bound
      obtain ⟨appId, tracks⟩ := tracked directory bound
      exact ⟨appId, (tracks_forgetAffinity _ _ _ _).mpr
        ⟨tracks, fun _ => listed⟩⟩

variable {done : List String}

/-- The directories a rollback restores: those set by the request that are
bound now. -/
theorem mem_rollback_iff {failed directory : String}
    (bound : ∀ other ∈ done, service.cpu.isBound other = true) :
    (directory ∈ done ++
        if service.cpu.isBound failed then [failed] else []) ↔
      directory ∈ done ++ [failed] ∧ service.cpu.isBound directory = true := by
  rw [List.mem_append, List.mem_append, List.mem_singleton]
  constructor
  · rintro (listed | isFailed)
    · exact ⟨.inl listed, bound directory listed⟩
    · split at isFailed
      · next boundFailed =>
        obtain rfl := List.mem_singleton.mp isFailed
        exact ⟨.inr rfl, boundFailed⟩
      · cases isFailed
  · rintro ⟨listed | rfl, isBound⟩
    · exact .inl listed
    · simp [isBound]

theorem isBound_rollBack (readable : service.cpu.Readable) (appId : String)
    (answers : AffinityAnswers) (failed : String)
    (bound : ∀ other ∈ done, service.cpu.isBound other = true)
    (directory : String) :
    (service.rollBack appId answers done failed).cpu.isBound directory = true ↔
      service.cpu.isBound directory = true ∧ (directory ∈ done ++ [failed] →
          service.cpu.stuck answers.allowed directory
            (answers.restoring directory) = true) := by
  simp only [rollBack, cpu_forgetAffinity,
    CpuController.isBound_restoreEach readable, mem_rollback_iff bound]
  split
  · next listed => simp [listed]
  · next absent =>
    constructor
    · intro isBound
      exact ⟨isBound, fun listed => (absent ⟨listed, isBound⟩).elim⟩
    · exact And.left

theorem tracks_rollBack (readable : service.cpu.Readable) (appId : String)
    (answers : AffinityAnswers) (failed : String) (other directory : String) :
    (service.rollBack appId answers done failed).Tracks other directory ↔
      service.Tracks other directory ∧ (other = appId → directory ∈ done ++
            (if service.cpu.isBound failed then [failed] else []) →
          service.cpu.stuck answers.allowed directory
            (answers.restoring directory) = true) := by
  simp only [rollBack, tracks_forgetAffinity,
    CpuController.restoredOf_restoreEach readable, List.mem_filter,
    Bool.not_eq_true', not_and, Bool.not_eq_false]
  exact Iff.rfl

/-- A request that fails part-way leaves no pin untracked when the kernel lets
it undo those that no app tracks. -/
theorem rollBack_iff (readable : service.cpu.Readable)
    (tracked : service.NoPinLost) (appId : String) (answers : AffinityAnswers)
    (cpus : CpuList) {dirs : List String} {failed : String}
    {detail : SetCpusReply}
    (fails : (service.cpu.bindEach answers.allowed cpus.text answers.setting
      dirs).failed = some (failed, detail)) :
    let result :=
      service.cpu.bindEach answers.allowed cpus.text answers.setting dirs
    ({ service with cpu := result.controller }.rollBack appId answers
        result.done failed).NoPinLost ↔
      ∀ directory ∈ service.cpu.walked answers.setting cpus.text dirs,
        service.cpu.accepts directory (answers.setting directory) = true →
        (∀ appId, ¬service.Tracks appId directory) →
          (answers.restoring directory).refuses
            (PinSystem.parent answers.allowed directory)
            (service.cpu.originalOf answers.allowed directory
              (answers.setting directory).appears) = false := by
  intro result
  have walked : service.cpu.walked answers.setting cpus.text dirs =
      result.done ++ [failed] := by
    rw [CpuController.walked_eq answers.allowed, fails]
    rfl
  let next : AffinityService := { service with cpu := result.controller }
  have readableNext : next.cpu.Readable :=
    CpuController.readable_bindEach readable dirs
  have pinned : ∀ directory ∈ result.done ++ [failed],
      service.cpu.isBound directory = false →
      service.cpu.accepts directory (answers.setting directory) = true →
        result.controller.PinnedAt directory cpus
          (service.cpu.originalOf answers.allowed directory
            (answers.setting directory).appears) :=
    fun directory listed notBound accepted =>
      CpuController.pinnedAt_bindEach notBound (walked ▸ listed) accepted
  have bound : ∀ other ∈ result.done, next.cpu.isBound other = true :=
    fun other member => CpuController.isBound_of_mem_done member
  change (next.rollBack appId answers result.done failed).NoPinLost ↔ _
  simp only [NoPinLost, isBound_rollBack readableNext _ _ failed bound,
    tracks_rollBack readableNext, mem_rollback_iff bound, walked]
  constructor
  · intro kept directory listed accepted untracked
    by_contra refused
    rw [Bool.not_eq_false] at refused
    have notBound : service.cpu.isBound directory = false := by
      by_contra isBound
      rw [Bool.not_eq_false] at isBound
      obtain ⟨appId, tracks⟩ := tracked directory isBound
      exact untracked appId tracks
    have pin := pinned directory listed notBound accepted
    have held := pin.stuck answers.allowed (answers.restoring directory)
    rw [refused] at held
    obtain ⟨appId, tracks, -⟩ :=
      kept directory ⟨pin.isBound, fun _ => held⟩
    exact untracked appId tracks
  · rintro undoes directory ⟨isBound, held⟩
    suffices ∃ appId, service.Tracks appId directory by
      obtain ⟨appId, tracks⟩ := this
      exact ⟨appId, tracks, fun _ listed => held listed.1⟩
    cases before : service.cpu.isBound directory with
    | true => exact tracked directory before
    | false =>
      obtain ⟨listed, accepted⟩ :=
        CpuController.walked_of_isBound_bindEach isBound before
      rw [walked] at listed
      by_contra untracked
      rw [not_exists] at untracked
      have pin := pinned directory listed before accepted
      have free := undoes directory listed accepted untracked
      rw [← pin.stuck answers.allowed, held listed] at free
      cases free

theorem noPinLost_track (tracked : service.NoPinLost)
    (request : AffinityRequest) (answers : AffinityAnswers) (cpus : CpuList)
    {dirs : List String}
    (binds : (service.cpu.bindEach answers.allowed cpus.text answers.setting
      dirs).failed = none) :
    let result :=
      service.cpu.bindEach answers.allowed cpus.text answers.setting dirs
    ({ service with cpu := result.controller }.track request.appId
      request.appName answers.pids result.done).NoPinLost := by
  intro result directory bound
  simp only [tracks_track]
  cases before : service.cpu.isBound directory with
  | true =>
    obtain ⟨appId, tracks⟩ := tracked directory before
    exact ⟨appId, .inl tracks⟩
  | false =>
    obtain ⟨listed, -⟩ :=
      CpuController.walked_of_isBound_bindEach bound before
    rw [CpuController.walked_eq answers.allowed, binds, Option.map_none,
      Option.toList_none, List.append_nil] at listed
    exact ⟨request.appId, .inr ⟨rfl, listed⟩⟩

theorem request_iff (readable : service.cpu.Readable)
    (tracked : service.NoPinLost) (request : AffinityRequest)
    (answers : AffinityAnswers) :
    (service.setCpuAffinity request answers).2.NoPinLost ↔
      service.Undoes (.request request answers) := by
  by_cases restores : lowerCase request.cpuClass = "restore"
  · simp only [setCpuAffinity, restores, if_true, Undoes, ne_eq,
      not_true_eq_false, false_implies, iff_true]
    exact noPinLost_requestRestore readable tracked request answers
  by_cases nothing : answers.dirs.filter (inScope request.targetCgroups) = []
  · simp only [setCpuAffinity, restores, nothing, if_true, if_false, Undoes]
    simpa using tracked
  cases resolved : resolveCpus request.cpuClass request.cpus answers.groups
      (Finset.range (max answers.cpuCount 1)) with
  | error reason =>
    simp only [setCpuAffinity, restores, nothing, if_false, resolved, Undoes]
    simpa using tracked
  | ok value =>
  obtain ⟨set, parses⟩ := parses_of_resolveCpus resolved
  let cpus : CpuList := ⟨value, set, parses⟩
  have spec := CpuController.bindEach_spec answers.allowed cpus answers.setting
    service.cpu (answers.dirs.filter (inScope request.targetCgroups))
  simp only [setCpuAffinity, restores, nothing, if_false, resolved, Undoes,
    ne_eq, not_false_eq_true, true_implies, Except.ok.injEq, forall_eq']
  split
  · next failed detail fails =>
    have found := spec.2
    rw [fails, Option.map_some] at found
    have someFails : ∃ directory ∈
        answers.dirs.filter (inScope request.targetCgroups),
        service.cpu.binds value directory (answers.setting directory) =
          false := by
      have refuses := List.find?_some found.symm
      exact ⟨failed, List.mem_of_find?_eq_some found.symm, by simpa using refuses⟩
    rw [forall_prop_of_true someFails]
    exact rollBack_iff readable tracked request.appId answers cpus fails
  · next binds =>
    have found := spec.2
    rw [binds, Option.map_none, eq_comm, List.find?_eq_none] at found
    have noneFails : ¬∃ directory ∈
        answers.dirs.filter (inScope request.targetCgroups),
        service.cpu.binds value directory (answers.setting directory) =
          false := by
      rintro ⟨directory, listed, refuses⟩
      exact found directory listed (by simpa using refuses)
    simp only [noneFails, false_implies, iff_true]
    exact noPinLost_track tracked request answers cpus binds

/-! ### Runs -/

/-- One operation keeps every pin tracked, and the shared ones in place,
exactly when it can undo what it must and nothing else. -/
theorem step_iff (readable : service.cpu.Readable) (tracked : service.NoPinLost)
    (label : AffinityLabel) :
    (service.step label).NoPinLost ∧ service.SharedPinKept label ↔
      service.Undoes label := by
  cases label with
  | request request answers =>
    rw [← request_iff readable tracked request answers]
    exact and_iff_left trivial
  | release appId allowed restoring =>
    exact release_iff readable tracked appId allowed restoring
  | reap answers => exact reap_iff readable answers
  | outside directory file => exact iff_of_true ⟨tracked, trivial⟩ trivial

theorem readable_step (readable : service.cpu.Readable)
    (label : AffinityLabel) :
    (service.step label).cpu.Readable := by
  cases label with
  | release appId allowed restoring =>
    simp only [step, releaseCpuAffinity]
    split
    · exact readable
    · rw [cpu_forgetAffinity]
      exact CpuController.readable_restoreEach readable _ _
  | reap answers => exact (foldl_reapApp answers readable _ "").2.2
  | outside directory file => exact readable
  | request request answers =>
  simp only [step, setCpuAffinity]
  split
  · simp only [requestRestore]
    split
    · exact CpuController.readable_restoreEach readable _ _
    · rw [cpu_forgetAffinity]
      exact CpuController.readable_restoreEach readable _ _
  split
  · exact readable
  split
  · exact readable
  next value resolved =>
  obtain ⟨set, parses⟩ := parses_of_resolveCpus resolved
  let cpus : CpuList := ⟨value, set, parses⟩
  have bound : (service.cpu.bindEach answers.allowed cpus.text answers.setting
      (answers.dirs.filter
        (inScope request.targetCgroups))).controller.Readable :=
    CpuController.readable_bindEach readable _
  split
  · simp only [rollBack, cpu_forgetAffinity]
    exact CpuController.readable_restoreEach bound _ _
  · exact bound

/-- Over a run, every bound directory stays tracked and no app loses a pin to
another app's end exactly when each operation meets its condition. -/
theorem pins_tracked_iff (files : CpusetFiles) (labels : List AffinityLabel) :
    Runs.EveryPrefix step NoPinLost (fresh files) labels ∧
        Runs.EveryStep step SharedPinKept (fresh files) labels ↔
      Runs.EveryStep step Undoes (fresh files) labels := by
  have readable : (fresh files).cpu.Readable := fun _ _ absent => nomatch absent
  have tracked : (fresh files).NoPinLost := fun _ absent => nomatch absent
  generalize fresh files = start at readable tracked
  induction labels generalizing start with
  | nil => simpa using tracked
  | cons label labels ih =>
  rw [Runs.everyPrefix_cons, Runs.everyStep_cons, Runs.everyStep_cons,
    and_iff_right tracked, ← step_iff readable tracked label]
  constructor
  · rintro ⟨later, kept, laterKept⟩
    have next := later.initially
    exact ⟨⟨next, kept⟩, (ih _
      (readable_step readable label) next).mp ⟨later, laterKept⟩⟩
  · rintro ⟨⟨next, kept⟩, undoes⟩
    obtain ⟨later, laterKept⟩ := (ih _
      (readable_step readable label) next).mpr undoes
    exact ⟨later, kept, laterKept⟩

/-! ### A terminal tab -/

/-- A scope that several apps can share. -/
def terminalScope : String := "/cg/tab.scope"

/-- A request to pin an app of the scope, with one process, to CPU 0. -/
def pinToFirst (appId : String) (pid : Nat) : AffinityLabel :=
  .request ⟨appId, appId, "custom", some "0", []⟩
    { dirs := [terminalScope]
      pids := [pid]
      groups := ⟨[], [], []⟩
      cpuCount := 1
      allowed := fun _ => none
      setting := fun _ => ⟨true, false, none, some "0"⟩
      restoring := fun _ => ⟨none, none⟩ }

/-- A reaper pass after process 10 has exited. -/
def tenExited (refused : Option Errno) : ReaperAnswers where
  pidGone pid := pid = 10
  runningStatus _ _ := none
  order := .sorted
  allowed _ := none
  restoring _ _ := ⟨refused, none⟩

/-- The reaper drops an app whose directory it could not restore, and unpins a
scope that another app still has. -/
theorem reaper_loses_pin :
    ¬Runs.EveryPrefix step NoPinLost (fresh fun _ => .present ∅)
        [pinToFirst "editor" 10, .reap (tenExited (some .other))] ∧
      ¬Runs.EveryStep step SharedPinKept (fresh fun _ => .present ∅)
        [pinToFirst "editor" 10, pinToFirst "shell" 11,
          .reap (tenExited none)] := by
  constructor
  · intro kept
    obtain ⟨appId, tracked, found, -⟩ :=
      kept.finally terminalScope (by decide +kernel)
    have none : (Runs.run step (fresh fun _ => .present ∅)
        [pinToFirst "editor" 10,
          .reap (tenExited (some .other))]).apps.keys = [] := by
      decide +kernel
    rw [OrderedDict.get?_eq_some_iff] at found
    have key := List.mem_map_of_mem (f := Prod.fst) found
    rw [OrderedDict.keys] at none
    rw [none] at key
    cases key
  · rintro ⟨-, -, shared, -⟩
    have entry : ((Runs.run step (fresh fun _ => .present ∅)
        [pinToFirst "editor" 10, pinToFirst "shell" 11]).apps.get?
          "shell").map (fun tracked => (tracked.dirs, tracked.pids)) =
        some ({terminalScope}, {11}) := by
      decide +kernel
    obtain ⟨tracked, found, same⟩ := Option.map_eq_some_iff.mp entry
    obtain ⟨dirs, pids⟩ := Prod.mk.inj same
    have stays : (tenExited none).gone ("shell", tracked) = false := by
      simp [ReaperAnswers.gone, pids, tenExited]
    have kept := shared terminalScope (by decide +kernel)
      ⟨"shell", ⟨tracked, found, by simp [dirs]⟩, by
        rintro ⟨other, again, gone⟩
        obtain rfl : tracked = other := Option.some.inj (found.symm.trans again)
        rw [stays] at gone
        cases gone⟩
    revert kept
    decide +kernel

end AffinityService

end SmarTune
