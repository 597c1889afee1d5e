import SmarTune.Affinity.CpuController
import SmarTune.Library.Runs

/-!
# What a restored directory is held to

`set_cpus` and `restore` in any order, writes of others to `cpuset.cpus` in
between.  Beside the controller the state keeps what an observer of the kernel
would note: the CPUs a directory had before the first accepted write since it
was last unbound, and the CPUs of the last accepted write.
-/

namespace SmarTune

/-! ## Restrictions -/

/-- The CPUs a directory is held to, `none` for no restriction. -/
def heldTo (allowed : Option (Finset Nat)) (cpus : Finset Nat) :
    Option (Finset Nat) :=
  if cpus = ∅ ∨ ∃ others ∈ allowed, others ⊆ cpus then none else some cpus

@[simp] theorem heldTo_empty (allowed : Option (Finset Nat)) :
    heldTo allowed ∅ = none := by
  simp [heldTo]

/-- The CPUs the parent allows restrict nothing. -/
@[simp] theorem heldTo_allowed (allowed : Finset Nat) :
    heldTo (some allowed) allowed = none := by
  simp [heldTo]

/-- `_restriction` of the text of a file. -/
theorem cpuRestriction_formatCpuList (allowed : Option (Finset Nat))
    (cpus : Finset Nat) :
    cpuRestriction (allowed.map formatCpuList) (some (formatCpuList cpus)) =
      some (if cpus = ∅ ∨ ∃ others ∈ allowed, others ≠ ∅ ∧ others ⊆ cpus then ""
        else formatCpuList cpus) := by
  cases allowed with
  | none => by_cases empty : cpus = ∅ <;> simp [cpuRestriction, empty]
  | some others =>
    by_cases empty : cpus = ∅
    · simp [cpuRestriction, empty]
    by_cases unknown : others = ∅
    · simp [cpuRestriction, unknown, empty]
    by_cases covers : others ⊆ cpus <;>
      simp [cpuRestriction, formatCpuList_eq_empty_iff,
        parseCpuList_formatCpuList, empty, unknown, covers]

/-- The value `set_cpus` records for a directory that had `cpus`. -/
def recordedOriginal (allowed : Option (Finset Nat)) (cpus : Finset Nat) :
    String :=
  (cpuRestriction (allowed.map formatCpuList)
    (some (formatCpuList cpus))).getD ""

/-- The recorded value restricts as the directory was restricted. -/
theorem exists_parse_recordedOriginal (allowed : Option (Finset Nat))
    (cpus : Finset Nat) :
    ∃ set, parseCpuList (recordedOriginal allowed cpus) = .ok set ∧
      heldTo allowed set = heldTo allowed cpus := by
  rw [recordedOriginal, cpuRestriction_formatCpuList, Option.getD_some]
  split
  · next nothing =>
    refine ⟨∅, by rw [← formatCpuList_empty, parseCpuList_formatCpuList], ?_⟩
    have unrestricted : cpus = ∅ ∨ ∃ others ∈ allowed, others ⊆ cpus :=
      nothing.imp_right fun ⟨others, known, _, covers⟩ =>
        ⟨others, known, covers⟩
    rw [heldTo_empty, heldTo, if_pos unrestricted]
  · exact ⟨cpus, parseCpuList_formatCpuList cpus, rfl⟩

/-- Nothing to record: the directory was not restricted. -/
theorem heldTo_of_recordedOriginal_eq_empty {allowed : Option (Finset Nat)}
    {cpus : Finset Nat} (nothing : recordedOriginal allowed cpus = "") :
    heldTo allowed cpus = none := by
  obtain ⟨set, parses, same⟩ := exists_parse_recordedOriginal allowed cpus
  rw [nothing, ← formatCpuList_empty, parseCpuList_formatCpuList] at parses
  rw [← same, ← Except.ok.inj parses, heldTo_empty]

/-! ## One call -/

def CpusetFile.cpus : CpusetFile → Option (Finset Nat)
  | .present cpus => some cpus
  | .gone | .disabled => none

theorem CpusetFile.read_eq_some_iff {file : CpusetFile} {text : String} :
    file.read = some text ↔
      ∃ cpus, file = .present cpus ∧ formatCpuList cpus = text := by
  cases file <;> simp [CpusetFile.read]

@[simp] theorem CpusetFiles.write_refused (files : CpusetFiles)
    (directory text : String) (errno : Errno) :
    files.write directory text (some errno) = .error errno := rfl

theorem CpusetFiles.write_accepted {files : CpusetFiles}
    {directory text : String} {cpus : Finset Nat}
    (parses : parseCpuList text = .ok cpus) :
    files.write directory text none =
      .ok (Function.update files directory (.present cpus)) := by
  simp only [write, parses]

theorem CpusetFiles.write_eq_ok_iff {files written : CpusetFiles}
    {directory text : String} {refused : Option Errno} :
    files.write directory text refused = .ok written ↔
      refused = none ∧ ∃ cpus, parseCpuList text = .ok cpus ∧
        written = Function.update files directory (.present cpus) := by
  unfold CpusetFiles.write
  cases refused with
  | some errno => simp
  | none =>
    cases parses : parseCpuList text with
    | error error => simp
    | ok cpus => simp [eq_comm]

namespace CpuController

variable
  {controller : CpuController}
  {parent : Option String}
  {directory : String}

theorem enabledFiles_of_ne {other : String} (elsewhere : other ≠ directory)
    (appears : Bool) :
    controller.enabledFiles directory appears other =
      controller.files other := by
  unfold enabledFiles
  split
  · exact Function.update_of_ne elsewhere _ _
  · rfl

theorem setCpus_cases (controller : CpuController) (parent : Option String)
    (directory : String) (cpus : CpuList) (outcomes : SetCpusOutcomes) :
    ((controller.setCpus parent directory cpus.text outcomes).1.wrote = false ∧
      ∃ files, (files = controller.files ∨
          files = controller.enabledFiles directory outcomes.appears) ∧
        (controller.setCpus parent directory cpus.text outcomes).2 =
          { controller with files := files }) ∨
    ((controller.setCpus parent directory cpus.text outcomes).1.wrote = true ∧
      ∃ before, controller.enabledFiles directory outcomes.appears directory =
          .present before ∧
        (controller.setCpus parent directory cpus.text outcomes).2 =
          controller.recordWrite directory
            ((cpuRestriction parent (some (formatCpuList before))).getD "")
            cpus.text
            (Function.update
              (controller.enabledFiles directory outcomes.appears)
              directory (.present cpus.cpus))) := by
  unfold setCpus
  split
  · exact .inl ⟨rfl, controller.files, .inl rfl, rfl⟩
  simp only
  split
  · exact .inl ⟨rfl, _, .inr rfl, rfl⟩
  split
  · exact .inl ⟨rfl, _, .inr rfl, rfl⟩
  next original seen =>
  obtain ⟨before, present, rfl⟩ := CpusetFile.read_eq_some_iff.mp seen
  split
  · exact .inl ⟨rfl, _, .inr rfl, rfl⟩
  next written accepted =>
  obtain ⟨-, set, parses, rfl⟩ := CpusetFiles.write_eq_ok_iff.mp accepted
  rw [cpus.parses] at parses
  cases parses
  refine .inr ⟨?_, before, present, rfl⟩
  split <;> rfl

theorem restore_of_not_bound
    (notBound : controller.originals.get? directory = none)
    (outcomes : RestoreCpusOutcomes) :
    (controller.restore parent directory outcomes).1.ok = true ∧
      (controller.restore parent directory outcomes).2 = controller := by
  simp [restore, notBound, RestoreCpusReply.ok]

theorem restore_of_unreadable {original : String}
    (bound : controller.originals.get? directory = some original)
    (unreadable : (controller.files directory).cpus = none)
    (outcomes : RestoreCpusOutcomes) :
    (controller.restore parent directory outcomes).1.ok = true ∧
      (controller.restore parent directory outcomes).2 =
        controller.forget directory := by
  cases file : controller.files directory with
  | present cpus => rw [file] at unreadable; cases unreadable
  | gone => simp [restore, bound, file, RestoreCpusReply.ok]
  | disabled => simp [restore, bound, file, RestoreCpusReply.ok]

theorem changedElsewhere_formatCpuList {text : String} {last : Finset Nat}
    (parses : parseCpuList text = .ok last) (now : Finset Nat) :
    changedElsewhere (some (formatCpuList now)) (some text) =
      decide (now ≠ last) := by
  simp [changedElsewhere, parseCpuList_formatCpuList, parses]

section Present

variable
  {original text : String}
  {now last : Finset Nat}
  (bound : controller.originals.get? directory = some original)
  (applied : controller.applied.get? directory = some text)
  (parses : parseCpuList text = .ok last)
  (present : controller.files directory = .present now)

include bound applied parses present

/-- Another value than ours is kept. -/
theorem restore_of_changed (changed : now ≠ last)
    (outcomes : RestoreCpusOutcomes) :
    (controller.restore parent directory outcomes).1.ok = true ∧
      (controller.restore parent directory outcomes).2 =
        controller.forget directory := by
  simp [restore, bound, present, applied, CpusetFile.read,
    changedElsewhere_formatCpuList parses, changed, RestoreCpusReply.ok]

/-- Our value is replaced by the original, or by the parent's CPUs where there
was no restriction, unless the kernel refuses. -/
theorem restore_of_unchanged (unchanged : now = last)
    (outcomes : RestoreCpusOutcomes) :
    ((controller.restore parent directory outcomes).1.ok = false ∧
      (controller.restore parent directory outcomes).2 = controller) ∨
    ((controller.restore parent directory outcomes).1.ok = true ∧ ∃ after,
        (parseCpuList original = .ok after ∨
          original = "" ∧ ∃ others, parent = some others ∧
            parseCpuList others = .ok after) ∧
        (controller.restore parent directory outcomes).2 =
          { controller with
            files := Function.update controller.files directory
              (.present after) }.forget directory) := by
  unfold restore
  simp only [bound, present, applied, CpusetFile.read,
    changedElsewhere_formatCpuList parses, unchanged, ne_eq,
    not_true_eq_false, decide_false, Bool.false_eq_true, reduceCtorEq,
    if_false]
  split
  · next written accepted =>
    obtain ⟨-, after, reads, rfl⟩ := CpusetFiles.write_eq_ok_iff.mp accepted
    exact .inr ⟨rfl, after, .inl reads, rfl⟩
  split
  · exact .inl ⟨rfl, rfl⟩
  next fallback found =>
  split
  · next written accepted =>
    obtain ⟨-, after, reads, rfl⟩ := CpusetFiles.write_eq_ok_iff.mp accepted
    refine .inr ⟨rfl, after, .inr ?_, rfl⟩
    unfold unpinFallback at found
    split at found
    · cases found
    next clearing =>
    split at found
    · cases found
    · cases found
    · cases found
      exact ⟨by tauto, _, rfl, reads⟩
  · exact .inl ⟨rfl, rfl⟩

end Present

end CpuController

/-! ## Any sequence of calls -/

/-- The controller and what the kernel saw. -/
structure PinSystem where
  controller : CpuController
  /-- The CPUs of a bound directory before SmarTune's first write. -/
  first : String → Option (Finset Nat)
  /-- The CPUs SmarTune wrote last. -/
  last : String → Finset Nat

/-- One call, or a change by someone else. -/
inductive PinLabel
  | setCpus (directory : String) (cpus : CpuList) (outcomes : SetCpusOutcomes)
  | restore (directory : String) (outcomes : RestoreCpusOutcomes)
  | outside (directory : String) (file : CpusetFile)

namespace PinSystem

/-- Nothing is pinned. -/
def fresh (files : CpusetFiles) : PinSystem :=
  ⟨.fresh files, fun _ => none, fun _ => ∅⟩

variable (allowed : String → Option (Finset Nat))

/-- What `cpuset.cpus.effective` of the parent reads. -/
def parent (directory : String) : Option String :=
  (allowed directory).map formatCpuList

/-- What a call does. -/
def step (state : PinSystem) : PinLabel → PinSystem
  | .setCpus directory cpus outcomes =>
    let result := state.controller.setCpus (parent allowed directory)
      directory cpus.text outcomes
    if result.1.wrote then
      let before := (state.controller.enabledFiles directory
        outcomes.appears directory).cpus
      { controller := result.2
        first := if (state.first directory).isSome then state.first
          else Function.update state.first directory before
        last := Function.update state.last directory cpus.cpus }
    else { state with controller := result.2 }
  | .restore directory outcomes =>
    let result := state.controller.restore (parent allowed directory)
      directory outcomes
    { state with
      controller := result.2
      first := if result.1.ok then Function.update state.first directory none
        else state.first }
  | .outside directory file =>
    { state with
      controller :=
        { state.controller with
          files := Function.update state.controller.files directory file } }

/-- The controller's records agree with what the kernel saw. -/
structure Recorded (state : PinSystem) : Prop where
  originals : ∀ directory, state.controller.originals.get? directory =
    (state.first directory).map (recordedOriginal (allowed directory))
  applied : ∀ directory, (state.first directory).isSome →
    ∃ text, state.controller.applied.get? directory = some text ∧
      parseCpuList text = .ok (state.last directory)

theorem recorded_fresh (files : CpusetFiles) : Recorded allowed (fresh files) where
  originals _ := rfl
  applied _ bound := nomatch bound

variable {allowed} {state : PinSystem}

theorem recorded_forget (recorded : Recorded allowed state) (directory : String)
    (files : CpusetFiles) :
    Recorded allowed
      { state with
        controller :=
          { state.controller with files := files }.forget directory
        first := Function.update state.first directory none } where
  originals other := by
    by_cases here : other = directory
    · subst here
      simp [CpuController.forget]
    · simpa [CpuController.forget, OrderedDict.get?_erase_of_ne, here] using
        recorded.originals other
  applied other bound := by
    by_cases here : other = directory
    · subst here
      simp at bound
    · have heldBefore : (state.first other).isSome := by
        simpa [here] using bound
      simpa [CpuController.forget, OrderedDict.get?_erase_of_ne, here] using
        recorded.applied other heldBefore

theorem recorded_setCpus (recorded : Recorded allowed state)
    (directory : String) (cpus : CpuList) (outcomes : SetCpusOutcomes) :
    Recorded allowed
      (step allowed state (.setCpus directory cpus outcomes)) := by
  obtain ⟨refused, files, -, unchanged⟩ | ⟨wrote, before, present, written⟩ :=
    state.controller.setCpus_cases (parent allowed directory) directory cpus
      outcomes
  · simp only [step, refused, unchanged]
    exact ⟨recorded.originals, recorded.applied⟩
  simp only [step, wrote, written, present, if_true]
  have bound : state.controller.isBound directory =
      (state.first directory).isSome := by
    rw [CpuController.isBound, recorded.originals, Option.isSome_map]
  constructor
  · intro other
    simp only [CpuController.recordWrite, bound]
    split
    · exact recorded.originals other
    by_cases here : other = directory
    · subst here
      simp [CpusetFile.cpus, recordedOriginal, parent]
    · simpa [OrderedDict.get?_set_of_ne, here] using recorded.originals other
  · intro other held
    by_cases here : other = directory
    · subst here
      exact ⟨cpus.text, by simp [CpuController.recordWrite],
        by simpa using cpus.parses⟩
    · have heldBefore : (state.first other).isSome := by
        revert held
        split <;> simp [here]
      simpa [CpuController.recordWrite, OrderedDict.get?_set_of_ne, here]
        using recorded.applied other heldBefore

theorem restore_cases (recorded : Recorded allowed state) (directory : String)
    (outcomes : RestoreCpusOutcomes) :
    let result := state.controller.restore (parent allowed directory)
      directory outcomes
    (result.1.ok = false ∧ result.2 = state.controller) ∨
    (result.1.ok = true ∧ state.first directory = none ∧
      result.2 = state.controller) ∨
    (result.1.ok = true ∧
      state.controller.files directory ≠ .present (state.last directory) ∧
      result.2 = state.controller.forget directory) ∨
    (result.1.ok = true ∧
      state.controller.files directory = .present (state.last directory) ∧
      ∃ before after, state.first directory = some before ∧
        heldTo (allowed directory) after = heldTo (allowed directory) before ∧
        result.2 =
          { state.controller with
            files := Function.update state.controller.files directory
              (.present after) }.forget directory) := by
  intro result
  have original := recorded.originals directory
  cases first : state.first directory with
  | none =>
    rw [first, Option.map_none] at original
    obtain ⟨ok, same⟩ := CpuController.restore_of_not_bound original outcomes
    exact .inr (.inl ⟨ok, rfl, same⟩)
  | some before =>
  rw [first, Option.map_some] at original
  cases readable : (state.controller.files directory).cpus with
  | none =>
    obtain ⟨ok, forgotten⟩ :=
      CpuController.restore_of_unreadable original readable outcomes
    refine .inr (.inr (.inl ⟨ok, ?_, forgotten⟩))
    intro present
    rw [present] at readable
    cases readable
  | some now =>
  have present : state.controller.files directory = .present now := by
    cases file : state.controller.files directory with
    | present cpus => rw [file] at readable; cases readable; rfl
    | gone | disabled => rw [file] at readable; cases readable
  obtain ⟨text, applied, parses⟩ :=
    recorded.applied directory (by rw [first]; rfl)
  by_cases unchanged : now = state.last directory
  · obtain ⟨failed, same⟩ | ⟨ok, after, reads, restored⟩ :=
      CpuController.restore_of_unchanged original applied parses present
        unchanged outcomes
    · exact .inl ⟨failed, same⟩
    refine .inr (.inr (.inr
      ⟨ok, by rw [present, unchanged], before, after, rfl, ?_, restored⟩))
    obtain ⟨set, recordedSet, same⟩ :=
      exists_parse_recordedOriginal (allowed directory) before
    rcases reads with reads | ⟨nothing, others, known, reads⟩
    · rw [recordedSet] at reads
      rw [← Except.ok.inj reads, same]
    · rw [parent, Option.map_eq_some_iff] at known
      obtain ⟨cpus, known, rfl⟩ := known
      rw [parseCpuList_formatCpuList] at reads
      rw [← Except.ok.inj reads, known, heldTo_allowed, ← known,
        heldTo_of_recordedOriginal_eq_empty nothing]
  · obtain ⟨ok, forgotten⟩ :=
      CpuController.restore_of_changed original applied parses present
        unchanged outcomes
    refine .inr (.inr (.inl ⟨ok, ?_, forgotten⟩))
    rw [present]
    simpa using unchanged

theorem recorded_restore (recorded : Recorded allowed state)
    (directory : String) (outcomes : RestoreCpusOutcomes) :
    Recorded allowed (step allowed state (.restore directory outcomes)) := by
  obtain ⟨failed, same⟩ | ⟨ok, free, same⟩ | ⟨ok, -, forgotten⟩ |
      ⟨ok, -, before, after, -, -, restored⟩ :=
    restore_cases recorded directory outcomes
  · simpa only [step, failed, same, Bool.false_eq_true, if_false] using recorded
  · simp only [step, ok, same, if_true, ← free, Function.update_eq_self]
    exact recorded
  · simp only [step, ok, forgotten, if_true]
    exact recorded_forget recorded directory state.controller.files
  · simp only [step, ok, restored, if_true]
    exact recorded_forget recorded directory _

theorem recorded_step (recorded : Recorded allowed state) (label : PinLabel) :
    Recorded allowed (step allowed state label) := by
  cases label with
  | setCpus directory cpus outcomes =>
    exact recorded_setCpus recorded directory cpus outcomes
  | restore directory outcomes =>
    exact recorded_restore recorded directory outcomes
  | outside directory file => exact ⟨recorded.originals, recorded.applied⟩

variable (allowed)

/-- A directory is bound while it holds a write that was not undone. -/
def BoundWhileWritten (state : PinSystem) : Prop :=
  ∀ directory,
    state.controller.isBound directory = (state.first directory).isSome

/-- A successful restore gives a directory back what it was held to before
SmarTune's first write, unless someone else changed it, and touches no other
directory. -/
def GivesBack (state : PinSystem) : PinLabel → Prop
  | .restore directory outcomes =>
    let files := (step allowed state
      (.restore directory outcomes)).controller.files
    (∀ other ≠ directory, files other = state.controller.files other) ∧
    ((state.controller.restore (parent allowed directory) directory
        outcomes).1.ok = true →
      match state.first directory with
      | none => files directory = state.controller.files directory
      | some before =>
        if state.controller.files directory =
            .present (state.last directory) then
          ∃ after, files directory = .present after ∧
            heldTo (allowed directory) after = heldTo (allowed directory) before
        else files directory = state.controller.files directory)
  | .setCpus _ _ _ | .outside _ _ => True

variable {allowed}

theorem boundWhileWritten_of_recorded (recorded : Recorded allowed state) :
    BoundWhileWritten state := by
  intro directory
  rw [CpuController.isBound, recorded.originals, Option.isSome_map]

theorem givesBack_of_recorded (recorded : Recorded allowed state)
    (label : PinLabel) :
    GivesBack allowed state label := by
  cases label with
  | setCpus | outside => trivial
  | restore directory outcomes =>
  obtain ⟨failed, same⟩ | ⟨ok, free, same⟩ | ⟨ok, changed, forgotten⟩ |
      ⟨ok, unchanged, before, after, first, held, restored⟩ :=
    restore_cases recorded directory outcomes
  · simp [GivesBack, step, failed, same]
  · simp [GivesBack, step, same, free]
  · simp only [GivesBack, step, forgotten, CpuController.forget]
    cases state.first directory <;> simp [changed]
  · simp only [GivesBack, step, restored, CpuController.forget, first,
      unchanged, if_true, Function.update_self]
    exact ⟨fun other away => Function.update_of_ne away _ _,
      fun _ => ⟨after, rfl, held⟩⟩

/-- However calls and changes of others interleave, restores give back what
they should and the bound directories are those with a write not undone. -/
theorem restores_give_back (allowed : String → Option (Finset Nat))
    (files : CpusetFiles) (labels : List PinLabel) :
    Runs.EveryPrefix (step allowed) BoundWhileWritten (fresh files) labels ∧
      Runs.EveryStep (step allowed) (GivesBack allowed) (fresh files)
        labels := by
  suffices ∀ start, Recorded allowed start →
      Runs.EveryPrefix (step allowed) BoundWhileWritten start labels ∧
        Runs.EveryStep (step allowed) (GivesBack allowed) start labels from
    this _ (recorded_fresh allowed files)
  induction labels with
  | nil =>
    intro start recorded
    exact ⟨Runs.everyPrefix_nil.mpr (boundWhileWritten_of_recorded recorded),
      trivial⟩
  | cons label labels ih =>
    intro start recorded
    obtain ⟨bound, back⟩ :=
      ih _ (recorded_step recorded label)
    exact ⟨(Runs.everyPrefix_cons label labels).mpr
        ⟨boundWhileWritten_of_recorded recorded, bound⟩,
      givesBack_of_recorded recorded label, back⟩

end PinSystem

end SmarTune
