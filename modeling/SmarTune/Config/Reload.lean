import SmarTune.Config.PlainLoader
import SmarTune.Config.Setters
import SmarTune.Library.Runs

/-!
# Reloading the configuration

A setter changes the memory first and then the lines of the file.  Reloading the
file yields the memory as long as the file is laid out as a block with a line for
every value that is changed, the values are read back from their texts, and the
file is replaced.
-/

namespace SmarTune

variable {ω : Type*}

/-- `Config.from_file`: a key that is no field is rejected, and a field without a
key has its default. -/
def fromFile (yaml : YamlLoader ω) (defaults : Settings ω)
    (file : List FileLine) : Option (Settings ω) :=
  (yaml.load file).bind fun data =>
    if data.keys ⊆ defaults.keys then
      some (data.append (defaults.without data.keys))
    else none

/-- How writing the file ends: with a new file, with an error before the file is
replaced, or with one after. -/
inductive WriteFate
  | done
  | lost
  | late
  deriving DecidableEq

/-- A call and how its write ends. -/
structure SetterEvent where
  call : SetterCall
  fate : WriteFate

/-- The configuration in memory and its file. -/
structure ConfigState (ω : Type*) where
  memory : Settings ω
  file : List FileLine

namespace ConfigState

def outcome (state : ConfigState ω) (event : SetterEvent) : Outcome ω :=
  runActions (event.call.actions state.memory) state.memory

/-- One call: what it assigned is written when it does not raise. -/
def step (state : ConfigState ω) (event : SetterEvent) : ConfigState ω :=
  let outcome := state.outcome event
  { memory := outcome.memory
    file :=
      if outcome.raised = true ∨ outcome.updates = [] ∨ event.fate = .lost then
        state.file
      else (patchLines outcome.updates state.file).1 }

/-- What a call returns, if it does not raise. -/
def reported (state : ConfigState ω) (event : SetterEvent) : Option Bool :=
  let outcome := state.outcome event
  if outcome.raised then none
  else if outcome.updates = [] then some false
  else
    match event.fate with
    | .done => some true
    | .lost => none
    | .late =>
      if (patchLines outcome.updates state.file).2 then none else some true

end ConfigState

/-- The setting is assigned by one of the steps. -/
def Assigns (actions : List Action) (path : List String)
    (key : String) : Prop :=
  ∃ convert, .assign path key convert ∈ actions

/-! ## Reloading yields the memory -/

/-- Reloading the file yields the values in memory. -/
def Reloads (yaml : YamlLoader ω) (defaults : Settings ω)
    (state : ConfigState ω) : Prop :=
  ∃ loaded, fromFile yaml defaults state.file = some loaded ∧
    NestedDict.Alike ConfigValue.Same state.memory loaded

/-- A call keeps memory and file together: reloading yields the memory, only the
settings of the call are written, and what is reported as unchanged is what the
file holds. -/
structure Persists (yaml : YamlLoader ω) (defaults : Settings ω)
    (state : ConfigState ω) (event : SetterEvent) : Prop where
  reloads : Reloads yaml defaults (state.step event)
  kept : (state.step event).file = state.file ∨ ∃ file written : ConfigFile,
      file.Fits yaml.toYamlTexts ∧ file.lines = state.file ∧
        written.Fits yaml.toYamlTexts ∧
        written.lines = (state.step event).file ∧ written.head = file.head ∧
        BlockLayout.Rewritten (Assigns (event.call.actions state.memory)) []
          file.layout written.layout
  honest : state.reported event = some false →
    ∀ loaded, fromFile yaml defaults state.file = some loaded →
      ∀ path key convert value,
        .assign path key convert ∈ event.call.actions state.memory →
          convert (heldAt state.memory path key).scalar = some value →
            (heldAt loaded path key).Is value

/-! ## When it does -/

/-- The text of a value is read as the value. -/
structure Legible (yaml : YamlTexts ω) (value : Scalar) : Prop where
  readable : yaml.inlineText value.formatYamlScalar
  unmarked : '#' ∉ value.formatYamlScalar
  same : (ConfigValue.scalar value).Same (yaml.inline value.formatYamlScalar)

/-- The steps find each dictionary and each value in memory, up to one that
raises. -/
def Finds : List Action → Settings ω → Prop
  | [], _ => True
  | action :: actions, memory =>
    match action.effect memory with
    | .raises => True
    | .proceeds found => found = memory ∧ Finds actions memory
    | .assigns _ _ _ => False

/-- The steps find each dictionary in memory, and each value that is not there
is read back from its text and has a line of its own in the file. -/
def Edits (yaml : YamlTexts ω) :
    List Action → Settings ω → ConfigFile → Prop
  | [], _, _ => True
  | action :: actions, memory, file =>
    match action.effect memory with
    | .raises => False
    | .proceeds found => found = memory ∧ Edits yaml actions memory file
    | .assigns path key value =>
      Legible yaml value ∧ ∃ written,
          file.write path key value.formatYamlScalar = some written ∧
            Edits yaml actions (memory.setAt path key (.scalar value)) written

/-- The call finds all it assigns in memory, or the file is a block in which it
can write what it assigns, and is replaced. -/
def Writable (yaml : YamlTexts ω) (state : ConfigState ω)
    (event : SetterEvent) : Prop :=
  Finds (event.call.actions state.memory) state.memory ∨ event.fate ≠ .lost ∧
      ∃ file : ConfigFile, file.Fits yaml ∧ file.lines = state.file ∧
        Edits yaml (event.call.actions state.memory) state.memory file

/-! ## Steps that find what they assign -/

variable {actions : List Action} {memory : Settings ω} {path : List String}
  {key : String} {convert : Option Scalar → Option Scalar} {value : Scalar}

theorem runActions_of_finds (finds : Finds actions memory) :
    (runActions actions memory).memory = memory ∧
      (runActions actions memory).updates = [] := by
  induction actions with
  | nil => exact ⟨rfl, rfl⟩
  | cons action actions ih =>
    simp only [Finds, runActions] at finds ⊢
    cases effect : action.effect memory with
    | raises => exact ⟨rfl, rfl⟩
    | proceeds found =>
      simp only [effect] at finds ⊢
      rw [finds.1]
      exact ih finds.2
    | assigns path key value => simp only [effect] at finds

theorem held_of_proceeds {found : Settings ω}
    (effect : (Action.assign path key convert).effect memory = .proceeds found)
    (converted : convert (heldAt memory path key).scalar = some value) :
    (heldAt memory path key).Is value := by
  simp only [Action.effect, converted] at effect
  split at effect
  · cases effect
  · split at effect
    · assumption
    · cases effect

theorem held_of_finds (finds : Finds actions memory)
    (returned : (runActions actions memory).raised = false)
    (assigned : .assign path key convert ∈ actions)
    (converted : convert (heldAt memory path key).scalar = some value) :
    (heldAt memory path key).Is value := by
  induction actions with
  | nil => cases assigned
  | cons action actions ih =>
    simp only [Finds, runActions] at finds returned
    cases effect : action.effect memory with
    | raises => simp [effect] at returned
    | proceeds found =>
      simp only [effect] at finds returned
      rw [finds.1] at returned effect
      rcases List.mem_cons.mp assigned with rfl | later
      · exact held_of_proceeds effect converted
      · exact ih finds.2 returned later
    | assigns path key value => simp only [effect] at finds

theorem finds_of_edits {yaml : YamlTexts ω} {file : ConfigFile}
    (edits : Edits yaml actions memory file)
    (unchanged : (runActions actions memory).updates = []) :
    Finds actions memory := by
  induction actions generalizing memory file with
  | nil => trivial
  | cons action actions ih =>
    simp only [Edits, Finds, runActions] at edits unchanged ⊢
    cases effect : action.effect memory with
    | raises => trivial
    | proceeds found =>
      simp only [effect] at edits unchanged ⊢
      rw [edits.1] at unchanged
      exact ⟨edits.1, ih edits.2 unchanged⟩
    | assigns path key value => simp [effect] at unchanged

/-! ## Steps that write -/

/-- The configuration that is loaded from a file in block layout. -/
def loadedFrom (yaml : YamlLoader ω) (defaults : Settings ω)
    (file : ConfigFile) : Settings ω :=
  (file.layout.value yaml.toYamlTexts 0).append
    (defaults.without file.layout.keys)

section Files

variable {yaml : YamlLoader ω} {defaults : Settings ω} {file : ConfigFile}

theorem fromFile_lines (fits : file.Fits yaml.toYamlTexts) :
    fromFile yaml defaults file.lines =
      if file.layout.keys ⊆ defaults.keys then
        some (loadedFrom yaml defaults file)
      else none := by
  simp only [fromFile, yaml.load_lines file fits, Option.bind_some,
    BlockLayout.keys_value, loadedFrom]

theorem fromFile_lines_eq_some_iff (fits : file.Fits yaml.toYamlTexts)
    {loaded : Settings ω} :
    fromFile yaml defaults file.lines = some loaded ↔
      file.layout.keys ⊆ defaults.keys ∧
        loadedFrom yaml defaults file = loaded := by
  rw [fromFile_lines fits]
  split
  · next known => simp [known]
  · next unknown => simp [unknown]

variable {written : ConfigFile} {path : List String} {key : String}
  {text : FileLine}

theorem loadedFrom_write (fits : file.Fits yaml.toYamlTexts)
    (done : file.write path key text = some written) :
    loadedFrom yaml defaults written =
      (loadedFrom yaml defaults file).setAt path key (yaml.inline text) := by
  obtain ⟨layout, below, rfl⟩ := Option.map_eq_some_iff.mp done
  obtain ⟨old, found⟩ := BlockLayout.getValue?_of_write fits.layout below
  simp only [loadedFrom, BlockLayout.keys_write below]
  rw [NestedDict.setAt_append found, BlockLayout.value_write fits.layout below]

theorem keys_write (done : file.write path key text = some written) :
    written.layout.keys = file.layout.keys ∧ written.head = file.head := by
  obtain ⟨layout, below, rfl⟩ := Option.map_eq_some_iff.mp done
  exact ⟨BlockLayout.keys_write below, rfl⟩

end Files

variable {memory : Settings ω} {path : List String} {key : String}
  {value : Scalar}

theorem assign_of_assigns {action : Action}
    (effect : action.effect memory = .assigns path key value) :
    ∃ convert, action = .assign path key convert := by
  cases action with
  | setdefault other name =>
    simp only [Action.effect] at effect
    split at effect
    · cases effect
    · split at effect <;> cases effect
  | ensureDict other name =>
    simp only [Action.effect] at effect
    split at effect
    · cases effect
    · split at effect <;> cases effect
  | assign other name convert =>
    simp only [Action.effect] at effect
    split at effect
    · cases effect
    · split at effect
      · cases effect
      · split at effect
        · cases effect
        · cases effect
          exact ⟨convert, rfl⟩
  | fail => cases effect

/-- The file a setter has written, beside the one it had. -/
structure WrittenBy (yaml : YamlLoader ω) (defaults : Settings ω)
    (actions : List Action) (outcome : Outcome ω)
    (file written : ConfigFile) : Prop where
  returned : outcome.raised = false
  fits : written.Fits yaml.toYamlTexts
  head : written.head = file.head
  keys : written.layout.keys = file.layout.keys
  lines : (patchLines outcome.updates file.lines).1 = written.lines
  alike : NestedDict.Alike ConfigValue.Same outcome.memory
    (loadedFrom yaml defaults written)
  kept : BlockLayout.Rewritten (Assigns actions) [] file.layout written.layout

theorem Assigns.cons {action : Action} {actions : List Action}
    (place : List String) (name : String)
    (assigned : Assigns actions place name) :
    Assigns (action :: actions) place name := by
  obtain ⟨convert, member⟩ := assigned
  exact ⟨convert, List.mem_cons_of_mem action member⟩

/-- The steps of a setter write what they assign. -/
theorem exists_writtenBy {yaml : YamlLoader ω} {defaults : Settings ω}
    {actions : List Action} {memory : Settings ω} {file : ConfigFile}
    (fits : file.Fits yaml.toYamlTexts)
    (edits : Edits yaml.toYamlTexts actions memory file)
    (alike : NestedDict.Alike ConfigValue.Same memory
      (loadedFrom yaml defaults file)) :
    ∃ written, WrittenBy yaml defaults actions (runActions actions memory)
      file written := by
  induction actions generalizing memory file with
  | nil =>
    exact ⟨file,
      { returned := rfl
        fits
        head := rfl
        keys := rfl
        lines := rfl
        alike
        kept := .refl _ _ }⟩
  | cons action actions ih =>
    simp only [Edits, runActions] at edits ⊢
    cases effect : action.effect memory with
    | raises => simp only [effect] at edits
    | proceeds found =>
      simp only [effect] at edits ⊢
      rw [edits.1]
      obtain ⟨written, later⟩ := ih fits edits.2 alike
      exact ⟨written, { later with kept := later.kept.mono .cons }⟩
    | assigns path key value =>
      simp only [effect] at edits ⊢
      obtain ⟨legible, next, done, edits⟩ := edits
      obtain ⟨convert, rfl⟩ := assign_of_assigns effect
      have nextFits := ConfigFile.fits_write fits done legible.readable
        legible.unmarked
      have nextAlike : NestedDict.Alike ConfigValue.Same
          (memory.setAt path key (.scalar value))
          (loadedFrom yaml defaults next) := by
        rw [loadedFrom_write fits done]
        exact alike.setAt legible.same path key
      obtain ⟨written, later⟩ :=
        ih nextFits edits nextAlike
      obtain ⟨sameKeys, sameHead⟩ := keys_write done
      have first : BlockLayout.Rewritten
          (Assigns (.assign path key convert :: actions)) []
          file.layout next.layout := by
        obtain ⟨layout, below, rfl⟩ := Option.map_eq_some_iff.mp done
        refine (BlockLayout.rewritten_write below []).mono ?_
        rintro _ _ ⟨rfl, rfl⟩
        exact ⟨convert, List.mem_cons_self⟩
      refine ⟨written,
        { returned := later.returned
          fits := later.fits
          head := later.head.trans sameHead
          keys := later.keys.trans sameKeys
          lines := ?_
          alike := later.alike
          kept := first.trans (later.kept.mono .cons) }⟩
      have found := ConfigFile.replaceYamlScalarLine_lines fits done
      simp only [patchLines, found]
      exact later.lines

/-! ## Runs -/

theorem heldAt_of_alike {loaded : Settings ω}
    (alike : NestedDict.Alike ConfigValue.Same memory loaded)
    (held : (heldAt memory path key).Is value) :
    (heldAt loaded path key).Is value := by
  simp only [heldAt] at held ⊢
  rcases alike.container?_cases path with ⟨absent, missing⟩ |
    ⟨inner, other, here, there, related⟩
  · rw [absent] at held
    rw [missing]
    exact held
  · simp only [here, there, Option.bind_some] at held ⊢
    rcases related.get?_cases key with ⟨absent, missing⟩ |
      ⟨first, second, under, below, same⟩ | ⟨first, second, under, below, _⟩
    · rw [absent] at held
      rw [missing]
      exact held
    · rw [under] at held
      rw [below]
      cases first with
      | scalar first =>
        cases second with
        | scalar second => exact Eq.trans (Eq.symm same) held
        | other second => cases same
      | other first => cases held
    · rw [under] at held
      cases held

section Runs

variable {yaml : YamlLoader ω} {defaults : Settings ω}
  {state : ConfigState ω} {event : SetterEvent}

theorem unchanged_of_reported (unchanged : state.reported event = some false) :
    (state.outcome event).raised = false ∧
      (state.outcome event).updates = [] := by
  simp only [ConfigState.reported] at unchanged
  split at unchanged
  · cases unchanged
  · next returned =>
      split at unchanged
      · next empty => exact ⟨Bool.eq_false_iff.mpr returned, empty⟩
      · split at unchanged
        · cases unchanged
        · cases unchanged
        · split at unchanged <;> cases unchanged

theorem step_of_finds
    (finds : Finds (event.call.actions state.memory) state.memory) :
    state.step event = state := by
  obtain ⟨same, empty⟩ := runActions_of_finds finds
  simp only [ConfigState.step, ConfigState.outcome, same, empty, true_or,
    or_true, if_true]

theorem persists_step (reloads : Reloads yaml defaults state)
    (writable : Writable yaml.toYamlTexts state event) :
    Persists yaml defaults state event := by
  obtain ⟨loaded, found, alike⟩ := reloads
  have honest (finds : Finds (event.call.actions state.memory) state.memory)
      (unchanged : state.reported event = some false) :
      ∀ loaded, fromFile yaml defaults state.file = some loaded →
        ∀ path key convert value,
          .assign path key convert ∈ event.call.actions state.memory →
            convert (heldAt state.memory path key).scalar = some value →
              (heldAt loaded path key).Is value := by
    intro again reloaded path key convert value assigned converted
    obtain rfl : loaded = again := Option.some.inj (found.symm.trans reloaded)
    exact heldAt_of_alike alike (held_of_finds finds
      (unchanged_of_reported unchanged).1 assigned converted)
  rcases writable with finds | ⟨replaced, file, fits, lines, edits⟩
  · exact
      { reloads := by
          rw [step_of_finds finds]
          exact ⟨loaded, found, alike⟩
        kept := .inl (congrArg ConfigState.file (step_of_finds finds))
        honest := honest finds }
  · rw [← lines] at found
    obtain ⟨known, rfl⟩ := (fromFile_lines_eq_some_iff fits).mp found
    obtain ⟨written, edited⟩ := exists_writtenBy fits edits alike
    have after : (state.step event).file = written.lines := by
      simp only [ConfigState.step, ConfigState.outcome, edited.returned,
        replaced, Bool.false_eq_true, false_or, or_false, ← lines]
      split
      · next empty =>
          have same := edited.lines
          rw [empty] at same
          exact same
      · exact edited.lines
    exact
      { reloads := by
          refine ⟨loadedFrom yaml defaults written, ?_, edited.alike⟩
          rw [after]
          exact (fromFile_lines_eq_some_iff edited.fits).mpr
            ⟨edited.keys ▸ known, rfl⟩
        kept := .inr ⟨file, written, fits, lines, edited.fits, after.symm,
          edited.head, edited.kept⟩
        honest := fun unchanged => honest (finds_of_edits edits
          (unchanged_of_reported unchanged).2) unchanged }

/-- In a run whose calls can all write what they assign, memory and file agree
after every call. -/
theorem persists_run {events : List SetterEvent}
    (loaded : fromFile yaml defaults state.file = some state.memory)
    (writable : Runs.EveryStep ConfigState.step (Writable yaml.toYamlTexts)
      state events) :
    Runs.EveryStep ConfigState.step (Persists yaml defaults) state events :=
  Runs.everyStep_of_guarded (Reloads yaml defaults)
    (fun _ _ reloads guard => (persists_step reloads guard).reloads)
    (fun _ _ reloads guard => persists_step reloads guard)
    ⟨state.memory, loaded, .refl ConfigValue.Same.refl _⟩ writable

end Runs

section Example

/-- A policy with one cap. -/
def capFile (cap comment : FileLine) : ConfigFile where
  head := []
  layout := .block "network_pps_policy".toList "  # caps".toList
    (.leaf "app_pps_high".toList [' '] cap comment .done) .done

def capMemory (cap : ℤ) : Settings Unit :=
  .dict "network_pps_policy"
    (.value "app_pps_high" (.scalar (.int cap)) .empty) .empty

/-- No caps are given when there is no policy. -/
def capDefaults : Settings Unit :=
  .value "network_pps_policy" (.scalar .null) .empty

def setCap (key : String) (cap : Scalar) : SetterCall :=
  .setNetworkControlPolicy (some ⟨none, none, none, some [(key, cap)], none⟩)

theorem fits_capFile :
    (capFile "5000".toList "  # packets".toList).Fits PlainYaml.texts := by
  have policy : PlainName "network_pps_policy".toList :=
    ⟨List.all_eq_true.mp (by decide), _, _, rfl, by decide, by decide⟩
  have key : PlainName "app_pps_high".toList :=
    ⟨List.all_eq_true.mp (by decide), _, _, rfl, by decide, by decide⟩
  have caps : CommentText "  # caps".toList :=
    .inr ⟨[' ', ' '], " caps".toList, by decide, by decide,
      by decide⟩
  have packets : CommentText "  # packets".toList :=
    .inr ⟨[' ', ' '], " packets".toList, by decide, by decide,
      by decide⟩
  have gap : Blanks [' '] := by decide
  have unmarked : '#' ∉ "5000".toList := by decide
  have readable : (PlainYaml.readScalar "5000".toList).isSome = true := by
    decide
  have cap : BlockLayout.Fits PlainYaml.texts 1
      (.leaf "app_pps_high".toList [' '] "5000".toList
        "  # packets".toList .done) :=
    ⟨key, trivial, List.not_mem_nil, gap, .inl (List.cons_ne_nil _ _),
      unmarked, readable, packets, trivial⟩
  exact
    { head := rfl
      passed := fun _ member => by cases member
      filled := List.cons_ne_nil _ _
      layout := ⟨policy, trivial, List.not_mem_nil, caps,
        List.cons_ne_nil _ _, cap, trivial⟩ }

/-- A cap of 5000 in memory and in the file. -/
def capStart : ConfigState Unit where
  memory := capMemory 5000
  file := (capFile "5000".toList "  # packets".toList).lines

theorem fromFile_capStart :
    fromFile PlainYaml.loader capDefaults capStart.file =
      some capStart.memory := by
  decide

theorem actions_setCap (cap held : ℤ) :
    (setCap "app_pps_high" (.int cap)).actions (capMemory held) =
      [assignValue ["network_pps_policy"] "app_pps_high" (.int cap)] := by
  rfl

theorem cap_is_kept :
    Runs.EveryStep ConfigState.step (Persists PlainYaml.loader capDefaults)
      capStart
      [⟨setCap "app_pps_high" (.int 8000), .done⟩,
        ⟨setCap "app_pps_high" (.int 8000), .lost⟩] := by
  have effect : (assignValue ["network_pps_policy"] "app_pps_high"
      (.int 8000)).effect (capMemory 5000) =
        .assigns ["network_pps_policy"] "app_pps_high" (.int 8000) := by
    decide
  have legible : Legible PlainYaml.texts (.int 8000) := by
    have read : PlainYaml.texts.inline (Scalar.int 8000).formatYamlScalar =
        .scalar (.int 8000) := by
      decide
    have readable : (PlainYaml.readScalar
        (Scalar.int 8000).formatYamlScalar).isSome = true := by
      decide
    exact ⟨readable, by decide, read ▸ ConfigValue.Same.refl _⟩
  have written : (capFile "5000".toList "  # packets".toList).write
      ["network_pps_policy"] "app_pps_high"
      (Scalar.int 8000).formatYamlScalar =
        some (capFile "8000".toList "  #packets".toList) := by
    decide
  have edits : Edits PlainYaml.texts
      ((setCap "app_pps_high" (.int 8000)).actions (capMemory 5000))
      (capMemory 5000) (capFile "5000".toList "  # packets".toList) := by
    simp only [actions_setCap, Edits, effect]
    exact ⟨legible, _, written, trivial⟩
  have next : (capStart.step
      ⟨setCap "app_pps_high" (.int 8000), .done⟩).memory = capMemory 8000 := by
    decide
  have holds : (assignValue ["network_pps_policy"] "app_pps_high"
      (.int 8000)).effect (capMemory 8000) = .proceeds (capMemory 8000) := by
    decide
  have found : Finds ((setCap "app_pps_high" (.int 8000)).actions
      (capMemory 8000)) (capMemory 8000) := by
    simp only [actions_setCap, Finds, holds]
    exact ⟨trivial, trivial⟩
  refine persists_run fromFile_capStart
    ⟨.inr ⟨by decide, _, fits_capFile, rfl, edits⟩, .inl ?_, trivial⟩
  rw [next]
  exact found

/-- A threshold in memory and in the file. -/
def thresholdStart : ConfigState Unit where
  memory := .value "cpu_busy_threshold" (.scalar (.float (181 / 2))) .empty
  file := ["cpu_busy_threshold: 90.5".toList]

theorem not_persists {yaml : YamlLoader ω} {defaults loaded : Settings ω}
    {state : ConfigState ω} {event : SetterEvent} {path : List String}
    {key : String} {value : Scalar}
    (found : fromFile yaml defaults (state.step event).file = some loaded)
    (held : (heldAt (state.step event).memory path key).Is value)
    (lost : ¬ (heldAt loaded path key).Is value) :
    ¬ Runs.EveryStep ConfigState.step (Persists yaml defaults) state
      [event] := by
  rintro ⟨persists, _⟩
  obtain ⟨again, reloaded, alike⟩ := persists.reloads
  obtain rfl : loaded = again := Option.some.inj (found.symm.trans reloaded)
  exact lost (heldAt_of_alike alike held)

/-- A value without a line, a value of seven digits, and a value whose write
fails are held in memory only; the last is then reported as unchanged. -/
theorem memory_outlives_file :
    fromFile PlainYaml.loader capDefaults capStart.file = some capStart.memory ∧
      (¬ Runs.EveryStep ConfigState.step
        (Persists PlainYaml.loader capDefaults) capStart
        [⟨setCap "pps_cap_rate" (.int 100), .done⟩]) ∧
      (¬ Runs.EveryStep ConfigState.step
        (Persists PlainYaml.loader capDefaults) capStart
        [⟨setCap "app_pps_high" (.int 8000), .lost⟩]) ∧
      (capStart.step ⟨setCap "app_pps_high" (.int 8000), .lost⟩).file =
        capStart.file ∧
      (capStart.step ⟨setCap "app_pps_high" (.int 8000), .lost⟩).reported
        ⟨setCap "app_pps_high" (.int 8000), .done⟩ = some false ∧
      fromFile PlainYaml.loader thresholdStart.memory thresholdStart.file =
        some thresholdStart.memory ∧
      ¬ Runs.EveryStep ConfigState.step
        (Persists PlainYaml.loader thresholdStart.memory) thresholdStart
        [⟨.updateTopLevelScalars
          [("cpu_busy_threshold", .float (901234567 / 10000000))], .done⟩] := by
  refine ⟨fromFile_capStart, ?_, ?_, by decide, by decide,
    by decide +kernel, ?_⟩
  · have found : fromFile PlainYaml.loader capDefaults
        (capStart.step ⟨setCap "pps_cap_rate" (.int 100), .done⟩).file =
          some capStart.memory := by
      decide
    have held : (heldAt
        (capStart.step ⟨setCap "pps_cap_rate" (.int 100), .done⟩).memory
        ["network_pps_policy"] "pps_cap_rate").Is (.int 100) := by
      decide
    exact not_persists found held (by decide)
  · have found : fromFile PlainYaml.loader capDefaults
        (capStart.step ⟨setCap "app_pps_high" (.int 8000), .lost⟩).file =
          some capStart.memory := by
      decide
    have held : (heldAt
        (capStart.step ⟨setCap "app_pps_high" (.int 8000), .lost⟩).memory
        ["network_pps_policy"] "app_pps_high").Is (.int 8000) := by
      decide
    exact not_persists found held (by decide)
  · have found : fromFile PlainYaml.loader thresholdStart.memory
        (thresholdStart.step ⟨.updateTopLevelScalars
          [("cpu_busy_threshold", .float (901234567 / 10000000))],
            .done⟩).file =
          some (.value "cpu_busy_threshold"
            (.scalar (.float (901235 / 10000))) .empty) := by
      decide +kernel
    have held : (heldAt (thresholdStart.step ⟨.updateTopLevelScalars
          [("cpu_busy_threshold", .float (901234567 / 10000000))],
            .done⟩).memory
        [] "cpu_busy_threshold").Is (.float (901234567 / 10000000)) := by
      decide +kernel
    exact not_persists found held (by decide +kernel)

end Example

end SmarTune
