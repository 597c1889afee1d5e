import SmarTune.Benchmark.RunRequests

/-!
# Rendered run scripts

`render_script` makes the script of a group out of the template by three
substitutions, one after another: the models as JSON, then the stage, then the
exports of the group.  What the models brought in is there when the other two
are made.

The script is read back as the shell reads it: the document between the line
that opens it and the first line `EOF` is what the pipeline decodes.
-/

namespace SmarTune

open JsonText Substitution

/-! ## The exports of a group -/

/-- What `shlex.quote` leaves alone. -/
def isShellSafe (character : Char) : Bool :=
  character.isAlphanum || "_@%+=:,./-".toList.contains character

/-- `shlex.quote`. -/
def shlexQuote (text : List Char) : List Char :=
  if text = [] then ['\'', '\'']
  else if text.all isShellSafe then text
  else
    '\'' :: (text.flatMap fun character =>
      if character = '\'' then ['\'', '"', '\'', '"', '\'']
      else [character]) ++ ['\'']

/-- `export NAME=value`. -/
def exportLine (exported : String × List Char) : List Char :=
  ['e', 'x', 'p', 'o', 'r', 't', ' '] ++
    (exported.1.toList ++ '=' :: shlexQuote exported.2)

/-- The settings that the script of a group exports, when there are several
groups. -/
structure GroupSettings where
  runName : List Char
  route : Route
  safe : ∀ character ∈ runName, isShellSafe character = true
  formed : ∀ version, route.ov = some version → isOvVersion version = true

/-- `_group_env`, or nothing for a single group. -/
def groupEnv (stage : Stage) : Option GroupSettings → List Char
  | none => []
  | some settings =>
    ['\n'].intercalate
      ((groupVars settings.runName settings.route stage).map exportLine)

/-- The settings of a group of a request that was let through. -/
def RunGroup.settings {request : NormalizedRequest} (valid : request.Valid)
    {group : RunGroup}
    (member : group ∈ runGroups request.stage request.entries)
    (runName : List Char)
    (safe : ∀ character ∈ runName, isShellSafe character = true) :
    GroupSettings where
  runName := runName
  route := group.route
  safe := safe
  formed := by
    intro version named
    rw [runGroups_eq] at member
    obtain ⟨key, -, rfl⟩ := List.mem_map.mp member
    cases filtered : request.entries.filter fun entry =>
        groupKey request.stage entry == key with
    | nil =>
      rw [filtered] at named
      cases named
    | cons first rest =>
      rw [filtered] at named
      have inside : first ∈ request.entries.filter fun entry =>
          groupKey request.stage entry == key :=
        filtered ▸ List.mem_cons_self
      exact valid.formed first (List.mem_filter.mp inside).1 version named

/-! ## The models -/

def PipelineEntry.doc (entry : PipelineEntry) : JsonDoc :=
  .obj (.ofList
    ([("id".toList, .str entry.id), ("type".toList, .str "model_id".toList)] ++
      (if entry.build = [] then []
        else [("build".toList,
          .str ([','].intercalate (entry.build.map Precision.name)))]) ++
      [("device".toList, devicesDoc entry.device)] ++
      (if entry.args = [] then []
        else [("args".toList, .arr (.ofList (entry.args.map .str)))])))

/-- The models of a script. -/
def modelsDoc (entries : List PipelineEntry) : JsonDoc :=
  .obj (.ofList [("models".toList, .arr (.ofList (entries.map PipelineEntry.doc)))])

/-- `models_json`. -/
def modelsJson (entries : List ModelEntry) : List Char :=
  (modelsDoc (entries.map ModelEntry.pipeline)).dumps (indented 2)

/-! ## The template -/

/-- `__MODELS_INPUT_JSON__`. -/
def modelsPlaceholder : List Char := "__MODELS_INPUT_JSON__".toList

/-- `__OPT__`. -/
def optPlaceholder : List Char := "__OPT__".toList

/-- `__GROUP_ENV__`. -/
def groupEnvPlaceholder : List Char := "__GROUP_ENV__".toList

/-- What is filled in. -/
def placeholders : List (List Char) :=
  [modelsPlaceholder, optPlaceholder, groupEnvPlaceholder]

def optLine (stage : List Char) : List Char :=
  "opt=\"".toList ++ (stage ++ "\"  # build + benchmark stage selection".toList)

/-- The line that opens the document of the models. -/
def modelsOpener : List Char := "cat > \"$JSON_MODELS_INPUT\" <<'EOF'".toList

/-- The line that closes it. -/
def modelsEnd : List Char := "EOF".toList

/-- The lines of `run_template.sh` around the three that are filled in.  None
of them has a placeholder in it or opens the document of the models. -/
structure RunTemplate where
  head : List (List Char)
  middle : List (List Char)
  setup : List (List Char)
  tail : List (List Char)
  single : ∀ line ∈ head ++ middle ++ setup ++ tail, '\n' ∉ line
  fixed : ∀ line ∈ head ++ middle ++ setup ++ tail,
    ∀ placeholder ∈ placeholders, ¬ placeholder <:+: line
  unopened : modelsOpener ∉ head ++ middle ++ setup ++ tail

/-- The parts of a script: its lines, with what was filled in whole. -/
def RunTemplate.parts (template : RunTemplate)
    (stage env models : List Char) : List (List Char) :=
  template.head ++ optLine stage :: (template.middle ++
    env :: (template.setup ++ modelsOpener :: models :: modelsEnd ::
      template.tail))

def RunTemplate.text (template : RunTemplate) : List Char :=
  ['\n'].intercalate
    (template.parts optPlaceholder groupEnvPlaceholder modelsPlaceholder)

/-- `render_script`. -/
def renderScript (template : RunTemplate) (entries : List ModelEntry)
    (stage : Stage) (env : List Char) : List Char :=
  replace groupEnvPlaceholder env (replace optPlaceholder stage.name
      (replace modelsPlaceholder (modelsJson entries) template.text))

/-! ## Reading a script -/

/-- The lines of a script up to the one that opens the document, those of the
document, and those after it. -/
structure ScriptLines where
  before : List (List Char)
  block : List (List Char)
  after : List (List Char)

def readScript (script : List Char) : ScriptLines :=
  let lines := script.splitOn '\n'
  let rest := (lines.dropWhile (· ≠ modelsOpener)).tail
  ⟨lines.takeWhile (· ≠ modelsOpener), rest.takeWhile (· ≠ modelsEnd),
    rest.dropWhile (· ≠ modelsEnd)⟩

/-- A script hands on a stage and models, and what is around the models is what
it is without any. -/
structure Renders (template : RunTemplate) (entries : List ModelEntry)
    (stage : Stage) (env script : List Char) : Prop where
  models : decode (['\n'].intercalate (readScript script).block) =
    some (modelsDoc (entries.map ModelEntry.pipeline))
  opt : (readScript script).before[template.head.length]? =
    some (optLine stage.name)
  before : (readScript script).before =
    (readScript (renderScript template [] stage env)).before
  after : (readScript script).after =
    (readScript (renderScript template [] stage env)).after

/-! ## What the exports look like -/

variable {character : Char} {text : List Char}

theorem toNat_lt_of_isShellSafe (safe : isShellSafe character = true) :
    character.toNat < 128 := by
  delta isShellSafe Char.isAlphanum Char.isAlpha Char.isUpper Char.isLower
    Char.isDigit at safe
  simp only [Bool.or_eq_true, Bool.and_eq_true, decide_eq_true_eq,
    List.contains_iff_mem] at safe
  rcases safe with ((⟨-, high⟩ | ⟨-, high⟩) | ⟨-, high⟩) | listed
  · exact lt_of_le_of_lt (UInt32.le_iff_toNat_le.mp high) (by decide)
  · exact lt_of_le_of_lt (UInt32.le_iff_toNat_le.mp high) (by decide)
  · exact lt_of_le_of_lt (UInt32.le_iff_toNat_le.mp high) (by decide)
  · have below : ∀ other ∈ "_@%+=:,./-".toList, other.toNat < 128 :=
      forall_mem_of_all (by decide)
    exact below character listed

theorem escape_of_isShellSafe (safe : isShellSafe character = true) :
    escape character = [character] := by
  have each : ∀ code < 128, isShellSafe (Char.ofNat code) = true →
      escape (Char.ofNat code) = [Char.ofNat code] := by
    decide
  have known := each character.toNat (toNat_lt_of_isShellSafe safe)
  rw [Char.ofNat_toNat] at known
  exact known safe

theorem newline_not_mem_shlexQuote (single : '\n' ∉ text) :
    '\n' ∉ shlexQuote text := by
  unfold shlexQuote
  split
  · decide
  · split
    · exact single
    · simp only [List.cons_append, List.mem_cons, List.mem_append,
        List.mem_flatMap, List.not_mem_nil, or_false, not_or, not_exists,
        not_and]
      refine ⟨by decide, ?_, by decide⟩
      intro character member
      split
      · decide
      · rw [List.mem_singleton]
        rintro rfl
        exact single member

theorem newline_not_mem_of_isOvVersion {version : List Char}
    (formed : isOvVersion version = true) :
    '\n' ∉ version := by
  simp only [isOvVersion, Bool.and_eq_true, List.all_eq_true] at formed
  have whole : ['.'].intercalate (version.splitOn '.') = version :=
    List.intercalate_splitOn '.'
  intro member
  rw [← whole] at member
  rcases mem_of_mem_intercalate member with dot | ⟨part, inside, found⟩
  · exact absurd dot (by decide)
  · exact absurd ((formed.2 part inside).2 _ found) (by decide)

/-- The values that are exported are on one line each. -/
theorem newline_not_mem_groupVars (settings : GroupSettings) (stage : Stage) :
    ∀ exported ∈ groupVars settings.runName settings.route stage,
      '\n' ∉ exported.1.toList ∧ '\n' ∉ exported.2 := by
  have name : '\n' ∉ settings.runName := fun member =>
    absurd (settings.safe _ member) (by decide)
  have devices :
      '\n' ∉ [' '].intercalate (settings.route.devices.map BenchDevice.name) := by
    intro member
    rcases mem_of_mem_intercalate member with blank | ⟨device, inside, found⟩
    · exact absurd blank (by decide)
    · obtain ⟨device, -, rfl⟩ := List.mem_map.mp inside
      cases device <;> exact absurd found (by decide)
  have version : '\n' ∉ settings.route.ov.getD [] := by
    cases named : settings.route.ov with
    | none => exact List.not_mem_nil
    | some version =>
      exact newline_not_mem_of_isOvVersion (settings.formed version named)
  have recorded : '\n' ∉ runMeta settings.route stage :=
    newline_not_mem_dumps_compact _
  have names : ∀ name ∈ ["BENCH_RUN_NAME", "BENCH_DEVICES",
      "BENCH_OV_VERSION", "BENCH_RUN_META"], '\n' ∉ name.toList := by
    decide
  intro exported member
  rcases List.mem_cons.mp member with rfl | member
  · exact ⟨names _ (by simp), name⟩
  · split at member
    · simp only [List.mem_cons, List.not_mem_nil, or_false] at member
      rcases member with rfl | rfl | rfl
      · exact ⟨names _ (by simp), devices⟩
      · exact ⟨names _ (by simp), version⟩
      · exact ⟨names _ (by simp), recorded⟩
    · exact absurd member List.not_mem_nil

theorem exportLine_spec {settings : GroupSettings} {stage : Stage} :
    ∀ line ∈ (groupVars settings.runName settings.route stage).map exportLine,
      '\n' ∉ line ∧ line.head? = some 'e' := by
  intro line member
  obtain ⟨exported, inside, rfl⟩ := List.mem_map.mp member
  obtain ⟨name, value⟩ := newline_not_mem_groupVars settings stage exported inside
  refine ⟨?_, rfl⟩
  simp only [exportLine, List.mem_append, List.mem_cons, not_or]
  exact ⟨by decide, name, by decide, newline_not_mem_shlexQuote value⟩

theorem noLineStart_groupEnv (stage : Stage) (settings : Option GroupSettings)
    (newline : '\n' ≠ character) (letter : character ≠ 'e') :
    NoLineStart character true (groupEnv stage settings) := by
  cases settings with
  | none => trivial
  | some settings =>
    refine noLineStart_intercalate newline
      (fun line member => (exportLine_spec line member).1) ?_
    intro line member same
    rw [(exportLine_spec line member).2, Option.some_inj] at same
    exact letter same.symm

theorem escape_exportLine_runName (settings : GroupSettings) :
    (exportLine ("BENCH_RUN_NAME", settings.runName)).flatMap escape =
      exportLine ("BENCH_RUN_NAME", settings.runName) := by
  have quoted : ∀ character ∈ shlexQuote settings.runName,
      escape character = [character] := by
    have all : settings.runName.all isShellSafe = true :=
      List.all_eq_true.mpr settings.safe
    unfold shlexQuote
    rw [if_pos all]
    split
    · exact forall_mem_of_all (by decide)
    · exact fun character member =>
        escape_of_isShellSafe (settings.safe character member)
  have words : ∀ character ∈ ['e', 'x', 'p', 'o', 'r', 't', ' '] ++
      ("BENCH_RUN_NAME".toList ++ ['=']), escape character = [character] :=
    forall_mem_of_all (by decide)
  have whole : exportLine ("BENCH_RUN_NAME", settings.runName) =
      (['e', 'x', 'p', 'o', 'r', 't', ' '] ++
        ("BENCH_RUN_NAME".toList ++ ['='])) ++ shlexQuote settings.runName := by
    rw [exportLine, List.append_assoc, List.append_assoc, List.singleton_append]
  rw [whole]
  refine flatMap_escape_eq_self fun character member => ?_
  rcases List.mem_append.mp member with word | value
  · exact words character word
  · exact quoted character value

/-- The exports are either written in a literal as they are or break it. -/
theorem groupEnv_cases (stage : Stage) (settings : Option GroupSettings) :
    ((groupEnv stage settings).flatMap escape = groupEnv stage settings ∧
        (groupEnv stage settings = [] ∨ 'x' ∈ groupEnv stage settings)) ∨
      ∃ before after, groupEnv stage settings = before ++ '\n' :: after ∧
        before.flatMap escape = before := by
  cases settings with
  | none => exact .inl ⟨rfl, .inl rfl⟩
  | some settings =>
    have kept := escape_exportLine_runName settings
    have letter : 'x' ∈ exportLine ("BENCH_RUN_NAME", settings.runName) := by
      simp [exportLine]
    by_cases measured : stage.measured = true
    · right
      simp only [groupEnv, groupVars, measured, if_true, List.map_cons,
        List.intercalate_cons_cons, List.append_assoc, List.singleton_append]
      exact ⟨_, _, rfl, kept⟩
    · left
      rw [Bool.not_eq_true] at measured
      simp only [groupEnv, groupVars, measured, Bool.false_eq_true, if_false,
        List.map_cons, List.map_nil, List.intercalate_singleton]
      exact ⟨kept, .inr letter⟩

theorem getLast?_groupEnv (stage : Stage) (settings : Option GroupSettings) :
    groupEnv stage settings = [] ∨
      ∃ last, (groupEnv stage settings).getLast? = some last ∧ last ≠ '\n' := by
  cases settings with
  | none => exact .inl rfl
  | some settings =>
    refine .inr (getLast?_intercalate_lines (by simp [groupVars]) ?_)
    intro line member
    obtain ⟨single, begins⟩ := exportLine_spec line member
    exact ⟨single, by rintro rfl; cases begins⟩

/-! ## The models of a rendered script -/

/-- A text without a placeholder that is filled in after the models. -/
def Unplaced (text : List Char) : Prop :=
  ¬ optPlaceholder <:+: text ∧ ¬ groupEnvPlaceholder <:+: text

theorem unplaced_of_not_mem (lacks : '_' ∉ text) :
    Unplaced text := by
  constructor
  · exact fun occurs => lacks (occurs.subset (by decide))
  · exact fun occurs => lacks (occurs.subset (by decide))

/-- What a script has for the models. -/
def renderedModels (entries : List ModelEntry) (stage : Stage)
    (env : List Char) : List Char :=
  replace groupEnvPlaceholder env
    (replace optPlaceholder stage.name (modelsJson entries))

/-- What a script has for a string of the models. -/
def renderedLiteral (stage : Stage) (env text : List Char) : List Char :=
  replace groupEnvPlaceholder env
    (replace optPlaceholder stage.name (text.flatMap escape))

theorem escape_stageName (stage : Stage) :
    stage.name.flatMap escape = stage.name := by
  cases stage <;> decide

theorem unescaped_optPlaceholder :
    ∀ character ∈ optPlaceholder, Unescaped character :=
  forall_mem_of_all (by decide)

theorem unescaped_groupEnvPlaceholder :
    ∀ character ∈ groupEnvPlaceholder, Unescaped character :=
  forall_mem_of_all (by decide)

theorem optPlaceholder_ne_nil : optPlaceholder ≠ [] := by decide

theorem groupEnvPlaceholder_ne_nil : groupEnvPlaceholder ≠ [] := by decide

/-- The stage is put into the strings before they are written. -/
theorem renderedLiteral_eq (stage : Stage) (env text : List Char) :
    renderedLiteral stage env text = replace groupEnvPlaceholder env
        ((replace optPlaceholder stage.name text).flatMap escape) := by
  rw [renderedLiteral, (spares_escape unescaped_optPlaceholder).replace_flatMap
    optPlaceholder_ne_nil (escape_stageName stage)]

/-- The substitutions in the models are substitutions in their strings. -/
theorem renderedModels_eq (entries : List ModelEntry) (stage : Stage)
    (env : List Char) :
    renderedModels entries stage env =
      (modelsDoc (entries.map ModelEntry.pipeline)).print
        (renderedLiteral stage env) (indented 2) 0 := by
  have first := replace_print stage.name (List.flatMap escape) (indented 2)
    (show Foreign optPlaceholder by decide) optPlaceholder_ne_nil 0
    (modelsDoc (entries.map ModelEntry.pipeline)) []
  have second := replace_print env
    (replace optPlaceholder stage.name ∘ List.flatMap escape) (indented 2)
    (show Foreign groupEnvPlaceholder by decide) groupEnvPlaceholder_ne_nil 0
    (modelsDoc (entries.map ModelEntry.pipeline)) []
  simp only [replace_nil, List.append_nil] at first second
  rw [renderedModels, modelsJson, JsonDoc.dumps, first]
  exact second

/-- What the script has for a string reads as, if it can be read. -/
def readBack (stage : Stage) (env text : List Char) : Option (List Char) :=
  let staged := replace optPlaceholder stage.name text
  if '\n' ∈ env ∧ groupEnvPlaceholder <:+: staged then none
  else some (replace groupEnvPlaceholder env staged)

theorem reads_renderedLiteral (stage : Stage)
    (settings : Option GroupSettings) :
    Reads (renderedLiteral stage (groupEnv stage settings))
      (readBack stage (groupEnv stage settings)) := by
  intro text rest
  rw [renderedLiteral_eq, readBack]
  generalize replace optPlaceholder stage.name text = staged
  rcases groupEnv_cases stage settings with ⟨kept, -⟩ | ⟨before, after, whole, kept⟩
  · have single : '\n' ∉ groupEnv stage settings :=
      kept ▸ newline_not_mem_escape _
    rw [if_neg fun both => single both.1]
    exact reads_replace unescaped_groupEnvPlaceholder
      groupEnvPlaceholder_ne_nil kept staged rest
  · have newline : '\n' ∈ groupEnv stage settings := by simp [whole]
    have read := reads_replace_of_newline unescaped_groupEnvPlaceholder
      groupEnvPlaceholder_ne_nil kept after staged rest
    rw [← whole] at read
    simp only [Function.comp_apply] at read
    rw [read]
    by_cases occurs : groupEnvPlaceholder <:+: staged
    · rw [if_pos occurs, if_pos ⟨newline, occurs⟩]
    · rw [if_neg occurs, if_neg fun both => occurs both.2,
        replace_of_absent groupEnvPlaceholder_ne_nil occurs]

theorem replace_stage_eq_self_iff (stage : Stage) (text : List Char) :
    replace optPlaceholder stage.name text = text ↔
      ¬ optPlaceholder <:+: text := by
  refine ⟨fun same => ?_,
    fun absent => replace_of_absent optPlaceholder_ne_nil absent _⟩
  have counted := count_replace optPlaceholder_ne_nil stage.name text '_'
  have lost : optPlaceholder.count '_' = 4 := by decide
  have gained : stage.name.count '_' = 0 := by cases stage <;> decide
  rw [same, lost, gained] at counted
  exact (occurrences_eq_zero_iff optPlaceholder_ne_nil text).mp (by omega)

/-- A string is read back as it was exactly when it has no placeholder. -/
theorem readBack_eq_self_iff (stage : Stage) (settings : Option GroupSettings)
    (text : List Char) :
    readBack stage (groupEnv stage settings) text = some text ↔
      Unplaced text := by
  have count := fun item =>
    count_replace optPlaceholder_ne_nil stage.name text item
  have countEnv := fun item => count_replace groupEnvPlaceholder_ne_nil
    (groupEnv stage settings) (replace optPlaceholder stage.name text) item
  unfold readBack
  dsimp only
  constructor
  · intro same
    split at same
    · cases same
    · next readable =>
        rw [Option.some_inj] at same
        rw [same] at countEnv
        have absent : ¬ groupEnvPlaceholder <:+:
            replace optPlaceholder stage.name text := by
          rw [← occurrences_eq_zero_iff groupEnvPlaceholder_ne_nil]
          rcases groupEnv_cases stage settings with
            ⟨-, empty | letter⟩ | ⟨before, after, whole, -⟩
          · -- Both substitutions take underscores away.
            have first := count '_'
            have second := countEnv '_'
            have gained : stage.name.count '_' = 0 := by cases stage <;> decide
            have lost : groupEnvPlaceholder.count '_' = 5 := by decide
            rw [empty, List.count_nil, lost] at second
            rw [gained] at first
            omega
          · -- The exports bring in an `x`, which nothing takes away.
            have first := count 'x'
            have second := countEnv 'x'
            have stageNone : stage.name.count 'x' = 0 := by
              cases stage <;> decide
            have optNone : optPlaceholder.count 'x' = 0 := by decide
            have envNone : groupEnvPlaceholder.count 'x' = 0 := by decide
            have some := List.count_pos_iff.mpr letter
            rw [stageNone, optNone] at first
            rw [envNone] at second
            have nothing : Substitution.occurrences groupEnvPlaceholder
                (replace optPlaceholder stage.name text) *
                  (groupEnv stage settings).count 'x' = 0 := by
              omega
            exact (Nat.mul_eq_zero.mp nothing).resolve_right (by omega)
          · rw [occurrences_eq_zero_iff groupEnvPlaceholder_ne_nil]
            exact fun occurs => readable ⟨by simp [whole], occurs⟩
        rw [replace_of_absent groupEnvPlaceholder_ne_nil absent] at same
        exact ⟨(replace_stage_eq_self_iff stage text).mp same, same ▸ absent⟩
  · rintro ⟨opt, env⟩
    have staged := (replace_stage_eq_self_iff stage text).mpr opt
    rw [staged, if_neg fun both => env both.2,
      replace_of_absent groupEnvPlaceholder_ne_nil env]

/-- The texts of an entry that the request is free to choose. -/
def ModelEntry.texts (entry : ModelEntry) : List (List Char) :=
  entry.id :: entry.args

/-- No placeholder stands in an id or an argument. -/
def Plain (entries : List ModelEntry) : Prop :=
  ∀ entry ∈ entries, ∀ text ∈ entry.texts, Unplaced text

theorem unplaced_device (device : BenchDevice) : Unplaced device.name :=
  unplaced_of_not_mem (by cases device <;> decide)

theorem unplaced_build (build : List Precision) :
    Unplaced ([','].intercalate (build.map Precision.name)) := by
  refine unplaced_of_not_mem fun member => ?_
  rcases mem_of_mem_intercalate member with comma | ⟨name, inside, found⟩
  · exact absurd comma (by decide)
  · obtain ⟨precision, -, rfl⟩ := List.mem_map.mp inside
    cases precision <;> exact absurd found (by decide)

theorem unplaced_modelId : Unplaced "model_id".toList := by
  constructor <;> decide

theorem flatMap_strings_str (texts : List (List Char)) :
    (texts.map JsonDoc.str).flatMap JsonDoc.strings = texts := by
  rw [List.flatMap_map]
  exact List.flatMap_singleton' texts

theorem strings_doc (entry : PipelineEntry) :
    entry.doc.strings =
      ["id".toList, entry.id, "type".toList, "model_id".toList] ++
        (if entry.build = [] then []
          else ["build".toList,
            [','].intercalate (entry.build.map Precision.name)]) ++
        ("device".toList :: entry.device.map BenchDevice.name) ++
        (if entry.args = [] then [] else "args".toList :: entry.args) := by
  have devices : (devicesDoc entry.device).strings =
      entry.device.map BenchDevice.name := by
    rw [devicesDoc, JsonDoc.strings, JsonDocs.strings_ofList,
      ← flatMap_strings_str (entry.device.map BenchDevice.name), List.map_map]
    rfl
  rw [PipelineEntry.doc, JsonDoc.strings, JsonPairs.strings_ofList]
  simp only [List.flatMap_append, List.flatMap_cons, List.flatMap_nil,
    List.append_nil, JsonDoc.strings, devices]
  by_cases build : entry.build = [] <;> by_cases args : entry.args = [] <;>
    simp [build, args, flatMap_strings_str, JsonDoc.strings]

theorem forall_strings_doc_iff (entry : ModelEntry) :
    (∀ text ∈ entry.pipeline.doc.strings, Unplaced text) ↔
      ∀ text ∈ entry.texts, Unplaced text := by
  have keys : ∀ key ∈ ["id".toList, "type".toList, "build".toList,
      "device".toList, "args".toList], Unplaced key := by
    intro key member
    refine unplaced_of_not_mem ?_
    revert key
    decide
  rw [strings_doc]
  constructor
  · intro holds text member
    refine holds text ?_
    rcases List.mem_cons.mp member with rfl | member
    · simp [ModelEntry.pipeline]
    · have some : entry.args ≠ [] := List.ne_nil_of_mem member
      simp [ModelEntry.pipeline, some, member]
  · intro holds text member
    simp only [List.mem_append] at member
    rcases member with ((first | build) | device) | args
    · simp only [List.mem_cons, List.not_mem_nil, or_false] at first
      rcases first with rfl | rfl | rfl | rfl
      · exact keys _ (by simp)
      · exact holds _ List.mem_cons_self
      · exact keys _ (by simp)
      · exact unplaced_modelId
    · split at build
      · exact absurd build List.not_mem_nil
      · simp only [List.mem_cons, List.not_mem_nil, or_false] at build
        rcases build with rfl | rfl
        · exact keys _ (by simp)
        · exact unplaced_build _
    · rcases List.mem_cons.mp device with rfl | device
      · exact keys _ (by simp)
      · obtain ⟨picked, -, rfl⟩ := List.mem_map.mp device
        exact unplaced_device picked
    · split at args
      · exact absurd args List.not_mem_nil
      · rcases List.mem_cons.mp args with rfl | args
        · exact keys _ (by simp)
        · exact holds _ (List.mem_cons_of_mem _ args)

theorem forall_strings_modelsDoc_iff (entries : List ModelEntry) :
    (∀ text ∈ (modelsDoc (entries.map ModelEntry.pipeline)).strings,
      Unplaced text) ↔ Plain entries := by
  have key : Unplaced "models".toList := unplaced_of_not_mem (by decide)
  rw [modelsDoc, JsonDoc.strings, JsonPairs.strings_ofList, List.flatMap_cons,
    List.flatMap_nil, List.append_nil, List.forall_mem_cons,
    and_iff_right key, JsonDoc.strings, JsonDocs.strings_ofList, List.map_map,
    List.flatMap_map]
  simp only [List.mem_flatMap, forall_exists_index, and_imp]
  unfold Plain
  simp only [← forall_strings_doc_iff]
  exact ⟨fun holds entry member text inside => holds text entry member inside,
    fun holds text entry member inside => holds entry member text inside⟩

/-- What the script has for the models decodes to them exactly when no
placeholder stands in an id or an argument. -/
theorem decode_renderedModels_iff (entries : List ModelEntry) (stage : Stage)
    (settings : Option GroupSettings) :
    decode (renderedModels entries stage (groupEnv stage settings)) =
        some (modelsDoc (entries.map ModelEntry.pipeline)) ↔
      Plain entries := by
  rw [renderedModels_eq,
    decode_print (indented 2) (reads_renderedLiteral stage settings),
    JsonDoc.mapM_eq_self_iff, ← forall_strings_modelsDoc_iff]
  simp only [readBack_eq_self_iff]

/-! ## The lines of a rendered script -/

/-- What was put into the models closes their document nowhere. -/
theorem noLineStart_renderedModels (entries : List ModelEntry) (stage : Stage)
    (settings : Option GroupSettings) :
    NoLineStart 'E' true
      (renderedModels entries stage (groupEnv stage settings)) := by
  have literals : ∀ text, NoLineStart 'E' false
      (renderedLiteral stage (groupEnv stage settings) text) := by
    intro text
    rw [renderedLiteral_eq, replace,
      (spares_escape unescaped_groupEnvPlaceholder).cut_flatMap
        groupEnvPlaceholder_ne_nil]
    refine noLineStart_intercalate_of_getLast
      (noLineStart_groupEnv stage settings (by decide) (by decide))
      (getLast?_groupEnv stage settings) ?_
    intro piece member
    obtain ⟨part, -, rfl⟩ := List.mem_map.mp member
    exact newline_not_mem_escape part
  have whole := noLineStart_print (renderedLiteral stage (groupEnv stage settings))
    (indented 2) (show Foreign ['E'] by decide) 0
    (modelsDoc (entries.map ModelEntry.pipeline))
    (fun text _ => literals text) (show NoLineStart 'E' true [] from trivial)
  rwa [List.append_nil, ← renderedModels_eq] at whole

theorem modelsEnd_not_mem_renderedModels (entries : List ModelEntry)
    (stage : Stage) (settings : Option GroupSettings) :
    modelsEnd ∉ (renderedModels entries stage
      (groupEnv stage settings)).splitOn '\n' := fun member =>
  (noLineStart_renderedModels entries stage settings).splitOn _ member rfl

theorem modelsOpener_not_mem_groupEnv (stage : Stage)
    (settings : Option GroupSettings) :
    modelsOpener ∉ (groupEnv stage settings).splitOn '\n' := by
  intro member
  have begins : modelsOpener.head? = some 'c' := by decide
  exact (noLineStart_groupEnv stage settings (by decide) (by decide)).splitOn _
    member begins

theorem placeholders_spec :
    ∀ placeholder ∈ placeholders, placeholder ≠ [] ∧ '\n' ∉ placeholder ∧
      ¬ placeholder <:+: modelsOpener ∧ ¬ placeholder <:+: modelsEnd := by
  decide

section Template

variable (template : RunTemplate)

/-- A substitution in a script is one in its parts. -/
theorem replace_parts {placeholder replacement stage changed : List Char}
    (known : placeholder ∈ placeholders)
    (opt : replace placeholder replacement (optLine stage) = optLine changed)
    (env models : List Char) :
    replace placeholder replacement
        (['\n'].intercalate (template.parts stage env models)) =
      ['\n'].intercalate (template.parts changed
        (replace placeholder replacement env)
        (replace placeholder replacement models)) := by
  obtain ⟨nonempty, newline, opener, ending⟩ :=
    placeholders_spec placeholder known
  have kept : ∀ line ∈ template.head ++ template.middle ++ template.setup ++
      template.tail, replace placeholder replacement line = id line :=
    fun line member => replace_of_absent nonempty
      (template.fixed line member placeholder known) replacement
  simp only [List.forall_mem_append] at kept
  obtain ⟨⟨⟨head, middle⟩, setup⟩, tail⟩ := kept
  rw [replace_intercalate nonempty newline]
  simp only [RunTemplate.parts, List.map_append, List.map_cons, opt,
    replace_of_absent nonempty opener, replace_of_absent nonempty ending,
    List.map_congr_left head, List.map_congr_left middle,
    List.map_congr_left setup, List.map_congr_left tail, List.map_id]

theorem renderScript_eq (entries : List ModelEntry) (stage : Stage)
    (env : List Char) :
    renderScript template entries stage env = ['\n'].intercalate
        (template.parts stage.name env (renderedModels entries stage env)) := by
  have models : modelsPlaceholder ∈ placeholders := by simp [placeholders]
  have opt : optPlaceholder ∈ placeholders := by simp [placeholders]
  have groups : groupEnvPlaceholder ∈ placeholders := by simp [placeholders]
  have optKept : replace modelsPlaceholder (modelsJson entries)
      (optLine optPlaceholder) = optLine optPlaceholder :=
    replace_of_absent (by decide) (by decide) _
  have optFilled : replace optPlaceholder stage.name (optLine optPlaceholder) =
      optLine stage.name := by
    cases stage <;> decide
  have stageKept : replace groupEnvPlaceholder env (optLine stage.name) =
      optLine stage.name :=
    replace_of_absent (by decide) (by cases stage <;> decide) _
  rw [renderScript, RunTemplate.text, replace_parts template models optKept,
    replace_parts template opt optFilled, replace_parts template groups stageKept,
    replace_self (show modelsPlaceholder ≠ [] by decide),
    replace_of_absent (show modelsPlaceholder ≠ [] by decide)
      (show ¬ modelsPlaceholder <:+: groupEnvPlaceholder by decide),
    replace_of_absent optPlaceholder_ne_nil
      (show ¬ optPlaceholder <:+: groupEnvPlaceholder by decide),
    replace_self groupEnvPlaceholder_ne_nil]
  rfl

theorem lines_renderScript (entries : List ModelEntry) (stage : Stage)
    (env : List Char) :
    (renderScript template entries stage env).splitOn '\n' =
      template.head ++ optLine stage.name :: (template.middle ++
        (env.splitOn '\n' ++ (template.setup ++
          modelsOpener :: ((renderedModels entries stage env).splitOn '\n' ++
            modelsEnd :: template.tail)))) := by
  have single : ∀ line ∈ template.head ++ template.middle ++ template.setup ++
      template.tail, line.splitOn '\n' = [line] := fun line member =>
    List.splitOn_eq_singleton (template.single line member)
  have flat : ∀ {lines : List (List Char)},
      (∀ line ∈ lines, line.splitOn '\n' = [line]) →
        lines.flatMap (List.splitOn '\n') = lines := fun each =>
    (List.flatMap_congr each).trans (List.flatMap_singleton' _)
  simp only [List.forall_mem_append] at single
  obtain ⟨⟨⟨head, middle⟩, setup⟩, tail⟩ := single
  have opt : (optLine stage.name).splitOn '\n' = [optLine stage.name] :=
    List.splitOn_eq_singleton (by cases stage <;> decide)
  have opener : modelsOpener.splitOn '\n' = [modelsOpener] :=
    List.splitOn_eq_singleton (by decide)
  have ending : modelsEnd.splitOn '\n' = [modelsEnd] :=
    List.splitOn_eq_singleton (by decide)
  rw [renderScript_eq, splitOn_intercalate_eq_flatMap _ (by simp [RunTemplate.parts])]
  simp only [RunTemplate.parts, List.flatMap_append, List.flatMap_cons,
    flat head, flat middle, flat setup, flat tail, opt, opener, ending,
    List.singleton_append]

theorem takeWhile_ne_append_cons {mark : List Char} {first : List (List Char)}
    (lacks : mark ∉ first) (rest : List (List Char)) :
    (first ++ mark :: rest).takeWhile (· ≠ mark) = first ∧
      (first ++ mark :: rest).dropWhile (· ≠ mark) = mark :: rest := by
  induction first with
  | nil => simp
  | cons line first ih =>
    rw [List.mem_cons, not_or] at lacks
    simpa [Ne.symm lacks.1] using ih lacks.2

theorem readScript_renderScript (entries : List ModelEntry) (stage : Stage)
    (settings : Option GroupSettings) :
    readScript (renderScript template entries stage (groupEnv stage settings)) =
      ⟨template.head ++ optLine stage.name :: (template.middle ++
          ((groupEnv stage settings).splitOn '\n' ++ template.setup)),
        (renderedModels entries stage (groupEnv stage settings)).splitOn '\n',
        modelsEnd :: template.tail⟩ := by
  have unopened := template.unopened
  simp only [List.mem_append, not_or] at unopened
  obtain ⟨⟨⟨head, middle⟩, setup⟩, -⟩ := unopened
  have opt : modelsOpener ≠ optLine stage.name := by
    cases stage <;> decide
  have before : modelsOpener ∉ template.head ++ optLine stage.name ::
      (template.middle ++ ((groupEnv stage settings).splitOn '\n' ++
        template.setup)) := by
    simp only [List.mem_append, List.mem_cons, not_or]
    exact ⟨head, opt, middle, modelsOpener_not_mem_groupEnv stage settings,
      setup⟩
  have lines := lines_renderScript template entries stage
    (groupEnv stage settings)
  generalize (groupEnv stage settings).splitOn '\n' = envLines at before lines ⊢
  rw [readScript, lines]
  have outer := takeWhile_ne_append_cons before
    ((renderedModels entries stage (groupEnv stage settings)).splitOn '\n' ++
      modelsEnd :: template.tail)
  have inner := takeWhile_ne_append_cons
    (modelsEnd_not_mem_renderedModels entries stage settings) template.tail
  simp only [List.append_assoc, List.cons_append] at outer
  simp only [outer.1, outer.2, List.tail_cons, inner.1, inner.2]

/-- A script hands on its models exactly when no placeholder stands in an id or
an argument; its stage and what is around them are always right. -/
theorem renders_iff (entries : List ModelEntry) (stage : Stage)
    (settings : Option GroupSettings) :
    Renders template entries stage (groupEnv stage settings)
        (renderScript template entries stage (groupEnv stage settings)) ↔
      Plain entries := by
  have read := readScript_renderScript template entries stage settings
  rw [← decode_renderedModels_iff entries stage settings]
  constructor
  · intro renders
    have models := renders.models
    rwa [read, List.intercalate_splitOn] at models
  · intro models
    exact {
      models := by rwa [read, List.intercalate_splitOn]
      opt := by
        rw [read, List.getElem?_append_right le_rfl, Nat.sub_self]
        rfl
      before := by rw [read, readScript_renderScript]
      after := by rw [read, readScript_renderScript] }

end Template

/-! ## What a script determines -/

theorem Precision.name_injective : Function.Injective Precision.name := by
  intro first second same
  cases first <;> cases second <;> first | rfl | simp [name] at same

theorem build_injective {first second : List Precision} (written : first ≠ [])
    (known : second ≠ [])
    (same : [','].intercalate (first.map Precision.name) =
      [','].intercalate (second.map Precision.name)) :
    first = second := by
  have lacks : ∀ build : List Precision,
      ∀ name ∈ build.map Precision.name, ',' ∉ name := by
    intro build name member
    obtain ⟨precision, -, rfl⟩ := List.mem_map.mp member
    cases precision <;> decide
  have parts := congrArg (List.splitOn ',') same
  rw [List.splitOn_intercalate ',' (lacks first) (by simpa using written),
    List.splitOn_intercalate ',' (lacks second) (by simpa using known)] at parts
  exact List.map_injective_iff.mpr Precision.name_injective parts

theorem devicesDoc_injective : Function.Injective devicesDoc := by
  intro first second same
  refine List.map_injective_iff.mpr ?_
    (JsonDocs.ofList_injective (JsonDoc.arr.inj same))
  exact fun one other equal => BenchDevice.name_injective (JsonDoc.str.inj equal)

/-- Different entries are different documents. -/
theorem PipelineEntry.doc_injective : Function.Injective PipelineEntry.doc := by
  intro first second same
  have pairs := JsonPairs.ofList_injective (JsonDoc.obj.inj same)
  obtain ⟨firstId, firstBuild, firstDevice, firstArgs⟩ := first
  obtain ⟨secondId, secondBuild, secondDevice, secondArgs⟩ := second
  have argsEq : JsonDocs.ofList (firstArgs.map .str) =
      .ofList (secondArgs.map .str) → firstArgs = secondArgs := fun equal =>
    List.map_injective_iff.mpr (fun _ _ => JsonDoc.str.inj)
      (JsonDocs.ofList_injective equal)
  -- Which of the two optional keys there are is told by the pairs.
  by_cases build : firstBuild = [] <;> by_cases otherBuild : secondBuild = [] <;>
    by_cases args : firstArgs = [] <;> by_cases otherArgs : secondArgs = [] <;>
    simp [build, otherBuild, args, otherArgs] at pairs
  · obtain ⟨id, device⟩ := pairs
    rw [id, build, otherBuild, args, otherArgs, devicesDoc_injective device]
  · obtain ⟨id, device, equal⟩ := pairs
    rw [id, build, otherBuild, devicesDoc_injective device, argsEq equal]
  · obtain ⟨id, joined, device⟩ := pairs
    rw [id, args, otherArgs, devicesDoc_injective device,
      build_injective build otherBuild joined]
  · obtain ⟨id, joined, device, equal⟩ := pairs
    rw [id, devicesDoc_injective device, argsEq equal,
      build_injective build otherBuild joined]

/-- Different lists of models are different documents. -/
theorem modelsDoc_injective : Function.Injective modelsDoc := by
  intro first second same
  have pairs := JsonPairs.ofList_injective (JsonDoc.obj.inj same)
  simp only [List.cons.injEq, Prod.mk.injEq, true_and, and_true,
    JsonDoc.arr.injEq] at pairs
  exact List.map_injective_iff.mpr PipelineEntry.doc_injective
    (JsonDocs.ofList_injective pairs)

theorem optLine_injective {first second : Stage}
    (same : optLine first.name = optLine second.name) :
    first = second := by
  revert same
  cases first <;> cases second <;> decide

theorem eq_of_renderScript_eq {template : RunTemplate}
    {first second : List ModelEntry} {stage other : Stage}
    {settings others : Option GroupSettings} (plain : Plain first)
    (plainOther : Plain second)
    (same : renderScript template first stage (groupEnv stage settings) =
      renderScript template second other (groupEnv other others)) :
    first.map ModelEntry.pipeline = second.map ModelEntry.pipeline ∧
      stage = other ∧ groupEnv stage settings = groupEnv other others := by
  have read := congrArg readScript same
  rw [readScript_renderScript, readScript_renderScript,
    ScriptLines.mk.injEq] at read
  obtain ⟨before, block, -⟩ := read
  rw [List.append_cancel_left_eq, List.cons.injEq, List.append_cancel_left_eq,
    List.append_cancel_right_eq] at before
  obtain ⟨opt, exported⟩ := before
  have models := congrArg (['\n'].intercalate ·) block
  have envs := congrArg (['\n'].intercalate ·) exported
  simp only [List.intercalate_splitOn] at models envs
  refine ⟨?_, optLine_injective opt, envs⟩
  have decoded := (decode_renderedModels_iff first stage settings).mpr plain
  rw [models, (decode_renderedModels_iff second other others).mpr plainOther,
    Option.some_inj] at decoded
  exact (modelsDoc_injective decoded).symm

/-- For every list of models, stage and exports: the script hands on exactly
these models and this stage, and nothing of them is around the document, exactly
if no id and no argument contains one of the two placeholders that are filled in
later; and such requests are told apart by their scripts. -/
theorem scripts_hand_on_models_iff (template : RunTemplate)
    (entries : List ModelEntry) (stage : Stage)
    (settings : Option GroupSettings) :
    (Renders template entries stage (groupEnv stage settings)
        (renderScript template entries stage (groupEnv stage settings)) ↔
      Plain entries) ∧
    (Plain entries → ∀ others otherStage otherSettings, Plain others →
      renderScript template entries stage (groupEnv stage settings) =
          renderScript template others otherStage
            (groupEnv otherStage otherSettings) →
        entries.map ModelEntry.pipeline = others.map ModelEntry.pipeline ∧
          stage = otherStage ∧
            groupEnv stage settings = groupEnv otherStage otherSettings) :=
  ⟨renders_iff template entries stage settings,
    fun plain _ _ _ plainOther same => eq_of_renderScript_eq plain plainOther same⟩

/-- The lines of the template that are filled in or read, by themselves. -/
def bareTemplate : RunTemplate where
  head := []
  middle := []
  setup := []
  tail := []
  single := nofun
  fixed := nofun
  unopened := nofun

/-- A benchmark of one model with arguments. -/
def withArgs (args : String) : PyValue :=
  .list (.cons (.dict (.ofList
    [("id", .str "Qwen/Qwen2.5-7B"), ("args", .str args)])) .nil)

/-- `withArgs`, as it is let through. -/
def withArgsRequest (args : List (List Char)) : NormalizedRequest :=
  ⟨[⟨"Qwen/Qwen2.5-7B".toList, [], [.cpu], args, [.cpu],
      some "2025.1.0".toList⟩],
    .benchmark, [.cpu], some "2025.1.0".toList⟩

/-- An argument `__OPT__` reaches the pipeline as the stage, and the script is
that of a request with the stage for an argument. -/
theorem placeholder_argument_is_filled_in :
    normalizeRequest (fun _ => []) (withArgs "-p __OPT__")
        "benchmark".toList (.str "CPU") (.str "2025.1.0") =
      .ok (withArgsRequest ["-p".toList, "__OPT__".toList]) ∧
    normalizeRequest (fun _ => []) (withArgs "-p benchmark")
        "benchmark".toList (.str "CPU") (.str "2025.1.0") =
      .ok (withArgsRequest ["-p".toList, "benchmark".toList]) ∧
    renderScript bareTemplate
        (withArgsRequest ["-p".toList, "__OPT__".toList]).entries .benchmark
        (groupEnv .benchmark none) =
      renderScript bareTemplate
        (withArgsRequest ["-p".toList, "benchmark".toList]).entries .benchmark
        (groupEnv .benchmark none) ∧
    ¬ Renders bareTemplate
        (withArgsRequest ["-p".toList, "__OPT__".toList]).entries .benchmark
        (groupEnv .benchmark none)
        (renderScript bareTemplate
          (withArgsRequest ["-p".toList, "__OPT__".toList]).entries .benchmark
          (groupEnv .benchmark none)) := by
  refine ⟨by decide +kernel, by decide +kernel, by decide +kernel, ?_⟩
  rw [renders_iff]
  intro plain
  exact (plain _ List.mem_cons_self "__OPT__".toList (by decide)).1
    (by decide)

end SmarTune
