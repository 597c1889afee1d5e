import SmarTune.Benchmark.RunService
import SmarTune.Library.Grouping
import SmarTune.Library.JsonText
import SmarTune.Library.PyValues
import SmarTune.Library.UnicodeText

/-!
# Run requests and their groups

A request names models, each with its own devices and OpenVINO version or with
the request's.  `start_run` validates it, splits it into groups that agree on
both, and hands each group to a process of its own: through the environment of
the job when there is one group, and through exports in the group's script when
there are several.

`text` stands for `str` of the values that are not strings.
-/

/-! ## Values -/

/-- `bool(value)`. -/
def PyValue.truthy : PyValue → Bool
  | .none => false
  | .bool value => value
  | .int value => value ≠ 0
  | .float value => value ≠ 0
  | .str value => value ≠ ""
  | .list items => items ≠ .nil
  | .tuple items => items ≠ .nil
  | .dict entries => entries ≠ .nil

/-- Whether a dictionary has a key. -/
def PyEntries.has : PyEntries → String → Bool
  | .nil, _ => false
  | .cons key _ entries, wanted => key = wanted || entries.has wanted

/-- The keys of a dictionary. -/
def PyEntries.keys : PyEntries → List String
  | .nil => []
  | .cons key _ entries => key :: entries.keys

namespace SmarTune

/-! ## Texts -/

/-- `str.strip`. -/
def stripText (text : List Char) : List Char :=
  ((text.dropWhile UnicodeText.isSpace).reverse.dropWhile
    UnicodeText.isSpace).reverse

/-- `str.split` without a separator. -/
def textWords (text : List Char) : List (List Char) :=
  (text.splitOnP UnicodeText.isSpace).filter (· ≠ [])

/-- Where `shlex` is: between words, in one, in quotes, or after a backslash
that leads back to a word or to quotes. -/
inductive ShlexState
  | blank
  | word
  | quotes (mark : Char)
  | escape (back : Option Char)
  deriving DecidableEq

/-- `shlex.split` from a state on, with the word so far and whether a part of it
was quoted. -/
def shlexFrom (state : ShlexState) (token : List Char)
    (quoted : Bool) : List Char → Option (List (List Char))
  | [] =>
    match state with
    | .blank | .word =>
      some (if token = [] ∧ quoted = false then [] else [token])
    | .quotes _ | .escape _ => none
  | character :: rest =>
    match state with
    | .quotes mark =>
      if character = mark then shlexFrom .word token true rest
      else if character = '\\' ∧ mark = '"' then
        shlexFrom (.escape (some mark)) token true rest
      else shlexFrom state (token ++ [character]) true rest
    | .escape none => shlexFrom .word (token ++ [character]) quoted rest
    | .escape (some mark) =>
      shlexFrom (.quotes mark) (if character ≠ '\\' ∧ character ≠ mark then
          token ++ ['\\', character]
        else token ++ [character]) quoted rest
    | .blank | .word =>
      if character ∈ [' ', '\t', '\r', '\n'] then
        if token = [] ∧ quoted = false then shlexFrom .blank [] false rest
        else (shlexFrom .blank [] false rest).map (token :: ·)
      else if character = '\'' ∨ character = '"' then
        shlexFrom (.quotes character) token true rest
      else if character = '\\' then shlexFrom (.escape none) token quoted rest
      else shlexFrom .word (token ++ [character]) quoted rest

/-- `shlex.split`; `none` for `ValueError`. -/
def shlexSplit (text : List Char) : Option (List (List Char)) :=
  shlexFrom .blank [] false text

example : shlexSplit "-p \"what is\" -n 8".toList =
    some ["-p".toList, "what is".toList, "-n".toList, "8".toList] := by
  decide

/-- `_OV_VERSION_RE.match`, of a stripped text. -/
def isOvVersion (version : List Char) : Bool :=
  let parts := version.splitOn '.'
  parts.length = 3 &&
    parts.all fun part => !part.isEmpty && part.all UnicodeText.isDecimal

def isModelIdPart : List Char → Bool
  | [] => false
  | first :: rest =>
    first.isAlphanum && rest.all fun character =>
        character.isAlphanum || ['.', '_', '-'].contains character

/-- `_MODEL_ID_RE.match`, of a stripped text. -/
def isModelId (id : List Char) : Bool :=
  let parts := id.splitOn '/'
  parts.length ≤ 2 && parts.all isModelIdPart

/-! ## Validation -/

/-- `VALID_PRECISIONS`. -/
inductive Precision
  | fp16
  | int8
  | int4
  deriving DecidableEq

def Precision.name : Precision → List Char
  | .fp16 => ['f', 'p', '1', '6']
  | .int8 => ['i', 'n', 't', '8']
  | .int4 => ['i', 'n', 't', '4']

/-- The precisions in their canonical order. -/
def Precision.all : List Precision := [.fp16, .int8, .int4]

/-- `VALID_DEVICES`. -/
inductive BenchDevice
  | cpu
  | gpu
  | npu
  deriving DecidableEq

def BenchDevice.name : BenchDevice → List Char
  | .cpu => ['C', 'P', 'U']
  | .gpu => ['G', 'P', 'U']
  | .npu => ['N', 'P', 'U']

/-- The devices in their canonical order. -/
def BenchDevice.all : List BenchDevice := [.cpu, .gpu, .npu]

def Stage.name : Stage → List Char
  | .build => ['b', 'u', 'i', 'l', 'd']
  | .benchmark => ['b', 'e', 'n', 'c', 'h', 'm', 'a', 'r', 'k']
  | .all => ['a', 'l', 'l']

def Stage.ofName (name : List Char) : Option Stage :=
  [Stage.build, .benchmark, .all].find? fun stage => stage.name = name

/-- `InvalidRunRequest`, with what its message names, or the `TypeError` of a
`build` that cannot be gone through. -/
inductive RunRequestError
  | stage
  | devicesNotList
  | unknownDevices (names : List (List Char))
  | noDevice
  | noVersion
  | invalidVersion (version : List Char)
  | noModels
  | tooManyModels
  | modelNotObject
  | noId
  | invalidId (id : List Char)
  | buildNotIterable
  | unknownPrecisions (values : List PyValue) (id : List Char)
  | argsTooLong (id : List Char) (length : ℕ)
  | argsQuoting (id : List Char)
  | nothingToBuild
  deriving DecidableEq

/-- A validated entry; `build` and `args` are absent from it when empty. -/
structure ModelEntry where
  id : List Char
  build : List Precision
  device : List BenchDevice
  args : List (List Char)
  /-- `_devices`. -/
  devices : List BenchDevice
  /-- `_ov`. -/
  ov : Option (List Char)
  deriving DecidableEq

/-- `_MAX_ARGS_LEN`. -/
def maxArgsLen : ℕ := 512

/-- `_MAX_MODELS`. -/
def maxModels : ℕ := 32

section Normalize

variable (text : PyValue → List Char)

/-- `str(value)`. -/
def textOf : PyValue → List Char
  | .str value => value.toList
  | value => text value

/-- `str(value or "")`. -/
def textOrEmpty (value : PyValue) : List Char :=
  if value.truthy then textOf text value else []

def deviceNames : PyValue → Option (List (List Char))
  | .str value =>
    some (textWords (value.toList.map fun character =>
      if character = ',' then ' ' else character))
  | .list items => some (items.toList.map (textOf text))
  | .tuple items => some (items.toList.map (textOf text))
  | _ => none

-- named here once for the membership tests on texts below
instance lawfulBEqText : LawfulBEq (List Char) := inferInstance

/-- `normalize_devices`. -/
def normalizeDevices (devices : PyValue) (stage : Stage) :
    Except RunRequestError (List BenchDevice) :=
  if devices = .none then .ok BenchDevice.all
  else
    match deviceNames text devices with
    | none => .error .devicesNotList
    | some names =>
      let wanted :=
        (names.map fun name => (stripText name).map Char.toUpper).filter
          (· ≠ [])
      let unknown :=
        wanted.filter fun name => name ∉ BenchDevice.all.map BenchDevice.name
      if unknown ≠ [] then .error (.unknownDevices
        (unknown.eraseDups.mergeSort fun first second => first ≤ second))
      else
        let ordered := BenchDevice.all.filter fun device =>
          device.name ∈ wanted
        if ordered = [] ∧ stage ≠ .build then .error .noDevice
        else .ok ordered

/-- `normalize_ov`. -/
def normalizeOv (ov : PyValue) (stage : Stage) :
    Except RunRequestError (Option (List Char)) :=
  if stage = .build then .ok none
  else
    let version := stripText (textOrEmpty text ov)
    if version = [] then .error .noVersion
    else if !isOvVersion version then .error (.invalidVersion version)
    else .ok (some version)

def precisionOf : PyValue → Option Precision
  | .str value => Precision.all.find? fun precision =>
    precision.name = value.toList
  | _ => none

/-- The values of `item.get("build") or []`. -/
def buildValues (build : PyValue) : Option (List PyValue) :=
  if !build.truthy then some []
  else
    match build with
    | .str value =>
      some ((value.toList.splitOn ',').map fun part =>
        .str (String.ofList (stripText part)))
    | .list items => some items.toList
    | .tuple items => some items.toList
    | .dict entries => some (entries.keys.map .str)
    | _ => none

/-- `entry["build"]`. -/
def normalizeBuild (build : PyValue) (id : List Char) :
    Except RunRequestError (List Precision) :=
  match buildValues build with
  | none => .error .buildNotIterable
  | some values =>
    let unknown := values.filter fun value => (precisionOf value).isNone
    if unknown ≠ [] then .error (.unknownPrecisions unknown id)
    else .ok (Precision.all.filter fun precision =>
      some precision ∈ values.map precisionOf)

/-- `entry["args"]`. -/
def normalizeArgs (args : PyValue) (id : List Char) :
    Except RunRequestError (List (List Char)) :=
  let extra := stripText (textOrEmpty text args)
  if extra.length > maxArgsLen then .error (.argsTooLong id extra.length)
  else
    match shlexSplit extra with
    | none => .error (.argsQuoting id)
    | some tokens => .ok tokens

/-- `entry["id"]`. -/
def normalizeId (fields : PyEntries) : Except RunRequestError (List Char) :=
  let id := stripText
    (if fields.has "id" then textOf text (fields.get "id") else [])
  if id = [] then .error .noId
  else if !isModelId id then .error (.invalidId id)
  else .ok id

/-- A model's own choice, or the request's. -/
def ownOrPicked {α : Type*} (own : PyValue) (picked : α)
    (normalize : PyValue → Except RunRequestError α) :
    Except RunRequestError α :=
  if own = .none then .ok picked else normalize own

/-- The loop of `normalize_request` on one item. -/
def normalizeModel (stage : Stage) (pickedDevices : List BenchDevice)
    (pickedOv : Option (List Char))
    (item : PyValue) : Except RunRequestError ModelEntry :=
  match item with
  | .dict fields => do
      let id ← normalizeId text fields
      let build ← normalizeBuild (fields.get "build") id
      let devices ← ownOrPicked
        (if fields.get "devices" = .none then fields.get "device"
          else fields.get "devices")
        pickedDevices (normalizeDevices text · stage)
      let args ← normalizeArgs text (fields.get "args") id
      let ov ← ownOrPicked (fields.get "ov") pickedOv (normalizeOv text · stage)
      .ok { id, build, device := devices, args, devices, ov }
  | _ => .error .modelNotObject

/-- A request that was let through. -/
structure NormalizedRequest where
  entries : List ModelEntry
  stage : Stage
  devices : List BenchDevice
  ov : Option (List Char)
  deriving DecidableEq

def sequenceItems : PyValue → List PyValue
  | .list items => items.toList
  | .tuple items => items.toList
  | _ => []

/-- `models`, when it is a list of 1 to 32 items. -/
def requestedModels (models : PyValue) :
    Except RunRequestError (List PyValue) :=
  if sequenceItems models = [] then .error .noModels
  else if (sequenceItems models).length > maxModels then .error .tooManyModels
  else .ok (sequenceItems models)

/-- `normalize_request`. -/
def normalizeRequest (models : PyValue) (stage : List Char)
    (devices ov : PyValue) : Except RunRequestError NormalizedRequest :=
  match Stage.ofName stage with
  | none => .error .stage
  | some stage => do
      let pickedDevices ← normalizeDevices text devices stage
      let pickedOv ← normalizeOv text ov stage
      let items ← requestedModels models
      let entries ←
        items.mapM (normalizeModel text stage pickedDevices pickedOv)
      if stage ≠ .benchmark ∧ entries.all (·.build = []) then
        .error .nothingToBuild
      else .ok ⟨entries, stage, pickedDevices, pickedOv⟩

/-! ## What is let through -/

theorem exists_of_bind_eq_ok {ε α β : Type u} {first : Except ε α}
    {next : α → Except ε β} {result : β} (ran : (first >>= next) = .ok result) :
    ∃ value, first = .ok value ∧ next value = .ok result := by
  cases first with
  | error error => cases ran
  | ok value => exact ⟨value, rfl, ran⟩

/-- What a loop made of a list it made of the items, one for each. -/
theorem of_mapM_eq_ok {ε α β : Type u} {change : α → Except ε β}
    {items : List α} {results : List β}
    (ran : items.mapM change = .ok results) :
    results.length = items.length ∧
      ∀ result ∈ results, ∃ item, change item = .ok result := by
  induction items generalizing results with
  | nil =>
    rw [List.mapM_nil] at ran
    cases ran
    simp
  | cons item items ih =>
    rw [List.mapM_cons] at ran
    obtain ⟨first, changed, ran⟩ := exists_of_bind_eq_ok ran
    obtain ⟨rest, others, ran⟩ := exists_of_bind_eq_ok ran
    cases ran
    obtain ⟨length, each⟩ := ih others
    refine ⟨by simp [length], fun result member => ?_⟩
    rcases List.mem_cons.mp member with rfl | member
    · exact ⟨item, changed⟩
    · exact each result member

variable {models ov : PyValue} {stage : Stage}

/-- There is a model, and not too many. -/
theorem length_of_requestedModels {items : List PyValue}
    (accepted : requestedModels models = .ok items) :
    items ≠ [] ∧ items.length ≤ maxModels := by
  unfold requestedModels at accepted
  split at accepted
  · cases accepted
  · next nonempty =>
      split at accepted
      · cases accepted
      · next few =>
          cases accepted
          exact ⟨nonempty, not_lt.mp few⟩

theorem isSome_of_normalizeOv {version : Option (List Char)}
    (measured : stage ≠ .build)
    (accepted : normalizeOv text ov stage = .ok version) :
    version.isSome := by
  simp only [normalizeOv, measured, if_false] at accepted
  split at accepted
  · cases accepted
  · split at accepted
    · cases accepted
    · cases accepted
      rfl

theorem isOvVersion_of_normalizeOv {version : List Char}
    (accepted : normalizeOv text ov stage = .ok (some version)) :
    isOvVersion version = true := by
  unfold normalizeOv at accepted
  split at accepted
  · cases accepted
  · dsimp only at accepted
    split at accepted
    · cases accepted
    · split at accepted
      · cases accepted
      · next valid =>
          cases accepted
          simpa using valid

theorem ownOrPicked_eq_ok {α : Type*} {own : PyValue} {picked value : α}
    {normalize : PyValue → Except RunRequestError α}
    (accepted : ownOrPicked own picked normalize = .ok value) :
    value = picked ∨ normalize own = .ok value := by
  unfold ownOrPicked at accepted
  split at accepted
  · cases accepted
    exact .inl rfl
  · exact .inr accepted

theorem normalizeModel_spec {stage : Stage} {pickedDevices : List BenchDevice}
    {pickedOv : Option (List Char)} {item : PyValue} {entry : ModelEntry}
    (accepted :
      normalizeModel text stage pickedDevices pickedOv item = .ok entry)
    (picked : stage ≠ .build → pickedOv.isSome)
    (formed : ∀ version, pickedOv = some version → isOvVersion version = true) :
    entry.device = entry.devices ∧ (stage ≠ .build → entry.ov.isSome) ∧
      ∀ version, entry.ov = some version → isOvVersion version = true := by
  cases item with
  | dict fields =>
    obtain ⟨id, -, accepted⟩ := exists_of_bind_eq_ok accepted
    obtain ⟨build, -, accepted⟩ := exists_of_bind_eq_ok accepted
    obtain ⟨devices, -, accepted⟩ := exists_of_bind_eq_ok accepted
    obtain ⟨args, -, accepted⟩ := exists_of_bind_eq_ok accepted
    obtain ⟨ov, version, accepted⟩ := exists_of_bind_eq_ok accepted
    cases accepted
    rcases ownOrPicked_eq_ok version with rfl | version
    · exact ⟨rfl, picked, formed⟩
    · refine ⟨rfl, fun measured =>
        isSome_of_normalizeOv text measured version, ?_⟩
      rintro named rfl
      exact isOvVersion_of_normalizeOv text version
  | _ => cases accepted

/-- What `normalize_request` lets through has models, each grouped by its own
devices, and versions when it is measured. -/
structure NormalizedRequest.Valid (request : NormalizedRequest) : Prop where
  nonempty : request.entries ≠ []
  device : ∀ entry ∈ request.entries, entry.device = entry.devices
  version : request.stage ≠ .build → request.ov.isSome
  versions : request.stage ≠ .build → ∀ entry ∈ request.entries, entry.ov.isSome
  formed : ∀ entry ∈ request.entries, ∀ version, entry.ov = some version →
    isOvVersion version = true

theorem normalizeRequest_valid {devices : PyValue} {stage : List Char}
    {request : NormalizedRequest}
    (accepted : normalizeRequest text models stage devices ov = .ok request) :
    request.Valid := by
  unfold normalizeRequest at accepted
  split at accepted
  · cases accepted
  · next stage _ =>
      obtain ⟨pickedDevices, -, accepted⟩ := exists_of_bind_eq_ok accepted
      obtain ⟨pickedOv, version, accepted⟩ := exists_of_bind_eq_ok accepted
      obtain ⟨items, listed, accepted⟩ := exists_of_bind_eq_ok accepted
      obtain ⟨entries, each, accepted⟩ := exists_of_bind_eq_ok accepted
      obtain ⟨length, normalized⟩ := of_mapM_eq_ok each
      split at accepted
      · cases accepted
      · cases accepted
        have picked : stage ≠ .build → pickedOv.isSome := fun measured =>
          isSome_of_normalizeOv text measured version
        have formed : ∀ version, pickedOv = some version →
            isOvVersion version = true := by
          rintro named rfl
          exact isOvVersion_of_normalizeOv text version
        have specs : ∀ entry ∈ entries, entry.device = entry.devices ∧
            (stage ≠ .build → entry.ov.isSome) ∧
              ∀ version, entry.ov = some version →
                isOvVersion version = true := by
          intro entry member
          obtain ⟨item, changed⟩ := normalized entry member
          exact normalizeModel_spec text changed picked formed
        refine ⟨?_, fun entry member => (specs entry member).1, picked,
          fun measured entry member => (specs entry member).2.1 measured,
          fun entry member => (specs entry member).2.2⟩
        rintro rfl
        exact (length_of_requestedModels listed).1
          (List.length_eq_zero_iff.mp length.symm)

end Normalize

/-! ## Groups -/

/-- What a model is run with: an OpenVINO version and devices. -/
structure Route where
  ov : Option (List Char)
  devices : List BenchDevice
  deriving DecidableEq

def ModelEntry.route (entry : ModelEntry) : Route := ⟨entry.ov, entry.devices⟩

/-- An entry as the pipeline reads it. -/
structure PipelineEntry where
  id : List Char
  build : List Precision
  device : List BenchDevice
  args : List (List Char)
  deriving DecidableEq

/-- `_pipeline_entry`. -/
def ModelEntry.pipeline (entry : ModelEntry) : PipelineEntry :=
  ⟨entry.id, entry.build, entry.device, entry.args⟩

/-- A group of `run_groups`. -/
structure RunGroup where
  ov : Option (List Char)
  devices : List BenchDevice
  entries : List ModelEntry
  deriving DecidableEq

def RunGroup.route (group : RunGroup) : Route := ⟨group.ov, group.devices⟩

def RunGroup.opened (entry : ModelEntry) : RunGroup :=
  ⟨entry.ov, entry.devices, [entry]⟩

/-- `group["entries"].append(entry)`. -/
def RunGroup.append (group : RunGroup) (entry : ModelEntry) : RunGroup :=
  { group with entries := group.entries ++ [entry] }

/-- What `run_groups` tells entries apart by. -/
def groupKey (stage : Stage) (entry : ModelEntry) : Option Route :=
  if stage = .build then none else some entry.route

/-- `run_groups`. -/
def runGroups (stage : Stage) (entries : List ModelEntry) : List RunGroup :=
  (Grouping.collect (groupKey stage) RunGroup.opened RunGroup.append
    entries).map Prod.snd

def RunGroup.total : List ModelEntry → RunGroup
  | [] => ⟨none, [], []⟩
  | first :: rest => ⟨first.ov, first.devices, first :: rest⟩

theorem runGroups_eq (stage : Stage) (entries : List ModelEntry) :
    runGroups stage entries =
      (entries.map (groupKey stage)).eraseDups.map fun key =>
        .total (entries.filter fun entry => groupKey stage entry == key) := by
  have more : ∀ (members : List ModelEntry) (entry : ModelEntry), members ≠ [] →
        RunGroup.total (members ++ [entry]) =
          (RunGroup.total members).append entry := by
    intro members entry nonempty
    obtain ⟨first, rest, rfl⟩ := List.exists_cons_of_ne_nil nonempty
    rfl
  rw [runGroups, Grouping.collect_eq (groupKey stage) RunGroup.opened
    RunGroup.append (fun _ => rfl) more, List.map_map]
  rfl

variable {stage : Stage} {entries : List ModelEntry} {group : RunGroup}

theorem runGroups_measured (measured : stage ≠ .build)
    (entries : List ModelEntry) :
    runGroups stage entries =
      (entries.map ModelEntry.route).eraseDups.map fun route =>
        ⟨route.ov, route.devices,
          entries.filter fun entry => entry.route = route⟩ := by
  have key : groupKey stage = some ∘ ModelEntry.route :=
    funext fun _ => if_neg measured
  rw [runGroups_eq, key, ← List.map_map,
    Grouping.eraseDups_map_of_injective (Option.some_injective _), List.map_map]
  refine List.map_congr_left fun route member => ?_
  simp only [Function.comp_apply, beq_eq_decide, Option.some.injEq]
  rw [List.mem_eraseDups, List.mem_map] at member
  obtain ⟨named, member, rfl⟩ := member
  cases filtered : entries.filter fun entry => entry.route = named.route with
  | nil =>
    have absent := List.filter_eq_nil_iff.mp filtered named member
    simp at absent
  | cons first rest =>
    have same : first.route = named.route := by
      have inside : first ∈ entries.filter fun entry =>
          entry.route = named.route := filtered ▸ List.mem_cons_self
      simpa using List.of_mem_filter inside
    rw [← same]
    rfl

@[simp] theorem RunGroup.entries_total (entries : List ModelEntry) :
    (RunGroup.total entries).entries = entries := by
  cases entries <;> rfl

theorem flatMap_entries_runGroups (stage : Stage) (entries : List ModelEntry) :
    ((runGroups stage entries).flatMap RunGroup.entries).Perm entries := by
  rw [runGroups_eq, List.flatMap_map]
  simp only [RunGroup.entries_total]
  exact Grouping.flatMap_filter_perm (groupKey stage)
    (Grouping.nodup_eraseDups _) fun entry member =>
      List.mem_eraseDups.mpr (List.mem_map_of_mem member)

/-- The models of a group are in the order of the request. -/
theorem sublist_of_mem_runGroups (member : group ∈ runGroups stage entries) :
    group.entries.Sublist entries := by
  rw [runGroups_eq] at member
  obtain ⟨key, -, rfl⟩ := List.mem_map.mp member
  rw [RunGroup.entries_total]
  exact List.filter_sublist

theorem route_of_mem_runGroups (measured : stage ≠ .build)
    (member : group ∈ runGroups stage entries) :
    ∀ entry ∈ group.entries, entry.route = group.route := by
  rw [runGroups_measured measured] at member
  obtain ⟨route, -, rfl⟩ := List.mem_map.mp member
  intro entry inside
  exact of_decide_eq_true (List.mem_filter.mp inside).2

theorem exists_entry_of_mem_runGroups (measured : stage ≠ .build)
    (member : group ∈ runGroups stage entries) :
    ∃ entry ∈ entries, entry.route = group.route := by
  rw [runGroups_measured measured] at member
  obtain ⟨route, named, rfl⟩ := List.mem_map.mp member
  exact List.mem_map.mp (List.mem_eraseDups.mp named)

/-! ## Processes -/

/-- The environment of a process. -/
def ProcessEnv := String → Option (List Char)

/-- `env.update`, or a series of exports. -/
def ProcessEnv.update (env : ProcessEnv)
    (vars : List (String × List Char)) : ProcessEnv :=
  fun name => (vars.lookup name).or (env name)

def devicesDoc (devices : List BenchDevice) : JsonDoc :=
  .arr (.ofList (devices.map fun device => .str device.name))

/-- The record of what a run is measured with. -/
def runMetaDoc (route : Route) (stage : Stage) : JsonDoc :=
  .obj (.ofList [("ov".toList, route.ov.elim .null .str),
      ("devices".toList, devicesDoc route.devices),
      ("stage".toList, .str stage.name)])

/-- The text of `BENCH_RUN_META`. -/
def runMeta (route : Route) (stage : Stage) : List Char :=
  (runMetaDoc route stage).dumps JsonText.compact

/-- The environment of the job, from the defaults of the request. -/
def jobVars (runName : List Char) (route : Route)
    (stage : Stage) : List (String × List Char) :=
  ("BENCH_RUN_NAME", runName) ::
    if stage.measured then
      [("BENCH_OV_VERSION", route.ov.getD []),
        ("BENCH_RUN_META", runMeta route stage)]
    else []

/-- The exports of `_group_env`, from the settings of the group. -/
def groupVars (runName : List Char) (route : Route)
    (stage : Stage) : List (String × List Char) :=
  ("BENCH_RUN_NAME", runName) ::
    if stage.measured then
      [("BENCH_DEVICES",
          [' '].intercalate (route.devices.map BenchDevice.name)),
        ("BENCH_OV_VERSION", route.ov.getD []),
        ("BENCH_RUN_META", runMeta route stage)]
    else []

/-- `group["run_name"]`. -/
def groupRunName (runName : List Char) (single : Bool)
    (position : ℕ) : List Char :=
  if single then runName else runName ++ '_' :: 'g' :: position.repr.toList

/-- A process that runs a group: what it reads its models from, and its
environment. -/
structure GroupProcess where
  group : RunGroup
  models : List PipelineEntry
  environment : ProcessEnv

/-- The defaults of a request. -/
def NormalizedRequest.route (request : NormalizedRequest) : Route :=
  ⟨request.ov, request.devices⟩

/-- The processes that the job of a request comes to.  The script of a single
group exports nothing. -/
def groupProcesses (base : ProcessEnv) (runName : List Char)
    (request : NormalizedRequest) : List GroupProcess :=
  let groups := runGroups request.stage request.entries
  let single := groups.length = 1
  let job := base.update (jobVars runName request.route request.stage)
  groups.zipIdx.map fun (group, index) =>
    { group
      models := group.entries.map ModelEntry.pipeline
      environment :=
        if single then job
        else job.update (groupVars (groupRunName runName single (index + 1))
          group.route request.stage) }

/-- What `env.probe` finds. -/
structure BenchProbe where
  enabled : Bool
  ready : Bool
  ovVersions : List (List Char)

/-- Why `start_run` refuses. -/
inductive StartRunError
  | invalid (error : RunRequestError)
  | disabled
  | notReady
  | notInstalled (version : List Char)
  | busy
  | quietModeBlocked
  deriving DecidableEq

/-- A run that was started: `devices` and `ov` of its record are the defaults
of the request. -/
structure StartedRun where
  request : NormalizedRequest
  processes : List GroupProcess

/-- The versions of a request's groups that are not installed, in order. -/
def missingVersions (request : NormalizedRequest)
    (installed : List (List Char)) : List (List Char) :=
  (((runGroups request.stage request.entries).filterMap RunGroup.ov).filter
    (· ∉ installed)).mergeSort fun first second => first ≤ second

/-- `start_run` up to its launch, whose further failures leave no run. -/
def startRun (text : PyValue → List Char) (status : BenchProbe)
    (busy blocked : Bool) (base : ProcessEnv) (runName : List Char)
    (models : PyValue) (stage : List Char)
    (devices ov : PyValue) : Except StartRunError StartedRun :=
  match normalizeRequest text models stage devices ov with
  | .error error => .error (.invalid error)
  | .ok request =>
    if !status.enabled then .error .disabled
    else if !status.ready then .error .notReady
    else
      match missingVersions request status.ovVersions with
      | first :: _ => .error (.notInstalled first)
      | [] =>
        if busy then .error .busy
        else if request.stage.measured && blocked then
          .error .quietModeBlocked
        else .ok ⟨request, groupProcesses base runName request⟩

/-- The processes of a run do what was asked for.  A build has neither a
version nor devices, so it is only asked to have every model once. -/
structure StartedRun.AsGrouped (started : StartedRun)
    (installed : List (List Char)) : Prop where
  once : (started.processes.flatMap (·.group.entries)).Perm
    started.request.entries
  inOrder : ∀ process ∈ started.processes,
    process.group.entries.Sublist started.request.entries
  models : ∀ process ∈ started.processes,
    process.models = process.group.entries.map ModelEntry.pipeline
  firstAppearance : started.request.stage ≠ .build →
    started.processes.map (·.group.route) =
      (started.request.entries.map ModelEntry.route).eraseDups
  homogeneous : started.request.stage ≠ .build →
    ∀ process ∈ started.processes, ∀ entry ∈ process.group.entries,
      entry.route = process.group.route
  checked : ∀ process ∈ started.processes,
    ∀ version, process.group.ov = some version → version ∈ installed
  version : started.request.stage ≠ .build → ∀ process ∈ started.processes,
      process.environment "BENCH_OV_VERSION" = process.group.ov
  recorded : started.request.stage ≠ .build → ∀ process ∈ started.processes,
      process.environment "BENCH_RUN_META" =
        some (runMeta process.group.route started.request.stage)
  device : started.request.stage ≠ .build →
    ∀ process ∈ started.processes, ∀ model ∈ process.models,
      model.device = process.group.devices

theorem BenchDevice.name_injective : Function.Injective BenchDevice.name := by
  intro first second same
  cases first <;> cases second <;> first | rfl | simp [name] at same

/-- The record of a run tells versions and devices apart. -/
theorem runMeta_inj {first second : Route} :
    runMeta first stage = runMeta second stage ↔ first = second := by
  refine ⟨fun same => ?_, fun same => same ▸ rfl⟩
  have docs := JsonText.dumps_injective _ same
  simp only [runMetaDoc, devicesDoc, JsonPairs.ofList, JsonDoc.obj.injEq,
    JsonPairs.cons.injEq, JsonDoc.arr.injEq, true_and, and_true] at docs
  obtain ⟨versions, devices⟩ := docs
  have named := JsonDocs.ofList_injective devices
  obtain ⟨firstOv, firstDevices⟩ := first
  obtain ⟨secondOv, secondDevices⟩ := second
  have sameDevices : firstDevices = secondDevices := by
    refine List.map_injective_iff.mpr ?_ named
    exact fun one other equal =>
      BenchDevice.name_injective (JsonDoc.str.inj equal)
  have sameOv : firstOv = secondOv := by
    cases firstOv <;> cases secondOv <;> simp_all
  rw [sameDevices, sameOv]

/-! ## What the processes see -/

theorem Stage.measured_iff (stage : Stage) :
    stage.measured = true ↔ stage ≠ .build := by
  cases stage <;> simp [measured]

section Seen

variable {base : ProcessEnv} {runName : List Char}
  {request : NormalizedRequest}

theorem map_group_groupProcesses :
    (groupProcesses base runName request).map (·.group) =
      runGroups request.stage request.entries := by
  rw [groupProcesses, List.map_map]
  exact List.zipIdx_map_fst 0 _

/-- The settings that a process finds in its environment. -/
def seenRoute (request : NormalizedRequest) (group : RunGroup) : Route :=
  if (runGroups request.stage request.entries).length = 1 then request.route
  else group.route

theorem mem_groupProcesses {process : GroupProcess}
    (member : process ∈ groupProcesses base runName request) :
    process.group ∈ runGroups request.stage request.entries ∧
      process.models = process.group.entries.map ModelEntry.pipeline ∧
        (request.stage ≠ .build → process.environment "BENCH_OV_VERSION" =
              some ((seenRoute request process.group).ov.getD []) ∧
            process.environment "BENCH_RUN_META" =
              some (runMeta (seenRoute request process.group)
                request.stage)) := by
  obtain ⟨⟨group, index⟩, inside, rfl⟩ := List.mem_map.mp member
  refine ⟨List.fst_mem_of_mem_zipIdx inside, rfl, fun measured => ?_⟩
  have exported := (Stage.measured_iff request.stage).mpr measured
  simp only [seenRoute]
  split <;> simp [ProcessEnv.update, jobVars, groupVars, exported,
    List.lookup_cons]

end Seen

theorem length_runGroups_eq_one_iff {stage : Stage} (measured : stage ≠ .build)
    {entries : List ModelEntry} (nonempty : entries ≠ []) :
    (runGroups stage entries).length = 1 ↔
      ∃ route, ∀ entry ∈ entries, entry.route = route := by
  obtain ⟨first, rest, rfl⟩ := List.exists_cons_of_ne_nil nonempty
  rw [runGroups_measured measured, List.length_map, List.map_cons,
    List.eraseDups_cons, List.length_cons, Nat.add_eq_right,
    List.length_eq_zero_iff]
  constructor
  · intro nothing
    refine ⟨first.route, fun entry member => ?_⟩
    rcases List.mem_cons.mp member with rfl | member
    · rfl
    · by_contra different
      have kept : entry.route ∈ ((rest.map ModelEntry.route).filter
          fun route => !(route == first.route)).eraseDups := by
        rw [List.mem_eraseDups, List.mem_filter]
        exact ⟨List.mem_map_of_mem member, by simpa using different⟩
      rw [nothing] at kept
      exact List.not_mem_nil kept
  · rintro ⟨route, agree⟩
    rw [List.eq_nil_iff_forall_not_mem]
    intro other member
    rw [List.mem_eraseDups, List.mem_filter] at member
    obtain ⟨named, different⟩ := member
    obtain ⟨entry, inside, rfl⟩ := List.mem_map.mp named
    rw [agree entry (by simp [inside]), agree first (by simp)] at different
    simp at different

/-- The models of a run agree only on the defaults of the request. -/
def NormalizedRequest.AgreeOnDefaults (request : NormalizedRequest) : Prop :=
  ∀ route, (∀ entry ∈ request.entries, entry.route = route) →
    route = request.route

theorem seenRoute_eq_iff {request : NormalizedRequest}
    (measured : request.stage ≠ .build) (nonempty : request.entries ≠ []) :
    (∀ group ∈ runGroups request.stage request.entries,
      seenRoute request group = group.route) ↔ request.AgreeOnDefaults := by
  have groups := runGroups_measured measured request.entries
  have single := length_runGroups_eq_one_iff measured nonempty
  unfold seenRoute
  constructor
  · intro seen route agree
    obtain ⟨entry, member⟩ := List.exists_mem_of_ne_nil _ nonempty
    have opened : (⟨route.ov, route.devices,
        request.entries.filter fun entry => entry.route = route⟩ : RunGroup) ∈
        runGroups request.stage request.entries := by
      rw [groups]
      refine List.mem_map_of_mem (List.mem_eraseDups.mpr ?_)
      exact agree entry member ▸ List.mem_map_of_mem member
    have same := seen _ opened
    rw [if_pos (single.mpr ⟨route, agree⟩)] at same
    exact same.symm
  · intro defaults group member
    split
    · next one =>
        obtain ⟨route, agree⟩ := single.mp one
        rw [groups] at member
        obtain ⟨other, named, rfl⟩ := List.mem_map.mp member
        obtain ⟨entry, inside, rfl⟩ :=
          List.mem_map.mp (List.mem_eraseDups.mp named)
        rw [← defaults route agree, ← agree entry inside]
        rfl
    · rfl

section Started

variable {text : PyValue → List Char} {status : BenchProbe}
  {busy blocked : Bool} {base : ProcessEnv} {runName : List Char}
  {models : PyValue} {stage : List Char} {devices ov : PyValue}
  {started : StartedRun}

theorem missingVersions_eq_nil_iff {request : NormalizedRequest}
    {installed : List (List Char)} :
    missingVersions request installed = [] ↔
      ∀ group ∈ runGroups request.stage request.entries,
        ∀ version, group.ov = some version → version ∈ installed := by
  rw [missingVersions, ← List.length_eq_zero_iff, List.length_mergeSort,
    List.length_eq_zero_iff, List.filter_eq_nil_iff]
  simp only [List.mem_filterMap, decide_not, Bool.not_eq_true',
    decide_eq_false_iff_not, not_not, forall_exists_index, and_imp]
  exact ⟨fun none group member version named => none version group member named,
    fun none version group member named => none group member version named⟩

theorem startRun_spec
    (accepted : startRun text status busy blocked base runName models stage
      devices ov = .ok started) :
    started.request.Valid ∧
      started.processes = groupProcesses base runName started.request ∧
        ∀ group ∈ runGroups started.request.stage started.request.entries,
          ∀ version, group.ov = some version → version ∈ status.ovVersions := by
  unfold startRun at accepted
  split at accepted
  · cases accepted
  · next request normalized =>
      split at accepted
      · cases accepted
      · split at accepted
        · cases accepted
        · cases missing : missingVersions request status.ovVersions with
          | cons first rest =>
            rw [missing] at accepted
            cases accepted
          | nil =>
            simp only [missing] at accepted
            split at accepted
            · cases accepted
            · split at accepted
              · cases accepted
              · cases accepted
                exact ⟨normalizeRequest_valid text normalized, rfl,
                  missingVersions_eq_nil_iff.mp missing⟩

/-- For every request that `start_run` accepts: each model runs in one group,
the groups follow the first models that need them, and every process sees the
version and the devices of its group, exactly if the request is a build or its
models agree on nothing but its defaults. -/
theorem processes_as_grouped_iff
    (accepted : startRun text status busy blocked base runName models stage
      devices ov = .ok started) :
    started.AsGrouped status.ovVersions ↔
      started.request.stage = .build ∨ started.request.AgreeOnDefaults := by
  obtain ⟨valid, processes, installed⟩ := startRun_spec accepted
  have groups : started.processes.map (·.group) =
      runGroups started.request.stage started.request.entries :=
    processes ▸ map_group_groupProcesses
  have spec := fun process (member : process ∈ started.processes) =>
    mem_groupProcesses (processes ▸ member)
  constructor
  · intro grouped
    refine or_iff_not_imp_left.mpr fun measured => ?_
    refine (seenRoute_eq_iff measured valid.nonempty).mp fun group member => ?_
    obtain ⟨process, inside, rfl⟩ := List.mem_map.mp (groups ▸ member)
    obtain ⟨-, recorded⟩ := (spec process inside).2.2 measured
    rw [grouped.recorded measured process inside, Option.some_inj] at recorded
    exact (runMeta_inj.mp recorded).symm
  · intro holds
    -- What is seen matters for a measured run only.
    have seen : started.request.stage ≠ .build → ∀ process ∈ started.processes,
          seenRoute started.request process.group = process.group.route :=
      fun measured process member =>
        (seenRoute_eq_iff measured valid.nonempty).mpr
          (holds.resolve_left measured) _ (spec process member).1
    exact {
      once := by
        have each := flatMap_entries_runGroups started.request.stage
          started.request.entries
        rwa [← groups, List.flatMap_map] at each
      inOrder := fun process member =>
        sublist_of_mem_runGroups (spec process member).1
      models := fun process member => (spec process member).2.1
      firstAppearance := by
        intro measured
        have routes := congrArg (List.map RunGroup.route) groups
        rw [List.map_map, runGroups_measured measured, List.map_map] at routes
        exact routes.trans (List.map_id _)
      homogeneous := fun measured process member =>
        route_of_mem_runGroups measured (spec process member).1
      checked := fun process member => installed _ (spec process member).1
      version := by
        intro measured process member
        obtain ⟨version, -⟩ := (spec process member).2.2 measured
        obtain ⟨entry, inside, route⟩ :=
          exists_entry_of_mem_runGroups measured (spec process member).1
        obtain ⟨named, known⟩ :=
          Option.isSome_iff_exists.mp (valid.versions measured entry inside)
        have groupOv : process.group.ov = some named :=
          (congrArg Route.ov route).symm.trans known
        rw [version, seen measured process member, RunGroup.route, groupOv]
        rfl
      recorded := by
        intro measured process member
        obtain ⟨-, recorded⟩ := (spec process member).2.2 measured
        rw [recorded, seen measured process member]
      device := by
        intro measured process member model listed
        rw [(spec process member).2.1] at listed
        obtain ⟨entry, inside, rfl⟩ := List.mem_map.mp listed
        have route :=
          route_of_mem_runGroups measured (spec process member).1 entry inside
        have known := (sublist_of_mem_runGroups (spec process member).1).subset
          inside
        exact (valid.device entry known).trans (congrArg Route.devices route) }

end Started

/-- A benchmark of one model on the CPU, with a version of its own. -/
def ownVersion (version : String) : PyValue :=
  .list (.cons (.dict (.ofList
    [("id", .str "Qwen/Qwen2.5-7B"), ("devices", .str "cpu"),
      ("ov", .str version)])) .nil)

/-- `ownVersion`, as it is let through. -/
def ownVersionRequest (version : String) : NormalizedRequest :=
  ⟨[⟨"Qwen/Qwen2.5-7B".toList, [], [.cpu], [], [.cpu], some version.toList⟩],
    .benchmark, [.cpu], some "2025.1.0".toList⟩

def twoVersions : BenchProbe :=
  ⟨true, true, ["2025.2.0".toList, "2025.1.0".toList]⟩

def ownVersionRun (version : String) : Except StartRunError StartedRun :=
  startRun (fun _ => []) twoVersions false false (fun _ => none) ['r']
    (ownVersion version) "benchmark".toList (.str "CPU") (.str "2025.1.0")

theorem ownVersionRun_eq (version : String)
    (normalized : normalizeRequest (fun _ => []) (ownVersion version)
      "benchmark".toList (.str "CPU") (.str "2025.1.0") =
        .ok (ownVersionRequest version))
    (installed : missingVersions (ownVersionRequest version)
      twoVersions.ovVersions = []) :
    ownVersionRun version = .ok ⟨ownVersionRequest version,
      groupProcesses (fun _ => none) ['r'] (ownVersionRequest version)⟩ := by
  simp only [ownVersionRun, startRun, normalized, installed]
  rfl

/-- A single model with version 2025.2.0 of its own runs with the request's
2025.1.0 in its environment. -/
theorem own_version_runs_default :
    ∃ started, ownVersionRun "2025.2.0" = .ok started ∧
      (∃ process ∈ started.processes,
        process.group.ov = some "2025.2.0".toList ∧
          process.environment "BENCH_OV_VERSION" = some "2025.1.0".toList) ∧
        ¬ started.AsGrouped twoVersions.ovVersions := by
  have ran := ownVersionRun_eq "2025.2.0" (by decide)
    (by decide +kernel)
  have seen : ∃ process ∈ groupProcesses (fun _ => none) ['r']
        (ownVersionRequest "2025.2.0"),
      process.group.ov = some "2025.2.0".toList ∧
        process.environment "BENCH_OV_VERSION" = some "2025.1.0".toList :=
    ⟨_, List.mem_cons_self, by decide, by decide⟩
  refine ⟨_, ran, seen, fun grouped => ?_⟩
  obtain ⟨process, member, own, default⟩ := seen
  have version := grouped.version (by decide) process member
  rw [own, default] at version
  simp at version

/-- A model that names the default runs with it. -/
theorem processes_as_grouped_iff_witness :
    ∃ started, ownVersionRun "2025.1.0" = .ok started ∧
      started.AsGrouped twoVersions.ovVersions := by
  have ran := ownVersionRun_eq "2025.1.0" (by decide)
    (by decide +kernel)
  refine ⟨_, ran, (processes_as_grouped_iff ran).mpr (.inr fun route agree => ?_)⟩
  exact (agree _ List.mem_cons_self).symm

end SmarTune
