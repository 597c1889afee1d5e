import SmarTune.Config.FileEdits

/-!
# The setters of the configuration

A setter goes through what it is given and merges it into the dictionaries in
memory: it creates the dictionaries that are missing, and assigns the values that
differ from those held.  The assigned values are what it then writes to the file.
-/

namespace SmarTune

/-- The configuration in memory. -/
abbrev Settings (ω : Type*) := NestedDict String (ConfigValue ω)

/-- The values of a dictionary a setter is given. -/
abbrev Fields := List (String × Scalar)

/-! ## Actions -/

/-- One step of a setter. -/
inductive Action
  /-- `setdefault(key, {})` of the dictionary at the path. -/
  | setdefault (path : List String) (key : String)
  /-- A dictionary in the place of anything else. -/
  | ensureDict (path : List String) (key : String)
  /-- A value, converted in view of the one held, that is put in its place if it
  differs. -/
  | assign (path : List String) (key : String)
      (convert : Option Scalar → Option Scalar)
  /-- A conversion that raises. -/
  | fail

section Memory

variable {ω : Type*}

/-- What is under a key of a dictionary in memory. -/
abbrev Held (ω : Type*) := Option (ConfigValue ω ⊕ Settings ω)

def Held.scalar : Held ω → Option Scalar
  | some (.inl (.scalar value)) => some value
  | _ => none

/-- `get(key) == value`: a key that is missing holds `None`. -/
def Held.Is : Held ω → Scalar → Prop
  | none, value => Scalar.null.Same value
  | some (.inl (.scalar held)), value => held.Same value
  | _, _ => False

instance (held : Held ω) (value : Scalar) : Decidable (held.Is value) :=
  match held with
  | none => inferInstanceAs (Decidable (Scalar.null.Same value))
  | some (.inl (.scalar held)) => inferInstanceAs (Decidable (held.Same value))
  | some (.inl (.other _)) => .isFalse id
  | some (.inr _) => .isFalse id

/-- The memory with an empty dictionary under a key. -/
def withDict (memory : Settings ω) (path : List String)
    (key : String) : Settings ω :=
  NestedDict.modifyAt path (fun container => container.setDict key .empty)
    memory

/-- What is under a key of the dictionary at a path. -/
def heldAt (memory : Settings ω) (path : List String) (key : String) : Held ω :=
  (memory.container? path).bind fun container => container.get? key

/-- What one step does: it raises, leaves the setter a memory, or assigns a
value. -/
inductive Effect (ω : Type*)
  | raises
  | proceeds (memory : Settings ω)
  | assigns (path : List String) (key : String) (value : Scalar)
  deriving DecidableEq

/-- The effect of a step.  Only a dictionary has keys that can be looked up. -/
def Action.effect (memory : Settings ω) : Action → Effect ω
  | setdefault path key =>
    if memory.container? path = none then .raises
    else
      match heldAt memory path key with
      | some _ => .proceeds memory
      | none => .proceeds (withDict memory path key)
  | ensureDict path key =>
    if memory.container? path = none then .raises
    else
      match heldAt memory path key with
      | some (.inr _) => .proceeds memory
      | _ => .proceeds (withDict memory path key)
  | assign path key convert =>
    if memory.container? path = none then .raises
    else
      match convert (heldAt memory path key).scalar with
      | none => .proceeds memory
      | some value =>
        if (heldAt memory path key).Is value then .proceeds memory
        else .assigns path key value
  | fail => .raises

/-- What a setter has done: the memory, the values it assigned, and whether it
raised. -/
structure Outcome (ω : Type*) where
  memory : Settings ω
  updates : List (List String × Scalar)
  raised : Bool

/-- The steps of a setter, up to one that raises. -/
def runActions : List Action → Settings ω → Outcome ω
  | [], memory => ⟨memory, [], false⟩
  | action :: actions, memory =>
    match action.effect memory with
    | .raises => ⟨memory, [], true⟩
    | .proceeds memory => runActions actions memory
    | .assigns path key value =>
      let later := runActions actions (memory.setAt path key (.scalar value))
      { later with updates := (path ++ [key], value) :: later.updates }

end Memory

/-! ## What the setters are given -/

/-- The updates of `cpu` or `memory`.  Parts that are absent or of another form
are skipped. -/
structure ResourceUpdates where
  enabled : Option Scalar
  rate : Option Fields

/-- The updates of `disk_io`. -/
structure DiskIoUpdates where
  enabled : Option Scalar
  rate : Option (List (String × Fields))
  mediaScale : Option Fields
  candidateFloor : Option (List (String × Fields))

/-- The updates of `set_limit_policy`. -/
structure LimitPolicyUpdates where
  policy : Option Scalar
  cpu : Option ResourceUpdates
  memory : Option ResourceUpdates
  diskIo : Option DiskIoUpdates

/-- The overrides of `cpu` or `memory` for one priority. -/
structure ResourceOverrides where
  enabled : Option Scalar
  rate : Option Scalar

/-- The overrides of `disk_io` for one priority. -/
structure DiskIoOverrides where
  enabled : Option Scalar
  rate : Option Fields

/-- `limit_overrides`. -/
structure PriorityOverrides where
  cpu : Option ResourceOverrides
  memory : Option ResourceOverrides
  diskIo : Option DiskIoOverrides

/-- The updates of `set_disk_pressure_model`. -/
structure DiskPressureUpdates where
  subWeights : Option Fields
  knobs : Fields

/-- The updates of `set_network_control_policy`. -/
structure NetworkUpdates where
  enableNetworkControl : Option Scalar
  enableNetworkPressureShaping : Option Scalar
  enableAppPpsPolice : Option Scalar
  networkPpsPolicy : Option Fields
  configNetworkBw : Option (List (String × Fields))

/-! ## Parts of the setters -/

/-- `float`. -/
def asFloat (raw : Scalar) : Option Scalar := raw.toFloat?.map .float

/-- `max(1, int(float))`. -/
def asCap (raw : Scalar) : Option Scalar :=
  raw.toFloat?.map fun value => .int (max 1 (pyInt value))

/-- A value that is assigned whatever is held. -/
def assignValue (path : List String) (key : String) (value : Scalar) : Action :=
  .assign path key fun _ => some value

/-- A flag, when it is given. -/
def assignFlag (path : List String) (key : String)
    (enabled : Option Scalar) : List Action :=
  enabled.toList.map fun raw => assignValue path key (.bool raw.toBool)

def assignAll (path : List String) (convert : Scalar → Option Scalar)
    (fields : Fields) : List Action :=
  fields.filterMap fun (key, raw) => (convert raw).map (assignValue path key)

def assignListed (path : List String) (convert : Scalar → Option Scalar)
    (keys : List String) (fields : Fields) : List Action :=
  keys.filterMap fun key =>
    ((fields.lookup key).bind convert).map (assignValue path key)

def diskRateKeys : List String := ["write", "read", "write_iops", "read_iops"]

/-! ## The setters -/

/-- The loop of `set_limit_policy` over `cpu` and `memory`, for one of them. -/
def setResource (res : String) (updates : ResourceUpdates) : List Action :=
  .setdefault ["limit_policy"] res ::
    (assignFlag ["limit_policy", res] "enabled" updates.enabled ++
      updates.rate.elim [] fun rate =>
        .setdefault ["limit_policy", res] "rate" ::
          assignAll ["limit_policy", res, "rate"] asFloat rate)

/-- The `disk_io` part of `set_limit_policy`. -/
def setDiskIo (updates : DiskIoUpdates) : List Action :=
  .setdefault ["limit_policy"] "disk_io" ::
    (assignFlag ["limit_policy", "disk_io"] "enabled" updates.enabled ++
      (updates.rate.elim [] fun rate =>
        .setdefault ["limit_policy", "disk_io"] "rate" ::
          rate.flatMap fun (pri, fields) =>
            .setdefault ["limit_policy", "disk_io", "rate"] pri ::
              assignListed ["limit_policy", "disk_io", "rate", pri] asCap
                diskRateKeys fields) ++
      (updates.mediaScale.elim [] fun scale =>
        .setdefault ["limit_policy", "disk_io"] "media_scale" ::
          assignAll ["limit_policy", "disk_io", "media_scale"] asFloat scale) ++
      updates.candidateFloor.elim [] fun floor =>
        .setdefault ["limit_policy", "disk_io"] "candidate_floor" ::
          floor.flatMap fun (media, fields) =>
            .setdefault ["limit_policy", "disk_io", "candidate_floor"] media ::
              assignListed
                ["limit_policy", "disk_io", "candidate_floor", media] asFloat
                ["mb_s", "iops"] fields)

/-- `set_limit_policy`; `none` is given for an empty dictionary or none. -/
def setLimitPolicy : Option LimitPolicyUpdates → List Action
  | none => []
  | some updates =>
    .ensureDict [] "limit_policy" :: ((updates.policy.toList.map fun raw =>
          assignValue ["limit_policy"] "policy" (.text raw.str)) ++
        updates.cpu.elim [] (setResource "cpu") ++
        updates.memory.elim [] (setResource "memory") ++
        updates.diskIo.elim [] setDiskIo)

/-- `_ensure_resource_cfg`. -/
def ensureResourceCfg (name : String) : List Action :=
  [.ensureDict ["limit_policy"] name, .ensureDict ["limit_policy", name] "rate"]

/-- The part of `update_limit_policy_for_priority` for `cpu` or `memory`. -/
def overrideResource (pri resource : String)
    (overrides : ResourceOverrides) : List Action :=
  ensureResourceCfg resource ++
    assignFlag ["limit_policy", resource] "enabled" overrides.enabled ++
    (overrides.rate.bind asFloat).toList.map
      (assignValue ["limit_policy", resource, "rate"] pri)

/-- The `disk_io` part of `update_limit_policy_for_priority`: the rate of a
priority is stored when it has a value. -/
def overrideDiskIo (pri : String) (overrides : DiskIoOverrides) : List Action :=
  let assigned := overrides.rate.elim [] fun fields =>
    assignListed ["limit_policy", "disk_io", "rate", pri] asCap diskRateKeys
      fields
  ensureResourceCfg "disk_io" ++
    assignFlag ["limit_policy", "disk_io"] "enabled" overrides.enabled ++
    match assigned with
    | [] => []
    | _ :: _ => .ensureDict ["limit_policy", "disk_io", "rate"] pri :: assigned

/-- `update_limit_policy_for_priority`. -/
def updateLimitPolicyForPriority
    (priority : Option String) : Option PriorityOverrides → List Action
  | none => []
  | some overrides =>
    let pri := lowerCase (match priority with
      | none | some "" => "undefined"
      | some priority => priority)
    .ensureDict [] "limit_policy" ::
      (overrides.cpu.elim [] (overrideResource pri "cpu") ++
        overrides.memory.elim [] (overrideResource pri "memory") ++
        overrides.diskIo.elim [] (overrideDiskIo pri))

/-- `set_disk_pressure_model`. -/
def setDiskPressureModel : Option DiskPressureUpdates → List Action
  | none => []
  | some updates =>
    .ensureDict [] "disk_pressure_model" ::
      ((updates.subWeights.elim [] fun subWeights =>
          .setdefault ["disk_pressure_model"] "sub_weights" ::
            assignListed ["disk_pressure_model", "sub_weights"] asFloat
              ["latency", "queue", "util"] subWeights) ++
        assignListed ["disk_pressure_model"] asFloat
          ["sigmoid_k", "max_p_weight"] updates.knobs)

/-- The loop of `set_network_control_policy` over the packet policy, whose
conversion raises. -/
def assignPps (fields : Fields) : List String → List Action
  | [] => []
  | key :: keys =>
    match fields.lookup key with
    | none => assignPps fields keys
    | some raw =>
      match raw.toInt? with
      | none => [.fail]
      | some value =>
        assignValue ["network_pps_policy"] key (.int value) ::
          assignPps fields keys

/-- The packet policy: a new dictionary is lost when a conversion raises. -/
def setNetworkPpsPolicy {ω : Type*} (memory : Settings ω)
    (fields : Fields) : List Action :=
  let keys := ["app_pps_high", "pps_cap_rate", "pps_cap_burst"]
  let raises := keys.any fun key =>
    (fields.lookup key).any fun raw => raw.toInt?.isNone
  match memory.get? "network_pps_policy" with
  | some (.inr _) => assignPps fields keys
  | _ =>
    if raises then [.fail]
    else .ensureDict [] "network_pps_policy" :: assignPps fields keys

/-- `set_network_control_policy`. -/
def setNetworkControlPolicy {ω : Type*}
    (memory : Settings ω) : Option NetworkUpdates → List Action
  | none => []
  | some updates =>
    assignFlag [] "enable_network_control" updates.enableNetworkControl ++
      assignFlag [] "enable_network_pressure_shaping"
        updates.enableNetworkPressureShaping ++
      assignFlag [] "enable_app_pps_police" updates.enableAppPpsPolice ++
      updates.networkPpsPolicy.elim [] (setNetworkPpsPolicy memory) ++
      updates.configNetworkBw.elim [] fun bw =>
        .ensureDict [] "config_network_bw" :: bw.flatMap fun (pri, bounds) =>
            .ensureDict ["config_network_bw"] pri ::
              assignListed ["config_network_bw", pri] asFloat ["min", "max"]
                bounds

/-- The conversion of `update_top_level_scalars`. -/
def convertTopLevel (value : Scalar) : Option Scalar → Option Scalar
  | some (.bool _) => some (.bool value.toBool)
  | some (.int _) => value.toInt?.map .int
  | some (.float _) => value.toFloat?.map .float
  | _ => some value

/-- `update_top_level_scalars`. -/
def updateTopLevelScalars (updates : Fields) : List Action :=
  updates.map fun (key, value) => .assign [] key (convertTopLevel value)

/-- The conversion of `update_config_section`. -/
def convertEntry (value : Scalar) : Option Scalar → Option Scalar
  | some (.text _) => some (.text value.str)
  | held => convertTopLevel value held

/-- `update_config_section`. -/
def updateConfigSection (section_ : String)
    (updates : Option Fields) : List Action :=
  match updates with
  | none => []
  | some updates =>
    if section_ = "" then []
    else .ensureDict [] section_ :: updates.map fun (key, value) =>
        .assign [section_] key (convertEntry value)

/-- A call of a setter. -/
inductive SetterCall
  | setLimitPolicy (updates : Option LimitPolicyUpdates)
  | updateLimitPolicyForPriority (priority : Option String)
      (overrides : Option PriorityOverrides)
  | setDiskPressureModel (updates : Option DiskPressureUpdates)
  | setNetworkControlPolicy (updates : Option NetworkUpdates)
  | updateTopLevelScalars (updates : Fields)
  | updateConfigSection (section_ : String) (updates : Option Fields)

/-- The steps of a call. -/
def SetterCall.actions {ω : Type*}
    (memory : Settings ω) : SetterCall → List Action
  | setLimitPolicy updates => SmarTune.setLimitPolicy updates
  | updateLimitPolicyForPriority priority overrides =>
    SmarTune.updateLimitPolicyForPriority priority overrides
  | setDiskPressureModel updates => SmarTune.setDiskPressureModel updates
  | setNetworkControlPolicy updates =>
    SmarTune.setNetworkControlPolicy memory updates
  | updateTopLevelScalars updates => SmarTune.updateTopLevelScalars updates
  | updateConfigSection section_ updates =>
    SmarTune.updateConfigSection section_ updates

end SmarTune
