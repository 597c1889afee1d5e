import SmarTune.Library.OrderedDict
import SmarTune.Balancer.Rates

/-!
# The limit registry

One entry per app under a resource limit, keyed by the app's primary cgroup in
insertion order, together with the exclusions from auto-limiting and the usage
peaks of manual limits.
-/

namespace SmarTune

/-- Who owns a limit: the pressure loop or the user. -/
inductive Source
  | auto
  | manual
  deriving DecidableEq, Repr

/-- The two control channels. -/
inductive Channel
  | sys
  | diskIo
  deriving DecidableEq, Repr

/-- `limit_parts`: which channels an entry caps. -/
structure LimitParts where
  cpuMemLimited : Bool
  ioLimited : Bool
  deriving DecidableEq, Repr

namespace LimitParts

/-- No channel. -/
def none : LimitParts := ⟨false, false⟩

/-- The flag a channel owns (`_CHANNEL_PART`). -/
def of (parts : LimitParts) : Channel → Bool
  | .sys => parts.cpuMemLimited
  | .diskIo => parts.ioLimited

/-- Only the flag of one channel. -/
def only : Channel → LimitParts
  | .sys => ⟨true, false⟩
  | .diskIo => ⟨false, true⟩

/-- Some channel is capped. -/
def any (parts : LimitParts) : Bool := parts.cpuMemLimited || parts.ioLimited

end LimitParts

/-- `resource_parts`: the split of the CPU/memory channel. -/
structure ResourceParts where
  cpu : Bool
  memory : Bool
  deriving DecidableEq, Repr

/-- `partial_parts`: which channels were relaxed by a staged restore. -/
structure PartialParts where
  sys : Bool
  diskIo : Bool
  deriving DecidableEq, Repr

namespace PartialParts

/-- The flag of one channel. -/
def of (parts : PartialParts) : Channel → Bool
  | .sys => parts.sys
  | .diskIo => parts.diskIo

def set (parts : PartialParts) (channel : Channel) (value : Bool) :
    PartialParts :=
  match channel with
  | .sys => { parts with sys := value }
  | .diskIo => { parts with diskIo := value }

end PartialParts

/-- The coarse `state` of an entry that is not fully limited. -/
inductive LimitState
  | partiallyRestored
  deriving DecidableEq, Repr

/-- The material hashed into a `protection_id`. -/
structure ProtectionId where
  source : Source
  publicAppId : String
  effectiveAppId : CgroupId
  limitedAt : ℚ
  deriving DecidableEq

/-- `LimitedApp`: the runtime state of one app under a resource limit. -/
structure LimitedApp where
  publicAppId : String
  appName : String
  source : Source
  limitRates : LimitRates
  limitParts : LimitParts
  resourceParts : ResourceParts := ⟨false, false⟩
  state : Option LimitState := none
  priority : String := "undefined"
  isControlled : Bool := false
  limitReason : String := ""
  pressureLevel : String := ""
  partialParts : PartialParts := ⟨false, false⟩
  cgroups : List CgroupId := []
  limitDisks : List DiskName := []
  pids : List Nat := []
  representativePid : Option Nat := none
  limitedAt : ℚ := 0
  protectionId : Option ProtectionId := none
  adoptedFromAuto : Bool := false
  frozen : Bool := false
  frozenAt : ℚ := 0
  freezeNotified : Bool := false

namespace LimitedApp

def answersTo (key : CgroupId) (entry : LimitedApp) (ident : String) : Bool :=
  ident = key || ident = entry.publicAppId || entry.cgroups.contains ident

def clearPart (entry : LimitedApp) : Channel → LimitedApp
  | .sys => { entry with
      limitParts := { entry.limitParts with cpuMemLimited := false } }
  | .diskIo => { entry with
      limitParts := { entry.limitParts with ioLimited := false } }

end LimitedApp

/-! ## Exclusions -/

/-- Why an app is exempt from auto-limiting. -/
inductive ExclusionReason
  | userRestore
  | manualLimit
  deriving DecidableEq, Repr

/-- What an exclusion covers: every instance of an app, or one cgroup. -/
inductive ExclusionKind
  | app
  | instance_
  deriving DecidableEq, Repr

/-- One exclusion record. -/
structure Exclusion where
  key : String
  kind : ExclusionKind
  reason : ExclusionReason
  appId : String
  appName : String
  priority : String
  cgroups : List CgroupId
  excludedAt : ℚ

/-- Python's `strip`. -/
def strip (text : String) : String :=
  let trimFront := fun (chars : List Char) => chars.dropWhile Char.isWhitespace
  String.ofList (trimFront (trimFront text.toList).reverse).reverse

/-- Python's `strip().lower()` on a name. -/
def strippedName (name : String) : List Char := lowered (strip name)

/-- The usage peak a manual limit was sized from. -/
structure Baseline where
  cpuPercent : ℚ
  memTotal : ℚ
  ioReadMb : ℚ
  ioWriteMb : ℚ
  ioReadIops : ℚ
  ioWriteIops : ℚ
  perCgroupMem : List (CgroupId × ℚ)
  perCgroupCpuDelta : List (CgroupId × ℚ)
  deriving DecidableEq

/-- `LimitRegistry`. -/
structure LimitRegistry where
  apps : OrderedDict CgroupId LimitedApp
  manualLimitBaseline : OrderedDict CgroupId Baseline
  autoLimitExclusions : OrderedDict String Exclusion

namespace LimitRegistry

/-- A registry without entries, peaks and exclusions. -/
def empty : LimitRegistry := ⟨.empty, .empty, .empty⟩

/-- `first_auto`: the oldest auto entry. -/
def firstAuto (registry : LimitRegistry) : Option (CgroupId × LimitedApp) :=
  registry.apps.entries.find? fun app => app.2.source = .auto

/-- `first_auto_with_part`: the oldest auto entry that carries the channel,
optionally skipping the ones already relaxed on it. -/
def firstAutoWithPart (registry : LimitRegistry) (channel : Channel)
    (skipPartiallyRestored : Bool) : Option (CgroupId × LimitedApp) :=
  registry.apps.entries.find? fun app =>
    app.2.source = .auto && app.2.limitParts.of channel &&
      !(skipPartiallyRestored && app.2.partialParts.of channel)

/-- `by_public_id` for one source. -/
def byPublicId (registry : LimitRegistry) (publicAppId : String)
    (source : Source) : Option (CgroupId × LimitedApp) :=
  registry.apps.entries.find? fun app =>
    app.2.publicAppId = publicAppId && app.2.source = source

/-- `by_any_id` for one source. -/
def byAnyId (registry : LimitRegistry) (ident : String)
    (source : Source) : Option (CgroupId × LimitedApp) :=
  registry.apps.entries.find? fun app =>
    app.2.source = source && app.2.answersTo app.1 ident

/-- `exclusion_key`. -/
def exclusionKey (isControlled : Bool) (publicAppId : String)
    (primaryCgroup : CgroupId) : ExclusionKind × String :=
  if isControlled && publicAppId ≠ "" then (.app, "app:" ++ publicAppId)
  else (.instance_,
    "instance:" ++ if primaryCgroup = "" then publicAppId else primaryCgroup)

/-- `add_exclusion`. -/
def addExclusion (registry : LimitRegistry) (entry : LimitedApp)
    (reason : ExclusionReason) (now : ℚ) : LimitRegistry :=
  let primaryCgroup := entry.cgroups.headD entry.publicAppId
  let key := exclusionKey entry.isControlled entry.publicAppId primaryCgroup
  { registry with
    autoLimitExclusions := registry.autoLimitExclusions.set key.2
      { key := key.2
        kind := key.1
        reason := reason
        appId := entry.publicAppId
        appName := entry.appName
        priority := entry.priority
        cgroups := entry.cgroups
        excludedAt := now } }

/-- `remove_exclusion`: by key, else the first record of that app or cgroup. -/
def removeExclusion (registry : LimitRegistry)
    (ident : String) : LimitRegistry :=
  let exclusions := registry.autoLimitExclusions
  match exclusions.get? ident with
  | some _ => { registry with autoLimitExclusions := exclusions.erase ident }
  | none =>
    match exclusions.entries.find? fun record =>
        ident = record.2.appId || record.2.cgroups.contains ident with
    | some record =>
      { registry with autoLimitExclusions := exclusions.erase record.1 }
    | none => registry

/-- `is_excluded`: the exclusion matching a candidate by id, by cgroup or, for
app exclusions, by name. -/
def isExcluded (registry : LimitRegistry) (appId appName : String)
    (cgroups : List CgroupId) : Option Exclusion :=
  let candidateIds := (appId :: cgroups).filter (· ≠ "")
  let name := strippedName appName
  (registry.autoLimitExclusions.values).find? fun record =>
    candidateIds.any (fun ident =>
      ident = record.appId || record.cgroups.contains ident) ||
    (record.kind = .app && !name.isEmpty && name = strippedName record.appName)

@[simp] theorem addExclusion_apps (registry : LimitRegistry)
    (entry : LimitedApp) (reason : ExclusionReason) (now : ℚ) :
    (registry.addExclusion entry reason now).apps = registry.apps := rfl

@[simp] theorem removeExclusion_apps (registry : LimitRegistry)
    (ident : String) :
    (registry.removeExclusion ident).apps = registry.apps := by
  simp only [removeExclusion]
  split
  · rfl
  · split <;> rfl

variable {registry : LimitRegistry} {ident : String} {source : Source}
  {key : CgroupId} {entry : LimitedApp}

theorem byAnyId_eq_some
    (found : registry.byAnyId ident source = some (key, entry)) :
    registry.apps.get? key = some entry ∧ entry.source = source ∧
      entry.answersTo key ident = true := by
  have member := List.mem_of_find?_eq_some found
  have matched := List.find?_some found
  simp only [Bool.and_eq_true, decide_eq_true_eq] at matched
  exact ⟨(registry.apps.get?_eq_some_iff key entry).mpr member, matched⟩

theorem byAnyId_eq_none_iff :
    registry.byAnyId ident source = none ↔
      ∀ key entry, registry.apps.get? key = some entry →
        entry.source = source → entry.answersTo key ident = false := by
  simp only [byAnyId, List.find?_eq_none, Prod.forall, Bool.and_eq_true,
    decide_eq_true_eq, not_and, OrderedDict.get?_eq_some_iff,
    Bool.not_eq_true]

theorem byPublicId_eq_some {publicAppId : String}
    (found : registry.byPublicId publicAppId source = some (key, entry)) :
    registry.apps.get? key = some entry ∧ entry.source = source ∧
      entry.publicAppId = publicAppId := by
  have member := List.mem_of_find?_eq_some found
  have matched := List.find?_some found
  simp only [Bool.and_eq_true, decide_eq_true_eq] at matched
  exact ⟨(registry.apps.get?_eq_some_iff key entry).mpr member,
    matched.2, matched.1⟩

theorem firstAutoWithPart_eq_some {channel : Channel} {skip : Bool}
    (found : registry.firstAutoWithPart channel skip = some (key, entry)) :
    registry.apps.get? key = some entry ∧ entry.source = .auto ∧
      entry.limitParts.of channel = true ∧
      (skip = true → entry.partialParts.of channel = false) := by
  have member := List.mem_of_find?_eq_some found
  have matched := List.find?_some found
  simp only [Bool.and_eq_true, decide_eq_true_eq, Bool.not_eq_true',
    Bool.and_eq_false_iff] at matched
  refine ⟨(registry.apps.get?_eq_some_iff key entry).mpr member,
    matched.1.1, matched.1.2, ?_⟩
  intro skipped
  rcases matched.2 with notSkipped | fresh
  · rw [skipped] at notSkipped
    exact absurd notSkipped (by simp)
  · exact fresh

end LimitRegistry

end SmarTune
