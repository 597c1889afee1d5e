import SmarTune.Balancer.Exclusions

/-!
# Handing every auto limit over

`lock_all_auto_to_manual` collects the public ids of the controlled auto
entries and calls `lock_to_manual` with each of them.  A call resolves its id
again, to the oldest auto entry with that public id, controlled or not.
-/

namespace SmarTune

/-- The public ids of the controlled auto entries, oldest first. -/
def LimitRegistry.controlledAutoIds (registry : LimitRegistry) : List String :=
  (registry.apps.values.filter fun entry =>
    entry.source = .auto && entry.isControlled).map (·.publicAppId)

/-- One `lock_to_manual` call: whether the app has a database row by now, and
the time. -/
structure LockCall where
  appId : String
  currentControlled : Bool
  now : ℚ

namespace Balancer

def lockStep (balancer : Balancer) (call : LockCall) : Balancer :=
  (balancer.lockToManual call.appId call.currentControlled call.now).2

/-- The calls of the batch, with the number of entries converted. -/
def lockEach (balancer : Balancer) (calls : List LockCall) : Nat × Balancer :=
  calls.foldl (fun (converted, balancer) call =>
      let result :=
        balancer.lockToManual call.appId call.currentControlled call.now
      (if result.1 then converted + 1 else converted, result.2))
    (0, balancer)

/-- The calls `lock_all_auto_to_manual` makes. -/
def lockCalls (balancer : Balancer) (currentControlled : Nat → Bool)
    (now : Nat → ℚ) : List LockCall :=
  balancer.allLimits.controlledAutoIds.zipIdx.map fun (appId, position) =>
    ⟨appId, currentControlled position, now position⟩

/-- `lock_all_auto_to_manual`. -/
def lockAllAutoToManual (balancer : Balancer) (currentControlled : Nat → Bool)
    (now : Nat → ℚ) : Nat × Balancer :=
  balancer.lockEach (balancer.lockCalls currentControlled now)

/-! ## What the batch is for -/

/-- The exclusion stored under the entry's key exempts its app for a manual
limit. -/
def ManualExempt (balancer : Balancer) (entry : LimitedApp) : Prop :=
  ∃ record, balancer.exclusions.get? entry.exclusionKey = some record ∧
    record.reason = .manualLimit ∧ record.appId = entry.publicAppId

/-- The entry is the old one under manual ownership. -/
structure TakenOver (balancer : Balancer) (old new : LimitedApp) : Prop where
  source : new.source = .manual
  publicAppId : new.publicAppId = old.publicAppId
  limitParts : new.limitParts = old.limitParts
  cgroups : new.cgroups = old.cgroups
  limitDisks : new.limitDisks = old.limitDisks
  exempt : balancer.ManualExempt new

def ControlledAuto (entry : LimitedApp) : Prop :=
  entry.source = .auto ∧ entry.isControlled = true

instance : DecidablePred ControlledAuto :=
  fun _ => inferInstanceAs (Decidable (_ ∧ _))

/-- Exactly the controlled auto entries were taken over, without a write. -/
structure LockedAll (before after : Balancer) : Prop where
  kernel : after.kernel = before.kernel
  controlled : ∀ key old, before.allLimits.apps.get? key = some old →
    ControlledAuto old →
    ∃ new, after.allLimits.apps.get? key = some new ∧ after.TakenOver old new
  others : ∀ key old, before.allLimits.apps.get? key = some old →
    ¬ ControlledAuto old → after.allLimits.apps.get? key = some old

/-- The earlier entry takes the call meant for the later one. -/
def Shadows (earlier later : LimitedApp) : Prop :=
  earlier.source = .auto ∧ earlier.isControlled = false ∧
    ControlledAuto later ∧ earlier.publicAppId = later.publicAppId

instance (earlier later : LimitedApp) : Decidable (Shadows earlier later) :=
  inferInstanceAs (Decidable (_ ∧ _ ∧ _ ∧ _))

/-- No uncontrolled auto entry is older than a controlled one with the same
public id. -/
def NoShadows (balancer : Balancer) : Prop :=
  balancer.allLimits.apps.values.Pairwise fun earlier later =>
    ¬ Shadows earlier later

/-! ## One call -/

/-- The auto entries a call resolves its id to, oldest first. -/
def hasAutoId (appId : String) (app : CgroupId × LimitedApp) : Bool :=
  app.2.publicAppId = appId && app.2.source = .auto

/-- The controlled ones among them. -/
def hasControlledId (appId : String) (app : CgroupId × LimitedApp) : Bool :=
  hasAutoId appId app && app.2.isControlled

/-- The entry a call leaves of the one it flips. -/
def lockedEntry (key : CgroupId) (entry : LimitedApp) (now : ℚ) : LimitedApp :=
  handedOver key { entry with isControlled := true } now

section Call

variable {balancer : Balancer} {call : LockCall} {key : CgroupId}
  {entry : LimitedApp}

theorem lockStep_eq
    (found : balancer.allLimits.byPublicId call.appId .auto =
      some (key, entry)) :
    balancer.lockStep call =
      if (entry.isControlled || call.currentControlled) = true then
        balancer.handOver key { entry with isControlled := true } call.now
      else balancer := by
  obtain ⟨_, _, named⟩ := LimitRegistry.byPublicId_eq_some found
  have target : balancer.findAuto call.appId = some (key, entry) := by
    simp [findAuto, found]
  have tagged : entry.isControlled = true →
      { entry with isControlled := true } = entry := by
    intro controlled
    cases entry
    simp only at controlled
    rw [controlled]
  rw [lockStep, lockToManual, target]
  cases controlled : entry.isControlled with
  | true => simp [controlled, tagged controlled]
  | false => cases call.currentControlled <;> simp [controlled, ← named]

theorem handOver_apps (key : CgroupId) (entry : LimitedApp) (now : ℚ) :
    (balancer.handOver key entry now).allLimits.apps =
      balancer.allLimits.apps.set key (handedOver key entry now) := by
  simp [handOver]

@[simp] theorem handOver_kernel (key : CgroupId) (entry : LimitedApp)
    (now : ℚ) :
    (balancer.handOver key entry now).kernel = balancer.kernel := by
  simp [handOver]

/-- Without repetition, a handoff flips the entry in its place. -/
theorem handOver_entries {older younger : List (CgroupId × LimitedApp)}
    (split : balancer.allLimits.apps.entries = older ++ (key, entry) :: younger)
    (now : ℚ) :
    (balancer.handOver key { entry with isControlled := true }
        now).allLimits.apps.entries =
      older ++ (key, lockedEntry key entry now) :: younger := by
  rw [handOver_apps]
  exact OrderedDict.entries_set_of_split split _

theorem exists_split_of_owed {appId : String}
    (owed : 0 < balancer.allLimits.apps.entries.countP (hasAutoId appId)) :
    ∃ older key entry younger,
      balancer.allLimits.apps.entries = older ++ (key, entry) :: younger ∧
      hasAutoId appId (key, entry) = true ∧
      (∀ app ∈ older, hasAutoId appId app = false) ∧
      balancer.allLimits.byPublicId appId .auto = some (key, entry) := by
  obtain ⟨app, member, has⟩ := List.countP_pos_iff.mp owed
  have present : (balancer.allLimits.byPublicId appId .auto).isSome = true :=
    List.find?_isSome.mpr ⟨app, member, has⟩
  obtain ⟨⟨key, entry⟩, found⟩ := Option.isSome_iff_exists.mp present
  obtain ⟨has, older, younger, split, lacking⟩ :=
    List.find?_eq_some_iff_append.mp found
  exact ⟨older, key, entry, younger, split, has,
    fun app member => (Bool.not_eq_true' _).mp (lacking app member), found⟩

theorem hasAutoId_locked (appId : String) (key : CgroupId) (entry : LimitedApp)
    (now : ℚ) :
    hasAutoId appId (key, lockedEntry key entry now) = false := by
  simp [hasAutoId, lockedEntry, handedOver]

theorem hasControlledId_locked (appId : String) (key : CgroupId)
    (entry : LimitedApp) (now : ℚ) :
    hasControlledId appId (key, lockedEntry key entry now) = false := by
  simp [hasControlledId, hasAutoId_locked]

end Call

/-! ## When the batch is right -/

section Batch

variable {balancer after : Balancer}

/-- As many calls with an id are left as controlled auto entries with it. -/
def Owes (balancer : Balancer) (calls : List LockCall) : Prop :=
  ∀ appId, (calls.map (·.appId)).count appId =
    balancer.allLimits.apps.entries.countP (hasControlledId appId)

theorem noShadows_iff :
    balancer.NoShadows ↔ balancer.allLimits.apps.entries.Pairwise
      fun earlier later => ¬ Shadows earlier.2 later.2 :=
  List.pairwise_map

theorem hasControlledId_iff {appId : String} {app : CgroupId × LimitedApp} :
    hasControlledId appId app = true ↔
      app.2.publicAppId = appId ∧ ControlledAuto app.2 := by
  simp [hasControlledId, hasAutoId, ControlledAuto, and_assoc]

theorem publicAppId_eq_of_exclusionKey {first second : LimitedApp}
    (firstControlled : first.isControlled = true)
    (secondControlled : second.isControlled = true)
    (same : first.exclusionKey = second.exclusionKey) :
    first.publicAppId = second.publicAppId := by
  have kinds : ∀ id rest : String, "app:" ++ id ≠ "instance:" ++ rest := by
    intro id rest equal
    have letters := congrArg String.toList equal
    simp [String.toList_append] at letters
  simp only [LimitedApp.exclusionKey, LimitRegistry.exclusionKey,
    firstControlled, secondControlled, Bool.true_and, decide_eq_true_eq] at same
  by_cases firstNamed : first.publicAppId = "" <;>
    by_cases secondNamed : second.publicAppId = ""
  · rw [firstNamed, secondNamed]
  · rw [if_neg (by simpa using firstNamed), if_pos secondNamed] at same
    exact absurd same.symm (kinds _ _)
  · rw [if_pos firstNamed, if_neg (by simpa using secondNamed)] at same
    exact absurd same (kinds _ _)
  · rw [if_pos firstNamed, if_pos secondNamed] at same
    exact (String.append_right_inj _).mp same

/-- Every manual exemption of a controlled app outlives a handoff: who writes
under its key writes one of the same app. -/
theorem ManualExempt.handOver {entry : LimitedApp}
    (controlled : entry.isControlled = true)
    (exempt : balancer.ManualExempt entry) (key : CgroupId)
    (flipped : LimitedApp) (now : ℚ) :
    (balancer.handOver key { flipped with isControlled := true }
      now).ManualExempt entry := by
  obtain ⟨record, stored, reason, app⟩ := exempt
  unfold ManualExempt
  rw [handOver_exclusions, OrderedDict.get?_set]
  split
  · next same =>
    exact ⟨_, rfl, rfl, (publicAppId_eq_of_exclusionKey controlled rfl
      same).symm⟩
  · exact ⟨record, stored, reason, app⟩

theorem manualExempt_lockedEntry (key : CgroupId) (entry : LimitedApp)
    (now : ℚ) :
    (balancer.handOver key { entry with isControlled := true }
      now).ManualExempt (lockedEntry key entry now) := by
  unfold ManualExempt
  rw [handOver_exclusions, lockedEntry, OrderedDict.get?_set_self]
  exact ⟨_, rfl, rfl, rfl⟩

theorem lockStep_of_noShadows (clear : balancer.NoShadows) {call : LockCall}
    {rest : List LockCall} (owes : balancer.Owes (call :: rest)) :
    ∃ older key entry younger,
      balancer.allLimits.apps.entries = older ++ (key, entry) :: younger ∧
      ControlledAuto entry ∧ entry.publicAppId = call.appId ∧
      balancer.lockStep call =
        balancer.handOver key { entry with isControlled := true } call.now := by
  have owed : 0 < balancer.allLimits.apps.entries.countP
      (hasControlledId call.appId) := by
    rw [← owes call.appId]
    simp
  have some : 0 < balancer.allLimits.apps.entries.countP
      (hasAutoId call.appId) := by
    refine lt_of_lt_of_le owed (List.countP_mono_left ?_)
    intro app _ has
    exact (Bool.and_eq_true_iff.mp has).1
  obtain ⟨older, key, entry, younger, split, has, lacking, found⟩ :=
    exists_split_of_owed some
  have named : entry.publicAppId = call.appId ∧ entry.source = .auto := by
    simpa [hasAutoId] using has
  have controlled : entry.isControlled = true := by
    obtain ⟨app, member, owned⟩ := List.countP_pos_iff.mp owed
    rw [split] at member
    rcases List.mem_append.mp member with inOlder | inRest
    · have missing := lacking app inOlder
      rw [hasControlledId, missing] at owned
      cases owned
    rcases List.mem_cons.mp inRest with rfl | inYounger
    · exact (hasControlledId_iff.mp owned).2.2
    · rw [noShadows_iff, split] at clear
      have apart := (List.pairwise_cons.mp
        (List.pairwise_append.mp clear).2.1).1 app inYounger
      cases flag : entry.isControlled with
      | true => rfl
      | false =>
        obtain ⟨same, owned⟩ := hasControlledId_iff.mp owned
        exact absurd ⟨named.2, flag, owned, named.1.trans same.symm⟩ apart
  refine ⟨older, key, entry, younger, split, ⟨named.2, controlled⟩, named.1, ?_⟩
  rw [lockStep_eq found, controlled]
  rfl

theorem flipped (clear : balancer.NoShadows) {call : LockCall}
    {rest : List LockCall} (owes : balancer.Owes (call :: rest))
    {older younger : List (CgroupId × LimitedApp)} {key : CgroupId}
    {entry : LimitedApp}
    (split : balancer.allLimits.apps.entries = older ++ (key, entry) :: younger)
    (auto : ControlledAuto entry) (named : entry.publicAppId = call.appId)
    (entries : after.allLimits.apps.entries =
      older ++ (key, lockedEntry key entry call.now) :: younger) :
    after.NoShadows ∧ after.Owes rest := by
  have manual : (lockedEntry key entry call.now).source = .manual := rfl
  constructor
  · rw [noShadows_iff, split, List.pairwise_append, List.pairwise_cons] at clear
    obtain ⟨olders, ⟨_, youngers⟩, across⟩ := clear
    rw [noShadows_iff, entries, List.pairwise_append, List.pairwise_cons]
    refine ⟨olders, ⟨?_, youngers⟩, ?_⟩
    · rintro later - ⟨auto, -⟩
      rw [manual] at auto
      cases auto
    · intro earlier inOlder later member
      rcases List.mem_cons.mp member with rfl | inYounger
      · rintro ⟨-, -, ⟨auto, -⟩, -⟩
        rw [manual] at auto
        cases auto
      · exact across earlier inOlder later (List.mem_cons_of_mem _ inYounger)
  · intro appId
    have paid := owes appId
    rw [split] at paid
    simp only [List.map_cons, List.count_cons, List.countP_append,
      List.countP_cons] at paid
    rw [entries]
    simp only [List.countP_append, List.countP_cons, hasControlledId_locked]
    have owned : hasControlledId appId (key, entry) =
        (call.appId == appId) := by
      rw [Bool.eq_iff_iff, hasControlledId_iff, beq_iff_eq, named]
      exact and_iff_left auto
    rw [owned] at paid
    simp only [Bool.false_eq_true, if_false]
    omega

/-- A batch that owes exactly the controlled auto entries, none of them
shadowed, takes exactly these over. -/
theorem lockedAll_of_noShadows (calls : List LockCall) :
    ∀ balancer : Balancer, balancer.NoShadows → balancer.Owes calls →
      LockedAll balancer (Runs.run lockStep balancer calls) ∧
      ∀ entry : LimitedApp, entry.isControlled = true →
        balancer.ManualExempt entry →
        (Runs.run lockStep balancer calls).ManualExempt entry := by
  induction calls with
  | nil =>
    intro balancer _ owes
    refine ⟨⟨rfl, ?_, fun _ _ stored _ => stored⟩, fun _ _ exempt => exempt⟩
    intro key old stored auto
    have none := owes old.publicAppId
    rw [List.map_nil, List.count_nil, eq_comm, List.countP_eq_zero] at none
    have member := (OrderedDict.get?_eq_some_iff _ _ _).mp stored
    exact absurd (hasControlledId_iff.mpr ⟨rfl, auto⟩) (none _ member)
  | cons call rest ih =>
    intro balancer clear owes
    obtain ⟨older, key, entry, younger, split, auto, named, stepEq⟩ :=
      lockStep_of_noShadows clear owes
    have entries := handOver_entries split call.now
    obtain ⟨stillClear, stillOwes⟩ :=
      flipped clear owes split auto named entries
    have stored : balancer.allLimits.apps.get? key = some entry := by
      rw [OrderedDict.get?_eq_some_iff, split]
      exact List.mem_append_right _ List.mem_cons_self
    have lookup : Stores balancer
        (balancer.handOver key { entry with isControlled := true } call.now)
        key (handedOver key { entry with isControlled := true } call.now) :=
      stores_handOver key _ call.now
    rw [Runs.run_cons, stepEq]
    obtain ⟨whole, exempts⟩ := ih _ stillClear stillOwes
    refine ⟨⟨whole.kernel.trans (handOver_kernel ..), ?_, ?_⟩, ?_⟩
    · intro other old storedOld autoOld
      by_cases same : other = key
      · subst same
        obtain rfl : old = entry :=
          Option.some.inj (storedOld.symm.trans stored)
        have flippedStored := whole.others other
          (lockedEntry other old call.now) ((lookup other).trans (if_pos rfl))
          (fun controlled => by cases controlled.1)
        exact ⟨_, flippedStored, rfl, rfl, rfl, rfl, rfl,
          exempts _ rfl (manualExempt_lockedEntry ..)⟩
      · exact whole.controlled other old
          (((lookup other).trans (if_neg same)).trans storedOld) autoOld
    · intro other old storedOld otherwise
      have different : other ≠ key := by
        rintro rfl
        rw [storedOld] at stored
        exact otherwise (Option.some.inj stored ▸ auto)
      exact whole.others other old
        (((lookup other).trans (if_neg different)).trans storedOld) otherwise
    · intro kept controlled exempt
      exact exempts kept controlled (exempt.handOver controlled _ _ _)

/-- No id is called more often than auto entries have it. -/
def WithinIds (balancer : Balancer) (calls : List LockCall) : Prop :=
  ∀ appId, (calls.map (·.appId)).count appId ≤
    balancer.allLimits.apps.entries.countP (hasAutoId appId)

/-- While the later entry of a pair with one public id is taken over, the
earlier one is, too. -/
def TakenInOrder (elder junior : CgroupId)
    (earlier later : CgroupId × LimitedApp) : Prop :=
  earlier.1 = elder → later.1 = junior →
    earlier.2.publicAppId = later.2.publicAppId ∧
      (later.2.source = .manual → earlier.2.source = .manual)

theorem lockStep_within {call : LockCall} {rest : List LockCall}
    (within : balancer.WithinIds (call :: rest)) {elder junior : CgroupId}
    (inOrder : balancer.allLimits.apps.entries.Pairwise
      (TakenInOrder elder junior)) :
    (balancer.lockStep call).WithinIds rest ∧
      (balancer.lockStep call).allLimits.apps.keys =
        balancer.allLimits.apps.keys ∧
      (balancer.lockStep call).allLimits.apps.entries.Pairwise
        (TakenInOrder elder junior) := by
  have owed : 0 < balancer.allLimits.apps.entries.countP
      (hasAutoId call.appId) := by
    refine lt_of_lt_of_le ?_ (within call.appId)
    simp
  obtain ⟨older, key, entry, younger, split, has, lacking, found⟩ :=
    exists_split_of_owed owed
  have named : entry.publicAppId = call.appId ∧ entry.source = .auto := by
    simpa [hasAutoId] using has
  have entries := handOver_entries split call.now
  rw [lockStep_eq found]
  split
  · refine ⟨?_, ?_, ?_⟩
    · intro appId
      have before := within appId
      rw [split] at before
      rw [entries]
      simp only [List.map_cons, List.count_cons, List.countP_append,
        List.countP_cons, hasAutoId_locked] at before ⊢
      have owned : hasAutoId appId (key, entry) = (call.appId == appId) := by
        rw [Bool.eq_iff_iff, beq_iff_eq, ← named.1]
        simp [hasAutoId, named.2]
      rw [owned] at before
      simp only [Bool.false_eq_true, if_false]
      omega
    · rw [OrderedDict.keys, entries, OrderedDict.keys, split]
      simp
    · rw [split, List.pairwise_append, List.pairwise_cons] at inOrder
      obtain ⟨olders, ⟨heads, youngers⟩, across⟩ := inOrder
      rw [entries, List.pairwise_append, List.pairwise_cons]
      refine ⟨olders, ⟨?_, youngers⟩, ?_⟩
      · intro later inYounger isElder isJunior
        obtain ⟨same, _⟩ := heads later inYounger isElder isJunior
        exact ⟨same, fun _ => rfl⟩
      · intro earlier inOlder later member
        rcases List.mem_cons.mp member with rfl | inYounger
        · intro isElder isJunior
          obtain ⟨same, _⟩ := across earlier inOlder (key, entry)
            List.mem_cons_self isElder isJunior
          refine ⟨same, fun _ => ?_⟩
          have missing := lacking earlier inOlder
          have named' : earlier.2.publicAppId = call.appId :=
            same.trans named.1
          cases source : earlier.2.source with
          | manual => rfl
          | auto => simp [hasAutoId, named', source] at missing
        · exact across earlier inOlder later (List.mem_cons_of_mem _ inYounger)
  · refine ⟨?_, rfl, inOrder⟩
    intro appId
    refine le_trans ?_ (within appId)
    rw [List.map_cons]
    exact List.count_le_count_cons

theorem run_lockStep_within (calls : List LockCall) {elder junior : CgroupId} :
    ∀ balancer : Balancer, balancer.WithinIds calls →
      balancer.allLimits.apps.entries.Pairwise (TakenInOrder elder junior) →
      (Runs.run lockStep balancer calls).allLimits.apps.keys =
        balancer.allLimits.apps.keys ∧
      (Runs.run lockStep balancer calls).allLimits.apps.entries.Pairwise
        (TakenInOrder elder junior) := by
  induction calls with
  | nil => exact fun balancer _ inOrder => ⟨rfl, inOrder⟩
  | cons call rest ih =>
    intro balancer within inOrder
    obtain ⟨still, keys, inOrder⟩ := lockStep_within within inOrder
    obtain ⟨laterKeys, inOrder⟩ := ih _ still inOrder
    exact ⟨laterKeys.trans keys, inOrder⟩

/-- A shadowed entry is not taken over without the one that shadows it. -/
theorem noShadows_of_lockedAll {calls : List LockCall}
    (within : balancer.WithinIds calls)
    (locked : LockedAll balancer (Runs.run lockStep balancer calls)) :
    balancer.NoShadows := by
  rw [noShadows_iff, List.pairwise_iff_forall_sublist]
  rintro ⟨elder, first⟩ ⟨junior, second⟩ pair ⟨auto, free, owned, same⟩
  have firstMember : (elder, first) ∈ balancer.allLimits.apps.entries :=
    pair.subset List.mem_cons_self
  have secondMember : (junior, second) ∈ balancer.allLimits.apps.entries :=
    pair.subset (List.mem_cons_of_mem _ List.mem_cons_self)
  have inOrder : balancer.allLimits.apps.entries.Pairwise
      (TakenInOrder elder junior) := by
    rw [List.pairwise_iff_forall_sublist]
    rintro ⟨_, earlier⟩ ⟨_, later⟩ others rfl rfl
    obtain rfl := OrderedDict.eq_of_mem_entries _ firstMember
      (others.subset List.mem_cons_self)
    obtain rfl := OrderedDict.eq_of_mem_entries _ secondMember
      (others.subset (List.mem_cons_of_mem _ List.mem_cons_self))
    exact ⟨same, fun manual => by rw [owned.1] at manual; cases manual⟩
  obtain ⟨keys, taken⟩ := run_lockStep_within calls balancer within inOrder
  have placed : [elder, junior].Sublist
      (Runs.run lockStep balancer calls).allLimits.apps.keys := by
    rw [keys]
    exact pair.map Prod.fst
  obtain ⟨found, sublist, isPair⟩ := List.sublist_map_iff.mp placed
  obtain ⟨⟨place, firstAfter⟩, tail, rfl, firstKey, rest⟩ :=
    List.map_eq_cons_iff.mp isPair.symm
  obtain rfl : place = elder := firstKey
  obtain ⟨⟨place', secondAfter⟩, none, rfl, secondKey, ended⟩ :=
    List.map_eq_cons_iff.mp rest
  obtain rfl : place' = junior := secondKey
  obtain rfl := List.map_eq_nil_iff.mp ended
  have kept := locked.others _ first
    ((OrderedDict.get?_eq_some_iff _ _ _).mpr firstMember)
    (fun controlled => Bool.false_ne_true (free.symm.trans controlled.2))
  obtain ⟨new, stored, takenOver⟩ := locked.controlled _ second
    ((OrderedDict.get?_eq_some_iff _ _ _).mpr secondMember) owned
  obtain rfl := OrderedDict.eq_of_mem_entries _
    ((OrderedDict.get?_eq_some_iff _ _ _).mp kept)
    (sublist.subset List.mem_cons_self)
  obtain rfl := OrderedDict.eq_of_mem_entries _
    ((OrderedDict.get?_eq_some_iff _ _ _).mp stored)
    (sublist.subset (List.mem_cons_of_mem _ List.mem_cons_self))
  have manual := ((List.pairwise_iff_forall_sublist.mp taken) sublist rfl
    rfl).2 takenOver.source
  rw [auto] at manual
  cases manual

/-- The batch calls with the id of each controlled auto entry once. -/
theorem owes_lockCalls (balancer : Balancer) (currentControlled : Nat → Bool)
    (now : Nat → ℚ) :
    balancer.Owes (balancer.lockCalls currentControlled now) := by
  intro appId
  have ids : (balancer.lockCalls currentControlled now).map (·.appId) =
      balancer.allLimits.controlledAutoIds := by
    rw [lockCalls, List.map_map]
    exact List.zipIdx_map_fst _ _
  rw [ids, LimitRegistry.controlledAutoIds, OrderedDict.values,
    List.filter_map, List.map_map, List.count_eq_countP, List.countP_map,
    List.countP_filter]
  apply List.countP_congr
  intro app _
  simp [hasControlledId, hasAutoId, and_assoc]

theorem Owes.withinIds {calls : List LockCall} (owes : balancer.Owes calls) :
    balancer.WithinIds calls := by
  intro appId
  rw [owes]
  apply List.countP_mono_left
  intro app _ has
  exact (Bool.and_eq_true_iff.mp has).1

theorem lockEach_snd (calls : List LockCall) (balancer : Balancer) :
    (balancer.lockEach calls).2 = Runs.run lockStep balancer calls := by
  have general : ∀ converted balancer, (calls.foldl
      (fun (state : Nat × Balancer) call =>
        let result := state.2.lockToManual call.appId call.currentControlled
          call.now
        (if result.1 then state.1 + 1 else state.1, result.2))
      (converted, balancer)).2 = Runs.run lockStep balancer calls := by
    induction calls with
    | nil => exact fun _ _ => rfl
    | cons call rest ih =>
      intro converted balancer
      exact ih _ _
  exact general 0 balancer

/-- The batch takes exactly the controlled auto entries over, without a write,
exactly when none of them is shadowed. -/
theorem lockAllAutoToManual_iff (balancer : Balancer)
    (currentControlled : Nat → Bool) (now : Nat → ℚ) :
    LockedAll balancer (balancer.lockAllAutoToManual currentControlled now).2 ↔
      balancer.NoShadows := by
  have owes := owes_lockCalls balancer currentControlled now
  rw [lockAllAutoToManual, lockEach_snd]
  constructor
  · exact noShadows_of_lockedAll owes.withinIds
  · exact fun clear => (lockedAll_of_noShadows _ balancer clear owes).1

end Batch

/-- An auto entry of one instance, with or without a database row of its app
when it was limited. -/
def instanceEntry (cgroup : CgroupId) (isControlled : Bool) : LimitedApp where
  publicAppId := "app"
  appName := "App"
  source := .auto
  limitRates := ⟨some (some (3 / 10)), none, none⟩
  limitParts := ⟨true, false⟩
  isControlled := isControlled
  cgroups := [cgroup]
  limitedAt := 1
  protectionId := some ⟨.auto, "app", cgroup, 1⟩

/-- One instance was limited before the app was taken under control, the other
one after. -/
def staleThenControlled : Balancer :=
  initial.withApps ((OrderedDict.empty.set "old.scope"
    (instanceEntry "old.scope" false)).set "new.scope"
      (instanceEntry "new.scope" true))

/-- The only call flips the stale entry and the controlled one stays auto. -/
theorem stale_entry_taken_over_instead :
    ¬ LockedAll staleThenControlled
      (staleThenControlled.lockAllAutoToManual (fun _ => true)
        (fun _ => 2)).2 := by
  intro locked
  obtain ⟨new, stored, takenOver⟩ := locked.controlled "new.scope"
    (instanceEntry "new.scope" true) rfl ⟨rfl, rfl⟩
  have still : (((staleThenControlled.lockAllAutoToManual (fun _ => true)
      (fun _ => 2)).2.allLimits.apps.get? "new.scope").map (·.source)) =
      some .auto := by
    decide
  rw [stored] at still
  simp [takenOver.source] at still

end Balancer

end SmarTune
