import SmarTune.Controller.SwapRuns

/-!
# What a release touches

A release goes through the active managed files, the emptiest first, with a
budget of memory, and then deletes the managed files that are not swapped on.
Everything it did is in its results: the files it switched off, and those it
deleted.
-/

namespace SmarTune

/-! ## Reading the results -/

/-- The memory a file with so many bytes in use needs. -/
def neededBytes (usedBytes : Nat) : Int := pyInt (usedBytes * swapoffHeadroomRatio)

/-- A file is given back, or would be in a dry run. -/
def ReleaseReason.isTaken : ReleaseReason → Bool
  | .released | .dryRun => true
  | _ => false

namespace SwapMachine

/-- The results of the files that are given back. -/
def taken (results : List ReleaseResult) : List ReleaseResult :=
  results.filter fun result => result.reason.isTaken

variable {result : ReleaseResult} {options : ReleaseOptions}
  {machine after : SwapMachine} {device : SwapDevice} {reason : ReleaseReason}

theorem taken_cons_of_kept (kept : result.reason.isTaken = false)
    (rest : List ReleaseResult) :
    taken (result :: rest) = taken rest :=
  List.filter_cons_of_neg (by simp [kept])

theorem taken_cons_of_given (given : result.reason.isTaken = true)
    (rest : List ReleaseResult) :
    taken (result :: rest) = result :: taken rest :=
  List.filter_cons_of_pos given

def switchedOff (results : List ReleaseResult) : List SwapPath :=
  (results.filter fun result => result.reason = .released).map (·.path)

/-- The files that were deleted: the ones switched off and, unless it is a dry
run, the orphans. -/
def deleted (options : ReleaseOptions)
    (results : List ReleaseResult) : List SwapPath :=
  (results.filter fun result => result.reason = .released ||
    (!options.dryRun && decide (result.reason = .orphan))).map (·.path)

/-- `release` on a given `MemAvailable`. -/
def releaseOn (machine : SwapMachine) (config : GrowthConfig) (available : Nat)
    (options : ReleaseOptions)
    (swapoff : SwapDevice → Bool) : List ReleaseResult × SwapMachine :=
  let active := machine.emptiestFirst config
  let result := releaseEach options swapoff active available 0 machine
  let stillActive := if options.dryRun then active
    else result.2.managedDevices config
  let orphaned := result.2.orphans config stillActive
  (result.1 ++ orphaned.map fun name =>
      ⟨⟨config.path, name⟩, 0, true, .orphan⟩,
    if options.dryRun then result.2 else orphaned.foldl discard result.2)

/-- Without a snapshot a release reads the memory itself. -/
theorem release_eq_releaseOn (machine : SwapMachine) (config : GrowthConfig)
    (options : ReleaseOptions) (swapoff : SwapDevice → Bool) :
    machine.release config options swapoff =
      machine.releaseOn config machine.memAvailable options swapoff :=
  rfl

/-! ## One round of the loop -/

/-- A file may be given back: the limit is not reached, it is empty where that
is asked for, and memory has room for it. -/
structure MayTake (options : ReleaseOptions) (device : SwapDevice)
    (headroom : Int) (released : Nat) : Prop where
  limited : ∀ limit, options.limit = some limit → released < limit
  unused : options.onlyUnused = true → device.usedBytes = 0
  room : device.needed ≤ headroom

/-- How a file is given back. -/
inductive Takes (options : ReleaseOptions) (machine : SwapMachine)
    (device : SwapDevice) : ReleaseReason → SwapMachine → Prop
  | dryRun (dry : options.dryRun = true) :
      Takes options machine device .dryRun machine
  | released (real : options.dryRun = false) :
      Takes options machine device .released (machine.switchOff device)

theorem Takes.isTaken (takes : Takes options machine device reason after) :
    reason.isTaken = true := by
  cases takes <;> rfl

theorem Takes.ne_orphan (takes : Takes options machine device reason after) :
    reason ≠ .orphan := by
  rintro rfl
  cases takes

/-- A round of the loop keeps the file or gives it back. -/
theorem releaseEach_cons (options : ReleaseOptions)
    (swapoff : SwapDevice → Bool) (device : SwapDevice) (rest : List SwapDevice)
    (headroom : Int) (released : Nat) (machine : SwapMachine) :
    (∃ reason, reason.isTaken = false ∧ reason ≠ .orphan ∧
      releaseEach options swapoff (device :: rest) headroom released machine =
        (⟨device.path, device.usedBytes, false, reason⟩ ::
          (releaseEach options swapoff rest headroom released machine).1,
        (releaseEach options swapoff rest headroom released machine).2)) ∨
    (∃ reason after, MayTake options device headroom released ∧
      Takes options machine device reason after ∧
      releaseEach options swapoff (device :: rest) headroom released machine =
        (⟨device.path, device.usedBytes, true, reason⟩ ::
          (releaseEach options swapoff rest (headroom - device.needed)
            (released + 1) after).1,
        (releaseEach options swapoff rest (headroom - device.needed)
          (released + 1) after).2)) := by
  rw [releaseEach]
  simp only
  split
  · exact Or.inl ⟨.deferred, rfl, by decide, rfl⟩
  next below =>
  split
  · exact Or.inl ⟨.inUse, rfl, by decide, rfl⟩
  next empty =>
  split
  · exact Or.inl ⟨.unsafe_, rfl, by decide, rfl⟩
  next room =>
  have may : MayTake options device headroom released :=
    { limited := by
        intro limit same
        rw [same] at below
        simpa using below
      unused := by
        intro only
        rw [only] at empty
        simpa using empty
      room := not_lt.mp room }
  split
  · next dry => exact Or.inr ⟨.dryRun, machine, may, .dryRun dry, rfl⟩
  next real =>
  split
  · exact Or.inr ⟨.released, _, may, .released (by simpa using real), rfl⟩
  · exact Or.inl ⟨.swapoffFailed, rfl, by decide, rfl⟩

/-! ## The loop -/

section
variable
  (options : ReleaseOptions)
  (swapoff : SwapDevice → Bool)
  (devices : List SwapDevice)
  (headroom : Int)
  (released : Nat)
  (machine : SwapMachine)

/-- The loop reports its files in their order. -/
theorem releaseEach_reports :
    ((releaseEach options swapoff devices headroom released machine).1.map
      fun result => (result.path, result.bytes)) =
      devices.map fun device => (device.path, device.usedBytes) := by
  induction devices generalizing headroom released machine with
  | nil => rfl
  | cons device rest hypothesis =>
    rcases releaseEach_cons options swapoff device rest headroom released
      machine with ⟨reason, _, _, same⟩ | ⟨reason, after, _, _, same⟩
    · rw [same, List.map_cons, List.map_cons, hypothesis]
    · rw [same, List.map_cons, List.map_cons, hypothesis]

/-- The loop sweeps no orphans. -/
theorem releaseEach_ne_orphan :
    ∀ result ∈
      (releaseEach options swapoff devices headroom released machine).1,
      result.reason ≠ .orphan := by
  induction devices generalizing headroom released machine with
  | nil => simp [releaseEach]
  | cons device rest hypothesis =>
    intro result member
    rcases releaseEach_cons options swapoff device rest headroom released
      machine with ⟨reason, _, other, same⟩ | ⟨reason, after, _, takes, same⟩
    · rw [same] at member
      rcases List.mem_cons.mp member with rfl | later
      · exact other
      · exact hypothesis _ _ _ result later
    · rw [same] at member
      rcases List.mem_cons.mp member with rfl | later
      · exact takes.ne_orphan
      · exact hypothesis _ _ _ result later

/-- No more files are given back than the limit leaves. -/
theorem releaseEach_limited {limit : Nat} (limited : options.limit = some limit)
    (within : released ≤ limit) :
    released + (taken (releaseEach options swapoff devices headroom released
        machine).1).length ≤ limit := by
  induction devices generalizing headroom released machine with
  | nil => simpa [releaseEach, taken] using within
  | cons device rest hypothesis =>
    rcases releaseEach_cons options swapoff device rest headroom released
      machine with ⟨reason, kept, _, same⟩ | ⟨reason, after, may, takes, same⟩
    · rw [same, taken_cons_of_kept kept]
      exact hypothesis _ _ _ within
    · rw [same, taken_cons_of_given takes.isTaken, List.length_cons]
      have others := hypothesis (headroom - device.needed) (released + 1)
        after (may.limited limit limited)
      omega

/-- Where only unused files are asked for, those given back are empty. -/
theorem releaseEach_unused (only : options.onlyUnused = true) :
    ∀ result ∈ taken
      (releaseEach options swapoff devices headroom released machine).1,
      result.bytes = 0 := by
  induction devices generalizing headroom released machine with
  | nil => simp [releaseEach, taken]
  | cons device rest hypothesis =>
    intro result member
    rcases releaseEach_cons options swapoff device rest headroom released
      machine with ⟨reason, kept, _, same⟩ | ⟨reason, after, may, takes, same⟩
    · rw [same, taken_cons_of_kept kept] at member
      exact hypothesis _ _ _ result member
    · rw [same, taken_cons_of_given takes.isTaken] at member
      rcases List.mem_cons.mp member with rfl | later
      · exact may.unused only
      · exact hypothesis _ _ _ result later

/-- The files given back fit the budget together. -/
theorem releaseEach_covered (nonneg : 0 ≤ headroom) :
    ((taken (releaseEach options swapoff devices headroom released
      machine).1).map fun result => neededBytes result.bytes).sum ≤
      headroom := by
  induction devices generalizing headroom released machine with
  | nil => simpa [releaseEach, taken] using nonneg
  | cons device rest hypothesis =>
    rcases releaseEach_cons options swapoff device rest headroom released
      machine with ⟨reason, kept, _, same⟩ | ⟨reason, after, may, takes, same⟩
    · rw [same, taken_cons_of_kept kept]
      exact hypothesis _ _ _ nonneg
    · rw [same, taken_cons_of_given takes.isTaken, List.map_cons, List.sum_cons]
      have room := may.room
      have others := hypothesis (headroom - device.needed) (released + 1)
        after (by omega)
      have own : neededBytes device.usedBytes = device.needed := rfl
      simp only
      omega

end

/-! ## The machine afterwards -/

theorem switchedOff_cons (result : ReleaseResult) (rest : List ReleaseResult) :
    switchedOff (result :: rest) =
      if result.reason = .released then result.path :: switchedOff rest
      else switchedOff rest := by
  rw [switchedOff, List.filter_cons]
  split
  · next released =>
    rw [if_pos (of_decide_eq_true released)]
    rfl
  · next other =>
    rw [if_neg (by simpa using other)]
    rfl

theorem filter_filter_notMem {Item Key : Type} [DecidableEq Key]
    (key : Item → Key) {keep : Item → Bool} {first : Key}
    (same : ∀ item, keep item = true ↔ key item ≠ first) (rest : List Key)
    (items : List Item) :
    (items.filter keep).filter (fun item => key item ∉ rest) =
      items.filter fun item => key item ∉ first :: rest := by
  rw [List.filter_filter]
  apply List.filter_congr
  intro item _
  rw [Bool.eq_iff_iff]
  simp only [Bool.and_eq_true, decide_eq_true_eq, same, List.mem_cons, not_or]
  exact and_comm

theorem releaseEach_machine {directory : String} {devices : List SwapDevice}
    (inside : ∀ device ∈ devices, device.path.directory = directory)
    (options : ReleaseOptions) (swapoff : SwapDevice → Bool) (headroom : Int)
    (released : Nat) (machine : SwapMachine) :
    let result := releaseEach options swapoff devices headroom released machine
    result.2.devices = machine.devices.filter
        (fun device => device.path ∉ switchedOff result.1) ∧
      result.2.files = machine.files.filter
        (fun name => ⟨directory, name⟩ ∉ switchedOff result.1) := by
  induction devices generalizing headroom released machine with
  | nil => simp [releaseEach, switchedOff]
  | cons device rest hypothesis =>
    have others := fun headroom released machine =>
      hypothesis (fun other member =>
        inside other (List.mem_cons_of_mem _ member))
        headroom released machine
    rcases releaseEach_cons options swapoff device rest headroom released
      machine with ⟨reason, kept, _, same⟩ | ⟨reason, after, _, takes, same⟩
    · have stays : reason ≠ .released := by
        rintro rfl
        cases kept
      simp only [same, switchedOff_cons, if_neg stays]
      exact others headroom released machine
    · cases takes with
      | dryRun =>
        simp only [same, switchedOff_cons, reduceCtorEq, if_false]
        exact others _ _ machine
      | released =>
        simp only [same, switchedOff_cons, if_true]
        obtain ⟨devicesLeft, filesLeft⟩ := others
          (headroom - device.needed) (released + 1)
          (machine.switchOff device)
        have here := inside device List.mem_cons_self
        rw [devicesLeft, filesLeft]
        constructor
        · exact filter_filter_notMem _ (fun _ => decide_eq_true_iff) _ _
        · apply filter_filter_notMem (SwapPath.mk directory)
          intro name
          rw [decide_eq_true_iff, not_iff_not]
          constructor
          · rintro rfl
            rw [← here]
          · intro samePath
            rw [← samePath]

theorem foldl_discard (names : List String) (machine : SwapMachine) :
    (names.foldl discard machine).devices = machine.devices ∧
      (names.foldl discard machine).files =
        machine.files.filter (· ∉ names) := by
  induction names generalizing machine with
  | nil => simp
  | cons name rest hypothesis =>
    obtain ⟨devices, files⟩ := hypothesis (machine.discard name)
    rw [List.foldl_cons, devices, files]
    exact ⟨rfl, filter_filter_notMem id (fun _ => decide_eq_true_iff) _ _⟩

/-! ## Safety -/

/-- A release with its results is safe: it only goes through managed files,
takes nothing else from the machine than what its results say, deletes no active
file, and keeps to the limit, the order and the memory at hand. -/
structure ReleasedSafely (machine : SwapMachine) (config : GrowthConfig)
    (available : Nat) (options : ReleaseOptions) (results : List ReleaseResult)
    (after : SwapMachine) : Prop where
  managed : ∀ result ∈ results, result.path.directory = config.path ∧
    (managedIndex result.path.name).isSome = true
  devices : after.devices = machine.devices.filter fun device =>
    device.path ∉ switchedOff results
  files : after.files = machine.files.filter fun name =>
    ⟨config.path, name⟩ ∉ deleted options results
  inactive : ∀ path ∈ deleted options results, ∀ device ∈ after.devices,
    device.path ≠ path
  limited : ∀ limit, options.limit = some limit → (taken results).length ≤ limit
  unused : options.onlyUnused = true →
    ∀ result ∈ taken results, result.bytes = 0
  ordered : ((results.filter fun result => result.reason ≠ .orphan).map
    (·.bytes)).Pairwise (· ≤ ·)
  covered : ((taken results).map fun result => neededBytes result.bytes).sum ≤
    available

/-! ### The parts of the results -/

section
variable
  {results : List ReleaseResult}
  {directory : String}

def sweeps (directory : String) (names : List String) : List ReleaseResult :=
  names.map fun name => ⟨⟨directory, name⟩, 0, true, .orphan⟩

theorem taken_append_sweeps (names : List String) :
    taken (results ++ sweeps directory names) = taken results := by
  have none_ : taken (sweeps directory names) = [] := by
    rw [taken, List.filter_eq_nil_iff]
    intro result member
    obtain ⟨name, _, rfl⟩ := List.mem_map.mp member
    simp [ReleaseReason.isTaken]
  rw [taken, List.filter_append, ← taken, ← taken, none_, List.append_nil]

theorem switchedOff_append_sweeps (names : List String) :
    switchedOff (results ++ sweeps directory names) = switchedOff results := by
  have none_ : (sweeps directory names).filter
      (fun result => result.reason = .released) = [] := by
    rw [List.filter_eq_nil_iff]
    intro result member
    obtain ⟨name, _, rfl⟩ := List.mem_map.mp member
    simp
  rw [switchedOff, List.filter_append, none_, List.append_nil, switchedOff]

theorem filter_append_sweeps
    (active : ∀ result ∈ results, result.reason ≠ .orphan)
    (names : List String) :
    (results ++ sweeps directory names).filter
      (fun result => result.reason ≠ .orphan) = results := by
  have none_ : (sweeps directory names).filter
      (fun result => result.reason ≠ .orphan) = [] := by
    rw [List.filter_eq_nil_iff]
    intro result member
    obtain ⟨name, _, rfl⟩ := List.mem_map.mp member
    simp
  rw [List.filter_append, none_, List.append_nil, List.filter_eq_self]
  intro result member
  exact decide_eq_true (active result member)

theorem mem_deleted_append_sweeps_iff
    (active : ∀ result ∈ results, result.reason ≠ .orphan)
    (options : ReleaseOptions) (names : List String) (path : SwapPath) :
    path ∈ deleted options (results ++ sweeps directory names) ↔
      path ∈ switchedOff results ∨
        options.dryRun = false ∧ ∃ name ∈ names, ⟨directory, name⟩ = path := by
  have front : results.filter (fun result => result.reason = .released ||
      (!options.dryRun && decide (result.reason = .orphan))) =
      results.filter fun result => result.reason = .released := by
    apply List.filter_congr
    intro result member
    simp [active result member]
  rw [deleted, List.filter_append, front, List.map_append, List.mem_append,
    ← switchedOff]
  apply or_congr_right
  cases options.dryRun <;> simp [sweeps]

end

/-! ### The release -/

section
variable
  (machine : SwapMachine)
  (config : GrowthConfig)
  (available : Nat)
  (options : ReleaseOptions)
  (swapoff : SwapDevice → Bool)

/-- The loop of a release over the active files. -/
def releaseLoop : List ReleaseResult × SwapMachine :=
  releaseEach options swapoff (machine.emptiestFirst config) available 0 machine

def releaseOrphans : List String :=
  (machine.releaseLoop config available options swapoff).2.orphans config
    (if options.dryRun then machine.emptiestFirst config
      else (machine.releaseLoop config available options swapoff).2.managedDevices
        config)

/-- The loop of a release goes through the active files in their order. -/
theorem releaseLoop_reports :
    ((machine.releaseLoop config available options swapoff).1.map
      fun result => (result.path, result.bytes)) =
      (machine.emptiestFirst config).map fun device =>
        (device.path, device.usedBytes) :=
  releaseEach_reports options swapoff _ _ _ _

theorem releaseLoop_ne_orphan :
    ∀ result ∈ (machine.releaseLoop config available options swapoff).1,
      result.reason ≠ .orphan :=
  releaseEach_ne_orphan options swapoff _ _ _ _

theorem releaseOn_results :
    (machine.releaseOn config available options swapoff).1 =
      (machine.releaseLoop config available options swapoff).1 ++
        sweeps config.path
          (machine.releaseOrphans config available options swapoff) :=
  rfl

theorem releaseOn_machine :
    (machine.releaseOn config available options swapoff).2.devices =
        (machine.releaseLoop config available options swapoff).2.devices ∧
      (machine.releaseOn config available options swapoff).2.files =
        (machine.releaseLoop config available options swapoff).2.files.filter
          fun name => options.dryRun || decide (name ∉
              machine.releaseOrphans config available options swapoff) := by
  have after : (machine.releaseOn config available options swapoff).2 =
      if options.dryRun then
        (machine.releaseLoop config available options swapoff).2
      else (machine.releaseOrphans config available options swapoff).foldl
        discard (machine.releaseLoop config available options swapoff).2 := rfl
  rw [after]
  cases options.dryRun with
  | true => simp
  | false => simpa using foldl_discard _ _

/-- The files a release goes through are managed. -/
theorem mem_emptiestFirst {device : SwapDevice}
    (member : device ∈ machine.emptiestFirst config) :
    device.path.directory = config.path ∧
      (managedIndex device.path.name).isSome = true := by
  have managed := (List.mem_insertionSort _).mp member
  simpa [managedDevices] using (List.mem_filter.mp managed).2

theorem releaseLoop_machine :
    (machine.releaseLoop config available options swapoff).2.devices =
        machine.devices.filter (fun device => device.path ∉ switchedOff
          (machine.releaseLoop config available options swapoff).1) ∧
      (machine.releaseLoop config available options swapoff).2.files =
        machine.files.filter (fun name => ⟨config.path, name⟩ ∉ switchedOff
          (machine.releaseLoop config available options swapoff).1) :=
  releaseEach_machine
    (fun _ member => (machine.mem_emptiestFirst config member).1)
    options swapoff available 0 machine

theorem mem_releaseOrphans {name : String}
    (member : name ∈ machine.releaseOrphans config available options swapoff) :
    (managedIndex name).isSome = true ∧ (options.dryRun = false →
        ∀ device ∈ (machine.releaseLoop config available options
          swapoff).2.devices, device.path ≠ ⟨config.path, name⟩) := by
  obtain ⟨onDisk, inactive⟩ := List.mem_filter.mp member
  have managed := (List.mem_filter.mp ((List.mem_insertionSort _).mp onDisk)).2
  refine ⟨managed, fun real device swappedOn same => ?_⟩
  rw [real, if_neg Bool.false_ne_true] at inactive
  refine of_decide_eq_true inactive (List.mem_map.mpr ⟨device, ?_, same⟩)
  rw [managedDevices, List.mem_filter]
  exact ⟨swappedOn, by simp [same, managed]⟩

theorem managed_releaseOn :
    ∀ result ∈ (machine.releaseOn config available options swapoff).1,
      result.path.directory = config.path ∧
        (managedIndex result.path.name).isSome = true := by
  intro result member
  rw [releaseOn_results] at member
  rcases List.mem_append.mp member with loop | sweep
  · have pair : (result.path, result.bytes) ∈
        (machine.emptiestFirst config).map fun device =>
          (device.path, device.usedBytes) := by
      rw [← releaseLoop_reports]
      exact List.mem_map.mpr ⟨result, loop, rfl⟩
    obtain ⟨device, listed, same⟩ := List.mem_map.mp pair
    have path : device.path = result.path := congrArg Prod.fst same
    rw [← path]
    exact machine.mem_emptiestFirst config listed
  · obtain ⟨name, orphan, rfl⟩ := List.mem_map.mp sweep
    exact ⟨rfl, (machine.mem_releaseOrphans config available options swapoff
      orphan).1⟩

theorem files_releaseOn :
    (machine.releaseOn config available options swapoff).2.files =
      machine.files.filter fun name => ⟨config.path, name⟩ ∉ deleted options
        (machine.releaseOn config available options swapoff).1 := by
  have active := machine.releaseLoop_ne_orphan config available options swapoff
  have ⟨_, files⟩ := machine.releaseLoop_machine config available options swapoff
  have ⟨_, after⟩ := machine.releaseOn_machine config available options swapoff
  rw [after, files, releaseOn_results, List.filter_filter]
  apply List.filter_congr
  intro name _
  rw [Bool.eq_iff_iff]
  simp only [Bool.and_eq_true, Bool.or_eq_true, decide_eq_true_eq,
    mem_deleted_append_sweeps_iff active, SwapPath.mk.injEq, true_and,
    exists_eq_right, not_or, not_and]
  rw [and_comm, or_iff_not_imp_left, Bool.not_eq_true]

/-- No file that is deleted is still swapped on. -/
theorem inactive_releaseOn :
    ∀ path ∈ deleted options
        (machine.releaseOn config available options swapoff).1,
      ∀ device ∈ (machine.releaseOn config available options swapoff).2.devices,
        device.path ≠ path := by
  intro path gone device swappedOn
  have active := machine.releaseLoop_ne_orphan config available options swapoff
  have ⟨devices, _⟩ :=
    machine.releaseLoop_machine config available options swapoff
  have ⟨after, _⟩ := machine.releaseOn_machine config available options swapoff
  rw [after] at swappedOn
  rw [releaseOn_results] at gone
  rcases (mem_deleted_append_sweeps_iff active _ _ _).mp gone with
    off | ⟨real, name, orphan, rfl⟩
  · rw [devices] at swappedOn
    have stays := of_decide_eq_true (List.mem_filter.mp swappedOn).2
    rintro rfl
    exact stays off
  · exact (machine.mem_releaseOrphans config available options swapoff
      orphan).2 real device swappedOn

theorem pairwise_emptiestFirst :
    ((machine.emptiestFirst config).map (·.usedBytes)).Pairwise (· ≤ ·) := by
  have total : Std.Total fun first second : SwapDevice =>
      first.usedBytes ≤ second.usedBytes :=
    ⟨fun _ _ => Nat.le_total _ _⟩
  have transitive : IsTrans SwapDevice fun first second =>
      first.usedBytes ≤ second.usedBytes :=
    ⟨fun _ _ _ => Nat.le_trans⟩
  rw [List.pairwise_map]
  exact List.pairwise_insertionSort _ _

/-- The active files are gone through in the order of their use. -/
theorem ordered_releaseOn :
    (((machine.releaseOn config available options swapoff).1.filter
      fun result => result.reason ≠ .orphan).map (·.bytes)).Pairwise
        (· ≤ ·) := by
  have bytes : (machine.releaseLoop config available options swapoff).1.map
      (·.bytes) = (machine.emptiestFirst config).map (·.usedBytes) := by
    have seconds := congrArg (List.map Prod.snd)
      (machine.releaseLoop_reports config available options swapoff)
    rw [List.map_map, List.map_map] at seconds
    exact seconds
  rw [releaseOn_results, filter_append_sweeps
    (machine.releaseLoop_ne_orphan config available options swapoff), bytes]
  exact machine.pairwise_emptiestFirst config

end

/-- Whatever the machine holds, the options ask for and `swapoff` answers, a
release is safe. -/
theorem release_safe (machine : SwapMachine) (config : GrowthConfig)
    (available : Nat) (options : ReleaseOptions) (swapoff : SwapDevice → Bool) :
    machine.ReleasedSafely config available options
      (machine.releaseOn config available options swapoff).1
      (machine.releaseOn config available options swapoff).2 where
  managed := machine.managed_releaseOn config available options swapoff
  devices := by
    rw [releaseOn_results, switchedOff_append_sweeps,
      (machine.releaseOn_machine config available options swapoff).1]
    exact (machine.releaseLoop_machine config available options swapoff).1
  files := machine.files_releaseOn config available options swapoff
  inactive := machine.inactive_releaseOn config available options swapoff
  limited := by
    intro limit limited
    rw [releaseOn_results, taken_append_sweeps]
    have counted := releaseEach_limited options swapoff
      (machine.emptiestFirst config) available 0 machine limited
      (Nat.zero_le _)
    rwa [Nat.zero_add] at counted
  unused := by
    intro only
    rw [releaseOn_results, taken_append_sweeps]
    exact releaseEach_unused options swapoff _ _ _ _ only
  ordered := machine.ordered_releaseOn config available options swapoff
  covered := by
    rw [releaseOn_results, taken_append_sweeps]
    exact releaseEach_covered options swapoff _ _ _ _ (Int.natCast_nonneg _)

end SwapMachine

end SmarTune
