import SmarTune.Controller.Swap

/-!
# Reclaim in chunks

A reclaim asks the kernel for one chunk after the other and stops at the first
that fails.  A manual limit is reclaimed in one such round, and in a second one
if the first ran out of swap and swap could be grown.  Beside its outcome a
round keeps the chunks it asked for.

What is missing to a share of the whole memory opens the gate, memory pressure
sets the share of a candidate's usage that one round may ask for, and a
candidate that is busy or holds mostly page cache is left alone.
-/

namespace SmarTune

/-- `reclaim_config`: the user's values over `RECLAIM_DEFAULTS`. -/
structure ReclaimConfig where
  enabled : Bool := false
  targetMemPct : ℚ := 80
  psiFullScale : ℚ := 1 / 10
  gainMin : ℚ := 1 / 100
  gainMax : ℚ := 1 / 20
  swappiness : Option Int := some 180
  chunkMb : ℚ := 200
  idleCpuThreshold : ℚ := 1 / 20
  maxFileCacheFraction : ℚ := 1 / 2
  cooldownSec : ℚ := 30

namespace ReclaimConfig

variable (config : ReclaimConfig)

/-- `system_memory_deficit`: the bytes to free, and the anonymous memory that
could still move to swap. -/
def systemMemoryDeficit (swap : SwapController) (growth : GrowthConfig)
    (now : ℚ) (snapshot : MemorySnapshot) : Int × Nat :=
  let snapshot := swap.worstRecent growth now snapshot
  let target := pyInt (snapshot.memTotal * config.targetMemPct / 100)
  (max 0 (snapshot.usedEffective - target), snapshot.movableAnon)

/-- `reclaim_gain`: interpolated on the memory pressure. -/
def reclaimGain (psiMemory : ℚ) : ℚ :=
  let scale := if config.psiFullScale = 0 then 1 else config.psiFullScale
  let ratio := max 0 (min 1 (psiMemory / scale))
  config.gainMin + (config.gainMax - config.gainMin) * ratio

end ReclaimConfig

/-! ## One cgroup -/

/-- The two lines of `memory.stat` in use. -/
structure MemoryStat where
  anon : Int := 0
  file : Int := 0

/-- `file_cache_fraction`. -/
def MemoryStat.fileCacheFraction (stat : MemoryStat) : ℚ :=
  if stat.anon + stat.file ≤ 0 then 0
  else stat.file / (stat.anon + stat.file : Int)

/-- What the files of one cgroup read during a round. -/
structure CgroupReadings where
  exists_ : Bool
  cpuUsec : Option Int
  /-- The first of two reads; `none` when unreadable or empty. -/
  cacheStat : Option MemoryStat
  /-- The second read. -/
  anonStat : Option MemoryStat
  memoryCurrent : Option Int

namespace CgroupReadings

variable (readings : CgroupReadings)

/-- `cpu_busy_fraction`: the cores used since the last sample, and the counter
to keep. -/
def cpuBusyFraction (prevCpuUsec : Option Int)
    (elapsedSec : ℚ) : Option ℚ × Option Int :=
  match readings.cpuUsec with
  | none => (none, none)
  | some now =>
    match prevCpuUsec with
    | none => (none, some now)
    | some prev =>
      if elapsedSec ≤ 0 || decide (now < prev) then (none, some now)
      else (some ((now - prev : Int) / (elapsedSec * 1000000)), some now)

/-- `reclaimable_anon`. -/
def reclaimableAnon : Int := max 0 ((readings.anonStat.getD {}).anon)

/-- `should_reclaim`. -/
def shouldReclaim (config : ReclaimConfig) (busyFraction : Option ℚ) : Bool :=
  match busyFraction, readings.cacheStat with
  | some busy, some stat =>
    config.enabled && readings.exists_ &&
      decide (busy ≤ config.idleCpuThreshold) &&
      decide (stat.fileCacheFraction ≤ config.maxFileCacheFraction) &&
      decide (0 < readings.reclaimableAnon)
  | _, _ => false

end CgroupReadings

/-! ## One request -/

/-- `ReclaimOutcome`. -/
structure ReclaimOutcome where
  ok : Bool
  errno : Option Int := none
  requestedBytes : Int := 0
  reclaimedBytes : Int := 0
  elapsedMs : ℚ := 0
  swappiness : Option Int := none
  reason : String := ""
  deriving DecidableEq

/-- `EAGAIN`. -/
def eagain : Int := 11

/-- `EINVAL`. -/
def einval : Int := 22

/-- `is_eagain`. -/
def ReclaimOutcome.isEagain (outcome : ReclaimOutcome) : Bool :=
  outcome.errno = some eagain

/-- What one request finds. -/
structure RequestReadings where
  /-- The cgroup is there before the request. -/
  exists_ : Bool
  supportsSwappiness : Bool
  before : Option Int
  /-- The error of the write, and its text. -/
  refused : Option (Int × String)
  elapsedMs : ℚ
  after : Option Int

namespace RequestReadings

variable (readings : RequestReadings)

/-- The bytes that left the cgroup over the write. -/
def freed : Int :=
  match readings.before, readings.after with
  | some before, some after => max 0 (before - after)
  | _, _ => 0

/-- `MemoryController.reclaim`. -/
def reclaim (nbytes : Int) (swappiness : Option Int) : ReclaimOutcome :=
  if nbytes ≤ 0 then { ok := true, reason := "nothing requested" }
  else if swappiness.any fun value => value < 0 || 200 < value then
    { ok := false
      errno := some einval
      requestedBytes := nbytes
      swappiness := swappiness
      reason := "swappiness must be 0..200" }
  else if swappiness.isSome && !readings.supportsSwappiness then
    { ok := false
      errno := some einval
      requestedBytes := nbytes
      swappiness := swappiness
      reason := "kernel lacks swappiness= support" }
  else
    match readings.refused with
    | none =>
      { ok := true
        requestedBytes := nbytes
        reclaimedBytes := readings.freed
        elapsedMs := readings.elapsedMs
        swappiness := swappiness }
    | some (errno, text) =>
      { ok := false
        errno := some errno
        requestedBytes := nbytes
        reclaimedBytes := readings.freed
        elapsedMs := readings.elapsedMs
        swappiness := swappiness
        reason := text }

end RequestReadings

/-! ## One round -/

/-- What the requests of a round meet, by their number: whether the cgroup is
there, and the outcome of asking for so many bytes. -/
structure ReclaimWorld where
  exists_ : Nat → Bool
  reclaim : Nat → Int → Option Int → ReclaimOutcome

/-- The requests go to the kernel. -/
def ReclaimWorld.ofReadings (readings : Nat → RequestReadings) :
    ReclaimWorld where
  exists_ number := (readings number).exists_
  reclaim number := (readings number).reclaim

/-- The variables of the loop of `reclaim_memory`, and the chunks asked for. -/
structure ReclaimProgress where
  remaining : Int
  totalFreed : Int := 0
  totalMs : ℚ := 0
  last : ReclaimOutcome
  issued : List (Int × ReclaimOutcome) := []

namespace ReclaimProgress

variable (progress : ReclaimProgress)

def ask (chunk : Int) (outcome : ReclaimOutcome) : ReclaimProgress :=
  { progress with
    totalFreed := progress.totalFreed + outcome.reclaimedBytes
    totalMs := progress.totalMs + outcome.elapsedMs
    last := outcome
    issued := progress.issued ++ [(chunk, outcome)] }

/-- `remaining -= chunk`. -/
def takeOff (chunk : Int) : ReclaimProgress :=
  { progress with remaining := progress.remaining - chunk }

/-- The cgroup is gone. -/
def gone (nbytes : Int) (swappiness : Option Int) : ReclaimProgress :=
  { progress with
    last :=
      { ok := false
        requestedBytes := nbytes
        reclaimedBytes := progress.totalFreed
        elapsedMs := progress.totalMs
        swappiness := swappiness
        reason := "cgroup gone mid-reclaim" } }

/-- What `reclaim_memory` returns. -/
def outcome (nbytes : Int) (swappiness : Option Int) : ReclaimOutcome :=
  { ok := progress.last.ok
    errno := progress.last.errno
    requestedBytes := nbytes
    reclaimedBytes := progress.totalFreed
    elapsedMs := progress.totalMs
    swappiness := swappiness
    reason := progress.last.reason }

end ReclaimProgress

/-- The loop of `reclaim_memory`; `none` when the fuel does not suffice. -/
def reclaimLoop (world : ReclaimWorld) (nbytes chunkBytes : Int)
    (swappiness : Option Int) :
    Nat → ReclaimProgress → Option ReclaimProgress
  | fuel, progress =>
    if progress.remaining ≤ 0 then some progress
    else
      match fuel with
      | 0 => none
      | fuel + 1 =>
        if !world.exists_ progress.issued.length then
          some (progress.gone nbytes swappiness)
        else
          let chunk := min chunkBytes progress.remaining
          let asked := progress.ask chunk
            (world.reclaim progress.issued.length chunk swappiness)
          if !asked.last.ok then some asked
          else
            reclaimLoop world nbytes chunkBytes swappiness fuel
              (asked.takeOff chunk)

/-- A round: the bytes it is for, the chunks it asked for with their outcomes,
and its own outcome. -/
structure ReclaimedRound where
  nbytes : Int
  issued : List (Int × ReclaimOutcome)
  outcome : ReclaimOutcome

/-- The chunk size of the configuration. -/
def ReclaimConfig.chunkBytes (config : ReclaimConfig) : Int :=
  max 1 (pyInt config.chunkMb) * 1024 * 1024

/-- `reclaim_memory`. -/
def reclaimMemory (config : ReclaimConfig) (world : ReclaimWorld) (nbytes : Int)
    (swappiness chunkBytes : Option Int) (fuel : Nat) : Option ReclaimedRound :=
  let swappiness := swappiness.or config.swappiness
  let start : ReclaimProgress :=
    { remaining := max 0 nbytes
      last :=
        { ok := true
          swappiness := swappiness
          reason := "nothing requested" } }
  (reclaimLoop world nbytes (chunkBytes.getD config.chunkBytes) swappiness fuel
    start).map fun progress =>
      ⟨nbytes, progress.issued, progress.outcome nbytes swappiness⟩

/-! ## What a round asks for -/

/-- The bytes of the chunks. -/
def askedBytes (issued : List (Int × ReclaimOutcome)) : Int :=
  (issued.map Prod.fst).sum

@[simp] theorem askedBytes_append (first second : List (Int × ReclaimOutcome)) :
    askedBytes (first ++ second) = askedBytes first + askedBytes second := by
  simp [askedBytes]

/-- The chunks that did not fail. -/
def succeeded (issued : List (Int × ReclaimOutcome)) :
    List (Int × ReclaimOutcome) :=
  issued.filter fun chunk => chunk.2.ok

/-- A round asks for no more than it is for, in chunks up to a size, stops at
the first chunk that fails, is all right exactly when the chunks that did not
fail make up what it is for, and adds up what its chunks report. -/
structure ReclaimedRound.InChunks (chunkBytes : Int)
    (round : ReclaimedRound) : Prop where
  sizes : ∀ chunk ∈ round.issued, 0 < chunk.1 ∧ chunk.1 ≤ chunkBytes
  within : askedBytes round.issued ≤ max 0 round.nbytes
  whole : round.outcome.ok = true → askedBytes round.issued = max 0 round.nbytes
  completed : round.outcome.ok = true ↔
    askedBytes (succeeded round.issued) = max 0 round.nbytes
  stops : ∀ chunk ∈ round.issued.dropLast, chunk.2.ok = true
  reclaimed : round.outcome.reclaimedBytes =
    (round.issued.map fun chunk => chunk.2.reclaimedBytes).sum
  elapsed : round.outcome.elapsedMs =
    (round.issued.map fun chunk => chunk.2.elapsedMs).sum
  requested : round.outcome.requestedBytes = round.nbytes

/-- Between two requests: no chunk has failed, and what they asked for and what
remains make up the whole. -/
structure ReclaimProgress.Tallied (nbytes chunkBytes : Int)
    (progress : ReclaimProgress) : Prop where
  left : 0 ≤ progress.remaining
  split : askedBytes progress.issued + progress.remaining = max 0 nbytes
  sizes : ∀ chunk ∈ progress.issued, 0 < chunk.1 ∧ chunk.1 ≤ chunkBytes
  allOk : ∀ chunk ∈ progress.issued, chunk.2.ok = true
  ok : progress.last.ok = true
  freed : progress.totalFreed =
    (progress.issued.map fun chunk => chunk.2.reclaimedBytes).sum
  elapsed : progress.totalMs =
    (progress.issued.map fun chunk => chunk.2.elapsedMs).sum

namespace ReclaimProgress

variable {nbytes chunkBytes : Int} {swappiness : Option Int}
  {progress : ReclaimProgress}

def round (nbytes : Int) (swappiness : Option Int)
    (progress : ReclaimProgress) : ReclaimedRound :=
  ⟨nbytes, progress.issued, progress.outcome nbytes swappiness⟩

theorem Tallied.succeeded_eq (tallied : progress.Tallied nbytes chunkBytes) :
    succeeded progress.issued = progress.issued :=
  List.filter_eq_self.mpr tallied.allOk

theorem Tallied.done (tallied : progress.Tallied nbytes chunkBytes)
    (none_ : progress.remaining ≤ 0) :
    (progress.round nbytes swappiness).InChunks chunkBytes := by
  have all : askedBytes progress.issued = max 0 nbytes := by
    have split := tallied.split
    have left := tallied.left
    omega
  exact
    { sizes := tallied.sizes
      within := all.le
      whole := fun _ => all
      completed := iff_of_true tallied.ok (tallied.succeeded_eq ▸ all)
      stops := fun chunk member =>
        tallied.allOk chunk (List.mem_of_mem_dropLast member)
      reclaimed := tallied.freed
      elapsed := tallied.elapsed
      requested := rfl }

/-- Something remains and the cgroup is gone: the round stops short. -/
theorem Tallied.gone (tallied : progress.Tallied nbytes chunkBytes)
    (some_ : 0 < progress.remaining) :
    ((progress.gone nbytes swappiness).round nbytes swappiness).InChunks
      chunkBytes := by
  have short : askedBytes progress.issued < max 0 nbytes := by
    have split := tallied.split
    omega
  exact
    { sizes := tallied.sizes
      within := short.le
      whole := fun ok => by cases ok
      completed := iff_of_false Bool.false_ne_true
        (tallied.succeeded_eq.symm ▸ short.ne)
      stops := fun chunk member =>
        tallied.allOk chunk (List.mem_of_mem_dropLast member)
      reclaimed := tallied.freed
      elapsed := tallied.elapsed
      requested := rfl }

variable (outcome : ReclaimOutcome)

theorem Tallied.failed (tallied : progress.Tallied nbytes chunkBytes)
    (positive : 0 < chunkBytes) (some_ : 0 < progress.remaining)
    (failed : outcome.ok = false) :
    ((progress.ask (min chunkBytes progress.remaining) outcome).round nbytes
      swappiness).InChunks chunkBytes := by
  have split := tallied.split
  have short : askedBytes progress.issued < max 0 nbytes := by omega
  have others : succeeded (progress.issued ++
      [(min chunkBytes progress.remaining, outcome)]) = progress.issued := by
    rw [succeeded, List.filter_append, ← succeeded, tallied.succeeded_eq]
    simp [failed]
  exact
    { sizes := by
        intro chunk member
        rcases List.mem_append.mp member with old | new
        · exact tallied.sizes chunk old
        · rw [List.mem_singleton.mp new]
          exact ⟨lt_min positive some_, min_le_left _ _⟩
      within := by
        have least : min chunkBytes progress.remaining ≤ progress.remaining :=
          min_le_right _ _
        simp only [round, ask, askedBytes_append]
        simp only [askedBytes, List.map_cons, List.map_nil, List.sum_cons,
          List.sum_nil] at split ⊢
        omega
      whole := fun ok => absurd ok
        (by simp [round, ask, ReclaimProgress.outcome, failed])
      completed := iff_of_false
        (by simp [round, ask, ReclaimProgress.outcome, failed])
        (by simpa [round, ask, others] using short.ne)
      stops := by
        intro chunk member
        rw [round, ask, List.dropLast_concat] at member
        exact tallied.allOk chunk member
      reclaimed := by
        simp [round, ask, ReclaimProgress.outcome, tallied.freed]
      elapsed := by
        simp [round, ask, ReclaimProgress.outcome, tallied.elapsed]
      requested := rfl }

theorem Tallied.ask (tallied : progress.Tallied nbytes chunkBytes)
    (positive : 0 < chunkBytes) (some_ : 0 < progress.remaining)
    (fine : outcome.ok = true) :
    ((progress.ask (min chunkBytes progress.remaining) outcome).takeOff
      (min chunkBytes progress.remaining)).Tallied nbytes chunkBytes where
  left := sub_nonneg.mpr (min_le_right _ _)
  split := by
    have split := tallied.split
    simp only [takeOff, ReclaimProgress.ask, askedBytes_append]
    simp only [askedBytes, List.map_cons, List.map_nil, List.sum_cons,
      List.sum_nil] at split ⊢
    omega
  sizes := by
    intro chunk member
    rcases List.mem_append.mp member with old | new
    · exact tallied.sizes chunk old
    · rw [List.mem_singleton.mp new]
      exact ⟨lt_min positive some_, min_le_left _ _⟩
  allOk := by
    intro chunk member
    rcases List.mem_append.mp member with old | new
    · exact tallied.allOk chunk old
    · rw [List.mem_singleton.mp new]
      exact fine
  ok := fine
  freed := by simp [takeOff, ReclaimProgress.ask, tallied.freed]
  elapsed := by simp [takeOff, ReclaimProgress.ask, tallied.elapsed]

end ReclaimProgress

/-! ## The loop -/

section
variable
  {world : ReclaimWorld}
  {nbytes chunkBytes : Int}
  {swappiness : Option Int}
  {progress : ReclaimProgress}

theorem reclaimLoop_of_done (none_ : progress.remaining ≤ 0) (fuel : Nat) :
    reclaimLoop world nbytes chunkBytes swappiness fuel progress =
      some progress := by
  cases fuel <;> simp [reclaimLoop, none_]

theorem reclaimLoop_of_gone (some_ : 0 < progress.remaining)
    (gone : world.exists_ progress.issued.length = false) (fuel : Nat) :
    reclaimLoop world nbytes chunkBytes swappiness (fuel + 1) progress =
      some (progress.gone nbytes swappiness) := by
  rw [reclaimLoop, if_neg (not_le.mpr some_)]
  exact if_pos (by rw [gone]; rfl)

theorem reclaimLoop_of_failed {chunk : Int}
    (next : min chunkBytes progress.remaining = chunk)
    (some_ : 0 < progress.remaining)
    (there : world.exists_ progress.issued.length = true)
    (failed : (world.reclaim progress.issued.length chunk
      swappiness).ok = false)
    (fuel : Nat) :
    reclaimLoop world nbytes chunkBytes swappiness (fuel + 1) progress =
      some (progress.ask chunk
        (world.reclaim progress.issued.length chunk swappiness)) := by
  rw [reclaimLoop, if_neg (not_le.mpr some_)]
  simp only [there, next, ReclaimProgress.ask, failed, Bool.not_true,
    Bool.not_false, Bool.false_eq_true, if_true, if_false]

theorem reclaimLoop_of_ok {chunk : Int}
    (next : min chunkBytes progress.remaining = chunk)
    (some_ : 0 < progress.remaining)
    (there : world.exists_ progress.issued.length = true)
    (fine : (world.reclaim progress.issued.length chunk swappiness).ok = true)
    (fuel : Nat) :
    reclaimLoop world nbytes chunkBytes swappiness (fuel + 1) progress =
      reclaimLoop world nbytes chunkBytes swappiness fuel
        ((progress.ask chunk (world.reclaim progress.issued.length chunk
          swappiness)).takeOff chunk) := by
  rw [reclaimLoop, if_neg (not_le.mpr some_)]
  simp only [there, next, ReclaimProgress.ask, fine, Bool.not_true,
    Bool.false_eq_true, if_false]

theorem reclaimLoop_ends (positive : 0 < chunkBytes)
    (tallied : progress.Tallied nbytes chunkBytes) :
    ∃ final, (final.round nbytes swappiness).InChunks chunkBytes ∧
      ∀ fuel, progress.remaining.toNat ≤ fuel →
        reclaimLoop world nbytes chunkBytes swappiness fuel progress =
          some final := by
  generalize bound : progress.remaining.toNat = steps
  induction steps using Nat.strong_induction_on generalizing progress with
  | h steps hypothesis =>
    rcases le_or_gt progress.remaining 0 with none_ | some_
    · exact ⟨progress, tallied.done none_, fun fuel _ =>
        reclaimLoop_of_done none_ fuel⟩
    have nonzero : ∀ fuel, steps ≤ fuel → ∃ less, fuel = less + 1 :=
      fun fuel enough => Nat.exists_eq_add_one.mpr (by omega)
    cases there : world.exists_ progress.issued.length with
    | false =>
      refine ⟨_, tallied.gone some_, fun fuel enough => ?_⟩
      obtain ⟨less, rfl⟩ := nonzero fuel enough
      exact reclaimLoop_of_gone some_ there less
    | true =>
      cases fine : (world.reclaim progress.issued.length
          (min chunkBytes progress.remaining) swappiness).ok with
      | false =>
        refine ⟨_, tallied.failed _ positive some_ fine,
          fun fuel enough => ?_⟩
        obtain ⟨less, rfl⟩ := nonzero fuel enough
        exact reclaimLoop_of_failed rfl some_ there fine less
      | true =>
        have smaller : (progress.remaining -
            min chunkBytes progress.remaining).toNat < steps := by
          have nonempty : 0 < min chunkBytes progress.remaining :=
            lt_min positive some_
          omega
        obtain ⟨final, good, ends⟩ := hypothesis _ smaller
          (tallied.ask _ positive some_ fine) rfl
        refine ⟨final, good, fun fuel enough => ?_⟩
        obtain ⟨less, rfl⟩ := nonzero fuel enough
        rw [reclaimLoop_of_ok rfl some_ there fine]
        exact ends less (Nat.le_of_lt_succ (smaller.trans_le enough))

theorem reclaimLoop_eq_none {readings : Nat → RequestReadings}
    (there : ∀ number, (readings number).exists_ = true)
    (empty : chunkBytes ≤ 0) (some_ : 0 < progress.remaining) (fuel : Nat) :
    reclaimLoop (.ofReadings readings) nbytes chunkBytes swappiness fuel
      progress = none := by
  induction fuel generalizing progress with
  | zero => simp [reclaimLoop, some_]
  | succ fuel hypothesis =>
    have fine : ((readings progress.issued.length).reclaim chunkBytes
        swappiness).ok = true := by
      rw [RequestReadings.reclaim, if_pos empty]
    rw [reclaimLoop_of_ok (min_eq_left (empty.trans some_.le)) some_
      (there _) fine]
    exact hypothesis (some_.trans_le (le_sub_self_iff _ |>.mpr empty))

end

section
variable
  (config : ReclaimConfig)
  (world : ReclaimWorld)
  (nbytes : Int)
  (swappiness chunkBytes : Option Int)

theorem ReclaimConfig.chunkBytes_pos : 0 < config.chunkBytes := by
  have least : 1 ≤ max 1 (pyInt config.chunkMb) := le_max_left _ _
  rw [chunkBytes]
  omega

/-- Before its first request a round has nothing to report. -/
theorem tallied_start (nbytes chunkBytes : Int) (last : ReclaimOutcome)
    (ok : last.ok = true) :
    ({ remaining := max 0 nbytes, last := last } : ReclaimProgress).Tallied
      nbytes chunkBytes where
  left := le_max_left _ _
  split := by simp [askedBytes]
  sizes := by simp
  allOk := by simp
  ok := ok
  freed := rfl
  elapsed := rfl

theorem reclaimMemory_ends (positive : 0 < chunkBytes.getD config.chunkBytes) :
    ∃ round, round.InChunks (chunkBytes.getD config.chunkBytes) ∧
      ∀ fuel, nbytes.toNat ≤ fuel →
        reclaimMemory config world nbytes swappiness chunkBytes fuel =
          some round := by
  have start := tallied_start nbytes (chunkBytes.getD config.chunkBytes)
    { ok := true
      swappiness := swappiness.or config.swappiness
      reason := "nothing requested" } rfl
  obtain ⟨final, good, ends⟩ := reclaimLoop_ends positive start
  refine ⟨_, good, fun fuel enough => ?_⟩
  rw [reclaimMemory, ends fuel (by simpa using enough)]
  rfl

end

end SmarTune
