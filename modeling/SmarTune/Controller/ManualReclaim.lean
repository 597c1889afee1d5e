import SmarTune.Controller.ChunkedReclaim

/-!
# Reclaim for a manual limit

A manual limit is reclaimed down to its target in one round.  Swap is grown
before it when free swap does not cover what is asked for, and after it when it
ran out of swap; only a growth then gives a second round.
-/

namespace SmarTune

/-! ## Growing swap -/

/-- What asking for swap meets: the answer of the rate limiter, where there is
one, and either an error or whether the plan is to grow and how that ended. -/
structure GrowthAttempt where
  gate : Option Bool
  check : Except String (Bool × Option Bool)

/-- `_grow_swap_for_manual_reclaim`: grown, wanted but not to be had, or not
attempted. -/
def GrowthAttempt.grow (attempt : GrowthAttempt) : Option Bool :=
  if attempt.gate = some false then none
  else
    match attempt.check with
    | .error _ => some false
    | .ok (shouldGrow, growth) =>
      if !shouldGrow then none
      else some (growth = some true)

/-- `PRE_RECLAIM_SWAP_MARGIN`. -/
def preReclaimSwapMargin : ℚ := 3 / 2

/-- `_swap_covers`. -/
def swapCovers (snapshot : MemorySnapshot) (nbytes : Int) : Bool :=
  if snapshot.swapTotal = 0 then false
  else nbytes * preReclaimSwapMargin ≤ snapshot.swapFree

/-! ## Reclaiming to a target -/

/-- What a manual reclaim reads and meets, in its order. -/
structure ManualReadings where
  current : Option Int
  swapEnabled : Bool
  meminfo : MemorySnapshot
  preReclaim : GrowthAttempt
  first : ReclaimWorld
  stillEnabled : Bool
  postEagain : GrowthAttempt
  currentAfter : Option Int
  second : ReclaimWorld

/-- The rounds of a manual reclaim, and its outcome. -/
structure ManualReclaim where
  rounds : List ReclaimedRound
  outcome : ReclaimOutcome

namespace ManualReadings

variable (readings : ManualReadings) (config : ReclaimConfig)

/-- The end of `reclaim_memory_to_target`, once swap has grown after a first
round that was for so many bytes. -/
def retry (target requested : Int) (first : ReclaimedRound)
    (fuel : Nat) : Option ManualReclaim :=
  match readings.currentAfter with
  | none => some ⟨[first], first.outcome⟩
  | some current =>
    let remaining := max 0 (current - target)
    if remaining = 0 then
      some ⟨[first],
        { ok := true
          requestedBytes := requested
          reclaimedBytes := first.outcome.reclaimedBytes
          elapsedMs := first.outcome.elapsedMs
          swappiness := first.outcome.swappiness
          reason := "target reached before swap headroom was exhausted" }⟩
    else
      (reclaimMemory config readings.second remaining none none fuel).map
        fun second => ⟨[first, second],
          { ok := second.outcome.ok
            errno := second.outcome.errno
            requestedBytes := requested
            reclaimedBytes :=
              first.outcome.reclaimedBytes + second.outcome.reclaimedBytes
            elapsedMs := first.outcome.elapsedMs + second.outcome.elapsedMs
            swappiness := second.outcome.swappiness
            reason := second.outcome.reason }⟩

/-- What follows the first round, when swap was asked for before it with this
answer. -/
def afterFirst (target requested : Int) (grown : Option Bool)
    (first : ReclaimedRound) (fuel : Nat) : Option ManualReclaim :=
  if !first.outcome.isEagain || !readings.stillEnabled then
    some ⟨[first], first.outcome⟩
  else if grown = some false then some ⟨[first], first.outcome⟩
  else if readings.postEagain.grow ≠ some true then
    some ⟨[first], first.outcome⟩
  else readings.retry config target requested first fuel

/-- `reclaim_memory_to_target`. -/
def reclaimMemoryToTarget (target : Int) (fuel : Nat) : Option ManualReclaim :=
  match readings.current with
  | none =>
    some ⟨[],
      { ok := false
        reason := "memory.current unreadable; cannot size manual reclaim" }⟩
  | some current =>
    let requested := max 0 (current - max 0 target)
    if requested = 0 then
      some ⟨[],
        { ok := true
          reason := "already at or below memory target" }⟩
    else
      let grown :=
        if readings.swapEnabled && !swapCovers readings.meminfo requested
        then readings.preReclaim.grow else none
      (reclaimMemory config readings.first requested none none fuel).bind
        fun first => readings.afterFirst config target requested grown first
          fuel

end ManualReadings

/-! ## What its rounds add up to -/

/-- At most two rounds, each in chunks of the configured size, and an outcome
that adds up what they report. -/
structure ManualReclaim.InRounds (config : ReclaimConfig)
    (result : ManualReclaim) : Prop where
  atMostTwo : result.rounds.length ≤ 2
  inChunks : ∀ round ∈ result.rounds, round.InChunks config.chunkBytes
  reclaimed : result.outcome.reclaimedBytes =
    (result.rounds.map fun round => round.outcome.reclaimedBytes).sum
  elapsed : result.outcome.elapsedMs =
    (result.rounds.map fun round => round.outcome.elapsedMs).sum

section
variable
  {config : ReclaimConfig}
  {first : ReclaimedRound}

/-- One round is reported as it is, whatever else is said about it. -/
theorem inRounds_singleton (good : first.InChunks config.chunkBytes)
    {outcome : ReclaimOutcome}
    (reclaimed : outcome.reclaimedBytes = first.outcome.reclaimedBytes)
    (elapsed : outcome.elapsedMs = first.outcome.elapsedMs) :
    (⟨[first], outcome⟩ : ManualReclaim).InRounds config where
  atMostTwo := Nat.le_succ 1
  inChunks := by
    intro round member
    rw [List.mem_singleton.mp member]
    exact good
  reclaimed := by simp [reclaimed]
  elapsed := by simp [elapsed]

theorem retry_ends (good : first.InChunks config.chunkBytes)
    (readings : ManualReadings) (target requested : Int) :
    ∃ result : ManualReclaim, result.InRounds config ∧
      ∃ enough, ∀ fuel, enough ≤ fuel →
        readings.retry config target requested first fuel = some result := by
  unfold ManualReadings.retry
  cases readings.currentAfter with
  | none => exact ⟨_, inRounds_singleton good rfl rfl, 0, fun _ _ => rfl⟩
  | some current =>
    by_cases reached : max 0 (current - target) = 0
    · refine ⟨_, ?_, 0, fun _ _ => if_pos reached⟩
      exact inRounds_singleton good rfl rfl
    · obtain ⟨second, other, ends⟩ := reclaimMemory_ends config
        readings.second (max 0 (current - target)) none none
        config.chunkBytes_pos
      refine ⟨_, ?_, _, fun fuel enough => (if_neg reached).trans
        (congrArg (Option.map _) (ends fuel enough))⟩
      exact
        { atMostTwo := le_rfl
          inChunks := by
            intro round member
            rcases List.mem_pair.mp member with rfl | rfl
            · exact good
            · exact other
          reclaimed := by simp
          elapsed := by simp }

theorem afterFirst_ends (good : first.InChunks config.chunkBytes)
    (readings : ManualReadings) (target requested : Int) (grown : Option Bool) :
    ∃ result : ManualReclaim, result.InRounds config ∧
      ∃ enough, ∀ fuel, enough ≤ fuel →
        readings.afterFirst config target requested grown first fuel =
          some result := by
  have stops : ∃ result : ManualReclaim, result.InRounds config ∧
      ∃ enough, ∀ fuel, enough ≤ fuel →
        some (⟨[first], first.outcome⟩ : ManualReclaim) = some result :=
    ⟨_, inRounds_singleton good rfl rfl, 0, fun _ _ => rfl⟩
  unfold ManualReadings.afterFirst
  split
  · exact stops
  split
  · exact stops
  split
  · exact stops
  · exact retry_ends good readings target requested

theorem reclaimMemoryToTarget_ends (config : ReclaimConfig)
    (readings : ManualReadings) (target : Int) :
    ∃ result : ManualReclaim, result.InRounds config ∧
      ∃ enough, ∀ fuel, enough ≤ fuel →
        readings.reclaimMemoryToTarget config target fuel = some result := by
  unfold ManualReadings.reclaimMemoryToTarget
  have nothing : ∀ outcome : ReclaimOutcome, outcome.reclaimedBytes = 0 →
      outcome.elapsedMs = 0 →
      (⟨[], outcome⟩ : ManualReclaim).InRounds config :=
    fun outcome reclaimed elapsed =>
      ⟨Nat.zero_le 2, by simp, by simpa using reclaimed, by simpa using elapsed⟩
  cases readings.current with
  | none => exact ⟨_, nothing _ rfl rfl, 0, fun _ _ => rfl⟩
  | some current =>
    simp only
    split
    · exact ⟨_, nothing _ rfl rfl, 0, fun _ _ => rfl⟩
    · obtain ⟨first, good, firstEnds⟩ := reclaimMemory_ends config
        readings.first (max 0 (current - max 0 target)) none none
        config.chunkBytes_pos
      obtain ⟨result, inRounds, enough, ends⟩ := afterFirst_ends good
        readings target (max 0 (current - max 0 target))
        (if readings.swapEnabled && !swapCovers readings.meminfo
          (max 0 (current - max 0 target)) then readings.preReclaim.grow
          else none)
      refine ⟨result, inRounds,
        max enough (max 0 (current - max 0 target)).toNat,
        fun fuel enoughBoth => ?_⟩
      rw [firstEnds fuel ((le_max_right _ _).trans enoughBoth)]
      exact ends fuel ((le_max_left _ _).trans enoughBoth)

end

/-- A reclaim in chunks of a positive size ends and adds up, and so does a
manual one in its rounds. -/
theorem reclaim_adds_up (config : ReclaimConfig) (world : ReclaimWorld)
    (nbytes : Int) (swappiness chunkBytes : Option Int)
    (positive : ∀ size, chunkBytes = some size → 0 < size)
    (readings : ManualReadings) (target : Int) :
    (∃ round : ReclaimedRound,
      round.InChunks (chunkBytes.getD config.chunkBytes) ∧
      ∀ fuel, nbytes.toNat ≤ fuel →
        reclaimMemory config world nbytes swappiness chunkBytes fuel =
          some round) ∧
    ∃ result : ManualReclaim, result.InRounds config ∧
      ∃ enough, ∀ fuel, enough ≤ fuel →
        readings.reclaimMemoryToTarget config target fuel = some result := by
  have size : 0 < chunkBytes.getD config.chunkBytes := by
    cases chunkBytes with
    | none => exact config.chunkBytes_pos
    | some size => exact positive size rfl
  exact ⟨reclaimMemory_ends config world nbytes swappiness chunkBytes size,
    reclaimMemoryToTarget_ends config readings target⟩

/-- A cgroup whose writes all end like this. -/
def steadyReadings (refused : Option (Int × String)) : RequestReadings :=
  ⟨true, true, some 1000, refused, 0, some 1000⟩

/-- No swap, and every request answered alike. -/
def steadyManual (refused : Option (Int × String)) : ManualReadings where
  current := some 1000
  swapEnabled := true
  meminfo := ⟨0, 0, 0, 0, 0⟩
  preReclaim := ⟨none, .ok (false, none)⟩
  first := .ofReadings fun _ => steadyReadings refused
  stillEnabled := true
  postEagain := ⟨none, .ok (true, some true)⟩
  currentAfter := some 900
  second := .ofReadings fun _ => steadyReadings none

theorem reclaim_adds_up_over_two_rounds :
    (∃ round : ReclaimedRound, round.InChunks 300 ∧
      ∀ fuel, Int.toNat 1000 ≤ fuel →
        reclaimMemory {} (.ofReadings fun _ => steadyReadings none) 1000 none
          (some 300) fuel = some round) ∧
    ∃ result : ManualReclaim, result.InRounds {} ∧
      ∃ enough, ∀ fuel, enough ≤ fuel →
        (steadyManual (some (eagain, "Try again"))).reclaimMemoryToTarget {} 600
          fuel = some result :=
  reclaim_adds_up {} _ 1000 none (some 300) (by simp) _ 600

/-- A chunk that fails was asked for all the same, so a round whose last chunk
fails asks for everything without being all right.  A chunk size of zero never
ends. -/
theorem failed_chunk_completes_the_sum :
    (∃ round : ReclaimedRound, reclaimMemory {} (.ofReadings fun _ =>
          steadyReadings (some (eagain, "Try again"))) 100 none (some 100) 100 =
        some round ∧
      askedBytes round.issued = 100 ∧ round.outcome.ok = false) ∧
    ∀ fuel, reclaimMemory {} (.ofReadings fun _ => steadyReadings none) 100 none
      (some 0) fuel = none := by
  refine ⟨⟨_, rfl, by decide, by decide⟩, fun fuel => ?_⟩
  exact congrArg (Option.map _)
    (reclaimLoop_eq_none (fun _ => rfl) le_rfl (by decide) fuel)

end SmarTune
