import SmarTune.Library.CappedChoice
import Mathlib.Algebra.BigOperators.Group.List.Basic
import Mathlib.Data.List.Sort
import Mathlib.Tactic.NormNum

/-!
# Candidates for the top consumers

Before cgroups are scored, processes are ranked one by one and the first ones
are kept, two of a cgroup at most; only the cgroups of these are scored.  In
`io` mode processes are ranked by bytes, cgroups by bytes and requests.
-/

namespace SmarTune

open CappedChoice

/-- A process that is not blacklisted, at constant rates: what its own counters
and those of its cgroup count of it in a window, and its share of the CPUs and
of the memory. -/
structure MeasuredProcess where
  pid : ℕ
  cgroup : Option String
  /-- Read and written bytes, as `io_counters` has them. -/
  ioBytes : ℕ
  deviceBytes : ℕ
  deviceRequests : ℕ
  cpuPercent : ℚ
  memoryPercent : ℚ

namespace MeasuredProcess

/-- `get_cgroup_path_by_pid(proc['pid']) or str(proc['pid'])`. -/
def place (process : MeasuredProcess) : String :=
  process.cgroup.getD (toString process.pid)

end MeasuredProcess

/-- `max_per_cgroup`. -/
def maxPerCgroup : ℕ := 2

/-- `num_candidates`. -/
def numCandidates (n : ℕ) : ℕ := max (n * 3) 9

/-- The selection of both candidate functions, of ranked processes. -/
def selectCandidates (num : ℕ) (ranked : List MeasuredProcess) :
    List MeasuredProcess :=
  choose MeasuredProcess.place maxPerCgroup num (fun _ => 0) ranked

/-- `scored` of `_get_disk_io_candidate_processes`: the processes of both
snapshots that did I/O. -/
def rankedByIo (processes : List MeasuredProcess) : List MeasuredProcess :=
  (processes.filter fun process => 0 < process.ioBytes).mergeSort
    fun first second => second.ioBytes ≤ first.ioBytes

/-- `_get_disk_io_candidate_processes`. -/
def getDiskIoCandidateProcesses (num : ℕ) (processes : List MeasuredProcess) :
    List MeasuredProcess :=
  selectCandidates num (rankedByIo processes)

/-- `dynamic_weights`. -/
structure TopWeights where
  cpu : ℚ
  memory : ℚ

namespace TopWeights

variable (weights : TopWeights)

/-- The score of one process. -/
def score (process : MeasuredProcess) : ℚ :=
  weights.cpu * min process.cpuPercent 100 +
    weights.memory * min process.memoryPercent 100

/-- `current_sample_sorted`, of the processes that are new and old enough. -/
def ranked (sample : List MeasuredProcess) : List MeasuredProcess :=
  sample.mergeSort fun first second =>
    weights.score second ≤ weights.score first

/-- The rounds of `_get_candidate_processes`: a process that is two seconds old
is sampled in the first round that meets it. -/
def rounds : List ℕ → List (List (MeasuredProcess × Bool)) →
    List (List MeasuredProcess)
  | _, [] => []
  | seen, round :: later =>
    let sample := (round.filter fun entry =>
      entry.2 && !seen.contains entry.1.pid).map Prod.fst
    weights.ranked sample ::
      rounds (seen ++ sample.map MeasuredProcess.pid) later

/-- `_get_candidate_processes`. -/
def getCandidateProcesses (num : ℕ)
    (samples : List (List (MeasuredProcess × Bool))) : List MeasuredProcess :=
  (weights.rounds [] samples).flatMap (selectCandidates num)

/-- The score of a cgroup in default mode. -/
def cgroupScore (cpuCores : ℕ) (processes : List MeasuredProcess)
    (cgroup : String) : ℚ :=
  let own := processes.filter fun process => process.place = cgroup
  weights.cpu * min ((own.map MeasuredProcess.cpuPercent).sum / cpuCores) 100 +
    weights.memory * min (own.map MeasuredProcess.memoryPercent).sum 100

end TopWeights

/-- The score of a cgroup in `io` mode over a window. -/
def ioScore (window : ℚ) (processes : List MeasuredProcess)
    (cgroup : String) : ℚ :=
  let own := processes.filter fun process => process.place = cgroup
  ((own.map MeasuredProcess.deviceBytes).sum : ℚ) / window / 1024 ^ 2 +
    ((own.map MeasuredProcess.deviceRequests).sum : ℚ) / window / 1000

/-- A cgroup with load and fewer than `n` cgroups above it. -/
def IsTop (n : ℕ) (processes : List MeasuredProcess) (score : String → ℚ)
    (cgroup : String) : Prop :=
  0 < score cgroup ∧
    (((processes.map MeasuredProcess.place).dedup.filter fun other =>
      score cgroup < score other).length < n)

/-- A ranking reaches a cgroup: one of its processes is ranked, and those ranked
above its first one, two of a cgroup at most, leave a place. -/
def Reaches (num : ℕ) (ranked : List MeasuredProcess) (cgroup : String) : Prop :=
  (∃ process ∈ ranked, process.place = cgroup) ∧
    (capped MeasuredProcess.place maxPerCgroup (fun _ => 0)
      (above MeasuredProcess.place cgroup ranked)).length < num

/-- Every top consumer of either mode is among the candidates. -/
def TopsAreCandidates (n : ℕ) (window : ℚ) (weights : TopWeights) (cpuCores : ℕ)
    (processes : List MeasuredProcess)
    (samples : List (List (MeasuredProcess × Bool))) : Prop :=
  (∀ cgroup, IsTop n processes (ioScore window processes) cgroup →
    ∃ process ∈ getDiskIoCandidateProcesses (numCandidates n) processes,
      process.place = cgroup) ∧
  ∀ cgroup, IsTop n processes (weights.cgroupScore cpuCores processes) cgroup →
    ∃ process ∈ weights.getCandidateProcesses (numCandidates n) samples,
      process.place = cgroup

theorem selectCandidates_reaches (n : ℕ) (ranked : List MeasuredProcess)
    (cgroup : String) :
    (∃ process ∈ selectCandidates (numCandidates n) ranked,
        process.place = cgroup) ↔ Reaches (numCandidates n) ranked cgroup :=
  exists_mem_choose_iff (lt_max_of_lt_right (by decide)) (by decide) cgroup
    ranked

/-- The candidates miss no top consumer exactly if the ranking of single
processes reaches each of them: in `io` mode by bytes, in default mode in one
of the rounds. -/
theorem topsAreCandidates_iff (n : ℕ) (window : ℚ) (weights : TopWeights)
    (cpuCores : ℕ) (processes : List MeasuredProcess)
    (samples : List (List (MeasuredProcess × Bool))) :
    TopsAreCandidates n window weights cpuCores processes samples ↔
      (∀ cgroup, IsTop n processes (ioScore window processes) cgroup →
        Reaches (numCandidates n) (rankedByIo processes) cgroup) ∧
      ∀ cgroup,
        IsTop n processes (weights.cgroupScore cpuCores processes) cgroup →
        ∃ ranked ∈ weights.rounds [] samples,
          Reaches (numCandidates n) ranked cgroup := by
  unfold TopsAreCandidates
  apply and_congr
  · exact forall₂_congr fun cgroup _ => selectCandidates_reaches n _ cgroup
  · refine forall₂_congr fun cgroup _ => ?_
    rw [TopWeights.getCandidateProcesses]
    constructor
    · rintro ⟨process, member, here⟩
      obtain ⟨ranked, round, chosen⟩ := List.mem_flatMap.mp member
      exact ⟨ranked, round,
        (selectCandidates_reaches n ranked cgroup).mp ⟨process, chosen, here⟩⟩
    · rintro ⟨ranked, round, reaches⟩
      obtain ⟨process, chosen, here⟩ :=
        (selectCandidates_reaches n ranked cgroup).mpr reaches
      exact ⟨process, List.mem_flatMap.mpr ⟨ranked, round, chosen⟩, here⟩

/-- A selection keeps the order of the ranking and both bounds, and leaves a
process out only where one of them is reached. -/
theorem selectCandidates_fills (n : ℕ) (ranked : List MeasuredProcess) :
    let selected := selectCandidates (numCandidates n) ranked
    let ofCgroup (cgroup : String) := (selected.filter fun process =>
      process.place = cgroup).length
    selected.Sublist ranked ∧ selected.length ≤ numCandidates n ∧
      (∀ cgroup, ofCgroup cgroup ≤ maxPerCgroup) ∧
      ∀ process ∈ ranked, process ∈ selected ∨
        selected.length = numCandidates n ∨
        ofCgroup process.place = maxPerCgroup := by
  intro selected ofCgroup
  let kept := capped MeasuredProcess.place maxPerCgroup (fun _ => 0) ranked
  have taken : selected = kept.take (numCandidates n) :=
    choose_eq_take (lt_max_of_lt_right (by decide)) (fun _ => 0) ranked
  have part : selected.Sublist kept := taken ▸ List.take_sublist _ _
  have within (cgroup : String) : ofCgroup cgroup ≤ maxPerCgroup :=
    (part.filter _).length_le.trans (length_capped_le cgroup _ ranked)
  have ordered : kept.Sublist ranked := capped_sublist _ ranked
  refine ⟨part.trans ordered, ?_, within, fun process member => ?_⟩
  · rw [taken]
    exact List.length_take_le _ _
  · rcases le_or_gt kept.length (numCandidates n) with fits | beyond
    · have all : selected = kept := taken.trans (List.take_of_length_le fits)
      have reached : process ∈ kept ∨
          maxPerCgroup ≤ (kept.filter fun other =>
            other.place = process.place).length := mem_capped_or _ member
      rw [← all] at reached
      exact reached.imp_right fun full => .inr ((within _).antisymm full)
    · refine .inr (.inl ?_)
      rw [taken, List.length_take_of_le beyond.le]

/-- Nine processes that move two bytes each, and one that moves a byte in a
thousand requests. -/
def manyRequests : List MeasuredProcess :=
  (List.range 9).map (fun pid => ⟨pid, none, 2, 2, 0, 0, 0⟩) ++
    [⟨9, some "/db", 1, 1, 1000, 0, 0⟩]

/-- The cgroup with the most I/O has no candidate. -/
theorem requests_are_not_ranked :
    ¬ TopsAreCandidates 1 1 ⟨0, 0⟩ 1 manyRequests [] := by
  rintro ⟨property, -⟩
  have own : (manyRequests.filter fun process => process.place = "/db") =
      [⟨9, some "/db", 1, 1, 1000, 0, 0⟩] := rfl
  have others : ∀ other ∈ (manyRequests.map MeasuredProcess.place).dedup,
      ¬ ioScore 1 manyRequests "/db" < ioScore 1 manyRequests other := by
    have idle : ∀ other ∈ (manyRequests.map MeasuredProcess.place).dedup,
        other = "/db" ∨
          let theirs := manyRequests.filter fun process => process.place = other
          (theirs.map MeasuredProcess.deviceBytes).sum = 2 ∧
            (theirs.map MeasuredProcess.deviceRequests).sum = 0 := by
      decide
    intro other member
    rcases idle other member with rfl | ⟨bytes, requests⟩
    · exact lt_irrefl _
    · norm_num [ioScore, own, bytes, requests]
  have top : IsTop 1 manyRequests (ioScore 1 manyRequests) "/db" := by
    refine ⟨by norm_num [ioScore, own], ?_⟩
    rw [List.filter_eq_nil_iff.mpr (by simpa using others)]
    exact Nat.one_pos
  have ranked : rankedByIo manyRequests = manyRequests :=
    List.mergeSort_of_pairwise (by decide)
  have chosen := property "/db" top
  rw [getDiskIoCandidateProcesses, ranked] at chosen
  revert chosen
  decide

end SmarTune
