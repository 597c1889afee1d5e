import SmarTune.Library.StabilityTimer
import SmarTune.Controller.SwapRuns

/-!
# The shrink timer and the window

`sample` feeds two memories: the shrink timer, on each raw sample, and the
window of `worst_recent`, which forgets what is old.  Samples of an unreadable
`/proc/meminfo` feed neither.
-/

namespace SmarTune

open StabilityTimer

namespace MemorySnapshot

/-- `/proc/meminfo` could be read. -/
def Readable (snapshot : MemorySnapshot) : Prop := snapshot.memTotal ≠ 0

instance : DecidablePred Readable :=
  fun snapshot => inferInstanceAs (Decidable (snapshot.memTotal ≠ 0))

/-- Memory is below the shrink watermark. -/
def Relaxed (config : GrowthConfig) (snapshot : MemorySnapshot) : Prop :=
  snapshot.usedFraction < SwapController.shrinkWatermark config

instance (config : GrowthConfig) : DecidablePred (Relaxed config) :=
  fun snapshot => inferInstanceAs (Decidable (snapshot.usedFraction < _))

theorem usedFraction_nonneg (snapshot : MemorySnapshot) :
    0 ≤ snapshot.usedFraction := by
  unfold usedFraction
  split
  · exact le_rfl
  · exact div_nonneg (Nat.cast_nonneg _) (Nat.cast_nonneg _)

theorem Relaxed.of_not_readable {config : GrowthConfig}
    {other snapshot : MemorySnapshot} (relaxed : other.Relaxed config)
    (unreadable : ¬ snapshot.Readable) :
    snapshot.Relaxed config := by
  have empty : snapshot.usedFraction = 0 := if_pos (not_not.mp unreadable)
  rw [Relaxed, empty]
  exact other.usedFraction_nonneg.trans_lt relaxed

end MemorySnapshot

namespace SwapController

/-- A sample and the time it is taken at. -/
abbrev Sample := Observation ℚ MemorySnapshot

variable (config : GrowthConfig) (history : List Sample)

def afterSamples : SwapController :=
  Runs.run (fun controller (sampled : Sample) =>
    controller.sample config sampled.time sampled.signal) fresh history

theorem afterSamples_append (sampled : Sample) :
    afterSamples config (history ++ [sampled]) =
      (afterSamples config history).sample config sampled.time
        sampled.signal :=
  Runs.run_append _ _ _ _

/-! ## What a sample does -/

/-- The shrink timer follows the raw samples that are readable. -/
theorem relaxedSince_sample (controller : SwapController) (sampled : Sample) :
    (controller.sample config sampled.time sampled.signal).relaxedSince =
      observe MemorySnapshot.Readable (MemorySnapshot.Relaxed config)
        controller.relaxedSince sampled := by
  rw [observe, sample]
  by_cases readable : sampled.signal.Readable
  · rw [if_pos readable, if_neg readable]
    rfl
  · rw [if_neg readable, if_pos (not_not.mp readable)]

theorem startedIn_afterSamples :
    StartedIn MemorySnapshot.Readable (MemorySnapshot.Relaxed config) history
      (afterSamples config history).relaxedSince := by
  induction history using List.reverseRecOn with
  | nil => exact startedIn_none []
  | append_singleton earlier sampled hypothesis =>
    rw [afterSamples_append, relaxedSince_sample]
    exact hypothesis.observe sampled

theorem mem_window_afterSamples {entry : ℚ × MemorySnapshot}
    (member : entry ∈ (afterSamples config history).window) :
    ⟨entry.1, entry.2⟩ ∈ history := by
  induction history using List.reverseRecOn with
  | nil => cases member
  | append_singleton earlier sampled hypothesis =>
    rw [afterSamples_append] at member
    rcases mem_window_sample member with old | rfl
    · exact List.mem_append_left _ (hypothesis old)
    · exact List.mem_append_right _ List.mem_cons_self

/-! ## What the two memories say -/

/-- A sample of the past was readable, and from the last such one on memory was
below the shrink watermark. -/
def StayedRelaxed (past : ℚ → Prop) : Prop :=
  ∃ earlier last later, history = earlier ++ last :: later ∧
    last.signal.Readable ∧ past last.time ∧
    (∀ sampled ∈ later, sampled.signal.Readable → ¬ past sampled.time) ∧
    ∀ sampled ∈ last :: later, sampled.signal.Relaxed config

/-- Every snapshot that `worst_recent` merges is one that was taken, at most
the window's length ago. -/
def MergesWithinWindow (now : ℚ) (snapshot : MemorySnapshot) : Prop :=
  ∃ merged : List (ℚ × MemorySnapshot),
    (afterSamples config history).worstRecent config now snapshot =
      { snapshot with
        memAvailable := lowest (·.memAvailable) snapshot merged
        swapFree := lowest (·.swapFree) snapshot merged } ∧
    ∀ entry ∈ merged, ⟨entry.1, entry.2⟩ ∈ history ∧
      0 ≤ now - entry.1 ∧ now - entry.1 ≤ config.pressureWindowSec

/-- Memory that is relaxed for a positive time was started on by a sample at
least that long ago. -/
theorem exists_relaxedSince {controller : SwapController} {now period : ℚ}
    (positive : 0 < period) (relaxed : period ≤ controller.relaxedFor now) :
    ∃ start, controller.relaxedSince = some start ∧ start ≤ now - period := by
  unfold relaxedFor at relaxed
  cases running : controller.relaxedSince with
  | none =>
    rw [running] at relaxed
    exact absurd relaxed (not_le.mpr positive)
  | some start =>
    rw [running] at relaxed
    refine ⟨start, rfl, ?_⟩
    rcases le_max_iff.mp relaxed with none_ | long
    · exact absurd none_ (not_le.mpr positive)
    · linarith

/-- A positive time of relaxed memory reaches back to a sample of that long ago,
and what is merged is recent. -/
theorem relaxedFor_and_worstRecent (config : GrowthConfig)
    (history : List Sample) (now : ℚ)
    (taken : ∀ sampled ∈ history, sampled.time ≤ now) :
    (∀ period, 0 < period →
      period ≤ (afterSamples config history).relaxedFor now →
      StayedRelaxed config history (· ≤ now - period)) ∧
    ∀ snapshot, MergesWithinWindow config history now snapshot := by
  constructor
  · intro period positive relaxed
    obtain ⟨start, running, long⟩ := exists_relaxedSince positive relaxed
    have started := startedIn_afterSamples config history
    rw [running] at started
    obtain ⟨earlier, last, later, split, readable, past, none_, all⟩ :=
      started.exists_last (· ≤ now - period) long
    refine ⟨earlier, last, later, split, readable, past, none_, ?_⟩
    intro sampled member
    by_cases isReadable : sampled.signal.Readable
    · exact all sampled member isReadable
    · exact (all last List.mem_cons_self readable).of_not_readable isReadable
  · intro snapshot
    refine ⟨(afterSamples config history).recent config now, rfl, ?_⟩
    intro entry member
    obtain ⟨kept, recent⟩ := List.mem_filter.mp member
    have listed := mem_window_afterSamples config history kept
    have before := taken _ listed
    have late := of_decide_eq_true recent
    exact ⟨listed, by linarith, by linarith⟩

/-- Memory nine tenths full. -/
def fullSnapshot : MemorySnapshot := ⟨1000, 100, 0, 0, 0⟩

def halfSnapshot : MemorySnapshot := ⟨1000, 500, 0, 0, 0⟩

/-- `/proc/meminfo` could not be read. -/
def unreadSnapshot : MemorySnapshot := ⟨0, 0, 0, 0, 0⟩

/-- A full memory that is sampled half full a minute later, and ten minutes on:
the shrink timer has reached the ten minutes, and the sample before they began
found memory full.  Nothing is said for a time of zero, which every timer has
reached. -/
theorem full_before_the_period :
    (600 ≤ (afterSamples {} [⟨0, fullSnapshot⟩, ⟨60, halfSnapshot⟩]).relaxedFor
        660 ∧
      ¬ StayedRelaxed {} [⟨0, fullSnapshot⟩, ⟨60, halfSnapshot⟩]
        (· < 660 - 600)) ∧
    0 ≤ (afterSamples {} [⟨0, fullSnapshot⟩]).relaxedFor 60 ∧
      ¬ StayedRelaxed {} [⟨0, fullSnapshot⟩] (· ≤ 60 - 0) := by
  have full : ¬ fullSnapshot.Relaxed {} := by decide +kernel
  refine ⟨⟨by decide +kernel, ?_⟩, by decide +kernel, ?_⟩
  · rintro ⟨earlier, last, later, split, _, past, _, all⟩
    have member : last ∈ [⟨0, fullSnapshot⟩, ⟨60, halfSnapshot⟩] :=
      split ▸ List.mem_append_right _ List.mem_cons_self
    rcases List.mem_cons.mp member with rfl | second
    · exact full (all ⟨0, fullSnapshot⟩ List.mem_cons_self)
    · rw [List.mem_singleton.mp second] at past
      norm_num at past
  · rintro ⟨earlier, last, later, split, _, _, _, all⟩
    have member : last ∈ [⟨0, fullSnapshot⟩] :=
      split ▸ List.mem_append_right _ List.mem_cons_self
    rw [List.mem_singleton.mp member] at all
    exact full (all ⟨0, fullSnapshot⟩ List.mem_cons_self)

theorem relaxed_over_an_unread_sample :
    (∀ period, 0 < period →
      period ≤ (afterSamples {} [⟨0, fullSnapshot⟩, ⟨10, halfSnapshot⟩,
        ⟨20, unreadSnapshot⟩]).relaxedFor 40 →
      StayedRelaxed {} [⟨0, fullSnapshot⟩, ⟨10, halfSnapshot⟩,
        ⟨20, unreadSnapshot⟩] (· ≤ 40 - period)) ∧
    ∀ snapshot, MergesWithinWindow {} [⟨0, fullSnapshot⟩, ⟨10, halfSnapshot⟩,
      ⟨20, unreadSnapshot⟩] 40 snapshot :=
  relaxedFor_and_worstRecent {} _ 40 (by simp; norm_num)

end SwapController

end SmarTune
