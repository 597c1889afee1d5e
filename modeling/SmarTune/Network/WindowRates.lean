import SmarTune.Library.Runs
import Mathlib.Tactic.Linarith
import Mathlib.Tactic.Positivity

/-!
# Rates of cumulative counters

A window keeps the samples of some counters that are not older than its length;
it forgets when a sample is added, not when it is read.  A loss ratio and the
rate of a traffic class are differences between the newest and the oldest kept
sample.  The counters start again when their interface or class is made anew.
-/

namespace SmarTune

/-- What happened until a moment, which no reader sees: the events that each
counter has counted, and how often the counters have started again. -/
structure CounterTruth where
  events : ℕ → ℕ
  resets : ℕ

/-- An entry of `_history`: its fields are numbered from one. -/
structure WindowSample where
  time : ℚ
  values : ℕ → ℕ
  truth : CounterTruth

namespace WindowDiffHistory

/-- `add`. -/
def add (windowSec : ℚ) (history : List WindowSample)
    (sample : WindowSample) : List WindowSample :=
  (history ++ [sample]).filter fun kept =>
    sample.time - windowSec ≤ kept.time

/-- The oldest and the newest of two samples or more. -/
def ends : List WindowSample → Option (WindowSample × WindowSample)
  | start :: next :: rest =>
    some (start, (next :: rest).getLast (List.cons_ne_nil next rest))
  | _ => none

/-- `diff_rate`. -/
def diffRate (history : List WindowSample) (numIdx denomIdx : ℕ) : ℚ :=
  match ends history with
  | none => 0
  | some (start, last) =>
    let deltaNum : ℚ := last.values numIdx - start.values numIdx
    let deltaDenom : ℚ := last.values denomIdx - start.values denomIdx
    if deltaDenom ≤ 0 ∨ deltaNum < 0 then 0 else deltaNum / deltaDenom

/-- The rate of a class in `get_tc_class_stats_rate_ingress` and in
`get_tc_class_stats_rate_egress`; the only field is the first. -/
def classRate (history : List WindowSample) : ℚ :=
  match ends history with
  | none => 0
  | some (start, last) =>
    let deltaBytes : ℚ := last.values 1 - start.values 1
    let deltaTime := last.time - start.time
    if 0 < deltaTime then deltaBytes * 8 / 1000 / deltaTime else 0

def recent (windowSec : ℚ) (history : List WindowSample) (time : ℚ) :
    List WindowSample :=
  history.filter fun kept => time - windowSec ≤ kept.time

end WindowDiffHistory

open WindowDiffHistory

/-- The counters and the window over them. -/
structure CounterWindow where
  values : ℕ → ℕ
  truth : CounterTruth
  history : List WindowSample

/-- The counters are sampled or a figure is read. -/
inductive WindowLabel
  /-- What was counted since the last sample; `lost` says what the counters
  had counted of it when they started again. -/
  | sample (now : ℚ) (lost : Option (ℕ → ℕ)) (counted : ℕ → ℕ)
  | ratio (numIdx denomIdx : ℕ) (time : ℚ)
  | rate (time : ℚ)

namespace CounterWindow

variable (windowSec : ℚ)

def now (window : CounterWindow) (time : ℚ) : WindowSample :=
  ⟨time, window.values, window.truth⟩

/-- The counters go on. -/
def count (window : CounterWindow) (lost : Option (ℕ → ℕ))
    (counted : ℕ → ℕ) : CounterWindow :=
  match lost with
  | none =>
    ⟨window.values + counted,
      ⟨window.truth.events + counted, window.truth.resets⟩, window.history⟩
  | some lost =>
    ⟨counted, ⟨window.truth.events + lost + counted, window.truth.resets + 1⟩,
      window.history⟩

def step (window : CounterWindow) : WindowLabel → CounterWindow
  | .sample time lost counted =>
    let next := window.count lost counted
    { next with history := add windowSec next.history (next.now time) }
  | _ => window

/-- What is read is not negative, is explained by the events between the oldest
sample and the newest, and is zero without two samples in the window. -/
def Explained (window : CounterWindow) : WindowLabel → Prop
  | .sample .. => True
  | .ratio numIdx denomIdx time =>
    let read := diffRate window.history numIdx denomIdx
    0 ≤ read ∧
      (∀ start last, ends window.history = some (start, last) →
        read * (last.truth.events denomIdx - start.truth.events denomIdx) ≤
          last.truth.events numIdx - start.truth.events numIdx) ∧
      ((recent windowSec window.history time).length < 2 → read = 0)
  | .rate time =>
    let read := classRate window.history
    0 ≤ read ∧
      (∀ start last, ends window.history = some (start, last) →
        start.time < last.time → read * (last.time - start.time) ≤
          (last.truth.events 1 - start.truth.events 1) * 8 / 1000) ∧
      ((recent windowSec window.history time).length < 2 → read = 0)

/-- When there are two samples, two are in the window; the counters have not
started again between the oldest and the newest, and for a rate the newest is
not below the oldest. -/
def Readable (window : CounterWindow) : WindowLabel → Prop
  | .sample .. => True
  | .ratio _ _ time => ∀ start last, ends window.history = some (start, last) →
      2 ≤ (recent windowSec window.history time).length ∧
        start.truth.resets = last.truth.resets
  | .rate time => ∀ start last, ends window.history = some (start, last) →
      2 ≤ (recent windowSec window.history time).length ∧
        start.values 1 ≤ last.values 1

/-- A sample and a later one of the same counters. -/
structure Precedes (first second : WindowSample) : Prop where
  past : first.truth.resets ≤ second.truth.resets
  events : ∀ idx, first.truth.events idx ≤ second.truth.events idx
  /-- Nothing is counted that did not happen. -/
  counted : ∀ idx, second.values idx + first.truth.events idx ≤
    first.values idx + second.truth.events idx
  /-- Without a new start everything is counted. -/
  whole : first.truth.resets = second.truth.resets → ∀ idx,
    first.values idx ≤ second.values idx ∧
      second.values idx + first.truth.events idx =
        first.values idx + second.truth.events idx

/-- The kept samples are of these counters, in their order. -/
structure Sound (window : CounterWindow) : Prop where
  ordered : window.history.Pairwise Precedes
  past : ∀ sample ∈ window.history, ∀ time, Precedes sample (window.now time)

/-- Counters that have counted nothing. -/
def initial : CounterWindow := ⟨0, ⟨0, 0⟩, []⟩

/-! ## Sampling -/

variable {windowSec} {window : CounterWindow}

theorem Precedes.count {sample : WindowSample} {time : ℚ}
    (precedes : Precedes sample (window.now time)) (lost : Option (ℕ → ℕ))
    (counted : ℕ → ℕ) :
    Precedes sample ((window.count lost counted).now time) := by
  obtain ⟨past, events, below, whole⟩ := precedes
  simp only [now] at past events below whole
  cases lost with
  | none =>
    refine ⟨past, fun idx => ?_, fun idx => ?_, fun same idx => ?_⟩ <;>
      simp only [CounterWindow.count, now, Pi.add_apply]
    · exact Nat.le_add_right_of_le (events idx)
    · have before := below idx
      omega
    · have before := whole same idx
      omega
  | some lost =>
    refine ⟨Nat.le_succ_of_le past, fun idx => ?_, fun idx => ?_,
      fun same => ?_⟩
    · have before := events idx
      simp only [CounterWindow.count, now, Pi.add_apply]
      omega
    · have before := events idx
      simp only [CounterWindow.count, now, Pi.add_apply]
      omega
    · simp only [CounterWindow.count, now] at same
      omega

theorem sound_step (sound : window.Sound) (label : WindowLabel) :
    (window.step windowSec label).Sound := by
  cases label with
  | ratio numIdx denomIdx time => exact sound
  | rate time => exact sound
  | sample time lost counted =>
    have history : (window.count lost counted).history = window.history := by
      cases lost <;> rfl
    have old : ∀ sample ∈ (window.count lost counted).history, ∀ time,
        Precedes sample ((window.count lost counted).now time) := by
      rw [history]
      exact fun sample member time =>
        (sound.past sample member time).count lost counted
    constructor
    · apply List.Pairwise.filter
      rw [List.pairwise_append]
      refine ⟨history ▸ sound.ordered, List.pairwise_singleton _ _, ?_⟩
      intro sample member other new
      rw [List.mem_singleton.mp new]
      exact old sample member time
    · intro sample member later
      rcases List.mem_append.mp (List.mem_filter.mp member).1 with kept | new
      · exact old sample kept later
      · rw [List.mem_singleton.mp new]
        exact ⟨le_rfl, fun _ => le_rfl, fun _ => le_rfl,
          fun _ _ => ⟨le_rfl, rfl⟩⟩

/-! ## Reading -/

theorem precedes_of_ends {history : List WindowSample}
    {start last : WindowSample} (ordered : history.Pairwise Precedes)
    (found : ends history = some (start, last)) : Precedes start last := by
  match history with
  | [] => cases found
  | [_] => cases found
  | first :: next :: rest =>
    cases found
    exact List.rel_of_pairwise_cons ordered (List.getLast_mem _)

theorem explained_ratio (sound : window.Sound) {numIdx denomIdx : ℕ} {time : ℚ}
    (readable : window.Readable windowSec (.ratio numIdx denomIdx time)) :
    window.Explained windowSec (.ratio numIdx denomIdx time) := by
  simp only [Explained, diffRate]
  cases found : ends window.history with
  | none => simp
  | some pair =>
    obtain ⟨start, last⟩ := pair
    obtain ⟨fresh, same⟩ := readable start last found
    have whole := (precedes_of_ends sound.ordered found).whole same
    have counted : ∀ idx, (last.values idx - start.values idx : ℚ) =
        last.truth.events idx - start.truth.events idx := by
      intro idx
      have same := (whole idx).2
      rw [← @Nat.cast_inj ℚ] at same
      push_cast at same
      linarith
    have grown : (0 : ℚ) ≤ last.values numIdx - start.values numIdx :=
      sub_nonneg.mpr (Nat.cast_le.mpr (whole numIdx).1)
    dsimp only
    refine ⟨?_, ?_, fun few => absurd fresh (not_le.mpr few)⟩
    · split
      · exact le_rfl
      · next guarded =>
        simp only [not_or, not_le, not_lt] at guarded
        exact div_nonneg guarded.2 guarded.1.le
    · rintro _ _ ⟨⟩
      rw [← counted, ← counted]
      split
      · simpa using grown
      · next guarded =>
        simp only [not_or, not_le, not_lt] at guarded
        exact (div_mul_cancel₀ _ guarded.1.ne').le

theorem explained_rate (sound : window.Sound) {time : ℚ}
    (readable : window.Readable windowSec (.rate time)) :
    window.Explained windowSec (.rate time) := by
  simp only [Explained, classRate]
  cases found : ends window.history with
  | none => simp
  | some pair =>
    obtain ⟨start, last⟩ := pair
    obtain ⟨fresh, above⟩ := readable start last found
    have counted := (precedes_of_ends sound.ordered found).counted 1
    rw [← @Nat.cast_le ℚ] at counted
    push_cast at counted
    have grown : (0 : ℚ) ≤ last.values 1 - start.values 1 :=
      sub_nonneg.mpr (Nat.cast_le.mpr above)
    dsimp only
    refine ⟨?_, ?_, fun few => absurd fresh (not_le.mpr few)⟩
    · split
      · next later => positivity
      · exact le_rfl
    · rintro _ _ ⟨⟩ later
      rw [if_pos (sub_pos.mpr later),
        div_mul_cancel₀ _ (sub_pos.mpr later).ne']
      linarith

end CounterWindow
end SmarTune
