import Mathlib.Algebra.Order.Group.Defs
import Mathlib.Data.List.Basic

/-!
# Stability timers

A stability timer stands for how long a signal has been calm.  It is sound for
a history of timed observations when every observation made since its start was
calm.  A running sound timer that has reached a period then speaks for every
observation of the period before now.

A timer may also be followed observation by observation: some do not count, a
calm one starts it and any other stops it.  It then stands for the observations
from one of the history on.
-/

/-- A signal seen at a time. -/
structure Observation (Time Signal : Type*) where
  time : Time
  signal : Signal

namespace StabilityTimer

variable {Time Signal : Type*} [LinearOrder Time]

/-- Every observation made since the timer started was calm. -/
def Sound (history : List (Observation Time Signal)) (calm : Signal → Prop)
    (timer : Option Time) : Prop :=
  ∀ start, timer = some start →
    ∀ seen ∈ history, start ≤ seen.time → calm seen.signal

variable {history : List (Observation Time Signal)} {calm : Signal → Prop}

/-- A stopped timer is sound. -/
@[simp] theorem sound_none : Sound history calm none := by
  intro start running
  cases running

@[simp] theorem sound_nil (timer : Option Time) :
    Sound ([] : List (Observation Time Signal)) calm timer := by
  intro start _ seen member
  cases member

theorem Sound.observe {timer : Option Time} (sound : Sound history calm timer)
    {next : Observation Time Signal} (isCalm : calm next.signal) :
    Sound (history ++ [next]) calm timer := by
  intro start running seen member since
  rcases List.mem_append.mp member with earlier | now
  · exact sound start running seen earlier since
  · rw [List.mem_singleton.mp now]
    exact isCalm

section Window

variable {Time : Type*} [AddCommGroup Time] [LinearOrder Time]
  [IsOrderedAddMonoid Time]

def Reached (timer : Option Time) (now period : Time) : Prop :=
  ∃ start, timer = some start ∧ period ≤ now - start

theorem Sound.window {history : List (Observation Time Signal)}
    {timer : Option Time} {now period : Time} (sound : Sound history calm timer)
    (reached : Reached timer now period) {seen : Observation Time Signal}
    (member : seen ∈ history) (recent : now - seen.time ≤ period) :
    calm seen.signal := by
  obtain ⟨start, running, elapsed⟩ := reached
  apply sound start running seen member
  have notBefore : now - seen.time ≤ now - start := le_trans recent elapsed
  exact (sub_le_sub_iff_left now).mp notBefore

end Window

/-! ## A timer followed through a history -/

section Follow

variable {Time Signal : Type*} (counts calm : Signal → Prop)

/-- One observation: those that do not count leave the timer alone, a calm one
starts it unless it is running, any other stops it. -/
def observe [DecidablePred counts] [DecidablePred calm] (timer : Option Time)
    (next : Observation Time Signal) : Option Time :=
  if counts next.signal then
    if calm next.signal then timer.or (some next.time) else none
  else timer

/-- The timer was started by an observation of the history that counts, and
every one from there on that counts was calm. -/
def StartedIn (history : List (Observation Time Signal))
    (timer : Option Time) : Prop :=
  ∀ start, timer = some start →
    ∃ earlier first later, history = earlier ++ first :: later ∧
      first.time = start ∧ counts first.signal ∧
      ∀ seen ∈ first :: later, counts seen.signal → calm seen.signal

variable {counts calm}

theorem startedIn_none (history : List (Observation Time Signal)) :
    StartedIn counts calm history none := by
  intro start running
  cases running

variable {history : List (Observation Time Signal)} {timer : Option Time}
  {start : Time} {seen : Observation Time Signal}

theorem StartedIn.append (started : StartedIn counts calm history timer)
    {next : Observation Time Signal}
    (fine : counts next.signal → calm next.signal) :
    StartedIn counts calm (history ++ [next]) timer := by
  intro start running
  obtain ⟨earlier, first, later, split, time, counted, all⟩ :=
    started start running
  refine ⟨earlier, first, later ++ [next], by simp [split], time, counted, ?_⟩
  intro seen member
  rcases List.mem_append.mp (List.cons_append ▸ member) with old | new
  · exact all seen old
  · rw [List.mem_singleton.mp new]
    exact fine

theorem StartedIn.observe [DecidablePred counts] [DecidablePred calm]
    (started : StartedIn counts calm history timer)
    (next : Observation Time Signal) :
    StartedIn counts calm (history ++ [next])
      (observe counts calm timer next) := by
  unfold StabilityTimer.observe
  split
  · next counted =>
    split
    · next isCalm =>
      cases timer with
      | some start => exact started.append fun _ => isCalm
      | none =>
        intro start running
        cases running
        refine ⟨history, next, [], rfl, rfl, counted, ?_⟩
        intro seen member _
        rw [List.mem_singleton.mp member]
        exact isCalm
    · exact startedIn_none _
  · next skipped => exact started.append fun counted => absurd counted skipped

theorem exists_split_last {Item : Type*} {passes : Item → Prop}
    {items : List Item} (exists_ : ∃ item ∈ items, passes item) :
    ∃ earlier last later, items = earlier ++ last :: later ∧ passes last ∧
      ∀ item ∈ later, ¬ passes item := by
  induction items with
  | nil => simp at exists_
  | cons first rest hypothesis =>
    by_cases another : ∃ item ∈ rest, passes item
    · obtain ⟨earlier, last, later, split, lastPasses, none_⟩ :=
        hypothesis another
      exact ⟨first :: earlier, last, later, by simp [split], lastPasses, none_⟩
    · obtain ⟨item, member, itemPasses⟩ := exists_
      push Not at another
      rcases List.mem_cons.mp member with rfl | later
      · exact ⟨[], item, rest, rfl, itemPasses, another⟩
      · exact absurd itemPasses (another item later)

/-- A running timer speaks for the last observation up to any instant from its
start on, and for every one since. -/
theorem StartedIn.exists_last
    (started : StartedIn counts calm history (some start)) (past : Time → Prop)
    (startPast : past start) :
    ∃ earlier last later, history = earlier ++ last :: later ∧
      counts last.signal ∧ past last.time ∧
      (∀ seen ∈ later, counts seen.signal → ¬ past seen.time) ∧
      ∀ seen ∈ last :: later, counts seen.signal → calm seen.signal := by
  obtain ⟨before, first, after, split, rfl, counted, all⟩ := started start rfl
  obtain ⟨earlier, last, later, inner, ⟨lastCounts, lastPast⟩, none_⟩ :=
    exists_split_last (⟨first, List.mem_cons_self, counted, startPast⟩ :
        ∃ seen ∈ first :: after, counts seen.signal ∧ past seen.time)
  refine ⟨before ++ earlier, last, later, by simp [split, inner], lastCounts,
    lastPast, fun seen member isCounted isPast =>
      none_ seen member ⟨isCounted, isPast⟩, ?_⟩
  intro seen member
  exact all seen (inner ▸ List.mem_append_right _ member)

theorem StartedIn.calm_of_lt [Preorder Time]
    (started : StartedIn counts calm history (some start))
    (ordered : history.Pairwise fun first second => first.time ≤ second.time)
    (member : seen ∈ history) (since : start < seen.time)
    (counted : counts seen.signal) :
    calm seen.signal := by
  obtain ⟨earlier, first, later, rfl, rfl, _, all⟩ := started start rfl
  rcases List.mem_append.mp member with before | after
  · have notLater := (List.pairwise_append.mp ordered).2.2 seen before first
      List.mem_cons_self
    exact absurd notLater since.not_ge
  · exact all seen after counted

/-- When no two observations have one time it speaks for the start as well. -/
theorem StartedIn.calm_of_le [Preorder Time]
    (started : StartedIn counts calm history (some start))
    (ordered : history.Pairwise fun first second => first.time < second.time)
    (member : seen ∈ history) (since : start ≤ seen.time)
    (counted : counts seen.signal) :
    calm seen.signal := by
  obtain ⟨earlier, first, later, rfl, rfl, _, all⟩ := started start rfl
  rcases List.mem_append.mp member with before | after
  · have earlierThan := (List.pairwise_append.mp ordered).2.2 seen before first
      List.mem_cons_self
    exact absurd since earlierThan.not_ge
  · exact all seen after counted

end Follow

end StabilityTimer
