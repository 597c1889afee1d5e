import Mathlib.Data.List.Perm.Basic
import Mathlib.Order.Lattice

/-!
# Waiting lines with priorities

Items wait in the order of their arrival.  The next one served is the first of
those with the highest priority; an arbitrary selection may leave the line at
any time.  A history lists what happened to a line, and every arrival of it
either waits still or has left exactly once.
-/

namespace WaitingLine

variable {Item Weight : Type*} [LinearOrder Weight]

/-- Serving a line takes out the first of its heaviest items. -/
def Serves (weight : Item → Weight) (line : List Item) (item : Item)
    (rest : List Item) : Prop :=
  ∃ before after, line = before ++ item :: after ∧ rest = before ++ after ∧
    (∀ other ∈ before, weight other < weight item) ∧
    ∀ other ∈ after, weight other ≤ weight item

/-- What happened to a line. -/
inductive Event (Item : Type*)
  /-- An item joined. -/
  | joined (item : Item)
  /-- An item was served. -/
  | served (item : Item)
  /-- Nobody was there to be served. -/
  | idle
  /-- The items that met a condition left. -/
  | left (condition : Item → Bool) (items : List Item)

/-- The histories of a line, with the items that wait after them.  Those who
leave together are reported in no particular order. -/
inductive History (weight : Item → Weight) :
    List (Event Item) → List Item → Prop
  | start : History weight [] []
  | joined {events line} (earlier : History weight events line) (item : Item) :
      History weight (events ++ [.joined item]) (line ++ [item])
  | served {events line item rest} (earlier : History weight events line)
      (next : Serves weight line item rest) :
      History weight (events ++ [.served item]) rest
  | idle {events} (earlier : History weight events []) :
      History weight (events ++ [.idle]) []
  | left {events line items} (earlier : History weight events line)
      (condition : Item → Bool)
      (leaving : items.Perm (line.filter condition)) :
      History weight (events ++ [.left condition items])
        (line.filter fun item => !condition item)

/-- The arrivals of a history. -/
def arrivals (events : List (Event Item)) : List Item :=
  events.flatMap fun
    | .joined item => [item]
    | _ => []

/-- The departures of a history. -/
def departures (events : List (Event Item)) : List Item :=
  events.flatMap fun
    | .served item => [item]
    | .left _ items => items
    | _ => []

theorem Serves.perm {weight : Item → Weight} {line rest : List Item}
    {item : Item} (next : Serves weight line item rest) :
    line.Perm (item :: rest) := by
  obtain ⟨before, after, rfl, rfl, _⟩ := next
  exact List.perm_middle

/-- Every arrival has left once or waits still. -/
theorem History.perm {weight : Item → Weight} {events : List (Event Item)}
    {line : List Item} (history : History weight events line) :
    (arrivals events).Perm (departures events ++ line) := by
  induction history with
  | start => exact List.Perm.refl _
  | joined _ item hypothesis =>
    simp only [arrivals, departures, List.flatMap_append, List.flatMap_cons,
      List.flatMap_nil, List.append_nil] at hypothesis ⊢
    rw [← List.append_assoc]
    exact hypothesis.append_right [item]
  | served _ next hypothesis =>
    simp only [arrivals, departures, List.flatMap_append, List.flatMap_cons,
      List.flatMap_nil, List.append_nil, List.append_assoc] at hypothesis ⊢
    exact hypothesis.trans (next.perm.append_left _)
  | idle _ hypothesis => simpa [arrivals, departures] using hypothesis
  | @left events line items _ condition leaving hypothesis =>
    simp only [arrivals, departures, List.flatMap_append, List.flatMap_cons,
      List.flatMap_nil, List.append_nil, List.append_assoc] at hypothesis ⊢
    have parted := List.filter_append_perm condition line
    exact hypothesis.trans (List.Perm.append_left _
      (parted.symm.trans (leaving.symm.append_right _)))

end WaitingLine
