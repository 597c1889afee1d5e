import Mathlib.Order.Basic

/-!
# Timelines

A timeline is a list of stretches: the state that was in force and the instants
from and up to which it was.  What holds of a state at an instant holds
throughout a timeline when it holds at every instant of every stretch.  A
reading that time can only take away is decided by the ends of the stretches.
-/

namespace Timeline

variable {State Time : Type*} [Preorder Time]

/-- A state and the instants during which it was in force. -/
structure Stretch (State Time : Type*) where
  state : State
  start : Time
  finish : Time

/-- The reading holds at every instant of the timeline. -/
def Throughout (holds : State → Time → Prop)
    (stretches : List (Stretch State Time)) : Prop :=
  ∀ stretch ∈ stretches, ∀ time,
    stretch.start ≤ time → time ≤ stretch.finish → holds stretch.state time

variable {holds : State → Time → Prop} {stretches : List (Stretch State Time)}

/-- A reading that time only takes away holds throughout when it holds at the
end of each stretch. -/
theorem throughout_of_finish
    (antitone : ∀ state earlier later,
      earlier ≤ later → holds state later → holds state earlier)
    (finishes : ∀ stretch ∈ stretches, holds stretch.state stretch.finish) :
    Throughout holds stretches := by
  intro stretch member time _ notAfter
  exact antitone _ _ _ notAfter (finishes stretch member)

theorem Throughout.at_finish (throughout : Throughout holds stretches)
    {stretch : Stretch State Time} (member : stretch ∈ stretches)
    (ordered : stretch.start ≤ stretch.finish) :
    holds stretch.state stretch.finish :=
  throughout stretch member stretch.finish ordered le_rfl

end Timeline
