import Mathlib.Data.List.Basic

/-!
# Logs of openings and closings

A log is read for one subject at a time: `mark` says of each event whether it
opens the subject, closes it, or does not concern it.  A log alternates when
every opening finds the subject closed and every closing finds it open.
-/

namespace OpenLog

variable {Event : Type*} (mark : Event → Option Bool)

/-- Whether the subject is open after the events. -/
def after : Bool → List Event → Bool
  | start, [] => start
  | start, event :: events => after ((mark event).getD start) events

/-- Openings find the subject closed, closings find it open. -/
def Alternates : Bool → List Event → Prop
  | _, [] => True
  | start, event :: events =>
    mark event ≠ some start ∧ Alternates ((mark event).getD start) events

instance decidableAlternates :
    ∀ (start : Bool) (events : List Event),
      Decidable (Alternates mark start events)
  | _, [] => .isTrue trivial
  | start, event :: events =>
    @instDecidableAnd _ _ inferInstance
      (decidableAlternates ((mark event).getD start) events)

@[simp] theorem after_nil (start : Bool) : after mark start [] = start := rfl

@[simp] theorem alternates_nil (start : Bool) : Alternates mark start [] :=
  trivial

@[simp] theorem after_cons (start : Bool) (event : Event)
    (events : List Event) :
    after mark start (event :: events) =
      after mark ((mark event).getD start) events := rfl

@[simp] theorem alternates_cons (start : Bool) (event : Event)
    (events : List Event) :
    Alternates mark start (event :: events) ↔ mark event ≠ some start ∧
        Alternates mark ((mark event).getD start) events := Iff.rfl

theorem after_append (start : Bool) (first second : List Event) :
    after mark start (first ++ second) =
      after mark (after mark start first) second := by
  induction first generalizing start with
  | nil => rfl
  | cons event first ih => exact ih ((mark event).getD start)

theorem alternates_append (start : Bool) (first second : List Event) :
    Alternates mark start (first ++ second) ↔ Alternates mark start first ∧
        Alternates mark (after mark start first) second := by
  induction first generalizing start with
  | nil => simp
  | cons event first ih => simp [ih, and_assoc]

/-- The events alternate and lead from one state of the subject to another. -/
structure Leads (start : Bool) (events : List Event) (finish : Bool) : Prop where
  alternates : Alternates mark start events
  finish : after mark start events = finish

variable {mark} {start middle finish : Bool} {first second events : List Event}

theorem leads_nil : Leads mark start [] start := ⟨trivial, rfl⟩

theorem Leads.append (leads : Leads mark start first middle)
    (next : Leads mark middle second finish) :
    Leads mark start (first ++ second) finish where
  alternates := by
    rw [alternates_append, leads.finish]
    exact ⟨leads.alternates, next.alternates⟩
  finish := by
    rw [after_append, leads.finish, next.finish]

/-- Events that do not concern the subject change nothing. -/
theorem leads_of_unmarked (unmarked : ∀ event ∈ events, mark event = none) :
    Leads mark start events start := by
  induction events with
  | nil => exact leads_nil
  | cons event events ih =>
    have none := unmarked event List.mem_cons_self
    have rest := ih fun other member =>
      unmarked other (List.mem_cons_of_mem event member)
    exact ⟨by simp [none, rest.alternates], by simp [none, rest.finish]⟩

end OpenLog
