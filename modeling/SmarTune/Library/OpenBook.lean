import Mathlib.Data.Finset.Card

/-!
# Openings and closings of many subjects

A log opens and closes subjects.  Whatever its order, openings and closings
balance against the subjects that are open: an opening of an open subject is a
repeat, a closing of a closed subject is void, and every other one changes the
number of open subjects by one.
-/

namespace OpenBook

variable {Event κ : Type*} [DecidableEq κ] (mark : Event → Option (κ × Bool))

def next (opened : Finset κ) (event : Event) : Finset κ :=
  match mark event with
  | none => opened
  | some (subject, true) => insert subject opened
  | some (subject, false) => opened.erase subject

def after (opened : Finset κ) (events : List Event) : Finset κ :=
  events.foldl (next mark) opened

def repeatsAt (opened : Finset κ) (event : Event) : Bool :=
  match mark event with
  | some (subject, true) => decide (subject ∈ opened)
  | _ => false

/-- The event closes a subject that is closed. -/
def voidAt (opened : Finset κ) (event : Event) : Bool :=
  match mark event with
  | some (subject, false) => decide (subject ∉ opened)
  | _ => false

/-- How many openings find their subject open. -/
def repeats : Finset κ → List Event → ℕ
  | _, [] => 0
  | opened, event :: events =>
    (repeatsAt mark opened event).toNat + repeats (next mark opened event) events

/-- How many closings find their subject closed. -/
def voids : Finset κ → List Event → ℕ
  | _, [] => 0
  | opened, event :: events =>
    (voidAt mark opened event).toNat + voids (next mark opened event) events

/-- How many events open a subject. -/
def openings (events : List Event) : ℕ :=
  events.countP fun event => (mark event).any Prod.snd

/-- How many events close a subject. -/
def closings (events : List Event) : ℕ :=
  events.countP fun event => (mark event).any fun entry => !entry.2

@[simp] theorem after_nil (opened : Finset κ) :
    after mark opened [] = opened := rfl

@[simp] theorem after_cons (opened : Finset κ) (event : Event)
    (events : List Event) :
    after mark opened (event :: events) =
      after mark (next mark opened event) events := rfl

theorem after_concat (opened : Finset κ) (events : List Event) (event : Event) :
    after mark opened (events ++ [event]) =
      next mark (after mark opened events) event := by
  rw [after, List.foldl_append]
  rfl

/-- One event changes the number of open subjects by what it opens or closes. -/
theorem card_next (opened : Finset κ) (event : Event) :
    (next mark opened event).card + ((mark event).any fun entry => !entry.2).toNat +
        (repeatsAt mark opened event).toNat =
      opened.card + ((mark event).any Prod.snd).toNat +
        (voidAt mark opened event).toNat := by
  unfold next repeatsAt voidAt
  rcases mark event with _ | ⟨subject, _ | _⟩
  · simp
  · by_cases member : subject ∈ opened
    · have positive := Finset.card_pos.mpr ⟨subject, member⟩
      simp [member, Finset.card_erase_of_mem]
      omega
    · simp [member]
  · by_cases member : subject ∈ opened <;> simp [member]

theorem card_after (opened : Finset κ) (events : List Event) :
    (after mark opened events).card + closings mark events +
        repeats mark opened events =
      opened.card + openings mark events + voids mark opened events := by
  induction events generalizing opened with
  | nil => rfl
  | cons event events ih =>
    have now := card_next mark opened event
    have later := ih (next mark opened event)
    have closed : closings mark (event :: events) = closings mark events +
          ((mark event).any fun entry => !entry.2).toNat := by
      rw [closings, List.countP_cons]
      cases (mark event).any fun entry => !entry.2 <;> rfl
    have opens : openings mark (event :: events) =
        openings mark events + ((mark event).any Prod.snd).toNat := by
      rw [openings, List.countP_cons]
      cases (mark event).any Prod.snd <;> rfl
    simp only [after_cons, repeats, voids]
    omega

variable {mark}

theorem mem_next {opened : Finset κ} {event : Event} {subject : κ} :
    subject ∈ next mark opened event ↔ mark event = some (subject, true) ∨
        subject ∈ opened ∧ mark event ≠ some (subject, false) := by
  unfold next
  rcases mark event with _ | ⟨other, _ | _⟩
  · simp
  · simp only [Finset.mem_erase, ne_eq]
    constructor
    · rintro ⟨different, member⟩
      exact .inr ⟨member, by simp [Ne.symm different]⟩
    · rintro (opens | ⟨member, different⟩)
      · simp at opens
      · exact ⟨fun same => different (by rw [same]), member⟩
  · simp only [Finset.mem_insert]
    constructor
    · rintro (rfl | member)
      · exact .inl rfl
      · exact .inr ⟨member, by simp⟩
    · rintro (opens | ⟨member, _⟩)
      · exact .inl (congrArg Prod.fst (Option.some.inj opens)).symm
      · exact .inr member

end OpenBook
