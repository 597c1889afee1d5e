import Mathlib.Order.Lattice
import Mathlib.Data.List.Basic

/-!
# Holding a peak

A register holds the highest of the values it has been shown: a value replaces
the held one only when it ranks strictly higher, so among equals the first one
stays.
-/

namespace PeakHold

variable {Value Rank : Type*} [LinearOrder Rank] (rank : Value → Rank)

/-- The held value after one more. -/
def raise (peak value : Value) : Value :=
  if rank peak < rank value then value else peak

def hold (peak : Value) (values : List Value) : Value :=
  values.foldl (raise rank) peak

@[simp] theorem hold_nil (peak : Value) : hold rank peak [] = peak := rfl

@[simp] theorem hold_cons (peak value : Value) (values : List Value) :
    hold rank peak (value :: values) =
      hold rank (raise rank peak value) values := rfl

theorem raise_eq_or (peak value : Value) :
    raise rank peak value = peak ∨ raise rank peak value = value := by
  unfold raise
  split
  · exact .inr rfl
  · exact .inl rfl

theorem rank_le_raise_left (peak value : Value) :
    rank peak ≤ rank (raise rank peak value) := by
  unfold raise
  split
  · next higher => exact higher.le
  · exact le_rfl

theorem rank_le_raise_right (peak value : Value) :
    rank value ≤ rank (raise rank peak value) := by
  unfold raise
  split
  · exact le_rfl
  · next held => exact not_lt.mp held

/-- The held value is the first one or one of those shown since. -/
theorem hold_mem (peak : Value) (values : List Value) :
    hold rank peak values ∈ peak :: values := by
  induction values generalizing peak with
  | nil => exact List.mem_cons_self
  | cons value values ih =>
    rw [hold_cons]
    rcases List.mem_cons.mp (ih (raise rank peak value)) with
      same | later
    · rw [same]
      rcases raise_eq_or rank peak value with kept | replaced
      · rw [kept]
        exact List.mem_cons_self
      · rw [replaced]
        exact List.mem_cons_of_mem _ List.mem_cons_self
    · exact List.mem_cons_of_mem _ (List.mem_cons_of_mem _ later)

theorem rank_le_hold_start (peak : Value) (values : List Value) :
    rank peak ≤ rank (hold rank peak values) := by
  induction values generalizing peak with
  | nil => exact le_rfl
  | cons value values ih =>
    exact (rank_le_raise_left rank peak value).trans
      (ih (raise rank peak value))

theorem rank_le_hold (peak : Value) {values : List Value} {value : Value}
    (shown : value ∈ values) :
    rank value ≤ rank (hold rank peak values) := by
  induction values generalizing peak with
  | nil => cases shown
  | cons head values ih =>
    rcases List.mem_cons.mp shown with rfl | later
    · exact (rank_le_raise_right rank peak value).trans
        (rank_le_hold_start rank _ values)
    · exact ih (raise rank peak head) later

end PeakHold
