import Mathlib.Data.List.Basic

/-!
# Tables with a partial unique index

A row may have a key.  A row whose key another row has already is not inserted;
rows without a key always are.  Everything is inserted exactly when no key
comes twice.
-/

namespace UniqueIndex

variable {Row κ : Type*} [DecidableEq κ] (key : Row → Option κ)

/-- A stored row has the key of the new one. -/
def taken (rows : List Row) (row : Row) : Bool :=
  (key row).isSome && rows.any fun stored => decide (key stored = key row)

/-- Insert a row unless its key is taken. -/
def insert (rows : List Row) (row : Row) : List Row :=
  if taken key rows row then rows else rows ++ [row]

def insertAll (rows new : List Row) : List Row :=
  new.foldl (insert key) rows

/-- The second row has no key, or not the key of the first one. -/
def Apart (first second : Row) : Prop :=
  (key second).isSome = true → key first ≠ key second

instance (first second : Row) : Decidable (Apart key first second) :=
  inferInstanceAs (Decidable (_ → _))

variable {key} {rows new : List Row} {row : Row}

theorem taken_eq_false_iff :
    taken key rows row = false ↔ ∀ stored ∈ rows, Apart key stored row := by
  unfold taken Apart
  cases (key row).isSome <;> simp

/-- No insertion adds more than the row. -/
theorem length_insertAll_le :
    (insertAll key rows new).length ≤ rows.length + new.length := by
  induction new generalizing rows with
  | nil => simp [insertAll]
  | cons row new ih =>
    have bound : (insertAll key (insert key rows row) new).length ≤ _ :=
      ih
    have grown : (insert key rows row).length ≤ rows.length + 1 := by
      unfold insert
      split <;> simp
    rw [List.length_cons]
    change (insertAll key (insert key rows row) new).length ≤ _
    omega

theorem insertAll_eq_append_iff :
    insertAll key rows new = rows ++ new ↔
      (∀ row ∈ new, ∀ stored ∈ rows, Apart key stored row) ∧
        new.Pairwise (Apart key) := by
  induction new generalizing rows with
  | nil => simp [insertAll]
  | cons row new ih =>
    change insertAll key (insert key rows row) new = _ ↔ _
    rw [List.pairwise_cons, List.forall_mem_cons]
    by_cases free : taken key rows row = false
    · have appended : insert key rows row = rows ++ [row] := by
        simp [insert, free]
      rw [appended, show rows ++ row :: new = rows ++ [row] ++ new by simp, ih]
      simp only [List.forall_mem_append, List.forall_mem_singleton]
      constructor
      · rintro ⟨fresh, apart⟩
        exact ⟨⟨taken_eq_false_iff.mp free, fun other member =>
            (fresh other member).1⟩,
          fun other member => (fresh other member).2, apart⟩
      · rintro ⟨⟨_, fresh⟩, first, apart⟩
        exact ⟨fun other member => ⟨fresh other member, first other member⟩,
          apart⟩
    · have dropped : insert key rows row = rows := by
        simp [insert, free]
      rw [dropped]
      constructor
      · intro whole
        have short : (insertAll key rows new).length ≤ _ :=
          length_insertAll_le
        rw [whole, List.length_append, List.length_cons] at short
        omega
      · rintro ⟨⟨fresh, _⟩, _⟩
        exact absurd (taken_eq_false_iff.mpr fresh) free

end UniqueIndex
