/-!
Rolling buffers: lists that keep their newest items, oldest first, up to a capacity.
-/

namespace Companion.Rolling

variable {α : Type}

/-- The newest items up to the capacity, and how many older ones went. -/
def cut (capacity : Nat) (buffer : List α) : List α × Nat :=
  let excess := buffer.length - capacity
  (buffer.drop excess, excess)

/-- One more item at the end, and how many at the front went for it. -/
def push (capacity : Nat) (item : α) (buffer : List α) : List α × Nat :=
  cut capacity (buffer ++ [item])

def appended (capacity : Nat) (item : α) (buffer : List α) : List α :=
  (push capacity item buffer).1

def newest (n : Nat) (buffer : List α) : List α := buffer.drop (buffer.length - n)

/-- What is cut off would have been cut off later as well. -/
theorem newest_append (n : Nat) (older later : List α) :
    newest n (newest n older ++ later) = newest n (older ++ later) := by
  unfold newest
  rw [List.length_append, List.length_drop, List.length_append]
  by_cases h : older.length ≤ n
  · have hnone : older.length - n = 0 := by omega
    rw [hnone, List.drop_zero, Nat.sub_zero]
  · have hsplit : (older ++ later).drop (older.length - n) =
        older.drop (older.length - n) ++ later := List.drop_append_of_le_length (Nat.sub_le _ _)
    have hplace : older.length + later.length - n = (older.length - n) + later.length := by omega
    have hkept : older.length - (older.length - n) + later.length - n = later.length := by omega
    rw [hplace, hkept, ← List.drop_drop, hsplit]

theorem newest_map {β : Type} (f : α → β) (n : Nat) (buffer : List α) :
    newest n (buffer.map f) = (newest n buffer).map f := by
  rw [newest, newest, List.length_map, List.map_drop]

end Companion.Rolling
