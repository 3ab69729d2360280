import Companion.Record.Group
import Mathlib.Algebra.GroupWithZero.Nat
import Mathlib.Order.Bounds.Defs

/-!
Items pushed to a rolling buffer one after another, each with the capacity of its moment. What is kept is
always the end of what came in. A capacity that was once small has thrown away what a greater one later
on would have kept, so how much is kept depends on all capacities: each of them lets through what it
holds and the items after it, and the least of these numbers counts.
-/

namespace Companion

namespace Rolling

variable {α : Type}

/-! ### Runs -/

/-- What is kept after items were pushed, each with a capacity, and how many went for each of them. -/
def pushAll : List (Nat × α) → List α → List α × List Nat
  | [], buffer => (buffer, [])
  | (capacity, item) :: rest, buffer =>
    let (kept, evicted) := push capacity item buffer
    let (last, counts) := pushAll rest kept
    (last, evicted :: counts)

def appendAll (pushes : List (Nat × α)) (buffer : List α) : List α :=
  pushes.foldl (fun kept p => appended p.1 p.2 kept) buffer

/-- How many items there can be in the end after some capacities: as many as came in, or as many as one
of the capacities holds and came after it. -/
def bounds (capacities : List Nat) (start : Nat) : Set Nat :=
  {k | k = start + capacities.length ∨
    ∃ i capacity, capacities[i]? = some capacity ∧ k = capacity + (capacities.length - (i + 1))}

/-! ### One step -/

theorem push_suffix (capacity : Nat) (item : α) (buffer : List α) :
    (push capacity item buffer).1 <:+ buffer ++ [item] := List.drop_suffix _ _

theorem push_evicted (capacity : Nat) (item : α) (buffer : List α) :
    (push capacity item buffer).2 = buffer.length + 1 - capacity := by
  show (buffer ++ [item]).length - capacity = buffer.length + 1 - capacity
  rw [List.length_append, List.length_singleton]

/-- Nothing is lost between what is kept and what is counted. -/
theorem push_accounts (capacity : Nat) (item : α) (buffer : List α) :
    (push capacity item buffer).2 + (push capacity item buffer).1.length = buffer.length + 1 := by
  have hkept : (push capacity item buffer).1.length =
      (buffer ++ [item]).length - (push capacity item buffer).2 := List.length_drop
  rw [List.length_append, List.length_singleton, push_evicted] at hkept
  rw [hkept, push_evicted]
  omega

theorem length_push (capacity : Nat) (item : α) (buffer : List α) :
    (push capacity item buffer).1.length = min capacity (buffer.length + 1) := by
  have haccount := push_accounts capacity item buffer
  rw [push_evicted] at haccount
  omega

/-! ### All steps -/

theorem pushAll_cons (capacity : Nat) (item : α) (rest : List (Nat × α)) (buffer : List α) :
    pushAll ((capacity, item) :: rest) buffer =
      ((pushAll rest (push capacity item buffer).1).1,
        (push capacity item buffer).2 :: (pushAll rest (push capacity item buffer).1).2) := rfl

theorem pushAll_suffix (pushes : List (Nat × α)) (buffer : List α) :
    (pushAll pushes buffer).1 <:+ buffer ++ pushes.map Prod.snd := by
  induction pushes generalizing buffer with
  | nil =>
    rw [List.map_nil, List.append_nil]
    exact List.suffix_refl buffer
  | cons p rest ih =>
    obtain ⟨capacity, item⟩ := p
    have hfirst : (push capacity item buffer).1 ++ rest.map Prod.snd <:+
        (buffer ++ [item]) ++ rest.map Prod.snd := by
      obtain ⟨front, hfront⟩ := push_suffix capacity item buffer
      exact ⟨front, by rw [← hfront, List.append_assoc]⟩
    rw [List.append_assoc, List.singleton_append] at hfirst
    exact (ih _).trans hfirst

theorem pushAll_accounts (pushes : List (Nat × α)) (buffer : List α) :
    (pushAll pushes buffer).2.sum + (pushAll pushes buffer).1.length =
      buffer.length + pushes.length := by
  induction pushes generalizing buffer with
  | nil => exact Nat.zero_add _
  | cons p rest ih =>
    obtain ⟨capacity, item⟩ := p
    have hstep := push_accounts capacity item buffer
    have hrest := ih (push capacity item buffer).1
    rw [pushAll_cons, List.sum_cons, List.length_cons]
    dsimp only
    omega

theorem appendAll_eq (pushes : List (Nat × α)) (buffer : List α) :
    appendAll pushes buffer = (pushAll pushes buffer).1 := by
  induction pushes generalizing buffer with
  | nil => rfl
  | cons p rest ih => exact ih _

/-- One more capacity in front bounds what there was before the others. -/
theorem isLeast_bounds_cons {capacities : List Nat} {capacity start k : Nat}
    (h : IsLeast (bounds capacities (min capacity (start + 1))) k) :
    IsLeast (bounds (capacity :: capacities) start) k := by
  obtain ⟨hmem, hleast⟩ := h
  have hlength : (capacity :: capacities).length = capacities.length + 1 := List.length_cons
  have hbound : k ≤ min capacity (start + 1) + capacities.length := hleast (.inl rfl)
  constructor
  · rcases hmem with hall | ⟨i, other, hother, hk⟩
    · rcases Nat.le_total capacity (start + 1) with hsmall | hgreat
      · rw [Nat.min_eq_left hsmall] at hall
        exact .inr ⟨0, capacity, rfl, by omega⟩
      · rw [Nat.min_eq_right hgreat] at hall
        exact .inl (by omega)
    · exact .inr ⟨i + 1, other, hother, by omega⟩
  · rintro n (hall | ⟨i, other, hother, hn⟩)
    · omega
    · cases i with
      | zero =>
        obtain rfl : capacity = other := Option.some.inj hother
        omega
      | succ i =>
        rw [List.getElem?_cons_succ] at hother
        have hle : k ≤ other + (capacities.length - (i + 1)) := hleast (.inr ⟨i, other, hother, rfl⟩)
        omega

theorem length_pushAll_isLeast (pushes : List (Nat × α)) (buffer : List α) :
    IsLeast (bounds (pushes.map Prod.fst) buffer.length) (pushAll pushes buffer).1.length := by
  induction pushes generalizing buffer with
  | nil =>
    refine ⟨.inl rfl, ?_⟩
    rintro n (hall | ⟨i, capacity, hnone, -⟩)
    · exact Nat.le_of_eq hall.symm
    · exact nomatch hnone
  | cons p rest ih =>
    obtain ⟨capacity, item⟩ := p
    apply isLeast_bounds_cons
    rw [← length_push capacity item buffer]
    exact ih _

/-- However the capacities change, what is kept in the end is the end of all that there was, as much of
it as the least of the bounds; what is counted as gone is all the rest, and appending keeps the same
after every step. -/
theorem pushes_keep_suffix (pushes : List (Nat × α)) (buffer : List α) :
    (pushAll pushes buffer).1 <:+ buffer ++ pushes.map Prod.snd ∧
      IsLeast (bounds (pushes.map Prod.fst) buffer.length) (pushAll pushes buffer).1.length ∧
      (pushAll pushes buffer).2.sum =
        buffer.length + pushes.length - (pushAll pushes buffer).1.length ∧
      ∀ n, appendAll (pushes.take n) buffer = (pushAll (pushes.take n) buffer).1 :=
  ⟨pushAll_suffix pushes buffer, length_pushAll_isLeast pushes buffer,
    Nat.eq_sub_of_add_eq (pushAll_accounts pushes buffer), fun n => appendAll_eq (pushes.take n) buffer⟩

example : (pushAll [(3, 'a'), (1, 'b'), (5, 'c')] ['x', 'y', 'z']).1 = ['b', 'c'] := rfl

end Rolling

/-! ### Records -/

/-- A history is such a buffer, and nothing else of the record changes. -/
theorem UserRecord.foldl_pushHistory (record : UserRecord) (pushes : List (Nat × HistoryEntry)) :
    pushes.foldl (fun r p => r.pushHistory p.1 p.2) record =
      { record with history := (Rolling.pushAll pushes record.history).1 } := by
  induction pushes generalizing record with
  | nil => rfl
  | cons p rest ih => exact ih _

/-- The messages of a group are such a buffer, and nothing else of the record changes. -/
theorem GroupRecord.foldl_pushMessage (record : GroupRecord) (pushes : List (Nat × GroupMessage)) :
    pushes.foldl (fun r p => r.pushMessage p.1 p.2) record =
      { record with recentMessages := (Rolling.pushAll pushes record.recentMessages).1 } := by
  induction pushes generalizing record with
  | nil => rfl
  | cons p rest ih => exact ih _

end Companion
