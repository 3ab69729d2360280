/-!
Tables: finite maps whose entries are listed by rising key, each key once. Two tables with the same
entries are equal, so the order in which they were filled leaves no trace.
-/

namespace Companion

/-- Entries with one more, in its place by key; an equal key gives way. -/
def place {κ β : Type} [LT κ] [DecidableLT κ] [DecidableEq κ] (key : κ) (value : β) :
    List (κ × β) → List (κ × β)
  | [] => [(key, value)]
  | (k, v) :: rest =>
    if key < k then (key, value) :: (k, v) :: rest
    else if key = k then (key, value) :: rest
    else (k, v) :: place key value rest

def valueOf? {κ β : Type} [DecidableEq κ] (key : κ) : List (κ × β) → Option β
  | [] => none
  | (k, v) :: rest => if k = key then some v else valueOf? key rest

def IsSorted {κ β : Type} [LT κ] (entries : List (κ × β)) : Prop :=
  entries.Pairwise fun a b => a.1 < b.1

/-- Keys of which any two that differ are in order, one way or the other. -/
class OrderedKey (κ : Type) [LT κ] : Prop where
  lt_trans {a b c : κ} : a < b → b < c → a < c
  eq_of_not_lt {a b : κ} : ¬ a < b → ¬ b < a → a = b

instance : OrderedKey String :=
  ⟨String.lt_trans, fun hab hba => String.le_antisymm hba hab⟩

section Place

variable {κ β : Type} [LT κ] [DecidableLT κ] [DecidableEq κ]

/-- Placing an entry adds nothing else. -/
theorem mem_place {key : κ} {value : β} {e : κ × β} {entries : List (κ × β)}
    (h : e ∈ place key value entries) : e = (key, value) ∨ e ∈ entries := by
  induction entries with
  | nil => simpa [place] using h
  | cons x rest ih =>
    obtain ⟨k, v⟩ := x
    rw [place] at h
    split at h
    · exact List.mem_cons.1 h
    · split at h
      · rcases List.mem_cons.1 h with h | h
        · exact .inl h
        · exact .inr (List.mem_cons_of_mem _ h)
      · rcases List.mem_cons.1 h with h | h
        · exact .inr (h ▸ List.mem_cons_self)
        · exact (ih h).imp_right (List.mem_cons_of_mem _)

/-- Placing an entry keeps the order. -/
theorem place_sorted [OrderedKey κ] {key : κ} {value : β} {entries : List (κ × β)}
    (h : IsSorted entries) : IsSorted (place key value entries) := by
  induction entries with
  | nil => simp [place, IsSorted]
  | cons x rest ih =>
    obtain ⟨k, v⟩ := x
    have hrest : IsSorted rest := List.Pairwise.of_cons h
    have hlt : ∀ e ∈ rest, k < e.1 := fun _ he => List.rel_of_pairwise_cons h he
    rw [place]
    split
    · next hk =>
      refine List.Pairwise.cons (fun e he => ?_) h
      rcases List.mem_cons.1 he with rfl | he
      · exact hk
      · exact OrderedKey.lt_trans hk (hlt e he)
    · next hk =>
      split
      · next heq =>
        subst heq
        exact List.Pairwise.cons hlt hrest
      · next hne =>
        refine List.Pairwise.cons (fun e he => ?_) (ih hrest)
        rcases mem_place he with rfl | he
        · exact Decidable.byContradiction fun hkey => hne (OrderedKey.eq_of_not_lt hk hkey)
        · exact hlt e he

end Place

structure Table (κ β : Type) [LT κ] where
  entries : List (κ × β)
  sorted : IsSorted entries

namespace Table

variable {κ β : Type} [LT κ]

instance [DecidableEq κ] [DecidableEq β] : DecidableEq (Table κ β) := fun s t =>
  if h : s.entries = t.entries then
    .isTrue (by cases s; cases t; simp_all)
  else .isFalse fun e => h (e ▸ rfl)

def empty : Table κ β := ⟨[], .nil⟩

instance : Inhabited (Table κ β) := ⟨empty⟩

/-- Tables with the same entries are equal. -/
theorem ext_entries {s t : Table κ β} (h : s.entries = t.entries) : s = t := by
  cases s; cases t; simp_all

def get? [DecidableEq κ] (t : Table κ β) (key : κ) : Option β := valueOf? key t.entries

def contains [DecidableEq κ] (t : Table κ β) (key : κ) : Bool := (t.get? key).isSome

/-- The map with one more entry; an equal key gives way. -/
def insert [DecidableLT κ] [DecidableEq κ] [OrderedKey κ] (t : Table κ β) (key : κ) (value : β) :
    Table κ β :=
  ⟨place key value t.entries, place_sorted t.sorted⟩

def filterKeys (t : Table κ β) (p : κ → Bool) : Table κ β :=
  ⟨t.entries.filter fun e => p e.1, List.Pairwise.filter _ t.sorted⟩

def erase [DecidableEq κ] (t : Table κ β) (key : κ) : Table κ β := t.filterKeys (· != key)

def mapValues {γ : Type} (t : Table κ β) (f : κ → β → γ) : Table κ γ :=
  ⟨t.entries.map fun e => (e.1, f e.1 e.2), by
    rw [IsSorted, List.pairwise_map]
    exact t.sorted⟩

/-- The map of a list of entries, of which the last with a key counts. -/
def ofList [DecidableLT κ] [DecidableEq κ] [OrderedKey κ] (entries : List (κ × β)) : Table κ β :=
  entries.foldl (fun t e => t.insert e.1 e.2) empty

end Table

end Companion
