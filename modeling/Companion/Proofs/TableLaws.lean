import Companion.Table
import Mathlib.Data.List.Perm.Basic

/-!
Look-up laws of tables. None of them needs the order of the entries, except that a table is told by
what is looked up in it, and is what its own entries, in any order, fill an empty one with.
-/

namespace Companion

section Place

variable {κ β : Type} [LT κ] [DecidableLT κ] [DecidableEq κ]

theorem valueOf?_place (j k : κ) (v : β) (es : List (κ × β)) :
    valueOf? j (place k v es) = if k = j then some v else valueOf? j es := by
  induction es with
  | nil => rfl
  | cons e es ih =>
    obtain ⟨k', v'⟩ := e
    rw [place]
    split
    · rfl
    · split
      · next heq =>
        subst heq
        by_cases hj : k = j <;> simp [valueOf?, hj]
      · next hne =>
        by_cases hj : k' = j
        · have hkj : k ≠ j := fun h => hne (h.trans hj.symm)
          simp [valueOf?, hj, hkj]
        · simpa [valueOf?, hj] using ih

theorem map_place {γ : Type} (f : κ → β → γ) (k : κ) (v : β) (es : List (κ × β)) :
    (place k v es).map (fun e => (e.1, f e.1 e.2)) =
      place k (f k v) (es.map fun e => (e.1, f e.1 e.2)) := by
  induction es with
  | nil => rfl
  | cons e es ih =>
    obtain ⟨k', v'⟩ := e
    rw [place, List.map_cons, place]
    split
    · rfl
    · split
      · rfl
      · rw [List.map_cons, ih]

end Place

theorem valueOf?_map {κ β γ : Type} [DecidableEq κ] (f : κ → β → γ) (j : κ) (es : List (κ × β)) :
    valueOf? j (es.map fun e => (e.1, f e.1 e.2)) = (valueOf? j es).map (f j) := by
  induction es with
  | nil => rfl
  | cons e es ih =>
    obtain ⟨k, v⟩ := e
    rw [List.map_cons, valueOf?, valueOf?, ih]
    by_cases hk : k = j
    · subst hk
      simp
    · simp [hk]

theorem valueOf?_filter {κ β : Type} [DecidableEq κ] (j k : κ) (es : List (κ × β)) :
    valueOf? j (es.filter fun e => e.1 != k) = if k = j then none else valueOf? j es := by
  induction es with
  | nil => simp [valueOf?]
  | cons e es ih =>
    obtain ⟨k', v'⟩ := e
    by_cases hk : k' = k
    · have hdrop : ((k', v').1 != k) = false := by simp [hk]
      rw [List.filter_cons_of_neg (by simp [hdrop]), ih]
      by_cases hj : k = j
      · simp [hj]
      · simp [valueOf?, hk, hj]
    · rw [List.filter_cons_of_pos (by simp [hk]), valueOf?, valueOf?, ih]
      by_cases hj : k' = j
      · have hkj : k ≠ j := fun h => hk (hj.trans h.symm)
        simp [hj, hkj]
      · simp [hj]

theorem valueOf?_append {κ β : Type} [DecidableEq κ] (j : κ) (a b : List (κ × β)) :
    valueOf? j (a ++ b) = (valueOf? j a).or (valueOf? j b) := by
  induction a with
  | nil => rfl
  | cons e a ih =>
    obtain ⟨k, v⟩ := e
    rw [List.cons_append, valueOf?, valueOf?, ih]
    by_cases hj : k = j <;> simp [hj]

theorem mem_of_valueOf? {κ β : Type} [DecidableEq κ] {k : κ} {v : β} {es : List (κ × β)}
    (h : valueOf? k es = some v) : (k, v) ∈ es := by
  induction es with
  | nil => cases h
  | cons e es ih =>
    obtain ⟨j, w⟩ := e
    rw [valueOf?] at h
    split at h
    · next hj =>
      subst hj
      obtain rfl := Option.some.inj h
      exact List.mem_cons_self
    · exact List.mem_cons_of_mem _ (ih h)

/-- Of entries with keys of their own one at most has a key. -/
theorem filter_key {κ β : Type} [DecidableEq κ] {es : List (κ × β)} (h : (es.map Prod.fst).Nodup)
    (k : κ) : (es.filter fun e => e.1 = k) = (valueOf? k es).toList.map fun v => (k, v) := by
  induction es with
  | nil => rfl
  | cons e es ih =>
    obtain ⟨j, w⟩ := e
    obtain ⟨hfirst, hrest⟩ := List.nodup_cons.mp h
    rw [List.filter_cons, ih hrest, valueOf?]
    by_cases hj : j = k
    · subst hj
      have hnone : valueOf? j es = none := by
        rw [Option.eq_none_iff_forall_ne_some]
        exact fun v hv => hfirst (List.mem_map.mpr ⟨(j, v), mem_of_valueOf? hv, rfl⟩)
      simp [hnone]
    · simp [hj]

/-- Entries with keys of their own are those that are looked up. -/
theorem valueOf?_eq_some {κ β : Type} [DecidableEq κ] {es : List (κ × β)}
    (h : (es.map Prod.fst).Nodup) {k : κ} {v : β} : valueOf? k es = some v ↔ (k, v) ∈ es := by
  have hfilter : (k, v) ∈ (es.filter fun e => e.1 = k) ↔ (k, v) ∈ es := by
    simp [List.mem_filter]
  rw [← hfilter, filter_key h]
  simp

theorem IsSorted.nodup_keys {κ β : Type} [LT κ] [hirrefl : Std.Irrefl fun a b : κ => a < b]
    {es : List (κ × β)} (h : IsSorted es) : (es.map Prod.fst).Nodup := by
  refine List.pairwise_map.mpr (h.imp fun hlt heq => ?_)
  rw [heq] at hlt
  exact hirrefl.irrefl _ hlt

/-- The entries in order are those that are looked up. -/
theorem mem_iff_valueOf? {κ β : Type} [LT κ] [DecidableEq κ] [Std.Irrefl fun a b : κ => a < b]
    {k : κ} {v : β} {es : List (κ × β)} (h : IsSorted es) : (k, v) ∈ es ↔ valueOf? k es = some v :=
  (valueOf?_eq_some h.nodup_keys).symm

theorem valueOf?_of_lt {β : Type} {k : String} {es : List (String × β)} (h : ∀ e ∈ es, k < e.1) :
    valueOf? k es = none := by
  rw [Option.eq_none_iff_forall_ne_some]
  exact fun v hv => String.lt_irrefl k (h _ (mem_of_valueOf? hv))

/-- Entries in order go together one by one if their values do, key by key. -/
theorem forall₂_of_valueOf? {β γ : Type} {R : String → β → γ → Prop} {es : List (String × β)}
    {fs : List (String × γ)} (hes : IsSorted es) (hfs : IsSorted fs)
    (h : ∀ k, Option.Rel (R k) (valueOf? k es) (valueOf? k fs)) :
    List.Forall₂ (fun e f => e.1 = f.1 ∧ R e.1 e.2 f.2) es fs := by
  induction es generalizing fs with
  | nil =>
    cases fs with
    | nil => exact .nil
    | cons f fs =>
      have hfirst := h f.1
      simp only [valueOf?, if_true] at hfirst
      cases hfirst
  | cons e es ih =>
    obtain ⟨j, v⟩ := e
    obtain ⟨hbelow, hrest⟩ := List.pairwise_cons.mp hes
    cases fs with
    | nil =>
      have hfirst := h j
      simp only [valueOf?, if_true] at hfirst
      cases hfirst
    | cons f fs =>
      obtain ⟨k, w⟩ := f
      obtain ⟨hbelow', hrest'⟩ := List.pairwise_cons.mp hfs
      have hvalue : valueOf? j ((j, v) :: es) = some v := by rw [valueOf?, if_pos rfl]
      have hvalue' : valueOf? k ((k, w) :: fs) = some w := by rw [valueOf?, if_pos rfl]
      -- the lower of two first keys would have no value among the other entries
      have hjk : ¬ j < k := by
        intro hlt
        have hnone : valueOf? j ((k, w) :: fs) = none := valueOf?_of_lt fun e he => by
          rcases List.mem_cons.mp he with rfl | he
          · exact hlt
          · exact String.lt_trans hlt (hbelow' e he)
        have hfirst := h j
        rw [hvalue, hnone] at hfirst
        cases hfirst
      have hkj : ¬ k < j := by
        intro hlt
        have hnone : valueOf? k ((j, v) :: es) = none := valueOf?_of_lt fun e he => by
          rcases List.mem_cons.mp he with rfl | he
          · exact hlt
          · exact String.lt_trans hlt (hbelow e he)
        have hfirst := h k
        rw [hvalue', hnone] at hfirst
        cases hfirst
      obtain rfl : j = k := OrderedKey.eq_of_not_lt hjk hkj
      refine .cons ⟨rfl, ?_⟩ (ih hrest hrest' fun i => ?_)
      · have hfirst := h j
        rw [hvalue, hvalue'] at hfirst
        cases hfirst with
        | some hvw => exact hvw
      · by_cases hi : j = i
        · subst hi
          rw [valueOf?_of_lt hbelow, valueOf?_of_lt hbelow']
          exact .none
        · have hrel := h i
          rwa [valueOf?, valueOf?, if_neg hi, if_neg hi] at hrel

/-- An entry beyond all others goes to the end. -/
theorem place_last {β : Type} {k : String} {v : β} {es : List (String × β)}
    (h : ∀ e ∈ es, e.1 < k) : place k v es = es ++ [(k, v)] := by
  induction es with
  | nil => rfl
  | cons e es ih =>
    obtain ⟨k', v'⟩ := e
    have hlt : k' < k := h (k', v') List.mem_cons_self
    have hnot : ¬ k < k' := fun hgt => String.lt_irrefl k (String.lt_trans hgt hlt)
    have hne : k ≠ k' := by
      rintro rfl
      exact String.lt_irrefl k hlt
    rw [place, if_neg hnot, if_neg hne, ih fun e he => h e (List.mem_cons_of_mem _ he)]
    rfl

namespace Table

theorem get?_empty {κ β : Type} [LT κ] [DecidableEq κ] (j : κ) :
    (empty : Table κ β).get? j = none := rfl

theorem get?_insert {κ β : Type} [LT κ] [DecidableLT κ] [DecidableEq κ] [OrderedKey κ]
    (t : Table κ β) (j k : κ) (v : β) :
    (t.insert k v).get? j = if k = j then some v else t.get? j :=
  valueOf?_place j k v t.entries

theorem get?_erase {κ β : Type} [LT κ] [DecidableEq κ] (t : Table κ β) (j k : κ) :
    (t.erase k).get? j = if k = j then none else t.get? j :=
  valueOf?_filter j k t.entries

/-! ### Changed values -/

theorem get?_mapValues {κ β γ : Type} [LT κ] [DecidableEq κ] (t : Table κ β) (f : κ → β → γ) (j : κ) :
    (t.mapValues f).get? j = (t.get? j).map (f j) :=
  valueOf?_map f j t.entries

theorem contains_mapValues {κ β γ : Type} [LT κ] [DecidableEq κ] (t : Table κ β) (f : κ → β → γ)
    (j : κ) : (t.mapValues f).contains j = t.contains j := by
  rw [contains, get?_mapValues, Option.isSome_map, contains]

theorem mapValues_insert {κ β γ : Type} [LT κ] [DecidableLT κ] [DecidableEq κ] [OrderedKey κ]
    (t : Table κ β) (f : κ → β → γ) (k : κ) (v : β) :
    (t.insert k v).mapValues f = (t.mapValues f).insert k (f k v) :=
  ext_entries (map_place f k v t.entries)

theorem mapValues_erase {κ β γ : Type} [LT κ] [DecidableEq κ] (t : Table κ β) (f : κ → β → γ) (k : κ) :
    (t.erase k).mapValues f = (t.mapValues f).erase k := by
  apply ext_entries
  simp only [erase, filterKeys, mapValues, List.filter_map]
  rfl

/-! ### Entries -/

/-- Sorted entries fill a table in their order. -/
theorem entries_foldl_insert {β : Type} (es : List (String × β)) (t : Table String β)
    (h : IsSorted (t.entries ++ es)) :
    (es.foldl (fun t e => t.insert e.1 e.2) t).entries = t.entries ++ es := by
  induction es generalizing t with
  | nil => simp
  | cons e es ih =>
    have hbelow : ∀ d ∈ t.entries, d.1 < e.1 := fun d hd =>
      (List.pairwise_append.mp h).2.2 d hd e List.mem_cons_self
    have hentries : (t.insert e.1 e.2).entries = t.entries ++ [e] := place_last hbelow
    rw [List.foldl_cons, ih _ (by rwa [hentries, List.append_assoc, List.singleton_append]),
      hentries, List.append_assoc, List.singleton_append]

/-- A table is the table of its entries. -/
theorem foldl_insert_entries {β : Type} (t : Table String β) :
    t.entries.foldl (fun t e => t.insert e.1 e.2) empty = t := by
  apply ext_entries
  exact entries_foldl_insert t.entries empty t.sorted

/-- Two tables in which the same is looked up are equal. -/
theorem ext_get? {β : Type} {s t : Table String β} (h : ∀ k, s.get? k = t.get? k) : s = t := by
  have hnodup : ∀ u : Table String β, u.entries.Nodup := by
    intro u
    refine u.sorted.imp ?_
    intro a b hab heq
    rw [heq] at hab
    exact String.lt_irrefl b.1 hab
  have hmem : ∀ e, e ∈ s.entries ↔ e ∈ t.entries := by
    intro e
    rw [mem_iff_valueOf? s.sorted, mem_iff_valueOf? t.sorted]
    exact iff_of_eq (congrArg (· = some e.2) (h e.1))
  have hperm : s.entries.Perm t.entries :=
    (List.perm_ext_iff_of_nodup (hnodup s) (hnodup t)).mpr hmem
  apply ext_entries
  apply hperm.eq_of_pairwise _ s.sorted t.sorted
  intro a b _ _ hab hba
  exact absurd (String.lt_trans hab hba) (String.lt_irrefl _)

theorem insert_comm {β : Type} (t : Table String β) {j k : String} (hne : j ≠ k) (v w : β) :
    (t.insert j v).insert k w = (t.insert k w).insert j v := by
  apply ext_get?
  intro i
  simp only [get?_insert]
  by_cases hj : j = i
  · have hk : k ≠ i := fun hk => hne (hj.trans hk.symm)
    simp [hj, hk]
  · simp [hj]

/-- A table is the table of its entries in any order. -/
theorem foldl_insert_perm {β : Type} (t : Table String β) {es : List (String × β)}
    (h : es.Perm t.entries) : es.foldl (fun t e => t.insert e.1 e.2) empty = t := by
  have hsame : ∀ a ∈ es, ∀ b ∈ es, a.1 = b.1 → a = b := by
    intro a ha b hb hkey
    have hfirst := (mem_iff_valueOf? t.sorted).mp (h.mem_iff.mp ha)
    have hsecond := (mem_iff_valueOf? t.sorted).mp (h.mem_iff.mp hb)
    rw [hkey, hsecond] at hfirst
    exact Prod.ext hkey (Option.some.inj hfirst).symm
  have hfold := h.foldl_eq' (f := fun (t : Table String β) e => t.insert e.1 e.2) (by
    intro a ha b hb u
    by_cases hkey : a.1 = b.1
    · rw [hsame a ha b hb hkey]
    · exact insert_comm u hkey a.2 b.2) empty
  rw [hfold, foldl_insert_entries]

end Table

end Companion
