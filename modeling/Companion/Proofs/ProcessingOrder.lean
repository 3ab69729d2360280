import Companion.Proofs.CarryingOut

/-!
The two orders of processing. Updates may be carried out first, or all directives as the text has them.
An update and a reminder touch different things, so it comes to the same: only the lists that are
reported tell the orders apart, and in these the updates have moved to the front.
-/

namespace Companion

open Time

/-! ### Grouping by kind -/

/-- Updates first and then reminders, those of one kind as they were. -/
def grouped {α : Type} (kindOf : α → DirectiveKind) (xs : List α) : List α :=
  xs.filter (kindOf · == .update) ++ xs.filter (kindOf · == .remind)

/-- Updates may stand in front of everything, and reminders behind everything. -/
def DirectiveKind.upTo (k l : DirectiveKind) : Bool := k == .update || l == .remind

theorem DirectiveKind.upTo_trans {k l m : DirectiveKind} (hkl : k.upTo l = true)
    (hlm : l.upTo m = true) : k.upTo m = true := by
  revert hkl hlm
  cases k <;> cases l <;> cases m <;> decide

theorem DirectiveKind.upTo_total (k l : DirectiveKind) : (k.upTo l || l.upTo k) = true := by
  cases k <;> cases l <;> rfl

section Grouped

variable {α β : Type} {kindOf : α → DirectiveKind} {kindOf' : β → DirectiveKind}

theorem filter_front {first later : List α} (hfirst : ∀ x ∈ first, kindOf x = .update)
    (hlater : ∀ x ∈ later, kindOf x = .remind) :
    (first ++ later).filter (kindOf · == .update) = first := by
  have hkept : first.filter (kindOf · == .update) = first := by
    apply List.filter_eq_self.mpr
    intro x hx
    rw [hfirst x hx]
    rfl
  have hgone : later.filter (kindOf · == .update) = [] := by
    apply List.filter_eq_nil_iff.mpr
    intro x hx
    rw [hlater x hx]
    decide
  rw [List.filter_append, hkept, hgone, List.append_nil]

theorem kind_of_mem_filter {xs : List α} {k : DirectiveKind} {x : α}
    (h : x ∈ xs.filter (kindOf · == k)) : kindOf x = k := by
  simpa using (List.mem_filter.mp h).2

/-- There is one way to take a grouped list apart into updates and reminders. -/
theorem grouped_split {xs first later : List α} (h : grouped kindOf xs = first ++ later)
    (hfirst : ∀ x ∈ first, kindOf x = .update) (hlater : ∀ x ∈ later, kindOf x = .remind) :
    xs.filter (kindOf · == .update) = first ∧ xs.filter (kindOf · == .remind) = later := by
  have hfront : xs.filter (kindOf · == .update) = first := by
    have hsame := congrArg (List.filter (kindOf · == .update)) h
    rwa [grouped, filter_front (fun _ => kind_of_mem_filter) (fun _ => kind_of_mem_filter),
      filter_front hfirst hlater] at hsame
  rw [grouped, hfront] at h
  exact ⟨hfront, List.append_cancel_left h⟩

/-- Grouping sorts by kind, and what is of one kind stays as it was. -/
theorem grouped_eq_mergeSort (kindOf : α → DirectiveKind) (xs : List α) :
    grouped kindOf xs = xs.mergeSort fun x y => (kindOf x).upTo (kindOf y) := by
  induction xs with
  | nil => simp [grouped]
  | cons x xs ih =>
    have hpairs := List.pairwise_mergeSort (fun x y z => (kindOf x).upTo_trans (m := kindOf z))
      (fun x y => (kindOf x).upTo_total (kindOf y)) (x :: xs)
    -- With one item more in front, the item stands behind those only that it may not precede.
    obtain ⟨first, later, hsorted, hrest, hfirst⟩ := List.mergeSort_cons
      (fun x y z => (kindOf x).upTo_trans (m := kindOf z))
      (fun x y => (kindOf x).upTo_total (kindOf y)) x xs
    rw [hsorted] at hpairs ⊢
    rw [← ih] at hrest
    cases hkind : kindOf x with
    | update =>
      have hnone : first = [] := by
        apply List.eq_nil_iff_forall_not_mem.mpr
        intro y hy
        simpa [hkind, DirectiveKind.upTo] using hfirst y hy
      rw [hnone, List.nil_append] at hrest ⊢
      rw [← hrest, grouped, List.filter_cons, List.filter_cons, hkind]
      rfl
    | remind =>
      have hupdates : ∀ y ∈ first, kindOf y = .update := by
        intro y hy
        have hnot := hfirst y hy
        cases hy' : kindOf y with
        | update => rfl
        | remind => simp [hkind, hy', DirectiveKind.upTo] at hnot
      have hreminders : ∀ y ∈ later, kindOf y = .remind := by
        intro y hy
        have hle := (List.pairwise_cons.mp (List.pairwise_append.mp hpairs).2.1).1 y hy
        simpa [hkind, DirectiveKind.upTo] using hle
      obtain ⟨hfront, hback⟩ := grouped_split hrest hupdates hreminders
      rw [grouped, List.filter_cons, List.filter_cons, hkind, hfront, hback]
      rfl

/-- What is made of single items, and keeps their kinds, is grouped as they are. -/
theorem grouped_filterMap {f : α → Option β} (h : ∀ x y, f x = some y → kindOf' y = kindOf x)
    (xs : List α) : (grouped kindOf xs).filterMap f = grouped kindOf' (xs.filterMap f) := by
  have hkind : ∀ k, (xs.filter (kindOf · == k)).filterMap f =
      (xs.filterMap f).filter (kindOf' · == k) := by
    intro k
    rw [List.filterMap_filter, List.filter_filterMap]
    refine List.filterMap_congr fun x _ => ?_
    cases hx : f x with
    | none => exact ite_self none
    | some y => rw [Option.filter_some, h x y hx]
  rw [grouped, grouped, List.filterMap_append, hkind, hkind]

/-- If a reminder and an update may change places, all steps may be taken kind by kind. -/
theorem foldl_grouped {σ : Type} {step : σ → α → σ}
    (h : ∀ s x y, kindOf x = .remind → kindOf y = .update → step (step s x) y = step (step s y) x)
    (xs : List α) (s : σ) : (grouped kindOf xs).foldl step s = xs.foldl step s := by
  -- A reminder may wait until all updates behind it are done.
  have hwaits : ∀ x, kindOf x = .remind → ∀ (ys : List α) (s : σ),
      (∀ y ∈ ys, kindOf y = .update) → ys.foldl step (step s x) = step (ys.foldl step s) x := by
    intro x hx ys
    induction ys with
    | nil => exact fun _ _ => rfl
    | cons y ys ih =>
      intro s hys
      have hy := hys y List.mem_cons_self
      have hlater := fun z hz => hys z (List.mem_cons_of_mem y hz)
      rw [List.foldl_cons, List.foldl_cons, h s x y hx hy, ih _ hlater]
  induction xs generalizing s with
  | nil => rfl
  | cons x xs ih =>
    rw [List.foldl_cons, ← ih (step s x)]
    cases hkind : kindOf x with
    | update =>
      simp only [grouped, List.filter_cons, hkind]
      rfl
    | remind =>
      have hupdates := hwaits x hkind (xs.filter (kindOf · == .update)) s fun _ => kind_of_mem_filter
      simp only [grouped, List.filter_cons, hkind, List.foldl_append, hupdates]
      rfl

end Grouped

/-! ### Replies -/

def Directive.kind : Directive → DirectiveKind
  | .update _ => .update
  | .remind _ => .remind

section Orders

variable {settings : DirectiveSettings}

/-- A directive that is carried out is of the kind of its tag. -/
theorem Tagged.kind_of_directive? {t : Tagged} {d : Directive} (h : t.directive? settings = some d) :
    d.kind = t.kind := by
  rw [directive?, asked?_eq] at h
  cases hkind : t.kind with
  | update =>
    rw [hkind] at h
    obtain ⟨members, _, rfl⟩ := Option.map_eq_some_iff.mp h
    rfl
  | remind =>
    rw [hkind] at h
    obtain ⟨reminder, _, rfl⟩ := Option.map_eq_some_iff.mp h
    rfl

/-- A directive that was dropped is of the kind of its tag. -/
theorem Tagged.kind_of_dropped {t : Tagged} {e : Dropped} (h : t.read settings = .error e) :
    e.kind = t.kind := by
  have hmap : ∀ {ε ε' α : Type} {f : ε → ε'} {x : Except ε α} {e' : ε'},
      x.mapError f = .error e' → ∃ e, e' = f e := by
    intro ε ε' α f x e' hx
    cases x with
    | ok a => exact nomatch hx
    | error e => exact ⟨e, (Except.error.inj hx).symm⟩
  obtain ⟨reason, rfl⟩ := hmap h
  rfl

/-- What is read from grouped directives is grouped, and so is what is dropped of them. -/
theorem results_grouped (settings : DirectiveSettings) (found : List Tagged) :
    successes ((grouped Tagged.kind found).map (Tagged.read settings)) =
        grouped Directive.kind (successes (found.map (Tagged.read settings))) ∧
      failures ((grouped Tagged.kind found).map (Tagged.read settings)) =
        grouped Dropped.kind (failures (found.map (Tagged.read settings))) := by
  refine ⟨?_, ?_⟩
  · rw [successes_map_eq, successes_map_eq]
    apply grouped_filterMap
    intro t d hread
    rw [t.read_toOption] at hread
    exact Tagged.kind_of_directive? hread
  · rw [failures, failures, List.filterMap_map, List.filterMap_map]
    apply grouped_filterMap
    intro t e hread
    cases hresult : t.read settings with
    | ok d =>
      rw [Function.comp_apply, hresult] at hread
      cases hread
    | error e' =>
      rw [Function.comp_apply, hresult] at hread
      rw [← Option.some.inj hread]
      exact Tagged.kind_of_dropped hresult

/-- Carrying out a reminder and an update comes to the same in either order. -/
theorem carryOut_comm (chat : Int64) (now : Instant) (e : Effects) {a b : Directive}
    (ha : a.kind = .remind) (hb : b.kind = .update) :
    (e.carryOut settings chat now a).carryOut settings chat now b =
      (e.carryOut settings chat now b).carryOut settings chat now a := by
  cases a with
  | update facts => exact nomatch ha
  | remind reminder =>
    cases b with
    | update facts => rfl
    | remind reminder => exact nomatch hb

theorem length_grouped {α : Type} (kindOf : α → DirectiveKind) (xs : List α) :
    (grouped kindOf xs).length = xs.length := by
  rw [grouped_eq_mergeSort, List.length_mergeSort]

/-- The order of processing does not change what a reply does. Whatever the text, the record and the
settings, carrying out the updates first and carrying out the directives as they come show the same
text and have the same effects: on the record and the number of facts that changed, on the schedule and
the reminders in it, and on the counters. What is reported as read, or as dropped, is the same as well,
but for the updates in front; they are put there by sorting the directives that were found by kind
without changing the order of those of a kind. -/
theorem applyReply_order (settings : DirectiveSettings) (generated : String) (chat : Int64)
    (now : Instant) (record : UserRecord) (schedule : Schedule Delivery) (counters : Counters) :
    let byKind : DirectiveSettings := { settings with scanOrder := .kindGrouped }
    let byPlace : DirectiveSettings := { settings with scanOrder := .sourceOrder }
    let sorted := applyReply byKind generated chat now record schedule counters
    let plain := applyReply byPlace generated chat now record schedule counters
    sorted.text = plain.text ∧ sorted.effects = plain.effects ∧
      (Reply.parse byKind generated).directives =
        grouped Directive.kind (Reply.parse byPlace generated).directives ∧
      sorted.dropped = grouped Dropped.kind plain.dropped ∧
      ∀ found, inOrder .kindGrouped found = found.mergeSort fun t u => t.kind.upTo u.kind := by
  intro byKind byPlace sorted plain
  obtain ⟨hread, hdropped⟩ := results_grouped settings (scan generated.toList)
  have hdirectives : (Reply.parse byKind generated).directives =
      grouped Directive.kind (Reply.parse byPlace generated).directives := hread
  have hlost : (Reply.parse byKind generated).dropped =
      grouped Dropped.kind (Reply.parse byPlace generated).dropped := hdropped
  refine ⟨rfl, ?_, hdirectives, hlost, grouped_eq_mergeSort Tagged.kind⟩
  show (Reply.parse byKind generated).directives.foldl _ _ =
    (Reply.parse byPlace generated).directives.foldl _ _
  rw [hdirectives, hlost, length_grouped]
  exact foldl_grouped (fun e _ _ => carryOut_comm chat now e) _ _

end Orders

end Companion
