import Companion.Directive.Reply
import Companion.Proofs.Scanning
import Companion.Proofs.ValueEnds
import Mathlib.Data.List.Forall2

/-!
Which directives of a text are carried out. A directive is carried out if a JSON object stands between
its tag and the bracket that ends it, and dropped otherwise. One that runs to the first bracket only
is always dropped: an object there would have been found as a value, because an object has its own
end.
-/

namespace Companion

open Text Json

/-- A payload stands in a text between the tag of a directive and the bracket that ends it, with blanks
around it. -/
structure Tagged.Stands (text : List Char) (t : Tagged) (payload before gap gap' after : List Char) :
    Prop where
  text_eq : text = before ++ (t.kind.tag ++ (gap ++ (payload ++ (gap' ++ ']' :: after))))
  blank : AllBlank gap
  blank' : AllBlank gap'
  starts : trimStart payload = payload
  ends : trimEnd payload = payload
  span : t.span = ⟨before.length, text.length - after.length⟩

/-- Between the tag of a directive and the bracket that ends it there is a JSON object, with nothing but
blanks around it. -/
def Tagged.HoldsObject (text : List Char) (t : Tagged) : Prop :=
  ∃ object members, parse object = .ok (.object members) ∧
    ∃ before gap gap' after, t.Stands text object before gap gap' after

section Stands

variable {text payload before gap gap' after : List Char} {t : Tagged}

/-- The payload of a directive that was found stands in the text. -/
theorem stands_of_mem_scan (h : t ∈ scan text) :
    ∃ before gap gap' after, t.Stands text t.payload before gap gap' after := by
  obtain ⟨before, body, room, htext, hroom, _, hfound⟩ := scan_sound h
  rcases found?_sound htext hroom hfound with hvalue | hbracket
  · obtain ⟨before, body, gap, gap', after, htext, hcloses, hspan⟩ := hvalue
    rw [hcloses.body_eq] at htext
    exact ⟨before, gap, gap', after, htext, hcloses.blank, hcloses.blank', hcloses.starts,
      hcloses.isValue.trimEnd_eq, hspan⟩
  · obtain ⟨before, inner, after, htext, _, _, hpayload, hspan⟩ := hbracket
    obtain ⟨gap, gap', hgap, hgap', hinner⟩ := trim_eq inner
    rw [← hpayload] at hinner
    refine ⟨before, gap, gap', after, ?_, hgap, hgap', ?_, ?_, hspan⟩
    · rw [htext, hinner]
      simp only [List.append_assoc]
    · rw [hpayload]
      exact trimStart_trim inner
    · rw [hpayload]
      exact trimEnd_trim inner

/-- An object that stands behind a tag is found there as a value. -/
theorem Tagged.Stands.located (h : t.Stands text payload before gap gap' after)
    {members : List (String × Value)} (hparse : parse payload = .ok (.object members)) :
    ∃ length, locateJson? (text.drop (t.span.start + tagLength)) = some ⟨payload, length⟩ := by
  have hbody : text.drop (t.span.start + tagLength) =
      gap ++ (payload ++ (gap' ++ ']' :: after)) := by
    have hplace : t.span.start + tagLength = (before ++ t.kind.tag).length := by
      rw [h.span, List.length_append, length_tag]
    rw [hplace, h.text_eq, ← List.append_assoc before, List.drop_left]
  refine ⟨_, locateJson?_eq_some.mpr ⟨gap, payload, gap', after, ?_, rfl⟩⟩
  exact ⟨hbody, h.blank, h.blank', h.starts, skipPlain_object hparse h.ends _⟩

/-- The object that stands behind a tag is the payload of the directive. -/
theorem payload_of_stands (hmem : t ∈ scan text) (h : t.Stands text payload before gap gap' after)
    {members : List (String × Value)} (hparse : parse payload = .ok (.object members)) :
    t.payload = payload := by
  obtain ⟨front, body, room, htext, _, hstart, hfound⟩ := scan_sound hmem
  obtain ⟨found, hlocate, ht⟩ := found?_eq_some.mp hfound
  obtain ⟨length, hjson⟩ := h.located hparse
  have hbody : text.drop (t.span.start + tagLength) = body := by
    have hplace : t.span.start + tagLength = (front ++ t.kind.tag).length := by
      rw [hstart, List.length_append, length_tag]
    rw [hplace, htext, ← List.append_assoc front, List.drop_left]
  rw [hbody] at hjson
  have hsame : found = ⟨payload, length⟩ := by
    rw [locate?, hjson] at hlocate
    exact (Option.some.inj hlocate).symm
  have hpayload := congrArg Tagged.payload ht
  rw [hpayload, hsame]
  show trim payload = payload
  rw [trim, h.starts, h.ends]

/-- A directive that was found holds an object if its payload is one. -/
theorem holdsObject_iff (hmem : t ∈ scan text) :
    t.HoldsObject text ↔ ∃ members, parse t.payload = .ok (.object members) := by
  constructor
  · intro h
    obtain ⟨object, members, hparse, before, gap, gap', after, hstands⟩ := h
    refine ⟨members, ?_⟩
    rw [payload_of_stands hmem hstands hparse]
    exact hparse
  · intro h
    obtain ⟨members, hparse⟩ := h
    exact ⟨t.payload, members, hparse, stands_of_mem_scan hmem⟩

end Stands

/-! ### Reading payloads -/

theorem parsePayload_isOk (payload : List Char) :
    (parsePayload payload).isOk = true ↔ ∃ members, parse payload = .ok (.object members) := by
  rw [parsePayload]
  split
  · next members h => simp [h, Except.isOk, Except.toBool]
  · next v hnot h =>
    simp only [h, Except.isOk, Except.toBool, Bool.false_eq_true, false_iff, not_exists]
    intro members hv
    exact hnot members (Except.ok.inj hv)
  · next f h => simp [h, Except.isOk, Except.toBool]

theorem isOk_map {ε α β : Type} (f : α → β) (x : Except ε α) : (x.map f).isOk = x.isOk := by
  cases x <;> rfl

/-- A directive is read if its payload is an object. -/
theorem Tagged.read_isOk (settings : DirectiveSettings) (t : Tagged) :
    (t.read settings).isOk = (parsePayload t.payload).isOk := by
  have herror : ∀ {ε ε' α : Type} (f : ε → ε') (x : Except ε α), (x.mapError f).isOk = x.isOk := by
    intro ε ε' α f x
    cases x <;> rfl
  rw [Tagged.read, herror]
  cases t.kind with
  | update => rw [isOk_map, parseUpdate, isOk_map]
  | remind => rw [isOk_map, parseReminder, isOk_map]

theorem read_isOk_iff {text : List Char} {t : Tagged} (hmem : t ∈ scan text)
    (settings : DirectiveSettings) : (t.read settings).isOk = true ↔ t.HoldsObject text := by
  rw [t.read_isOk, parsePayload_isOk, holdsObject_iff hmem]

/-! ### Accounting -/

/-- The order of processing leaves out no directive and repeats none. -/
theorem inOrder_perm (order : ScanOrder) (found : List Tagged) : (inOrder order found).Perm found := by
  cases order with
  | sourceOrder => exact .refl found
  | kindGrouped =>
    have hother : ∀ t : Tagged, (t.kind == .remind) = !(t.kind == .update) := by
      intro t
      cases t.kind <;> rfl
    rw [inOrder, funext hother]
    exact List.filter_append_perm _ found

section Results

variable {ε α β : Type} (f : α → Except ε β)

theorem successes_map (xs : List α) :
    List.Forall₂ (fun x y => f x = .ok y) (xs.filter fun x => (f x).isOk) (successes (xs.map f)) := by
  induction xs with
  | nil => exact .nil
  | cons x xs ih =>
    cases hx : f x with
    | ok y =>
      rw [List.filter_cons_of_pos (by rw [hx]; rfl), List.map_cons, hx]
      exact .cons hx ih
    | error e =>
      rw [List.filter_cons_of_neg (by rw [hx]; exact Bool.false_ne_true), List.map_cons, hx]
      exact ih

theorem failures_map (xs : List α) :
    List.Forall₂ (fun x e => f x = .error e) (xs.filter fun x => !(f x).isOk)
      (failures (xs.map f)) := by
  induction xs with
  | nil => exact .nil
  | cons x xs ih =>
    cases hx : f x with
    | ok y =>
      rw [List.filter_cons_of_neg (by rw [hx]; exact Bool.false_ne_true), List.map_cons, hx]
      exact ih
    | error e =>
      rw [List.filter_cons_of_pos (by rw [hx]; rfl), List.map_cons, hx]
      exact .cons hx ih

end Results

theorem scan_nodup (text : List Char) : (scan text).Nodup := by
  refine (List.Pairwise.and_mem.mp (scan_pairwise text)).imp ?_
  intro t u h heq
  obtain ⟨ht, _, hapart⟩ := h
  have hlt := start_lt_stop ht
  rw [← heq] at hapart
  omega

/-- Each directive that was found is carried out or dropped, and none is twice. It is carried out if a
JSON object stands between its tag and the bracket that ends it. So one whose payload is no JSON value
with a bracket behind it is dropped. -/
theorem Reply.parse_accounts (settings : DirectiveSettings) (generated : String) :
    (scan generated.toList).Nodup ∧ ∃ taken lost,
      (taken ++ lost).Perm (scan generated.toList) ∧
      taken.Sublist (inOrder settings.scanOrder (scan generated.toList)) ∧
      lost.Sublist (inOrder settings.scanOrder (scan generated.toList)) ∧
      List.Forall₂ (fun t d => t.read settings = .ok d) taken
        (Reply.parse settings generated).directives ∧
      List.Forall₂ (fun t e => t.read settings = .error e) lost
        (Reply.parse settings generated).dropped ∧
      ∀ t ∈ scan generated.toList,
        (t ∈ taken ↔ t.HoldsObject generated.toList) ∧
        (t ∈ lost ↔ ¬ t.HoldsObject generated.toList) ∧
        (locateJson? (generated.toList.drop (t.span.start + tagLength)) = none → t ∈ lost) := by
  have hperm := inOrder_perm settings.scanOrder (scan generated.toList)
  refine ⟨scan_nodup _, (inOrder settings.scanOrder (scan generated.toList)).filter
    (fun t => (t.read settings).isOk), (inOrder settings.scanOrder (scan generated.toList)).filter
    (fun t => !(t.read settings).isOk), ?_, List.filter_sublist, List.filter_sublist,
    successes_map _ _, failures_map _ _, ?_⟩
  · exact (List.filter_append_perm _ _).trans hperm
  · intro t ht
    have hread := read_isOk_iff ht settings
    have horder := hperm.mem_iff.mpr ht
    have hlost : t ∈ (inOrder settings.scanOrder (scan generated.toList)).filter
        (fun t => !(t.read settings).isOk) ↔ ¬ t.HoldsObject generated.toList := by
      rw [List.mem_filter, ← hread]
      simp [horder]
    refine ⟨?_, hlost, ?_⟩
    · rw [List.mem_filter, ← hread]
      simp [horder]
    · intro hnone
      apply hlost.mpr
      intro hholds
      obtain ⟨object, members, hparse, before, gap, gap', after, hstands⟩ := hholds
      obtain ⟨length, hlocated⟩ := hstands.located hparse
      rw [hnone] at hlocated
      exact nomatch hlocated

end Companion
