import Companion.Proofs.Tags

/-!
What is left of a text when spans are taken out of it. A part that no span meets stays, between what
is left of the text before it and what is left of the text after it.
-/

namespace Companion

open Text

/-! ### Slices -/

section Slices

variable {text : List Char} {a b c n : Nat}

theorem slice_append (hab : a ≤ b) (hbc : b ≤ c) :
    slice text a c = slice text a b ++ slice text b c := by
  have hsize : c - a = (b - a) + (c - b) := by omega
  have hplace : a + (b - a) = b := by omega
  rw [slice, slice, slice, hsize, List.take_add, List.drop_drop, hplace]

theorem slice_append_drop (hab : a ≤ b) : slice text a b ++ text.drop b = text.drop a := by
  have hplace : a + (b - a) = b := by omega
  have hsplit := List.take_append_drop (b - a) (text.drop a)
  rw [List.drop_drop, hplace] at hsplit
  exact hsplit

end Slices

/-! ### Spans that miss a part -/

/-- Spans in order from a place on, none of which meets the `size` characters at place `n`. -/
structure Misses (n size cursor : Nat) (spans : List Span) : Prop where
  apart : spans.Pairwise fun s t => s.stop ≤ t.start
  runs : ∀ s ∈ spans, cursor ≤ s.start ∧ s.start ≤ s.stop
  free : ∀ s ∈ spans, s.stop ≤ n ∨ n + size ≤ s.start

section Misses

variable {text part body : List Char} {n size cursor : Nat} {spans : List Span}

theorem Misses.tail {s : Span} (h : Misses n size cursor (s :: spans)) :
    Misses n size s.stop spans where
  apart := (List.pairwise_cons.mp h.apart).2
  runs t ht := ⟨(List.pairwise_cons.mp h.apart).1 t ht, (h.runs t (List.mem_cons_of_mem s ht)).2⟩
  free t ht := h.free t (List.mem_cons_of_mem s ht)

theorem without_sublist (h : Misses n size cursor spans) :
    (without text cursor spans).Sublist (text.drop cursor) := by
  induction spans generalizing cursor with
  | nil => exact List.Sublist.refl _
  | cons s rest ih =>
    obtain ⟨hstart, hstop⟩ := h.runs s List.mem_cons_self
    have hrest := ih h.tail
    have hpast : (text.drop s.stop).Sublist (text.drop s.start) :=
      List.drop_sublist_drop_left text hstop
    rw [without, ← slice_append_drop hstart]
    exact (List.Sublist.refl _).append (hrest.trans hpast)

/-- A part that the spans miss stays where they are taken out. -/
theorem without_keeps (hpart : text.drop n = part ++ body) (hsize : part.length = size)
    (h : Misses n size cursor spans) (hcursor : cursor ≤ n) :
    ∃ left right, without text cursor spans = left ++ (part ++ right) ∧
      left.Sublist (slice text cursor n) ∧ right.Sublist body := by
  induction spans generalizing cursor with
  | nil =>
    refine ⟨slice text cursor n, body, ?_, List.Sublist.refl _, List.Sublist.refl _⟩
    rw [without, ← hpart, slice_append_drop hcursor]
  | cons s rest ih =>
    obtain ⟨hstart, hstop⟩ := h.runs s List.mem_cons_self
    rw [without]
    rcases h.free s List.mem_cons_self with hbefore | hafter
    · obtain ⟨left, right, hrest, hleft, hright⟩ := ih h.tail hbefore
      refine ⟨slice text cursor s.start ++ left, right, ?_, ?_, hright⟩
      · rw [hrest, List.append_assoc]
      · have hsplit : slice text cursor n = slice text cursor s.start ++
            (slice text s.start s.stop ++ slice text s.stop n) := by
          rw [← slice_append hstop hbefore, ← slice_append hstart (by omega)]
        rw [hsplit]
        exact (List.Sublist.refl _).append (hleft.trans (List.sublist_append_right _ _))
    · have hbody : text.drop (n + size) = body := by
        rw [← List.drop_drop, hpart, ← hsize, List.drop_left]
      have htaken : slice text n (n + size) = part := by
        rw [slice, hpart, Nat.add_sub_cancel_left, ← hsize, List.take_left]
      refine ⟨slice text cursor n, slice text (n + size) s.start ++ without text s.stop rest, ?_,
        List.Sublist.refl _, ?_⟩
      · rw [slice_append hcursor (by omega : n ≤ s.start),
          slice_append (by omega : n ≤ n + size) hafter, htaken]
        simp only [List.append_assoc]
      · have hpast : (text.drop s.stop).Sublist (text.drop s.start) :=
          List.drop_sublist_drop_left text hstop
        rw [← hbody, ← slice_append_drop hafter]
        exact (List.Sublist.refl _).append ((without_sublist h.tail).trans hpast)

/-- Spans are not joined over a part that is not blank. -/
theorem Misses.joined {c : Char} (hpart : text.drop n = part ++ body) (hsize : part.length = size)
    (hc : c ∈ part) (hblank : isBlank c = false) (h : Misses n size cursor spans) :
    Misses n size cursor (joinSpans text spans) := by
  induction spans using joinSpans.induct text generalizing cursor with
  | case1 a b rest hgap ih =>
    rw [joinSpans, if_pos hgap]
    obtain ⟨hstart, hstop⟩ := h.runs a List.mem_cons_self
    obtain ⟨hapart, hlater⟩ := List.pairwise_cons.mp h.apart
    have hab := hapart b List.mem_cons_self
    have hb := (h.runs b (List.mem_cons_of_mem a List.mem_cons_self)).2
    refine ih ⟨?_, ?_, ?_⟩
    · refine List.pairwise_cons.mpr ⟨?_, (List.pairwise_cons.mp hlater).2⟩
      exact (List.pairwise_cons.mp hlater).1
    · intro s hs
      rcases List.mem_cons.mp hs with rfl | hs
      · exact ⟨hstart, by dsimp only; omega⟩
      · exact h.runs s (List.mem_cons_of_mem a (List.mem_cons_of_mem b hs))
    · intro s hs
      rcases List.mem_cons.mp hs with rfl | hs
      · rcases h.free b (List.mem_cons_of_mem a List.mem_cons_self) with hbefore | hafter
        · exact .inl hbefore
        · rcases h.free a List.mem_cons_self with habefore | haafter
          · -- The part would be in the blanks between the two.
            have htaken : slice text n (n + size) = part := by
              rw [slice, hpart, Nat.add_sub_cancel_left, ← hsize, List.take_left]
            have hsplit : slice text a.stop b.start = slice text a.stop n ++
                (part ++ slice text (n + size) b.start) := by
              rw [← htaken, ← slice_append (by omega) hafter, ← slice_append habefore (by omega)]
            have hmem : c ∈ slice text a.stop b.start := by simp [hsplit, hc]
            have hall := List.all_eq_true.mp hgap c hmem
            rw [hblank] at hall
            exact nomatch hall
          · exact .inr haafter
      · exact h.free s (List.mem_cons_of_mem a (List.mem_cons_of_mem b hs))
  | case2 a b rest hgap ih =>
    rw [joinSpans, if_neg hgap]
    have hrest := ih h.tail
    obtain ⟨hstart, hstop⟩ := h.runs a List.mem_cons_self
    refine ⟨List.pairwise_cons.mpr ⟨fun s hs => (hrest.runs s hs).1, hrest.apart⟩, ?_, ?_⟩
    · intro s hs
      rcases List.mem_cons.mp hs with rfl | hs
      · exact ⟨hstart, hstop⟩
      · have hlater := hrest.runs s hs
        omega
    · intro s hs
      rcases List.mem_cons.mp hs with rfl | hs
      · exact h.free s List.mem_cons_self
      · exact hrest.free s hs
  | case3 spans hshort =>
    rw [joinSpans.eq_def]
    split
    · next a b rest => exact absurd rfl (hshort a b rest)
    · exact h

/-- A part of a text that begins and ends with no blank stays when the text is stripped of spans that
miss it. -/
theorem strip_keeps (hpart : text.drop n = part ++ body) (hstart : trimStart part = part)
    (hend : trimEnd part = part) (hne : part ≠ []) (h : Misses n part.length 0 spans) :
    ∃ left right, strip text spans = left ++ (part ++ right) ∧
      left.Sublist (text.take n) ∧ right.Sublist body := by
  obtain ⟨c, hc, hblank⟩ : ∃ c ∈ part, isBlank c = false := by
    obtain ⟨c, rest, rfl⟩ := List.exists_cons_of_ne_nil hne
    exact ⟨c, List.mem_cons_self, trimStart_head hstart⟩
  obtain ⟨left, right, hkept, hleft, hright⟩ :=
    without_keeps hpart rfl (h.joined hpart rfl hc hblank) (Nat.zero_le n)
  refine ⟨trimStart left, trimEnd right, ?_, (trimStart_sublist left).trans hleft,
    (trimEnd_sublist right).trans hright⟩
  rw [strip, hkept, trim, trimStart_append_of_starts (trimStart_append_left hstart hne right),
    ← List.append_assoc, trimEnd_append_of_ends (trimEnd_append_right hend hne (trimStart left)),
    List.append_assoc]

end Misses

end Companion
