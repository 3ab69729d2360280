import Companion.Directive.Reply
import Companion.Proofs.Acceptance
import Companion.Proofs.Stripping

/-!
What is left of a text when its directives are taken out. Each piece between two cuts holds no
directive. The pieces are put together, and that may complete a tag or give an open one a bracket, so
a directive may stand where there was none. A visible text stays as it is when it is taken apart again
if no tag in it has a bracket behind it, and only then.
-/

namespace Companion

open Text Json

/-! ### Texts without directives -/

/-- A tag with a bracket before the next tag becomes a directive. -/
theorem exists_found {inner after : List Char} {room : Nat} (hroom : Room (inner ++ ']' :: after) room)
    (hfirst : ']' ∉ inner) (hfree : ∀ a b k, inner ≠ a ++ (DirectiveKind.tag k ++ b))
    (k : DirectiveKind) (n : Nat) :
    ∃ t, (⟨k, n, inner ++ ']' :: after⟩ : Opener).found? room = some t ∧ t.span.start = n := by
  have hbracket := (locateBracket?_eq_some hroom).mpr ⟨inner, after, rfl, hfirst, hfree, rfl⟩
  have hlocate : ∃ found, locate? (inner ++ ']' :: after) room = some found := by
    rw [locate?]
    cases locateJson? (inner ++ ']' :: after) with
    | some found => exact ⟨found, rfl⟩
    | none => exact ⟨_, hbracket⟩
  obtain ⟨found, hfound⟩ := hlocate
  refine ⟨⟨k, ⟨n, n + tagLength + found.length⟩, trim found.payload⟩, ?_, rfl⟩
  rw [Opener.found?, hfound]
  rfl

/-- Of the tags with a bracket behind them, the last one before a bracket becomes a directive. -/
theorem exists_found_before {text a inner after : List Char} {k : DirectiveKind}
    (htext : text = a ++ (k.tag ++ (inner ++ ']' :: after))) (hfirst : ']' ∉ inner) :
    ∃ before k' body room t, text = before ++ (DirectiveKind.tag k' ++ body) ∧ Room body room ∧
      (⟨k', before.length, body⟩ : Opener).found? room = some t ∧ t.span.start = before.length ∧
      a.length ≤ before.length ∧ before.length + after.length < text.length := by
  induction hsize : inner.length using Nat.strongRecOn generalizing a inner k with
  | ind size ih =>
    by_cases htag : ∃ b c k', inner = b ++ (DirectiveKind.tag k' ++ c)
    · obtain ⟨b, c, k', rfl⟩ := htag
      have hshort : c.length < size := by
        rw [← hsize, List.length_append, List.length_append, length_tag, tagLength]
        omega
      have htext' : text = (a ++ (k.tag ++ b)) ++ (k'.tag ++ (c ++ ']' :: after)) := by
        rw [htext]
        simp only [List.append_assoc]
      have hfirst' : ']' ∉ c := by
        intro hmem
        exact hfirst (by simp [hmem])
      obtain ⟨before, k'', body, room, t, hsplit, hroom, hfound, hstart, hfront, hback⟩ :=
        ih c.length hshort htext' hfirst' rfl
      rw [List.length_append] at hfront
      exact ⟨before, k'', body, room, t, hsplit, hroom, hfound, hstart, by omega, hback⟩
    · have hfree : ∀ b c k', inner ≠ b ++ (DirectiveKind.tag k' ++ c) :=
        fun b c k' h => htag ⟨b, c, k', h⟩
      obtain ⟨room, hroom⟩ := exists_room (inner ++ ']' :: after)
      obtain ⟨t, hfound, hstart⟩ := exists_found hroom hfirst hfree k a.length
      refine ⟨a, k, _, room, t, htext, hroom, hfound, hstart, Nat.le_refl _, ?_⟩
      rw [htext]
      simp only [List.length_append, List.length_cons]
      omega

/-- The part of a text in front of its first bracket. -/
theorem exists_first_close {b : List Char} (h : ']' ∈ b) :
    ∃ inner after, b = inner ++ ']' :: after ∧ ']' ∉ inner := by
  induction b with
  | nil => exact absurd h List.not_mem_nil
  | cons c b ih =>
    by_cases hc : c = ']'
    · exact ⟨[], b, by rw [hc]; rfl, List.not_mem_nil⟩
    · have hmem : ']' ∈ b := by simpa [Ne.symm hc] using h
      obtain ⟨inner, after, rfl, hfirst⟩ := ih hmem
      refine ⟨c :: inner, after, rfl, ?_⟩
      simp [Ne.symm hc, hfirst]

/-- No tag of a text has a bracket behind it. -/
def Unclosed (text : List Char) : Prop :=
  ∀ a k b, text = a ++ (DirectiveKind.tag k ++ b) → ']' ∉ b

/-- A text holds no directive if none of its tags has a bracket behind it, and only then. -/
theorem scan_eq_nil_iff (text : List Char) : scan text = [] ↔ Unclosed text := by
  constructor
  · intro hnone a k b htext hmem
    obtain ⟨inner, after, rfl, hfirst⟩ := exists_first_close hmem
    obtain ⟨before, k', body, room, t, hsplit, hroom, hfound, _⟩ := exists_found_before htext hfirst
    have hreported : t ∈ scan text := by
      apply scan_complete hsplit hroom hfound
      intro u hu
      rw [hnone] at hu
      exact absurd hu List.not_mem_nil
    rw [hnone] at hreported
    exact absurd hreported List.not_mem_nil
  · intro hopen
    apply List.eq_nil_iff_forall_not_mem.mpr
    intro t ht
    obtain ⟨before, gap, gap', after, hstands⟩ := stands_of_mem_scan ht
    exact hopen _ _ _ hstands.text_eq (by simp)

/-! ### Pieces between cuts -/

/-- What is left of a text from `cursor` on between spans, piece by piece. -/
def piecesBetween (text : List Char) : (cursor : Nat) → List Span → List (List Char)
  | cursor, [] => [text.drop cursor]
  | cursor, s :: rest => slice text cursor s.start :: piecesBetween text s.stop rest

theorem without_eq_flatten (text : List Char) (cursor : Nat) (spans : List Span) :
    without text cursor spans = (piecesBetween text cursor spans).flatten := by
  induction spans generalizing cursor with
  | nil => simp [without, piecesBetween]
  | cons s rest ih => rw [without, piecesBetween, List.flatten_cons, ih]

/-- Joining spans leaves out pieces and adds none. -/
theorem piecesBetween_joinSpans (text : List Char) (cursor : Nat) (spans : List Span) :
    (piecesBetween text cursor (joinSpans text spans)).Sublist (piecesBetween text cursor spans) := by
  induction spans using joinSpans.induct text generalizing cursor with
  | case1 a b rest hgap ih =>
    rw [joinSpans, if_pos hgap]
    refine (ih cursor).trans ?_
    exact (List.sublist_cons_self _ _).cons_cons _
  | case2 a b rest hgap ih =>
    rw [joinSpans, if_neg hgap]
    exact (ih a.stop).cons_cons _
  | case3 spans hfew =>
    rw [joinSpans.eq_def]
    split
    · next a b rest => exact absurd rfl (hfew a b rest)
    · exact List.Sublist.refl _

/-- A piece between spans that are in order is a part of the text that none of them enters. -/
theorem mem_piecesBetween {text piece : List Char} {cursor : Nat} {spans : List Span}
    (hapart : spans.Pairwise fun s u => s.stop ≤ u.start)
    (hruns : ∀ s ∈ spans, s.start ≤ s.stop) (h : piece ∈ piecesBetween text cursor spans) :
    ∃ c d, piece = slice text c d ∧ (c = cursor ∨ ∃ s ∈ spans, c = s.stop) ∧
      ∀ s ∈ spans, s.stop ≤ c ∨ d ≤ s.start := by
  induction spans generalizing cursor with
  | nil =>
    rw [piecesBetween, List.mem_singleton] at h
    refine ⟨cursor, text.length, ?_, .inl rfl, by simp⟩
    rw [h, slice, List.take_of_length_le]
    rw [List.length_drop]
  | cons s rest ih =>
    obtain ⟨hfirst, hrest⟩ := List.pairwise_cons.mp hapart
    rcases List.mem_cons.mp h with hpiece | hlater
    · refine ⟨cursor, s.start, hpiece, .inl rfl, ?_⟩
      intro u hu
      right
      rcases List.mem_cons.mp hu with hsame | hu
      · rw [hsame]
      · exact Nat.le_trans (hruns s List.mem_cons_self) (hfirst u hu)
    · have hruns' : ∀ u ∈ rest, u.start ≤ u.stop := fun u hu => hruns u (List.mem_cons_of_mem s hu)
      obtain ⟨c, d, hpiece, hfrom, hfree⟩ := ih hrest hruns' hlater
      have hpast : s.stop ≤ c := by
        rcases hfrom with rfl | ⟨u, hu, rfl⟩
        · exact Nat.le_refl _
        · exact Nat.le_trans (hfirst u hu) (hruns' u hu)
      refine ⟨c, d, hpiece, ?_, ?_⟩
      · rcases hfrom with rfl | ⟨u, hu, rfl⟩
        · exact .inr ⟨s, List.mem_cons_self, rfl⟩
        · exact .inr ⟨u, List.mem_cons_of_mem s hu, rfl⟩
      · intro u hu
        rcases List.mem_cons.mp hu with hsame | hu
        · rw [hsame]
          exact .inl hpast
        · exact hfree u hu

/-- No directive stands in a part of a text that no directive of the text enters. -/
theorem scan_slice_eq_nil {text : List Char} {c d : Nat}
    (hfree : ∀ t ∈ scan text, t.span.stop ≤ c ∨ d ≤ t.span.start) :
    scan (slice text c d) = [] := by
  apply (scan_eq_nil_iff _).mpr
  intro a k b hslice hmem
  obtain ⟨inner, after, rfl, hfirst⟩ := exists_first_close hmem
  have hsize := congrArg List.length hslice
  simp only [slice, List.length_take, List.length_drop, List.length_append, List.length_cons] at hsize
  have htext : text = (text.take c ++ a) ++
      (k.tag ++ (inner ++ ']' :: (after ++ text.drop (c + (d - c))))) := by
    have hpart := List.take_append_drop (d - c) (text.drop c)
    rw [← slice, hslice, List.drop_drop] at hpart
    calc text = text.take c ++ text.drop c := (List.take_append_drop c text).symm
      _ = _ := by
        rw [← hpart]
        simp only [List.append_assoc, List.cons_append]
  obtain ⟨before, k', body, room, t, hsplit, hroom, hfound, hstart, hfront, hback⟩ :=
    exists_found_before htext hfirst
  -- The directive of that tag would start inside the part.
  have hfrom : c ≤ before.length := by
    rw [List.length_append, List.length_take] at hfront
    omega
  have hto : before.length < d := by
    rw [List.length_append, List.length_drop] at hback
    omega
  have hreported : t ∈ scan text := by
    apply scan_complete hsplit hroom hfound
    intro u hu hcovers
    obtain ⟨hafter, hbefore⟩ := hcovers
    rcases hfree u hu with hleft | hright
    · omega
    · omega
  have hlong := start_lt_stop hreported
  rcases hfree t hreported with hleft | hright
  · omega
  · omega

/-! ### Visible texts -/

/-- Nothing is left of a text without directives but the blanks at its ends. -/
theorem Reply.parse_of_scan_nil {settings : DirectiveSettings} {generated : String}
    (h : scan generated.toList = []) :
    Reply.parse settings generated = ⟨String.ofList (trim generated.toList), [], []⟩ := by
  have horder : inOrder settings.scanOrder [] = [] := by
    cases settings.scanOrder with
    | sourceOrder => rfl
    | kindGrouped => rfl
  rw [Reply.parse]
  simp only [h, horder, List.map_nil, strip, joinSpans, without, List.drop_zero]
  rfl

/-- A text holds no directive if none comes out of it. -/
theorem scan_eq_nil_of_parse (settings : DirectiveSettings) {generated : String}
    (hdone : (Reply.parse settings generated).directives = [])
    (hlost : (Reply.parse settings generated).dropped = []) : scan generated.toList = [] := by
  have htaken := successes_map (Tagged.read settings)
    (inOrder settings.scanOrder (scan generated.toList))
  have hdropped := failures_map (Tagged.read settings)
    (inOrder settings.scanOrder (scan generated.toList))
  have hperm := (List.filter_append_perm (fun t => (Tagged.read settings t).isOk)
    (inOrder settings.scanOrder (scan generated.toList))).trans (inOrder_perm _ _)
  rw [show successes _ = [] from hdone, List.forall₂_nil_right_iff] at htaken
  rw [show failures _ = [] from hlost, List.forall₂_nil_right_iff] at hdropped
  rw [htaken, hdropped] at hperm
  exact (List.nil_perm.mp hperm)

/-- The visible text is put together from pieces of the text that hold no directive. It holds none
itself if no tag in it has a bracket behind it, and only then does it stay as it is when it is taken
apart again. -/
theorem Reply.parse_visible (settings : DirectiveSettings) (generated : String) :
    let text := generated.toList
    let pieces := piecesBetween text 0 (joinSpans text ((scan text).map (·.span)))
    let visible := (Reply.parse settings generated).text
    visible.toList = trim pieces.flatten ∧ (∀ piece ∈ pieces, scan piece = []) ∧
      (scan visible.toList = [] ↔ Unclosed visible.toList) ∧
      (Reply.parse settings visible = ⟨visible, [], []⟩ ↔ Unclosed visible.toList) := by
  intro text pieces visible
  have hvisible : visible.toList = trim pieces.flatten := by
    show (String.ofList (strip text _)).toList = _
    rw [String.toList_ofList, strip, without_eq_flatten]
  refine ⟨hvisible, ?_, scan_eq_nil_iff _, ?_⟩
  · intro piece hpiece
    have hmem := (piecesBetween_joinSpans text 0 _).subset hpiece
    have hruns : ∀ s ∈ (scan text).map (·.span), s.start ≤ s.stop := by
      intro s hs
      obtain ⟨t, ht, hspan⟩ := List.mem_map.mp hs
      rw [← hspan]
      exact Nat.le_of_lt (start_lt_stop ht)
    obtain ⟨c, d, hslice, _, hfree⟩ :=
      mem_piecesBetween (List.pairwise_map.mpr (scan_pairwise text)) hruns hmem
    rw [hslice]
    apply scan_slice_eq_nil
    intro t ht
    exact hfree t.span (List.mem_map_of_mem ht)
  · rw [← scan_eq_nil_iff]
    constructor
    · intro hparse
      apply scan_eq_nil_of_parse settings
      · rw [hparse]
      · rw [hparse]
    · intro hnone
      rw [Reply.parse_of_scan_nil hnone]
      have hsame : String.ofList (trim visible.toList) = visible := by
        rw [hvisible, trim_trim, ← hvisible, String.ofList_toList]
      rw [hsame]

/-- A directive that is taken out of the middle of a tag leaves a tag behind, and a visible directive. -/
theorem Reply.parse_exposes :
    (Reply.parse {} "[UPD[UPDATE: \x7b\x7d]ATE: \x7b\"a\":1\x7d]").text =
      "[UPDATE: \x7b\"a\":1\x7d]" ∧
    ¬ ∀ (settings : DirectiveSettings) (generated : String),
      scan (Reply.parse settings generated).text.toList = [] := by
  have hscan : scan "[UPD[UPDATE: \x7b\x7d]ATE: \x7b\"a\":1\x7d]".toList =
      [⟨.update, ⟨4, 16⟩, "\x7b\x7d".toList⟩] := by decide
  have htext : (Reply.parse {} "[UPD[UPDATE: \x7b\x7d]ATE: \x7b\"a\":1\x7d]").text =
      "[UPDATE: \x7b\"a\":1\x7d]" := by
    rw [Reply.parse]
    dsimp only
    rw [hscan, List.map_cons, List.map_nil, strip]
    simp only [joinSpans]
    decide
  refine ⟨htext, ?_⟩
  intro hnone
  have hvisible := hnone {} "[UPD[UPDATE: \x7b\x7d]ATE: \x7b\"a\":1\x7d]"
  rw [htext] at hvisible
  exact absurd hvisible (by decide)

end Companion
