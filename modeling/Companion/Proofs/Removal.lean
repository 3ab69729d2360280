import Companion.Proofs.Leftovers
import Companion.Proofs.OctetParts

/-!
Taking spans out of a text. The text falls into pieces before, between and after the spans. The first
and the last piece stay, those between stay if they are not blank, and the result is trimmed. So all
that is lost outside the spans are blanks. A program that works with octets walks over the spans once
and takes parts of the text on the way; it never asks for a part that cannot be taken.
-/

namespace Companion

open Text

/-! ### What is visible -/

def inked (cs : List Char) : List Char := cs.filter fun c => !isBlank c

section Inked

variable {cs : List Char}

@[simp] theorem inked_append (a b : List Char) : inked (a ++ b) = inked a ++ inked b :=
  List.filter_append a b

theorem inked_eq_nil : inked cs = [] ↔ AllBlank cs := by
  rw [inked, List.filter_eq_nil_iff]
  simp only [Bool.not_eq_true', Bool.not_eq_false, AllBlank]

theorem inked_trim (cs : List Char) : inked (trim cs) = inked cs := by
  obtain ⟨gap, gap', hgap, hgap', hcs⟩ := trim_eq cs
  conv_rhs => rw [hcs]
  rw [inked_append, inked_append, inked_eq_nil.mpr hgap, inked_eq_nil.mpr hgap', List.nil_append,
    List.append_nil]

/-- Nothing is left of a text by trimming just if all of it is blank. -/
theorem trim_eq_nil : trim cs = [] ↔ AllBlank cs := by
  constructor
  · intro h
    rw [← inked_eq_nil, ← inked_trim, h]
    rfl
  · intro h
    have hstart := trimStart_append h []
    rw [List.append_nil] at hstart
    rw [trim, hstart]
    rfl

end Inked

/-! ### Pieces put together -/

/-- The pieces after the first span put together: the blank ones go, except the last. -/
def joined : List (List Char) → List Char
  | [] => []
  | [last] => last
  | piece :: next :: rest => (if piece.all isBlank then [] else piece) ++ joined (next :: rest)

/-- The pieces between the first one and the last one go if they are blank. -/
theorem joined_eq (middle : List (List Char)) (last : List Char) :
    joined (middle ++ [last]) = (middle.filter fun p => !p.all isBlank).flatten ++ last := by
  induction middle with
  | nil => rfl
  | cons piece middle ih =>
    obtain ⟨next, rest, hrest⟩ : ∃ next rest, middle ++ [last] = next :: rest :=
      List.exists_cons_of_ne_nil (by simp)
    rw [List.cons_append, hrest, joined, ← hrest, ih]
    cases hblank : piece.all isBlank with
    | true => simp [hblank]
    | false => simp [hblank]

theorem inked_joined (pieces : List (List Char)) : inked (joined pieces) = inked pieces.flatten := by
  induction pieces using joined.induct with
  | case1 => rfl
  | case2 last => simp [joined]
  | case3 piece next rest ih =>
    have hflatten : (piece :: next :: rest).flatten = piece ++ (next :: rest).flatten := rfl
    rw [joined, inked_append, ih, hflatten, inked_append]
    split
    · next hblank =>
      have hnone : inked piece = [] := inked_eq_nil.mpr (List.all_eq_true.mp hblank)
      rw [hnone]
      rfl
    · rfl

section Pieces

variable {text : List Char}

theorem piecesBetween_ne_nil (text : List Char) (cursor : Nat) (spans : List Span) :
    piecesBetween text cursor spans ≠ [] := by
  cases spans <;> simp [piecesBetween]

theorem length_piecesBetween (text : List Char) (cursor : Nat) (spans : List Span) :
    (piecesBetween text cursor spans).length = spans.length + 1 := by
  induction spans generalizing cursor with
  | nil => rfl
  | cons s spans ih => rw [piecesBetween, List.length_cons, List.length_cons, ih]

/-- Where spans are joined, the pieces around them are put together. -/
theorem without_joinSpans (text : List Char) (cursor : Nat) (s : Span) (spans : List Span) :
    without text cursor (joinSpans text (s :: spans)) =
      slice text cursor s.start ++ joined (piecesBetween text s.stop spans) := by
  induction spans generalizing cursor s with
  | nil => simp [joinSpans, without, piecesBetween, joined]
  | cons t spans ih =>
    obtain ⟨next, rest, hrest⟩ := List.exists_cons_of_ne_nil (piecesBetween_ne_nil text t.stop spans)
    have hjoined : joined (piecesBetween text s.stop (t :: spans)) =
        (if (slice text s.stop t.start).all isBlank then [] else slice text s.stop t.start) ++
          joined (piecesBetween text t.stop spans) := by
      rw [piecesBetween, hrest, joined]
    rw [joinSpans, hjoined]
    split
    · exact ih cursor ⟨s.start, t.stop⟩
    · rw [without, ih s.stop t]

theorem strip_nil (text : List Char) : strip text [] = trim text := by
  simp [strip, joinSpans, without]

theorem strip_cons (text : List Char) (s : Span) (spans : List Span) :
    strip text (s :: spans) =
      trim (slice text 0 s.start ++ joined (piecesBetween text s.stop spans)) := by
  rw [strip, without_joinSpans]

/-- The pieces before and after all spans are visible, and those between that are not blank. -/
theorem strip_pieces (text : List Char) {spans : List Span} (h : spans ≠ []) :
    ∃ first middle last, piecesBetween text 0 spans = first :: (middle ++ [last]) ∧
      strip text spans =
        trim (first ++ ((middle.filter fun p => !p.all isBlank).flatten ++ last)) := by
  obtain ⟨s, rest, rfl⟩ := List.exists_cons_of_ne_nil h
  have hne := piecesBetween_ne_nil text s.stop rest
  have hlast := List.dropLast_append_getLast hne
  refine ⟨slice text 0 s.start, (piecesBetween text s.stop rest).dropLast,
    (piecesBetween text s.stop rest).getLast hne, ?_, ?_⟩
  · rw [hlast, piecesBetween]
  · rw [strip_cons, ← joined_eq, hlast]

/-- The pieces that stay: the first and the last one, and those between that are not blank. -/
def lasting : List (List Char) → List (List Char)
  | [] => []
  | first :: rest => first :: (rest.dropLast.filter fun p => !p.all isBlank) ++ rest.getLast?.toList

theorem strip_eq_lasting (text : List Char) (spans : List Span) :
    strip text spans = trim (lasting (piecesBetween text 0 spans)).flatten := by
  cases spans with
  | nil => simp [strip_nil, piecesBetween, lasting]
  | cons s rest =>
    obtain ⟨first, middle, last, hpieces, hstrip⟩ := strip_pieces text (List.cons_ne_nil s rest)
    rw [hstrip, hpieces]
    simp [lasting]

/-- Stripping keeps each symbol outside the spans that is not blank, and no other. -/
theorem inked_strip (text : List Char) (spans : List Span) :
    inked (strip text spans) = inked (piecesBetween text 0 spans).flatten := by
  cases spans with
  | nil => simp [strip_nil, piecesBetween, inked_trim]
  | cons s rest =>
    rw [strip_cons, inked_trim, inked_append, inked_joined, piecesBetween, List.flatten_cons,
      inked_append]

theorem strip_eq_nil (text : List Char) (spans : List Span) :
    strip text spans = [] ↔ AllBlank (piecesBetween text 0 spans).flatten := by
  have htrimmed : trim (strip text spans) = strip text spans := trim_trim _
  rw [← htrimmed, trim_eq_nil, ← inked_eq_nil, inked_strip, inked_eq_nil]

end Pieces

/-! ### Spans in octets -/

/-- Spans in octets that can be cut out of a text: in order and apart, and each of them from one place
between two characters to another. -/
structure Cuttable (text : String) (spans : List Span) : Prop where
  apart : spans.Pairwise fun s t => s.stop ≤ t.start
  runs : ∀ s ∈ spans, s.start ≤ s.stop
  valid : ∀ s ∈ spans, (⟨s.start⟩ : String.Pos.Raw).IsValid text ∧
    (⟨s.stop⟩ : String.Pos.Raw).IsValid text

def octetPieces? (text : List Char) : (cursor : Nat) → List Span → Option (List (List Char))
  | cursor, [] => (behind? cursor text).map ([·])
  | cursor, s :: spans => do
    let piece ← part? cursor s.start text
    let pieces ← octetPieces? text s.stop spans
    some (piece :: pieces)

/-- What is left of a text from an octet on without a block, from `start` to before `stop`, and the
spans after it. A span joins the block as long as there are only blanks between the two. -/
def withoutOctets (text : List Char) : (cursor start stop : Nat) → List Span → Option (List Char)
  | cursor, start, stop, [] => do
    let kept ← part? cursor start text
    let rest ← behind? stop text
    some (kept ++ rest)
  | cursor, start, stop, s :: spans => do
    let gap ← part? stop s.start text
    if gap.all isBlank then withoutOctets text cursor start s.stop spans
    else
      let kept ← part? cursor start text
      let rest ← withoutOctets text stop s.start s.stop spans
      some (kept ++ rest)

/-- `strip` for spans in octets. There is no result if a part is asked for that cannot be taken. -/
def stripOctets (text : List Char) : List Span → Option (List Char)
  | [] => (behind? 0 text).map trim
  | s :: spans => (withoutOctets text 0 s.start s.stop spans).map trim

section Octets

variable {spans : List Span} {cursor : Nat}

structure Follows (cursor : Nat) (spans : List Span) : Prop where
  apart : spans.Pairwise fun s t => s.stop ≤ t.start
  runs : ∀ s ∈ spans, cursor ≤ s.start ∧ s.start ≤ s.stop

theorem Follows.tail {s : Span} (h : Follows cursor (s :: spans)) : Follows s.stop spans where
  apart := (List.pairwise_cons.mp h.apart).2
  runs t ht := ⟨(List.pairwise_cons.mp h.apart).1 t ht, (h.runs t (List.mem_cons_of_mem s ht)).2⟩

/-- Two spans in a row and what lies between them go as one. -/
theorem Follows.joins {s t : Span} (h : Follows cursor (s :: t :: spans)) :
    Follows cursor (⟨s.start, t.stop⟩ :: spans) where
  apart := List.pairwise_cons.mpr (List.pairwise_cons.mp (List.pairwise_cons.mp h.apart).2)
  runs u hu := by
    rcases List.mem_cons.mp hu with hsame | hu
    · have hs := h.runs s List.mem_cons_self
      have ht := h.tail.runs t List.mem_cons_self
      rw [hsame]
      dsimp only
      omega
    · exact h.runs u (List.mem_cons_of_mem s (List.mem_cons_of_mem t hu))

theorem octetPieces?_inOctets (text : List Char) (h : Follows cursor spans) :
    octetPieces? text (octetsBefore text cursor) (spans.map (Span.inOctets text)) =
      some (piecesBetween text cursor spans) := by
  induction spans generalizing cursor with
  | nil => simp [octetPieces?, piecesBetween, behind?_place]
  | cons s spans ih =>
    have hpart := part?_place text (h.runs s List.mem_cons_self).1
    rw [List.map_cons, octetPieces?, Span.inOctets_eq, hpart]
    simp only [Option.bind_eq_bind, Option.bind_some]
    rw [ih h.tail]
    rfl

/-- Walking over the spans in octets comes to what joining them in characters leaves. -/
theorem withoutOctets_inOctets (text : List Char) {s : Span} (h : Follows cursor (s :: spans)) :
    withoutOctets text (octetsBefore text cursor) (octetsBefore text s.start)
        (octetsBefore text s.stop) (spans.map (Span.inOctets text)) =
      some (without text cursor (joinSpans text (s :: spans))) := by
  induction spans generalizing cursor s with
  | nil =>
    have hpart := part?_place text (h.runs s List.mem_cons_self).1
    rw [List.map_nil, withoutOctets, hpart, behind?_place]
    simp [joinSpans, without]
  | cons t spans ih =>
    have hpart := part?_place text (h.runs s List.mem_cons_self).1
    have hgap := part?_place text (h.tail.runs t List.mem_cons_self).1
    rw [List.map_cons, withoutOctets, Span.inOctets_eq, hgap, hpart, joinSpans]
    simp only [Option.bind_eq_bind, Option.bind_some]
    split
    · exact ih h.joins
    · rw [ih h.tail, without]
      rfl

theorem stripOctets_inOctets (text : List Char) (h : Follows 0 spans) :
    stripOctets text (spans.map (Span.inOctets text)) = some (strip text spans) := by
  have hzero : octetsBefore text 0 = 0 := rfl
  cases spans with
  | nil =>
    have hall := behind?_place text 0
    rw [hzero] at hall
    rw [List.map_nil, stripOctets, hall, strip_nil]
    rfl
  | cons s spans =>
    have hwithout := withoutOctets_inOctets text h
    rw [hzero] at hwithout
    rw [List.map_cons, stripOctets, Span.inOctets_eq, hwithout]
    rfl

end Octets

section Cuttable

variable {text : String} {spans : List Span}

theorem Cuttable.valid' (h : Cuttable text spans) {s : Span} (hs : s ∈ spans) :
    (behind? s.start text.toList).isSome = true ∧ (behind? s.stop text.toList).isSome = true :=
  (h.valid s hs).imp (isSome_behind?_iff text s.start).mpr (isSome_behind?_iff text s.stop).mpr

/-- Spans that can be cut out are what their places in characters are in octets. -/
theorem Cuttable.inOctets_inChars (h : Cuttable text spans) :
    (spans.map (Span.inChars text.toList)).map (Span.inOctets text.toList) = spans := by
  rw [List.map_map]
  refine (List.map_congr_left fun s hs => ?_).trans (List.map_id spans)
  obtain ⟨hstart, hstop⟩ := h.valid' hs
  simp only [Function.comp_apply, Span.inChars, Span.inOctets_eq, (octetsBefore_charsWithin hstart).1,
    (octetsBefore_charsWithin hstop).1, id]

/-- Spans that can be cut out are in order and apart in characters as well. -/
theorem Cuttable.follows (h : Cuttable text spans) :
    Follows 0 (spans.map (Span.inChars text.toList)) where
  apart := by
    refine List.pairwise_map.mpr (h.apart.imp_of_mem ?_)
    intro s t hs ht hle
    exact charsWithin_le (h.valid' hs).2 (h.valid' ht).1 hle
  runs := by
    intro s hs
    obtain ⟨t, ht, rfl⟩ := List.mem_map.mp hs
    exact ⟨Nat.zero_le _, charsWithin_le (h.valid' ht).1 (h.valid' ht).2 (h.runs t ht)⟩

/-- Stripping removes the spans and nothing else. Spans in octets can be cut out if they are in order
and apart, and start and stop between two characters of the text. Then every part that is asked for
can be taken, and the text falls into one piece more than there are spans. What is visible are the
first piece, those between that are not blank, and the last one, trimmed at the two ends, or the
trimmed text if there are no spans. So each symbol of the pieces that is not blank stays, once and in
order, and no other one does; and nothing is visible just if all pieces are blank. -/
theorem strip_removes (h : Cuttable text spans) :
    let visible := strip text.toList (spans.map (Span.inChars text.toList))
    stripOctets text.toList spans = some visible ∧
    ∃ pieces, octetPieces? text.toList 0 spans = some pieces ∧
      pieces.length = spans.length + 1 ∧
      (spans = [] → visible = trim text.toList) ∧
      (spans ≠ [] → ∃ first middle last, pieces = first :: (middle ++ [last]) ∧
        visible = trim (first ++ ((middle.filter fun p => !p.all isBlank).flatten ++ last))) ∧
      inked visible = inked pieces.flatten ∧
      (visible = [] ↔ AllBlank pieces.flatten) := by
  intro visible
  have hstrip := stripOctets_inOctets text.toList h.follows
  have hpieces := octetPieces?_inOctets text.toList h.follows
  rw [h.inOctets_inChars] at hstrip hpieces
  refine ⟨hstrip, _, hpieces, ?_, ?_, ?_, inked_strip _ _, strip_eq_nil _ _⟩
  · rw [length_piecesBetween, List.length_map]
  · rintro rfl
    exact strip_nil text.toList
  · intro hne
    have hplaces : spans.map (Span.inChars text.toList) ≠ [] := by simpa using hne
    exact strip_pieces text.toList hplaces

/-- Spans behind a character of two octets: apart, with a blank between, and side by side. -/
theorem strip_removes_blocks :
    let text := "é[A] [B][C]ß [D]"
    let spans : List Span := [⟨2, 5⟩, ⟨6, 9⟩, ⟨9, 12⟩, ⟨15, 18⟩]
    Cuttable text spans ∧
      strip text.toList (spans.map (Span.inChars text.toList)) = "éß".toList := by
  intro text spans
  have hvalid : ∀ s ∈ spans, (behind? s.start text.toList).isSome = true ∧
      (behind? s.stop text.toList).isSome = true := by decide
  have hcuttable : Cuttable text spans :=
    ⟨by decide, by decide, fun s hs => (hvalid s hs).imp (isSome_behind?_iff text s.start).mp
      (isSome_behind?_iff text s.stop).mp⟩
  have hwalk : stripOctets text.toList spans = some "éß".toList := by decide
  refine ⟨hcuttable, ?_⟩
  exact Option.some.inj ((strip_removes hcuttable).1.symm.trans hwalk)

end Cuttable

end Companion
