import Companion.Proofs.Stripping
import Mathlib.Data.String.Basic

/-!
Parts of a text by octets. A part starts and stops after a number of octets of the UTF-8 form, and it
can only be taken if both places are inside the text and between two characters. A place that counts
characters is always between two characters, and taking the part between two such places by their
octets gives the slice between them.
-/

namespace Companion.Text

/-! ### Sizes -/

@[simp] theorem utf8Size_nil : utf8Size [] = 0 := rfl

@[simp] theorem utf8Size_cons (c : Char) (cs : List Char) :
    utf8Size (c :: cs) = c.utf8Size + utf8Size cs := rfl

@[simp] theorem utf8Size_append (a b : List Char) :
    utf8Size (a ++ b) = utf8Size a + utf8Size b := by
  induction a with
  | nil => simp
  | cons c a ih => rw [List.cons_append, utf8Size_cons, utf8Size_cons, ih, Nat.add_assoc]

theorem utf8Size_pos {cs : List Char} (h : cs ≠ []) : 0 < utf8Size cs := by
  obtain ⟨c, rest, rfl⟩ := List.exists_cons_of_ne_nil h
  have hc := c.utf8Size_pos
  rw [utf8Size_cons]
  omega

theorem utf8ByteSize_eq (s : String) : s.utf8ByteSize = utf8Size s.toList := by
  have hsize : ∀ cs : List Char, (String.ofList cs).utf8ByteSize = utf8Size cs := by
    intro cs
    induction cs with
    | nil => rfl
    | cons c cs ih =>
      rw [String.ofList_cons, String.utf8ByteSize_append, String.utf8ByteSize_singleton, ih,
        utf8Size_cons]
  rw [← hsize, String.ofList_toList]

theorem utf8_append (a b : List Char) : utf8 (a ++ b) = utf8 a ++ utf8 b := by
  simp [utf8, String.ofList_append]

theorem length_utf8 (cs : List Char) : (utf8 cs).length = utf8Size cs := by
  have hsize := utf8ByteSize_eq (String.ofList cs)
  rw [String.toList_ofList] at hsize
  rw [← hsize]
  rfl

theorem octetCount_symbolsOf (cs : List Char) : octetCount (symbolsOf cs) = utf8Size cs := by
  induction cs with
  | nil => rfl
  | cons c cs ih =>
    show c.utf8Size + octetCount (symbolsOf cs) = c.utf8Size + utf8Size cs
    rw [ih]

/-- As many characters lie in the octets of a text in front as it has. -/
theorem charsWithin_front (front rest : List Char) :
    charsWithin (utf8Size front) (front ++ rest) = front.length := by
  induction front with
  | nil =>
    cases rest with
    | nil => rfl
    | cons c rest =>
      have hc := c.utf8Size_pos
      rw [List.nil_append, utf8Size_nil, charsWithin, if_neg (by omega)]
      rfl
  | cons c front ih =>
    rw [List.cons_append, charsWithin, utf8Size_cons, if_pos (Nat.le_add_right _ _),
      Nat.add_sub_cancel_left, ih, List.length_cons]

/-! ### Taking parts -/

/-- What lies behind the first `n` octets of a text. There is nothing to be had if the text is shorter
or if a character lies across the place. -/
def behind? (n : Nat) (text : List Char) : Option (List Char) :=
  let place := charsWithin n text
  if utf8Size (text.take place) = n then some (text.drop place) else none

/-- What lies from the octet `start` of a text to before the octet `stop`. -/
def part? (start stop : Nat) (text : List Char) : Option (List Char) :=
  if start ≤ stop then do
    let rest ← behind? start text
    let tail ← behind? (stop - start) rest
    some (rest.take (rest.length - tail.length))
  else none

section Parts

variable {text front part rest : List Char} {n start stop : Nat}

theorem behind?_front (front rest : List Char) :
    behind? (utf8Size front) (front ++ rest) = some rest := by
  simp [behind?, charsWithin_front]

theorem behind?_eq_some :
    behind? n text = some rest ↔ ∃ front, text = front ++ rest ∧ n = utf8Size front := by
  constructor
  · intro h
    unfold behind? at h
    dsimp only at h
    split at h
    · next hsize =>
      refine ⟨text.take (charsWithin n text), ?_, hsize.symm⟩
      rw [← Option.some.inj h, List.take_append_drop]
    · exact nomatch h
  · rintro ⟨front, rfl, rfl⟩
    exact behind?_front front rest

/-- Something can be taken from a place on if it is inside the text and between two characters, and
only then. -/
theorem isSome_behind?_iff (s : String) (n : Nat) :
    (behind? n s.toList).isSome = true ↔ (⟨n⟩ : String.Pos.Raw).IsValid s := by
  rw [Option.isSome_iff_exists, String.Pos.Raw.isValid_iff_exists_append]
  constructor
  · rintro ⟨rest, h⟩
    obtain ⟨front, htext, rfl⟩ := behind?_eq_some.mp h
    refine ⟨String.ofList front, String.ofList rest, ?_, ?_⟩
    · rw [← String.ofList_append, ← htext, String.ofList_toList]
    · rw [String.rawEndPos, utf8ByteSize_eq, String.toList_ofList]
  · rintro ⟨front, rest, rfl, hplace⟩
    refine ⟨rest.toList, behind?_eq_some.mpr ⟨front.toList, String.toList_append, ?_⟩⟩
    rw [← utf8ByteSize_eq]
    exact congrArg String.Pos.Raw.byteIdx hplace

theorem part?_front (front part rest : List Char) :
    part? (utf8Size front) (utf8Size front + utf8Size part) (front ++ (part ++ rest)) =
      some part := by
  have hsize : (part ++ rest).length - rest.length = part.length := by
    rw [List.length_append, Nat.add_sub_cancel]
  rw [part?, if_pos (Nat.le_add_right _ _), behind?_front, Nat.add_sub_cancel_left]
  simp only [Option.bind_eq_bind, Option.bind_some, behind?_front, hsize, List.take_left]

/-- What a text starts with is the part up to its size. -/
theorem part?_start (front rest : List Char) :
    part? 0 (utf8Size front) (front ++ rest) = some front := by
  have hpart := part?_front [] front rest
  rwa [utf8Size_nil, Nat.zero_add, List.nil_append] at hpart

theorem part?_eq_some : part? start stop text = some part ↔
    ∃ front rest, text = front ++ (part ++ rest) ∧ start = utf8Size front ∧
      stop = utf8Size front + utf8Size part := by
  constructor
  · intro h
    unfold part? at h
    split at h
    · next hle =>
      obtain ⟨tail, htail, hcut⟩ := Option.bind_eq_some_iff.mp h
      obtain ⟨rest, hrest, hpart⟩ := Option.bind_eq_some_iff.mp hcut
      obtain ⟨front, rfl, rfl⟩ := behind?_eq_some.mp htail
      obtain ⟨middle, rfl, hsize⟩ := behind?_eq_some.mp hrest
      have hlength : (middle ++ rest).length - rest.length = middle.length := by
        rw [List.length_append, Nat.add_sub_cancel]
      rw [hlength, List.take_left] at hpart
      obtain rfl := Option.some.inj hpart
      exact ⟨front, rest, rfl, rfl, by omega⟩
    · exact nomatch h
  · rintro ⟨front, rest, rfl, rfl, rfl⟩
    exact part?_front front part rest

/-- The octets of a part are those of the text between its places. -/
theorem utf8_part (h : part? start stop text = some part) :
    utf8 part = ((utf8 text).take stop).drop start := by
  obtain ⟨front, rest, rfl, rfl, rfl⟩ := part?_eq_some.mp h
  rw [utf8_append, utf8_append, ← List.append_assoc, List.take_left' , List.drop_left']
  · exact length_utf8 front
  · rw [List.length_append, length_utf8, length_utf8]

end Parts

end Companion.Text

namespace Companion

open Text

/-! ### Places in characters and in octets -/

def octetsBefore (text : List Char) (place : Nat) : Nat := utf8Size (text.take place)

def Span.inOctets (text : List Char) (s : Span) : Span := ⟨(s.octets text).1, (s.octets text).2⟩

theorem Span.inOctets_eq (text : List Char) (s : Span) :
    s.inOctets text = ⟨octetsBefore text s.start, octetsBefore text s.stop⟩ := rfl

def Span.inChars (text : List Char) (s : Span) : Span :=
  ⟨charsWithin s.start text, charsWithin s.stop text⟩

section Places

variable {text : List Char} {a b : Nat}

theorem octetsBefore_length (text : List Char) : octetsBefore text text.length = utf8Size text := by
  rw [octetsBefore, List.take_length]

theorem octetsBefore_front (front rest : List Char) :
    octetsBefore (front ++ rest) front.length = utf8Size front := by
  rw [octetsBefore, List.take_left]

theorem octetsBefore_inside (front inner rest : List Char) :
    octetsBefore (front ++ (inner ++ rest)) (front.length + inner.length) =
      utf8Size front + utf8Size inner := by
  rw [← List.append_assoc, ← List.length_append, octetsBefore_front, utf8Size_append]

theorem octetsBefore_split (text : List Char) (hab : a ≤ b) :
    octetsBefore text b = octetsBefore text a + utf8Size (slice text a b) := by
  have hsize : b = a + (b - a) := by omega
  rw [octetsBefore, octetsBefore, hsize, List.take_add, utf8Size_append, slice,
    Nat.add_sub_cancel_left]

theorem octetsBefore_lt (hab : a < b) (hb : b ≤ text.length) :
    octetsBefore text a < octetsBefore text b := by
  have hne : slice text a b ≠ [] := by
    apply List.ne_nil_of_length_pos
    rw [slice, List.length_take, List.length_drop]
    omega
  have hpos := utf8Size_pos hne
  have hsplit := octetsBefore_split text (Nat.le_of_lt hab)
  omega

theorem octetsBefore_le (text : List Char) (hab : a ≤ b) :
    octetsBefore text a ≤ octetsBefore text b := by
  rw [octetsBefore_split text hab]
  exact Nat.le_add_right _ _

/-- Places in octets are in the order of the places in characters. -/
theorem octetsBefore_lt_iff (hb : b ≤ text.length) :
    octetsBefore text a < octetsBefore text b ↔ a < b := by
  constructor
  · intro h
    by_contra hge
    have hle := octetsBefore_le text (Nat.le_of_not_lt hge)
    omega
  · intro hlt
    exact octetsBefore_lt hlt hb

theorem behind?_place (text : List Char) (a : Nat) :
    behind? (octetsBefore text a) text = some (text.drop a) := by
  have hfront := behind?_front (text.take a) (text.drop a)
  rwa [List.take_append_drop] at hfront

/-- The part between two places of a text is the slice between them. -/
theorem part?_place (text : List Char) (hab : a ≤ b) :
    part? (octetsBefore text a) (octetsBefore text b) text = some (slice text a b) := by
  have hpart := part?_front (text.take a) (slice text a b) (text.drop b)
  rw [slice_append_drop hab, List.take_append_drop] at hpart
  rw [octetsBefore_split text hab]
  exact hpart

section Valid

variable {m n : Nat}

/-- A place between two characters is as good in characters as it is in octets. -/
theorem octetsBefore_charsWithin (h : (behind? n text).isSome = true) :
    octetsBefore text (charsWithin n text) = n ∧ charsWithin n text ≤ text.length := by
  obtain ⟨rest, hrest⟩ := Option.isSome_iff_exists.mp h
  obtain ⟨front, rfl, rfl⟩ := behind?_eq_some.mp hrest
  rw [charsWithin_front, octetsBefore, List.take_left, List.length_append]
  exact ⟨rfl, Nat.le_add_right _ _⟩

theorem charsWithin_le (hm : (behind? m text).isSome = true) (hn : (behind? n text).isSome = true)
    (hmn : m ≤ n) : charsWithin m text ≤ charsWithin n text := by
  obtain ⟨hm, hbound⟩ := octetsBefore_charsWithin hm
  obtain ⟨hn, _⟩ := octetsBefore_charsWithin hn
  by_contra hgt
  have hlt := octetsBefore_lt (Nat.lt_of_not_le hgt) hbound
  omega

end Valid

end Places

end Companion
