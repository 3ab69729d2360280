import Companion.Text.Octets

/-!
Octets of a text and back. The UTF-8 form of a text is read as the symbols of that text, and these
hold no stray octet.
-/

namespace Companion.Text

theorem symbolsOf_cons (c : Char) (cs : List Char) :
    symbolsOf (c :: cs) = .char c :: symbolsOf cs := rfl

theorem symbolsOf_append (a b : List Char) : symbolsOf (a ++ b) = symbolsOf a ++ symbolsOf b :=
  List.map_append

theorem length_symbolsOf (cs : List Char) : (symbolsOf cs).length = cs.length := List.length_map ..

theorem symbolsOf_injective {a b : List Char} (h : symbolsOf a = symbolsOf b) : a = b :=
  (List.map_inj_right fun _ _ => Symbol.char.inj).mp h

/-- A split of the symbols of a text is a split of the text. -/
theorem symbolsOf_eq_append {cs : List Char} {s t : List Symbol} (h : symbolsOf cs = s ++ t) :
    ∃ a b, cs = a ++ b ∧ symbolsOf a = s ∧ symbolsOf b = t :=
  List.map_eq_append_iff.mp h

theorem ofUtf8?_utf8 (cs : List Char) : ofUtf8? (utf8 cs) = some cs := by
  have hbytes : (utf8 cs).toByteArray = cs.utf8Encode := by
    apply ByteArray.ext
    simp [utf8]
  rw [ofUtf8?, hbytes, List.utf8Decode?_utf8Encode]
  simp

theorem symbolsOfOctets_utf8 (cs : List Char) : symbolsOfOctets (utf8 cs) = symbolsOf cs := by
  simp only [symbolsOfOctets, ofUtf8?_utf8]

end Companion.Text
