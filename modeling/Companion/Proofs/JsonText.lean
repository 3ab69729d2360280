import Companion.Json.Printer
import Companion.Json.Reader
import Companion.Json.Skip
import Companion.Proofs.Octets
import Mathlib.Algebra.Ring.Int.Defs
import Mathlib.Algebra.Ring.Nat

/-!
Strings and integers in JSON are read back as they were written. A character is escaped on its own,
so one step of the reader takes what one character was written as.
-/

namespace Companion.Json

open Number Text

theorem hexValue?_hexDigit {n : Nat} (h : n < 16) : hexValue? (hexDigit n) = some n := by
  revert n
  decide

/-- What is written for a control without a letter of its own. -/
theorem printChar_control {c : Char} (h : c.toNat < 0x20)
    (hc : c ∉ ['\x08', '\x0c', '\n', '\r', '\t']) :
    printChar c =
      ['\\', 'u', '0', '0', hexDigit (c.toNat / 16), hexDigit (c.toNat % 16)] := by
  simp only [List.mem_cons, List.not_mem_nil, or_false, not_or] at hc
  obtain ⟨h8, hf, hn, hr, ht⟩ := hc
  unfold printChar
  split <;> simp_all

theorem readEscape_control {c : Char} (h : c.toNat < 0x20) (rest : List Symbol) :
    readEscape (symbolsOf ['u', '0', '0', hexDigit (c.toNat / 16), hexDigit (c.toNat % 16)] ++ rest)
      = .ok (c, rest) := by
  have hhigh := hexValue?_hexDigit (n := c.toNat / 16) (by omega)
  have hlow := hexValue?_hexDigit (n := c.toNat % 16) (by omega)
  have hzero : hexValue? '0' = some 0 := rfl
  have hcode : c.toNat / 16 * 16 + c.toNat % 16 = c.toNat := by omega
  have hsmall : ¬ (0xDC00 ≤ c.toNat ∧ c.toNat ≤ 0xDFFF) := by omega
  have hbelow : c.toNat < 0xD800 ∨ 0xDBFF < c.toNat := by omega
  simp [symbolsOf, readEscape, readCode, readHex, hhigh, hlow, hzero, hcode, hsmall, hbelow, bind,
    Except.bind]

/-- Any other character is written as it is. -/
theorem printChar_plain {c : Char} (hletter : c ∉ ['"', '\\', '\x08', '\x0c', '\n', '\r', '\t'])
    (hcontrol : ¬ c.toNat < 0x20) : printChar c = [c] := by
  simp only [List.mem_cons, List.not_mem_nil, or_false, not_or] at hletter
  unfold printChar
  split <;> simp_all

/-- One step of the reader takes what one character was written as. -/
theorem readString_printChar (n : Nat) (content : Content) (c : Char) (rest : List Symbol) :
    readString (n + 1) content (symbolsOf (printChar c) ++ rest) =
      readString n (content.push c) rest := by
  by_cases hletter : c ∈ ['"', '\\', '\x08', '\x0c', '\n', '\r', '\t']
  · simp only [List.mem_cons, List.not_mem_nil, or_false] at hletter
    rcases hletter with rfl | rfl | rfl | rfl | rfl | rfl | rfl <;> rfl
  · have hplain := printChar_plain hletter
    simp only [List.mem_cons, List.not_mem_nil, or_false, not_or] at hletter
    obtain ⟨hquote, hslash, h8, hf, hn, hr, ht⟩ := hletter
    by_cases hcontrol : c.toNat < 0x20
    · rw [printChar_control hcontrol (by simp [*])]
      have hread := readEscape_control hcontrol rest
      rw [symbolsOf_cons, List.cons_append, readString]
      simp [hread, bind, Except.bind]
    · simp [hplain hcontrol, symbolsOf, readString, hquote, hslash, hcontrol]

/-- A written string from after its opening quote on. -/
def stringTail (s : String) : List Char := s.toList.flatMap printChar ++ ['"']

theorem printString_eq (s : String) : printString s = '"' :: stringTail s := rfl

theorem readString_written (cs : List Char) (n : Nat) (content : Content) (rest : List Symbol)
    (hn : cs.length < n) (hclean : content.spoilt = none) :
    readString n content (symbolsOf (cs.flatMap printChar ++ ['"']) ++ rest) =
      .ok (content.chars.reverse ++ cs, rest) := by
  induction cs generalizing n content with
  | nil =>
    obtain ⟨m, rfl⟩ := Nat.exists_eq_succ_of_ne_zero (Nat.ne_of_gt hn)
    simp [symbolsOf, readString, Content.close, hclean]
  | cons c cs ih =>
    obtain ⟨m, rfl⟩ := Nat.exists_eq_succ_of_ne_zero (Nat.ne_of_gt (Nat.zero_lt_of_lt hn))
    have hm : cs.length < m := by simpa using hn
    have hpush : (content.push c).spoilt = none := by simp [Content.push, hclean]
    rw [List.flatMap_cons, List.append_assoc, symbolsOf_append, List.append_assoc,
      readString_printChar, ih m (content.push c) hm hpush]
    simp [Content.push]

theorem length_le_flatMap_printChar (cs : List Char) : cs.length ≤ (cs.flatMap printChar).length := by
  induction cs with
  | nil => exact Nat.le_refl _
  | cons c cs ih =>
    have hpos : 0 < (printChar c).length := by
      unfold printChar
      split <;> try simp
      split <;> simp
    simp only [List.flatMap_cons, List.length_cons, List.length_append]
    omega

/-- A string is read back as it was written. -/
theorem readText_stringTail (s : String) (rest : List Symbol) :
    readText (symbolsOf (stringTail s) ++ rest) = .ok (s, rest) := by
  have hlong := length_le_flatMap_printChar s.toList
  have hn : s.toList.length < (symbolsOf (stringTail s) ++ rest).length := by
    simp only [stringTail, List.length_append, length_symbolsOf, List.length_cons,
      List.length_nil]
    omega
  have hread := readString_written s.toList _ {} rest hn rfl
  rw [← stringTail] at hread
  rw [readText, hread]
  simp [bind, Except.bind]

/-! ### Integers -/

theorem ofDigits_append (a b : List Char) :
    ofDigits (a ++ b) = b.foldl (fun n c => 10 * n + digitValue c) (ofDigits a) :=
  List.foldl_append

theorem digitValue_digitChar {n : Nat} (h : n < 10) : digitValue n.digitChar = n := by
  revert n
  decide

/-- The digits of a number stand for it. -/
theorem ofDigits_toDigits (n : Nat) : ofDigits (Nat.toDigits 10 n) = n := by
  induction n using Nat.strongRecOn with
  | ind n ih =>
    rw [Nat.toDigits_eq_if (by decide)]
    split
    · next hn => simp [ofDigits, digitValue_digitChar hn]
    · next hn =>
      have hdigit := digitValue_digitChar (Nat.mod_lt n (by decide : 10 > 0))
      rw [ofDigits_append, ih (n / 10) (by omega)]
      simp only [List.foldl_cons, List.foldl_nil, hdigit]
      omega

theorem toDigits_isDigit {n : Nat} {c : Char} (h : c ∈ Nat.toDigits 10 n) : c.isDigit = true :=
  Nat.isDigit_of_mem_toDigits (by decide) (by decide) h

/-- Only zero is written with a zero in front. -/
theorem toDigits_leading_zero {n : Nat} {cs : List Char} (h : Nat.toDigits 10 n = '0' :: cs) :
    cs = [] := by
  induction n using Nat.strongRecOn generalizing cs with
  | ind n ih =>
    rw [Nat.toDigits_eq_if (by decide)] at h
    split at h
    · exact (List.cons.inj h).2.symm
    · next hn =>
      cases hfront : Nat.toDigits 10 (n / 10) with
      | nil => exact absurd hfront Nat.toDigits_ne_nil
      | cons c front =>
        rw [hfront, List.cons_append] at h
        obtain ⟨rfl, -⟩ := List.cons.inj h
        have hvalue := ofDigits_toDigits (n / 10)
        rw [hfront, ih (n / 10) (by omega) hfront] at hvalue
        have hzero : ofDigits ['0'] = 0 := rfl
        omega

theorem startsWith_char (p : Char → Bool) (c : Char) (rest : List Symbol) :
    startsWith p (.char c :: rest) = p c := rfl

/-- Nothing in front of the text goes on with a number. -/
def EndsNumber (rest : List Symbol) : Prop :=
  startsWith (fun c => c.isDigit || c == '.' || isExponentMark c) rest = false

theorem endsNumber_nil : EndsNumber [] := rfl

theorem endsNumber_cons {c : Char} (rest : List Symbol)
    (h : (c.isDigit || c == '.' || isExponentMark c) = false) : EndsNumber (.char c :: rest) := h

theorem EndsNumber.startsWith {rest : List Symbol} (h : EndsNumber rest) :
    startsWith Char.isDigit rest = false ∧ startsWith (· == '.') rest = false ∧
      startsWith isExponentMark rest = false := by
  rcases rest with _ | ⟨⟨c⟩ | ⟨o⟩, rest⟩
  · exact ⟨rfl, rfl, rfl⟩
  · simpa [EndsNumber, Json.startsWith, and_assoc] using h
  · exact ⟨rfl, rfl, rfl⟩

theorem takeDigits_append {ds : List Char} {rest : List Symbol} (hds : ∀ c ∈ ds, c.isDigit = true)
    (hrest : startsWith Char.isDigit rest = false) :
    takeDigits (symbolsOf ds ++ rest) = (ds, rest) := by
  induction ds with
  | nil =>
    rcases rest with _ | ⟨⟨c⟩ | ⟨o⟩, rest⟩
    · rfl
    · have hc : c.isDigit = false := hrest
      simp [symbolsOf, takeDigits, hc]
    · rfl
  | cons c ds ih =>
    have hc : c.isDigit = true := hds c List.mem_cons_self
    have htail := ih fun d hd => hds d (List.mem_cons_of_mem c hd)
    simp [symbolsOf_cons, takeDigits, hc, htail]

theorem le_foldl_digits (ds : List Char) (n : Nat) :
    n ≤ ds.foldl (fun n c => 10 * n + digitValue c) n := by
  induction ds generalizing n with
  | nil => exact Nat.le_refl n
  | cons c ds ih => exact Nat.le_trans (by omega) (ih (10 * n + digitValue c))

/-- Digits are absorbed to the last as long as their number fits. -/
theorem absorb_of_le {ds : List Char} {n : Nat}
    (h : ds.foldl (fun n c => 10 * n + digitValue c) n ≤ wordLimit) :
    absorb n ds = (ds.foldl (fun n c => 10 * n + digitValue c) n, ds.length) := by
  induction ds generalizing n with
  | nil => rfl
  | cons c ds ih =>
    have hfit : ¬ wordLimit < 10 * n + digitValue c := by
      have hgrow := le_foldl_digits ds (10 * n + digitValue c)
      simp only [List.foldl_cons] at h
      omega
    simp only [absorb, hfit, if_false, List.foldl_cons, List.length_cons]
    rw [ih h]

/-- An integer that fits is read back from its digits. -/
theorem readNumber_toDigits (negative : Bool) {n : Nat} (hn : n ≤ wordLimit) {rest : List Symbol}
    (hrest : EndsNumber rest) :
    readNumber negative (symbolsOf (Nat.toDigits 10 n) ++ rest) = .ok (wholeOf negative n, rest) := by
  obtain ⟨hdigit, hpoint, hmark⟩ := hrest.startsWith
  have hall : ∀ c ∈ Nat.toDigits 10 n, c.isDigit = true := fun c hc => toDigits_isDigit hc
  have htake := takeDigits_append hall hdigit
  have habsorb : absorb 0 (Nat.toDigits 10 n) = (n, (Nat.toDigits 10 n).length) := by
    have hvalue := ofDigits_toDigits n
    rw [ofDigits] at hvalue
    rw [absorb_of_le (by rwa [hvalue]), hvalue]
  cases hdigits : Nat.toDigits 10 n with
  | nil => exact absurd hdigits Nat.toDigits_ne_nil
  | cons c ds =>
    have hc : c.isDigit = true := hall c (hdigits ▸ List.mem_cons_self)
    rw [hdigits] at htake habsorb
    have hzero : ¬ (c = '0' ∧ startsWith Char.isDigit (symbolsOf ds ++ rest) = true) := by
      rintro ⟨rfl, htail⟩
      rw [toDigits_leading_zero hdigits] at htail
      simp [symbolsOf, hdigit] at htail
    rw [symbolsOf_cons, List.cons_append] at htake ⊢
    simp only [readNumber, startsWith_char, hc, not_true, if_false, Symbol.char.injEq, hzero,
      htake, habsorb]
    simp [hpoint, hmark]

/-- An integer of 64 bits is read back as it was written. -/
theorem wholeOf_natAbs {n : Int} (hlow : -2 ^ 63 ≤ n) :
    wholeOf (decide (n < 0)) n.natAbs = .whole n := by
  rw [wholeOf]
  by_cases hneg : n < 0
  · have hrange : 0 < n.natAbs ∧ n.natAbs ≤ UInt64.size / 2 := by
      simp only [UInt64.size]
      omega
    have hvalue : -(n.natAbs : Int) = n := by omega
    simp only [hneg, decide_true, if_true, if_pos hrange, hvalue]
  · have hvalue : (n.natAbs : Int) = n := by omega
    simp only [hneg, decide_false, Bool.false_eq_true, if_false, hvalue]

section Digits

variable {s rest : List Symbol} {c : Char}

/-- A value that begins with a digit is a number. -/
theorem readWithin_number (hs : dropSpace s = .char c :: rest) (n : Nat) (hc : c.isDigit = true) :
    readWithin (n + 1) s = (do
      let (i, left) ← readNumber false (.char c :: rest)
      .ok (.number i, left)) := by
  rw [readWithin, hs]
  dsimp only
  split <;> first | exact absurd hc (by decide) | rw [if_pos hc]

theorem skipWithin_number (hs : dropSpace s = .char c :: rest) (n : Nat) (hc : c.isDigit = true) :
    skipWithin (n + 1) s = skipNumber (.char c :: rest) := by
  rw [skipWithin, hs]
  dsimp only
  split <;> first | exact absurd hc (by decide) | rw [if_pos hc]

end Digits

end Companion.Json
