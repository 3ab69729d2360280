import Companion.Proofs.JsonText
import Companion.Storage.Checksum
import Mathlib.Data.Nat.Digits.Defs
import Mathlib.Logic.Function.Iterate

/-!
What a checksum notices. A bit of input moves the state to the right and, where a one falls out, adds
the polynomial, whose first bit is set. That is linear and loses nothing. So up to four octets enter
the state as one word of as many octets, whatever it was before, and two different words leave two
different states. Octets that follow keep them apart, and the digits that are stored do too. Octets that
were changed within a window of four are therefore always told from what was written.
-/

namespace Companion.Checksum

open Text Json

/-! ### One bit -/

/-- The bits of a state after one bit of input: the next higher ones, with the polynomial added where
the lowest was set. -/
theorem testBit_shift (state : UInt32) (i : Nat) :
    (shift state).toNat.testBit i =
      (state.toNat.testBit (i + 1) ^^ (state.toNat.testBit 0 && polynomial.toNat.testBit i)) := by
  have hlow : state &&& 1 = 1 ↔ state.toNat % 2 = 1 := by
    rw [← UInt32.toNat_inj, UInt32.toNat_and]
    exact iff_of_eq (congrArg (· = 1) (Nat.and_one_is_mod _))
  have hmoved : (state >>> 1).toNat.testBit i = state.toNat.testBit (i + 1) := by
    rw [UInt32.toNat_shiftRight, Nat.testBit_shiftRight, Nat.add_comm i]
    rfl
  rw [shift, Nat.testBit_zero]
  split
  · next hset =>
    rw [UInt32.toNat_xor, Nat.testBit_xor, hmoved, decide_eq_true (hlow.mp hset), Bool.true_and]
  · next hclear =>
    rw [hmoved, decide_eq_false (hclear ∘ hlow.mpr), Bool.false_and, Bool.xor_false]

/-- Two states with the same bits are equal. -/
theorem ext_testBit {x y : UInt32} (h : ∀ i, x.toNat.testBit i = y.toNat.testBit i) : x = y :=
  UInt32.toNat_inj.mp (Nat.eq_of_testBit_eq h)

theorem shift_xor (x y : UInt32) : shift (x ^^^ y) = shift x ^^^ shift y := by
  apply ext_testBit
  intro i
  simp only [testBit_shift, UInt32.toNat_xor, Nat.testBit_xor]
  cases x.toNat.testBit 0 <;> cases y.toNat.testBit 0 <;>
    cases polynomial.toNat.testBit i <;> simp

/-- The bit that fell out can be told from the highest one, because the polynomial sets it. -/
theorem shift_injective : Function.Injective shift := by
  intro x y h
  have hbits : ∀ i, (shift x).toNat.testBit i = (shift y).toNat.testBit i := fun i => by rw [h]
  simp only [testBit_shift] at hbits
  have hnone : ∀ z : UInt32, z.toNat.testBit 32 = false := fun z =>
    Nat.testBit_lt_two_pow z.toNat_lt
  have hlow : x.toNat.testBit 0 = y.toNat.testBit 0 := by
    have htop := hbits 31
    have hset : polynomial.toNat.testBit 31 = true := by decide
    rwa [hnone, hnone, hset, Bool.and_true, Bool.and_true, Bool.false_xor, Bool.false_xor] at htop
  apply ext_testBit
  intro i
  cases i with
  | zero => exact hlow
  | succ i =>
    have hnext := hbits i
    rw [hlow] at hnext
    exact Bool.xor_left_inj.mp hnext

/-- A state whose lowest bits are clear only moves to the right. -/
theorem toNat_shifted {x : UInt32} {n : Nat} (h : 2 ^ n ∣ x.toNat) :
    (shift^[n] x).toNat = x.toNat / 2 ^ n := by
  induction n generalizing x with
  | zero => rw [Function.iterate_zero_apply, Nat.pow_zero, Nat.div_one]
  | succ n ih =>
    have heven : x.toNat % 2 = 0 := Nat.mod_eq_zero_of_dvd (dvd_trans (Dvd.intro_left _ rfl) h)
    have hhalf : (shift x).toNat = x.toNat / 2 := by
      apply Nat.eq_of_testBit_eq
      intro i
      rw [testBit_shift, Nat.testBit_zero, heven, Nat.testBit_add_one]
      simp
    have hrest : 2 ^ n ∣ x.toNat / 2 := by
      obtain ⟨k, hk⟩ := h
      refine ⟨k, ?_⟩
      rw [hk, Nat.pow_succ, Nat.mul_right_comm]
      exact Nat.mul_div_cancel _ Nat.zero_lt_two
    rw [Function.iterate_succ_apply, ih (hhalf ▸ hrest), hhalf, Nat.div_div_eq_div_mul, ← Nat.pow_succ']

/-! ### Octets -/

theorem shiftOctet_eq : shiftOctet = shift^[8] := rfl

theorem shiftOctet_injective : Function.Injective shiftOctet := shift_injective.iterate 8

theorem shiftOctet_xor (x y : UInt32) : shiftOctet (x ^^^ y) = shiftOctet x ^^^ shiftOctet y := by
  simp only [shiftOctet, shift_xor]

/-- An octet keeps different states apart. -/
theorem update_injective (octet : UInt8) : Function.Injective (update · octet) := by
  intro x y h
  exact (UInt32.xor_left_inj _).mp (shiftOctet_injective h)

theorem foldl_update_injective (data : Octets) : Function.Injective (data.foldl update ·) := by
  induction data with
  | nil => exact fun _ _ h => h
  | cons octet data ih => exact fun _ _ h => update_injective octet (ih h)

/-- The value of octets, the lowest first. -/
def value (data : Octets) : Nat := Nat.ofDigits 256 (data.map UInt8.toNat)

theorem lt_of_mem_map (data : Octets) : ∀ n ∈ data.map UInt8.toNat, n < 256 := by
  intro n hn
  obtain ⟨octet, _, rfl⟩ := List.mem_map.mp hn
  exact octet.toNat_lt

theorem value_lt (data : Octets) : value data < 256 ^ data.length := by
  have hlt := Nat.ofDigits_lt_base_pow_length (by decide : 1 < 256) (lt_of_mem_map data)
  rwa [List.length_map] at hlt

theorem value_inj {a b : Octets} (hlength : a.length = b.length) (h : value a = value b) : a = b := by
  have hdigits := Nat.ofDigits_inj_of_len_eq (by decide : 1 < 256) (by simpa using hlength)
    (lt_of_mem_map a) (lt_of_mem_map b) h
  exact List.map_inj_right (fun _ _ => UInt8.toNat_inj.mp) |>.mp hdigits

/-- An octet and the word of those behind it lie side by side. -/
theorem ofNat_value_cons (octet : UInt8) (data : Octets) :
    UInt32.ofNat (value (octet :: data)) =
      octet.toUInt32 ^^^ UInt32.ofNat (2 ^ 8 * value data) := by
  have hsides : octet.toNat ^^^ 2 ^ 8 * value data = 2 ^ 8 * value data + octet.toNat := by
    apply Nat.eq_of_testBit_eq
    intro i
    rw [Nat.testBit_two_pow_mul_add _ octet.toNat_lt, Nat.testBit_xor, Nat.testBit_two_pow_mul]
    by_cases hi : i < 8
    · simp [hi, Nat.not_le.mpr hi]
    · have hhigh : octet.toNat.testBit i = false :=
        Nat.testBit_lt_two_pow (octet.toNat_lt.trans_le (Nat.pow_le_pow_right Nat.zero_lt_two
          (Nat.le_of_not_lt hi)))
      simp [hi, hhigh, Nat.le_of_not_lt hi]
  have hoctet : octet.toUInt32 = UInt32.ofNat octet.toNat := by
    apply UInt32.toNat_inj.mp
    rw [UInt8.toNat_toUInt32, UInt32.toNat_ofNat_of_lt']
    exact octet.toNat_lt.trans (by decide)
  have hvalue : value (octet :: data) = 2 ^ 8 * value data + octet.toNat := by
    rw [value, List.map_cons, Nat.ofDigits_cons, Nat.add_comm]
    rfl
  rw [hvalue, ← hsides, UInt32.ofNat_xor, hoctet]

/-- Up to four octets are taken in as one word. -/
theorem foldl_update {data : Octets} (h : data.length ≤ 4) (state : UInt32) :
    data.foldl update state = shiftOctet^[data.length] (state ^^^ UInt32.ofNat (value data)) := by
  induction data generalizing state with
  | nil => simp [value]
  | cons octet data ih =>
    rw [List.length_cons] at h
    -- the octets behind the first one would lie to the left of it, from where eight bits move them
    have hfits : 2 ^ 8 * value data < UInt32.size := by
      have hlt : value data < 256 ^ 3 :=
        (value_lt data).trans_le (Nat.pow_le_pow_right (by decide) (by omega))
      calc 2 ^ 8 * value data < 2 ^ 8 * 256 ^ 3 := Nat.mul_lt_mul_of_pos_left hlt (by decide)
        _ = UInt32.size := by decide
    have hmoved : shiftOctet (UInt32.ofNat (2 ^ 8 * value data)) = UInt32.ofNat (value data) := by
      have hword := UInt32.toNat_ofNat_of_lt' hfits
      have hclear : 2 ^ 8 ∣ (UInt32.ofNat (2 ^ 8 * value data)).toNat := by
        rw [hword]
        exact Nat.dvd_mul_right _ _
      apply UInt32.toNat_inj.mp
      rw [shiftOctet_eq, toNat_shifted hclear, hword, Nat.mul_div_cancel_left _ (by decide),
        UInt32.toNat_ofNat_of_lt' (by omega)]
    rw [List.foldl_cons, ih (by omega), List.length_cons, Function.iterate_succ_apply,
      ofNat_value_cons, update, ← UInt32.xor_assoc, shiftOctet_xor (state ^^^ octet.toUInt32), hmoved]

/-- Up to four octets leave a state that tells them. -/
theorem foldl_update_inj {a b : Octets} {state : UInt32} (hlength : a.length = b.length)
    (h : a.length ≤ 4) (hsame : a.foldl update state = b.foldl update state) : a = b := by
  rw [foldl_update h, foldl_update (hlength ▸ h), hlength] at hsame
  have hwords := UInt32.xor_right_inj _ |>.mp (shiftOctet_injective.iterate _ hsame)
  have hfits : ∀ c : Octets, c.length ≤ 4 → value c < UInt32.size := fun c hc =>
    (value_lt c).trans_le (Nat.pow_le_pow_right (by decide) hc)
  have hvalues := congrArg UInt32.toNat hwords
  rw [UInt32.toNat_ofNat_of_lt' (hfits a h), UInt32.toNat_ofNat_of_lt' (hfits b (hlength ▸ h))] at hvalues
  exact value_inj hlength hvalues

/-! ### What is stored -/

theorem hexDigit_inj {m n : Nat} (hm : m < 16) (hn : n < 16) (h : hexDigit m = hexDigit n) : m = n := by
  have hvalue := hexValue?_hexDigit hm
  rw [h, hexValue?_hexDigit hn] at hvalue
  exact (Option.some.inj hvalue).symm

/-- Octets can be told from their digits. -/
theorem hex_injective : Function.Injective hex := by
  intro a b h
  replace h := String.ofList_injective h
  induction a generalizing b with
  | nil =>
    cases b with
    | nil => rfl
    | cons y b => cases h
  | cons x a ih =>
    cases b with
    | nil => cases h
    | cons y b =>
      simp only [List.flatMap_cons, List.cons_append, List.nil_append, List.cons.injEq] at h
      obtain ⟨hhigh, hlow, hrest⟩ := h
      have hx := x.toNat_lt
      have hy := y.toNat_lt
      have hdiv := hexDigit_inj (by omega) (by omega) hhigh
      have hmod := hexDigit_inj (by omega) (by omega) hlow
      obtain rfl : x = y := UInt8.toNat_inj.mp (by omega)
      rw [ih hrest]

/-- Words can be told from their digits. -/
theorem hexWord_injective : Function.Injective hexWord := by
  intro x y h
  have hoctets := hex_injective h
  simp only [List.cons.injEq, and_true, ← UInt8.toNat_inj, UInt32.toNat_toUInt8,
    UInt32.toNat_shiftRight, Nat.shiftRight_eq_div_pow, UInt32.reduceToNat,
    Nat.reduceMod] at hoctets
  have hx := x.toNat_lt
  have hy := y.toNat_lt
  apply UInt32.toNat_inj.mp
  omega

/-- Two sequences of octets are of one length, and are the same outside of some window. -/
def AgreeOutside (start width : Nat) (a b : Octets) : Prop :=
  a.length = b.length ∧ ∀ i, i < start ∨ start + width ≤ i → a[i]? = b[i]?

theorem AgreeOutside.split {start width : Nat} {a b : Octets} (h : AgreeOutside start width a b) :
    ∃ front middle other back, a = front ++ middle ++ back ∧ b = front ++ other ++ back ∧
      middle.length = other.length ∧ middle.length ≤ width := by
  obtain ⟨hlength, hsame⟩ := h
  have hfront : a.take start = b.take start := by
    apply List.ext_getElem?
    intro i
    rw [List.getElem?_take, List.getElem?_take]
    split
    · next hi => exact hsame i (.inl hi)
    · rfl
  have hback : a.drop (start + width) = b.drop (start + width) := by
    apply List.ext_getElem?
    intro i
    rw [List.getElem?_drop, List.getElem?_drop]
    exact hsame _ (.inr (Nat.le_add_right _ _))
  have hsplit : ∀ c : Octets,
      c = c.take start ++ (c.drop start).take width ++ c.drop (start + width) := by
    intro c
    rw [List.append_assoc, ← List.drop_drop, List.take_append_drop, List.take_append_drop]
  refine ⟨a.take start, (a.drop start).take width, (b.drop start).take width,
    a.drop (start + width), hsplit a, ?_, ?_, List.length_take_le _ _⟩
  · rw [hfront, hback]
    exact hsplit b
  · simp [hlength]

/-- Octets that differ, but only within a window of four, have different checksums, and so have the
digits of these. -/
theorem window_detected {data corrupted : Octets} {start width : Nat} (hwidth : width ≤ 4)
    (hwindow : AgreeOutside start width data corrupted) (hne : data ≠ corrupted) :
    compute data ≠ compute corrupted ∧ render data ≠ render corrupted := by
  obtain ⟨front, middle, other, back, rfl, rfl, hlength, hshort⟩ := hwindow.split
  have hdiffer : compute (front ++ middle ++ back) ≠ compute (front ++ other ++ back) := by
    intro hsame
    replace hsame := UInt32.not_inj.mp hsame
    simp only [List.foldl_append] at hsame
    have hmiddle := foldl_update_inj hlength (hshort.trans hwidth) (foldl_update_injective back hsame)
    exact hne (by rw [hmiddle])
  exact ⟨hdiffer, fun hsame => hdiffer (hexWord_injective hsame)⟩

def digits : Octets := [49, 50, 51, 52, 53, 54, 55, 56, 57]

/-- The same digits, four of them the other way round. -/
def turned : Octets := [49, 50, 51, 55, 54, 53, 52, 56, 57]

theorem window_detected_turned :
    AgreeOutside 3 4 digits turned ∧ digits ≠ turned ∧ render digits ≠ render turned := by
  have hwithin : ∀ i < 9, i < 3 ∨ 3 + 4 ≤ i → digits[i]? = turned[i]? := by decide
  have hwindow : AgreeOutside 3 4 digits turned := by
    refine ⟨rfl, fun i hi => ?_⟩
    rcases Nat.lt_or_ge i 9 with hshort | hlong
    · exact hwithin i hshort hi
    · rw [List.getElem?_eq_none hlong, List.getElem?_eq_none hlong]
  have hne : digits ≠ turned := by decide
  exact ⟨hwindow, hne, (window_detected (by decide) hwindow hne).2⟩

end Companion.Checksum
