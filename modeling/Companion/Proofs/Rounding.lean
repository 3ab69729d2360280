import Companion.Number.Double
import Mathlib.Algebra.Order.Ring.Rat

/-!
Rounding keeps the order of numbers. Between two powers of two all numbers of a format have their last
digit at one place, and there the nearest whole number of steps grows with the quotient. A quotient
below a power of two is never rounded above it, and one above it is never rounded below it, so the order
is also kept from one such stretch to the next.
-/

namespace Companion.Number

/-! ### Whole numbers -/

theorem le_halfEven (num den : Nat) : num / den ≤ halfEven num den := by
  unfold halfEven
  dsimp only
  split
  · exact Nat.le_succ _
  · exact Nat.le_refl _

theorem halfEven_le (num den : Nat) : halfEven num den ≤ num / den + 1 := by
  unfold halfEven
  dsimp only
  split
  · exact Nat.le_refl _
  · exact Nat.le_succ _

theorem halfEven_mono {a b : Nat} (den : Nat) (h : a ≤ b) : halfEven a den ≤ halfEven b den := by
  rcases Nat.lt_or_eq_of_le (Nat.div_le_div_right (c := den) h) with hless | hsame
  · exact (halfEven_le a den).trans (Nat.le_trans hless (le_halfEven b den))
  · -- with one quotient the remainders are in order, and whatever rounds the lesser up does the greater
    have hleft := Nat.div_add_mod a den
    have hright := Nat.div_add_mod b den
    rw [hsame] at hleft
    unfold halfEven
    dsimp only
    rw [hsame]
    split <;> split <;> omega

theorem log2_le_log2 {m n : Nat} (h : m ≤ n) : m.log2 ≤ n.log2 := by
  rcases Nat.eq_zero_or_pos m with rfl | hpos
  · rw [Nat.log2_zero]
    exact Nat.zero_le _
  · exact (Nat.le_log2 (by omega)).mpr ((Nat.log2_self_le (by omega)).trans h)

/-! ### Numbers of a format -/

namespace Format

variable {f : Format} {a b : Nat}

theorem round_eq (f : Format) (num den : Nat) :
    f.round num den =
      halfEven num (den * 2 ^ f.exponent (num / den)) * 2 ^ f.exponent (num / den) := rfl

theorem exponent_mono (f : Format) {m n : Nat} (h : m ≤ n) : f.exponent m ≤ f.exponent n := by
  have hlog := log2_le_log2 h
  unfold exponent
  omega

/-- The power of two above a quotient is not passed by rounding. -/
theorem round_le (f : Format) (num den : Nat) :
    f.round num den ≤ 2 ^ (f.exponent (num / den) + f.digits) := by
  have hplaces : (num / den).log2 + 1 ≤ f.exponent (num / den) + f.digits := by
    unfold exponent
    omega
  have hquotient : num / den < 2 ^ (f.exponent (num / den) + f.digits) :=
    Nat.lt_log2_self.trans_le (Nat.pow_le_pow_right (by decide) hplaces)
  have hsteps : num / (den * 2 ^ f.exponent (num / den)) < 2 ^ f.digits := by
    rw [← Nat.div_div_eq_div_mul, Nat.div_lt_iff_lt_mul (Nat.two_pow_pos _), ← Nat.pow_add,
      Nat.add_comm]
    exact hquotient
  rw [round_eq, Nat.pow_add, Nat.mul_comm]
  exact Nat.mul_le_mul_left _ ((halfEven_le _ _).trans hsteps)

/-- The power of two below a quotient is not passed either, where the place of the last digit is not the
least one. -/
theorem le_round (hdigits : 0 < f.digits) {num den : Nat} (h : f.least < f.exponent (num / den)) :
    2 ^ (f.exponent (num / den) + f.digits - 1) ≤ f.round num den := by
  have hplaces : (num / den).log2 = f.exponent (num / den) + f.digits - 1 := by
    unfold exponent at h ⊢
    omega
  have hsome : num / den ≠ 0 := by
    intro hzero
    rw [hzero] at h
    unfold exponent at h
    rw [Nat.log2_zero] at h
    omega
  have hquotient : 2 ^ (f.digits - 1 + f.exponent (num / den)) ≤ num / den := by
    have hself := Nat.log2_self_le hsome
    rw [hplaces] at hself
    have hsum : f.digits - 1 + f.exponent (num / den) = f.exponent (num / den) + f.digits - 1 := by
      omega
    rwa [hsum]
  have hsteps : 2 ^ (f.digits - 1) ≤ num / (den * 2 ^ f.exponent (num / den)) := by
    rw [← Nat.div_div_eq_div_mul, Nat.le_div_iff_mul_le (Nat.two_pow_pos _), ← Nat.pow_add]
    exact hquotient
  have hsum : f.exponent (num / den) + f.digits - 1 = f.digits - 1 + f.exponent (num / den) := by
    omega
  rw [round_eq, hsum, Nat.pow_add]
  exact Nat.mul_le_mul_right _ (hsteps.trans (le_halfEven _ _))

/-- Of two quotients with one denominator the lesser does not round to the greater number. -/
theorem round_mono (hdigits : 0 < f.digits) (den : Nat) (h : a ≤ b) :
    f.round a den ≤ f.round b den := by
  have hquotients : a / den ≤ b / den := Nat.div_le_div_right h
  rcases Nat.lt_or_eq_of_le (f.exponent_mono hquotients) with hless | hsame
  · have hleast : f.least < f.exponent (b / den) :=
      (Nat.le_max_left _ _).trans_lt hless
    calc f.round a den ≤ 2 ^ (f.exponent (a / den) + f.digits) := f.round_le a den
      _ ≤ 2 ^ (f.exponent (b / den) + f.digits - 1) := Nat.pow_le_pow_right (by decide) (by omega)
      _ ≤ f.round b den := le_round hdigits hleast
  · rw [round_eq, round_eq, hsame]
    exact Nat.mul_le_mul_right _ (halfEven_mono _ h)

theorem nearest_eq {num den : Nat} (negative : Bool) (h : f.round num den < Nat.pow 2 f.ceiling) :
    f.nearest negative num den = .finite negative (f.round num den) :=
  if_pos h

theorem nearest_eq_infinite {num den : Nat} (negative : Bool)
    (h : ¬ f.round num den < Nat.pow 2 f.ceiling) :
    f.nearest negative num den = .infinite negative :=
  if_neg h

end Format

/-! ### Values -/

namespace Double

def value? : Double → Option ℚ
  | .finite negative units => some ((if negative then -(units : ℚ) else units) / unitsPerOne)
  | _ => none

theorem value?_units (units : Nat) : (finite false units).value? = some ((units : ℚ) / unitsPerOne) :=
  rfl

theorem unitsPerOne_pos : (0 : ℚ) < unitsPerOne := by
  have hpos : 0 < unitsPerOne := by decide +kernel
  exact_mod_cast hpos

/-- The number nearest to a natural number of 64 bits is finite. -/
theorem ofNat_eq {n : Nat} (h : n ≤ UInt64.size) :
    ofNat n = .finite false (Format.double.round (n * unitsPerOne) 1) := by
  have hgreatest : Format.double.round (UInt64.size * unitsPerOne) 1 <
      Nat.pow 2 Format.double.ceiling := by decide +kernel
  have hround := Format.round_mono (f := .double) (by decide) 1 (Nat.mul_le_mul_right unitsPerOne h)
  exact Format.nearest_eq false (hround.trans_lt hgreatest)

/-- A finite number that is greater than zero has its units for a magnitude. -/
theorem eq_finite_of_isPositive {x : Double} (h : (x.isFinite && x.isPositive) = true) :
    ∃ units, x = .finite false units := by
  cases x with
  | finite negative units =>
    cases negative with
    | false => exact ⟨units, rfl⟩
    | true => simp [isPositive] at h
  | infinite negative => simp [isFinite] at h
  | nan => simp [isFinite] at h

theorem min_finite (u v : Nat) :
    (finite false u).min (.finite false v) = .finite false (Min.min u v) := by
  have hmin : (finite false u).min (.finite false v) =
      if v < u then .finite false v else .finite false u := rfl
  rw [hmin]
  split
  · next hless => rw [Nat.min_eq_right (Nat.le_of_lt hless)]
  · next hnot => rw [Nat.min_eq_left (Nat.le_of_not_lt hnot)]

end Double

end Companion.Number
