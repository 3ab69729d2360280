import Companion.Directive.Reply
import Companion.Proofs.Rounding
import Mathlib.Tactic.NormNum

/-!
When reminders are due. However its minutes are written, a reminder gets a finite number of minutes
that is neither negative nor greater than the settings allow. Its delay is that number times sixty,
rounded to a number of seconds and then to nanoseconds. Both roundings keep the order, so a later
reminder is not due before an earlier one as long as its seconds fit into a delay. Where they do not,
there is no delay at all, and the reminder is due at once.
-/

namespace Companion

open Number Text Json

/-! ### Minutes -/

/-- The units of the greatest number of minutes that settings allow. -/
def DirectiveSettings.longest (settings : DirectiveSettings) : Nat :=
  Format.double.round (settings.maxMinutes.toNat * unitsPerOne) 1

theorem DirectiveSettings.ofNat_maxMinutes (settings : DirectiveSettings) :
    Double.ofNat settings.maxMinutes.toNat = .finite false settings.longest :=
  Double.ofNat_eq (Nat.le_of_lt settings.maxMinutes.toNat_lt)

/-- The minutes of a reminder are finite, not negative and not more than the settings allow. -/
theorem minutesOf_eq (settings : DirectiveSettings) (members : List (String × Value)) :
    ∃ units ≤ settings.longest, minutesOf settings members = .finite false units := by
  have hasked : ∃ units, ((requestedMinutes? members).filter fun m =>
      m.isFinite && m.isPositive).getD (.ofNat settings.defaultMinutes.toNat) =
        .finite false units := by
    cases hfilter : (requestedMinutes? members).filter fun m => m.isFinite && m.isPositive with
    | none =>
      rw [Option.getD_none, Double.ofNat_eq (Nat.le_of_lt settings.defaultMinutes.toNat_lt)]
      exact ⟨_, rfl⟩
    | some m =>
      rw [Option.getD_some]
      exact Double.eq_finite_of_isPositive (Option.filter_eq_some_iff.mp hfilter).2
  obtain ⟨units, hunits⟩ := hasked
  refine ⟨min units settings.longest, Nat.min_le_right _ _, ?_⟩
  unfold minutesOf
  dsimp only
  rw [hunits, settings.ofNat_maxMinutes, Double.min_finite]

/-! ### Seconds -/

def secondUnits (units : Nat) : Nat :=
  Format.double.round (units * (60 * unitsPerOne)) unitsPerOne

theorem secondUnits_mono {u v : Nat} (h : u ≤ v) : secondUnits u ≤ secondUnits v :=
  Format.round_mono (by decide) unitsPerOne (Nat.mul_le_mul_right _ h)

def nanosOfUnits (units : Nat) : Nat :=
  if units < secondLimit * unitsPerOne then halfEven (units * 1000000000) unitsPerOne else 0

/-- A reminder of finite minutes waits for their seconds. -/
theorem delay_eq (units : Nat) (text : String) :
    Reminder.delay ⟨.finite false units, text⟩ = nanosOfUnits (secondUnits units) := by
  have hsixty : Double.ofNat 60 = .finite false (60 * unitsPerOne) := by decide +kernel
  have hmul : (Double.finite false units).mul (.finite false (60 * unitsPerOne)) =
      Format.double.nearest false (units * (60 * unitsPerOne)) unitsPerOne := rfl
  have hlimit : secondLimit * unitsPerOne ≤ Nat.pow 2 Format.double.ceiling := by decide +kernel
  rw [Reminder.delay, hsixty, hmul]
  rcases Nat.lt_or_ge (secondUnits units) (Nat.pow 2 Format.double.ceiling) with hless | hgreat
  · rw [Format.nearest_eq (f := .double) false hless]
    rfl
  · rw [Format.nearest_eq_infinite false (Nat.not_lt.mpr hgreat), nanosOfUnits, if_neg (by omega)]
    rfl

/-- From how many seconds on rounding leads to those that do not fit: half a step of the format below
them. -/
def secondBound : Nat := secondLimit - 1024

/-- The seconds of a number of minutes fit into a delay just if they do before they are rounded. -/
theorem secondUnits_lt_iff (units : Nat) :
    secondUnits units < secondLimit * unitsPerOne ↔ 60 * units < secondBound * unitsPerOne := by
  have hbelow : Format.double.round ((secondBound * unitsPerOne - 1) * unitsPerOne) unitsPerOne <
      secondLimit * unitsPerOne := by decide +kernel
  have hfrom : secondLimit * unitsPerOne ≤
      Format.double.round (secondBound * unitsPerOne * unitsPerOne) unitsPerOne := by decide +kernel
  have hproduct : units * (60 * unitsPerOne) = 60 * units * unitsPerOne := by
    rw [← Nat.mul_assoc, Nat.mul_comm units]
  rw [secondUnits, hproduct]
  constructor
  · intro hfits
    by_contra hgreat
    have hround := Format.round_mono (f := .double) (by decide) unitsPerOne
      (Nat.mul_le_mul_right unitsPerOne (Nat.le_of_not_lt hgreat))
    omega
  · intro hless
    have hround := Format.round_mono (f := .double) (by decide) unitsPerOne
      (Nat.mul_le_mul_right unitsPerOne (Nat.le_sub_one_of_lt hless))
    exact hround.trans_lt hbelow

theorem nanosOfUnits_eq_zero {units : Nat} (h : secondBound * unitsPerOne ≤ 60 * units) :
    nanosOfUnits (secondUnits units) = 0 :=
  if_neg fun hfits => absurd ((secondUnits_lt_iff units).mp hfits) (Nat.not_lt.mpr h)

/-- A delay is not shorter than that for fewer minutes, unless it does not fit. -/
theorem nanosOfUnits_mono {u v : Nat} (h : u ≤ v) (hfits : 60 * v < secondBound * unitsPerOne) :
    nanosOfUnits (secondUnits u) ≤ nanosOfUnits (secondUnits v) := by
  have hlate := (secondUnits_lt_iff v).mpr hfits
  have hsoon : secondUnits u < secondLimit * unitsPerOne := (secondUnits_mono h).trans_lt hlate
  rw [nanosOfUnits, nanosOfUnits, if_pos hsoon, if_pos hlate]
  exact halfEven_mono _ (Nat.mul_le_mul_right _ (secondUnits_mono h))

/-- The greatest number of minutes, among the numbers of the format, whose seconds fit. -/
def greatestMinutes : Nat := 307445734561825792

/-- Settings that allow no more than that allow no delay that does not fit. -/
theorem DirectiveSettings.fits_of_le {settings : DirectiveSettings} {units : Nat}
    (hmax : settings.maxMinutes.toNat ≤ greatestMinutes) (h : units ≤ settings.longest) :
    60 * units < secondBound * unitsPerOne := by
  have hexact : Format.double.round (greatestMinutes * unitsPerOne) 1 =
      greatestMinutes * unitsPerOne := by decide +kernel
  have hfits : 60 * (greatestMinutes * unitsPerOne) < secondBound * unitsPerOne := by decide +kernel
  have hlongest : settings.longest ≤ greatestMinutes * unitsPerOne := by
    rw [← hexact]
    exact Format.round_mono (by decide) 1 (Nat.mul_le_mul_right _ hmax)
  exact (Nat.mul_le_mul_left 60 (h.trans hlongest)).trans_lt hfits

/-! ### Values -/

theorem parseReminder_minutes {settings : DirectiveSettings} {payload : List Char} {r : Reminder}
    (h : parseReminder settings payload = .ok r) :
    ∃ units ≤ settings.longest, ∃ text, r = ⟨.finite false units, text⟩ := by
  unfold parseReminder at h
  cases hread : parsePayload payload with
  | error e =>
    rw [hread] at h
    exact nomatch h
  | ok members =>
    rw [hread] at h
    obtain ⟨units, hbound, hunits⟩ := minutesOf_eq settings members
    refine ⟨units, hbound, reminderText settings members, ?_⟩
    rw [← hunits]
    exact (Except.ok.inj h).symm

theorem value_le_iff (u v : Nat) :
    (u : ℚ) / unitsPerOne ≤ (v : ℚ) / unitsPerOne ↔ u ≤ v := by
  rw [div_le_div_iff_of_pos_right Double.unitsPerOne_pos, Nat.cast_le]

theorem sixty_value_lt_iff (units : Nat) :
    60 * ((units : ℚ) / unitsPerOne) < secondBound ↔ 60 * units < secondBound * unitsPerOne := by
  rw [← mul_div_assoc, div_lt_iff₀ Double.unitsPerOne_pos]
  exact_mod_cast Iff.rfl

/-- The minutes of any two reminders are finite, not negative and at most what the settings allow, and
the later of the two is not due before the earlier one exactly if its seconds fit into a delay, or the
earlier one is due at once as well. What does not fit is due at once. -/
theorem due_in_order (settings : DirectiveSettings) {p q : List Char} {r s : Reminder}
    (hr : parseReminder settings p = .ok r) (hs : parseReminder settings q = .ok s) :
    ∃ x y longest : ℚ, r.minutes.value? = some x ∧ s.minutes.value? = some y ∧
      (Double.ofNat settings.maxMinutes.toNat).value? = some longest ∧
      (0 ≤ x ∧ x ≤ longest) ∧ (0 ≤ y ∧ y ≤ longest) ∧
      (x ≤ y → (r.delay ≤ s.delay ↔ 60 * y < secondBound ∨ r.delay = 0)) ∧
      (secondBound ≤ 60 * y → s.delay = 0) ∧
      (settings.maxMinutes.toNat ≤ greatestMinutes → x ≤ y → r.delay ≤ s.delay) := by
  obtain ⟨u, hu, text, rfl⟩ := parseReminder_minutes hr
  obtain ⟨v, hv, text', rfl⟩ := parseReminder_minutes hs
  have hpositive : ∀ units : Nat, (0 : ℚ) ≤ (units : ℚ) / unitsPerOne := fun units =>
    div_nonneg units.cast_nonneg Double.unitsPerOne_pos.le
  refine ⟨_, _, _, Double.value?_units u, Double.value?_units v, ?_,
    ⟨hpositive u, (value_le_iff u settings.longest).mpr hu⟩,
    ⟨hpositive v, (value_le_iff v settings.longest).mpr hv⟩, ?_, ?_, ?_⟩
  · rw [settings.ofNat_maxMinutes, Double.value?_units]
  · intro hle
    rw [delay_eq, delay_eq, sixty_value_lt_iff]
    constructor
    · intro horder
      rcases Nat.lt_or_ge (60 * v) (secondBound * unitsPerOne) with hfits | hgreat
      · exact .inl hfits
      · rw [nanosOfUnits_eq_zero hgreat] at horder
        exact .inr (Nat.le_zero.mp horder)
    · rintro (hfits | hzero)
      · exact nanosOfUnits_mono ((value_le_iff u v).mp hle) hfits
      · rw [hzero]
        exact Nat.zero_le _
  · intro hgreat
    rw [delay_eq]
    exact nanosOfUnits_eq_zero (Nat.le_of_not_lt fun hless =>
      absurd ((sixty_value_lt_iff v).mpr hless) (not_lt.mpr hgreat))
  · intro hmax hle
    rw [delay_eq, delay_eq]
    exact nanosOfUnits_mono ((value_le_iff u v).mp hle) (DirectiveSettings.fits_of_le hmax hv)

/-- Settings that allow a delay of so many minutes that their seconds do not fit. -/
def generousSettings : DirectiveSettings := { maxMinutes := 1000000000000000000 }

def payloadOf (minutes : String) : List Char := ("\x7b\"minutes\": " ++ minutes ++ "\x7d").toList

def reminderAfter (minutes : Nat) : Reminder := ⟨.finite false (minutes * unitsPerOne), "Reminder!"⟩

theorem value?_reminderAfter (minutes : Nat) :
    (reminderAfter minutes).minutes.value? = some (minutes : ℚ) := by
  rw [reminderAfter, Double.value?_units, Nat.cast_mul,
    mul_div_cancel_right₀ _ Double.unitsPerOne_pos.ne']

theorem eq_ok_of_toOption {ε α : Type} {x : Except ε α} {a : α} (h : x.toOption = some a) :
    x = .ok a := by
  cases x with
  | ok b => exact congrArg Except.ok (Option.some.inj h)
  | error e => exact nomatch h

theorem parseReminder_five :
    parseReminder generousSettings (payloadOf "5") = .ok (reminderAfter 5) :=
  eq_ok_of_toOption (by decide +kernel)

theorem due_in_order_greatest :
    parseReminder generousSettings (payloadOf "5") = .ok (reminderAfter 5) ∧
      parseReminder generousSettings (payloadOf "\"307445734561825800\"") =
        .ok (reminderAfter greatestMinutes) ∧
      (reminderAfter 5).delay ≤ (reminderAfter greatestMinutes).delay := by
  have hlate : parseReminder generousSettings (payloadOf "\"307445734561825800\"") =
      .ok (reminderAfter greatestMinutes) := eq_ok_of_toOption (by decide +kernel)
  obtain ⟨x, y, longest, hx, hy, -, -, -, horder, -⟩ :=
    due_in_order generousSettings parseReminder_five hlate
  rw [value?_reminderAfter] at hx hy
  obtain rfl := Option.some.inj hx
  obtain rfl := Option.some.inj hy
  refine ⟨parseReminder_five, hlate, (horder ?_).mpr (.inl ?_)⟩
  · exact_mod_cast show 5 ≤ greatestMinutes by decide
  · exact_mod_cast show 60 * greatestMinutes < secondBound by decide

/-- A reminder after so many minutes that their seconds do not fit is due at once, before one after five
minutes. -/
theorem late_due_at_once :
    (reminderAfter 5).delay = 300 * 1000000000 ∧ (reminderAfter 400000000000000000).delay = 0 ∧
    ¬ ∀ (settings : DirectiveSettings) (p q : List Char) (r s : Reminder) (x y : ℚ),
      parseReminder settings p = .ok r → parseReminder settings q = .ok s →
        r.minutes.value? = some x → s.minutes.value? = some y → x ≤ y → r.delay ≤ s.delay := by
  have hsoon : (reminderAfter 5).delay = 300 * 1000000000 := by decide +kernel
  have hlate : (reminderAfter 400000000000000000).delay = 0 := by decide +kernel
  refine ⟨hsoon, hlate, fun hall => ?_⟩
  have hread : parseReminder generousSettings (payloadOf "400000000000000000") =
      .ok (reminderAfter 400000000000000000) := eq_ok_of_toOption (by decide +kernel)
  have horder := hall generousSettings _ _ _ _ _ _ parseReminder_five hread
    (value?_reminderAfter 5) (value?_reminderAfter 400000000000000000) (by norm_num)
  rw [hsoon, hlate] at horder
  omega

end Companion
