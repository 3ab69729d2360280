import Companion.Proofs.Blanks
import Companion.Proofs.JsonText
import Companion.Time.Stamp

/-!
A timestamp is read back as it was written: years of more than four digits or before the year zero,
fractions of any length and leap seconds at the end of a minute included. A leap second anywhere else
is written as the second after it, and so it is read.
-/

namespace Companion.Time

open Number Text

theorem digit_facts {d : Nat} (h : d < 10) :
    (Char.ofNat (48 + d)).isDigit = true ∧ digitValue (Char.ofNat (48 + d)) = d := by
  revert d
  decide

theorem length_padded (w n : Nat) : (padded w n).length = w := by
  induction w generalizing n with
  | zero => rfl
  | succ w ih => simp [padded, ih]

theorem padded_isDigit {w n : Nat} {c : Char} (h : c ∈ padded w n) : c.isDigit = true := by
  induction w generalizing n with
  | zero => simp [padded] at h
  | succ w ih =>
    rw [padded, List.mem_append, List.mem_singleton] at h
    rcases h with h | rfl
    · exact ih h
    · exact (digit_facts (Nat.mod_lt n (by decide))).1

theorem ofDigits_padded {w n : Nat} (h : n < 10 ^ w) : ofDigits (padded w n) = n := by
  induction w generalizing n with
  | zero =>
    obtain rfl : n = 0 := by simpa using h
    rfl
  | succ w ih =>
    have hsmall : n / 10 < 10 ^ w := by
      rw [Nat.pow_succ] at h
      omega
    rw [padded, Json.ofDigits_append, ih hsmall]
    simp only [List.foldl_cons, List.foldl_nil, (digit_facts (Nat.mod_lt n (by decide))).2]
    omega

theorem takeWhile_digits_append {ds : List Char} (rest : List Char) (hds : ∀ c ∈ ds, c.isDigit = true)
    (hrest : ∀ c ∈ rest.head?, c.isDigit = false) :
    (ds ++ rest).takeWhile Char.isDigit = ds := by
  induction ds with
  | nil =>
    cases rest with
    | nil => rfl
    | cons c rest => simp [hrest c rfl]
  | cons c ds ih =>
    have hc : c.isDigit = true := hds c List.mem_cons_self
    simp [hc, ih fun d hd => hds d (List.mem_cons_of_mem c hd)]

/-- A number is read from its digits where they are as many as may be read, or no digit follows. -/
theorem stampNumber_append {w : Nat} {ds : List Char} (rest : List Char) (hpos : ds ≠ [])
    (hds : ∀ c ∈ ds, c.isDigit = true) (hlimit : ofDigits ds ≤ numberLimit)
    (hw : ds.length = w ∨
      ds.length ≤ w ∧ ∀ c ∈ rest.head?, c.isDigit = false) :
    stampNumber w (ds ++ rest) = .ok (ofDigits ds, rest) := by
  have hdigits : ((ds ++ rest).take w).takeWhile Char.isDigit = ds := by
    rcases hw with rfl | ⟨hle, hrest⟩
    · rw [List.take_left' rfl]
      have hself := takeWhile_digits_append [] hds (by simp)
      rwa [List.append_nil] at hself
    · rw [List.take_append, List.take_of_length_le hle]
      apply takeWhile_digits_append _ hds
      intro c hc
      rw [List.head?_take] at hc
      split at hc
      · simp at hc
      · exact hrest c hc
  have hempty : ds.isEmpty = false := by simpa using hpos
  simp only [stampNumber, hdigits, hempty, Bool.false_eq_true, if_false, Nat.not_lt.mpr hlimit,
    List.drop_left']

theorem stampNumber_padded {w n : Nat} (hw : 0 < w) (hn : n < 10 ^ w) (hlimit : n ≤ numberLimit)
    (rest : List Char) : stampNumber w (padded w n ++ rest) = .ok (n, rest) := by
  have hlen := length_padded w n
  have hread := stampNumber_append rest
    (List.ne_nil_of_length_pos (by omega : 0 < (padded w n).length))
    (fun c hc => padded_isDigit hc) (by rwa [ofDigits_padded hn]) (.inl hlen)
  rwa [ofDigits_padded hn] at hread

theorem padded_head {w : Nat} (hw : 0 < w) (n : Nat) :
    ∃ c ds, padded w n = c :: ds ∧ c.isDigit = true := by
  cases hds : padded w n with
  | nil =>
    have hlen := length_padded w n
    rw [hds, List.length_nil] at hlen
    omega
  | cons c ds => exact ⟨c, ds, rfl, padded_isDigit (hds ▸ List.mem_cons_self)⟩

theorem trimStart_padded {w : Nat} (hw : 0 < w) (n : Nat) (rest : List Char) :
    trimStart (padded w n ++ rest) = padded w n ++ rest := by
  obtain ⟨c, ds, hds, hc⟩ := padded_head hw n
  simp [trimStart, hds, isBlank_of_isDigit hc]

theorem stampField_padded {low high n : Nat} (hlow : low ≤ n) (hhigh : n ≤ high) (hn : n < 100)
    (rest : List Char) : stampField low high (padded 2 n ++ rest) = .ok (n, rest) := by
  have hlimit : n ≤ numberLimit := by
    have : numberLimit = 9223372036854775807 := rfl
    omega
  rw [stampField, trimStart_padded (by decide), stampNumber_padded (by decide) hn hlimit]
  simp [bind, Except.bind, hlow, hhigh]

theorem separator_cons {c : Char} (hc : isBlank c = false) (rest : List Char) :
    separator c (c :: rest) = .ok rest := by
  simp [separator, trimStart, hc]

/-! ### Years -/

theorem ofDigits_replicate_zero (k : Nat) (ds : List Char) :
    ofDigits (List.replicate k '0' ++ ds) = ofDigits ds := by
  induction k with
  | zero => rfl
  | succ k ih =>
    rw [List.replicate_succ, List.cons_append]
    exact ih

/-- The digits of a year that has a sign: at least four. -/
def signedDigits (n : Nat) : List Char :=
  List.replicate (4 - (Nat.toDigits 10 n).length) '0' ++ Nat.toDigits 10 n

theorem printYear_signed {year : Int} (h : ¬ (0 ≤ year ∧ year ≤ 9999)) :
    printYear year = (if year < 0 then '-' else '+') :: signedDigits year.natAbs := by
  rw [printYear, if_neg h]
  rfl

theorem stampNumber_signed {n : Nat} (hn : n ≤ numberLimit) (rest : List Char) :
    stampNumber (signedDigits n ++ '-' :: rest).length (signedDigits n ++ '-' :: rest) =
      .ok (n, '-' :: rest) := by
  have hvalue : ofDigits (signedDigits n) = n := by
    rw [signedDigits, ofDigits_replicate_zero, Json.ofDigits_toDigits]
  have hds : ∀ c ∈ signedDigits n, c.isDigit = true := by
    intro c hc
    rcases List.mem_append.mp hc with hc | hc
    · rw [List.eq_of_mem_replicate hc]
      rfl
    · exact Json.toDigits_isDigit hc
  have hpos : signedDigits n ≠ [] := by simp [signedDigits]
  have hle : (signedDigits n).length ≤ (signedDigits n ++ '-' :: rest).length := by simp
  have hread := stampNumber_append ('-' :: rest) hpos hds (by rwa [hvalue])
    (.inr ⟨hle, by simp⟩)
  rwa [hvalue] at hread

/-- A year is read back as it was written. -/
theorem stampYear_printYear {year : Int} (hlow : firstYear ≤ year) (hhigh : year ≤ lastYear)
    (rest : List Char) : stampYear (printYear year ++ '-' :: rest) = .ok (year, '-' :: rest) := by
  have hlimit : numberLimit = 9223372036854775807 := rfl
  rw [firstYear] at hlow
  rw [lastYear] at hhigh
  have hrange : Int32.minValue.toInt ≤ year ∧ year ≤ Int32.maxValue.toInt := by
    have hmin : Int32.minValue.toInt = -2147483648 := rfl
    have hmax : Int32.maxValue.toInt = 2147483647 := rfl
    omega
  by_cases hfour : 0 ≤ year ∧ year ≤ 9999
  · have hread := stampNumber_padded (w := 4) (n := year.toNat) (by decide) (by omega) (by omega)
      ('-' :: rest)
    have htrim := trimStart_padded (w := 4) (by decide) year.toNat ('-' :: rest)
    obtain ⟨c, ds, hds, hc⟩ := padded_head (w := 4) (by decide) year.toNat
    have hyear : ((year.toNat : Nat) : Int) = year := by omega
    rw [stampYear, printYear, if_pos hfour, htrim]
    rw [hds, List.cons_append] at hread ⊢
    split
    · next heq => simp_all
    · next heq => simp_all
    · simp only [hread, bind, Except.bind, pure, Except.pure, hyear, if_pos hrange]
  · have hread := stampNumber_signed (n := year.natAbs) (by omega) rest
    rw [printYear_signed hfour, stampYear]
    by_cases hneg : year < 0
    · have hyear : -(year.natAbs : Int) = year := by omega
      have htrim : ∀ cs, trimStart ('-' :: cs) = '-' :: cs := fun _ => rfl
      simp only [if_pos hneg, List.cons_append, htrim, hread, bind, Except.bind, pure,
        Except.pure, hyear, if_pos hrange]
    · have hyear : (year.natAbs : Int) = year := by omega
      have htrim : ∀ cs, trimStart ('+' :: cs) = '+' :: cs := fun _ => rfl
      simp only [if_neg hneg, List.cons_append, htrim, hread, bind, Except.bind, pure,
        Except.pure, hyear, if_pos hrange]

/-! ### Whole timestamps -/

theorem stampFraction_padded {w n : Nat} (hpos : 0 < w) (hw : w ≤ 9) (hn : n < 10 ^ w)
    (rest : List Char) :
    stampFraction ('.' :: (padded w n ++ 'Z' :: rest)) = .ok (n * 10 ^ (9 - w), 'Z' :: rest) := by
  have hlen := length_padded w n
  have hlimit : ofDigits (padded w n) ≤ numberLimit := by
    have hbound : 10 ^ w ≤ 10 ^ 9 := Nat.pow_le_pow_right (by decide) hw
    have hvalue : numberLimit = 9223372036854775807 := rfl
    rw [ofDigits_padded hn]
    omega
  have hread := stampNumber_append (w := 9) ('Z' :: rest)
    (List.ne_nil_of_length_pos (by omega : 0 < (padded w n).length))
    (fun c hc => padded_isDigit hc) hlimit (.inr ⟨by omega, by simp⟩)
  rw [ofDigits_padded hn] at hread
  have hdone : (padded w n ++ 'Z' :: rest).length - ('Z' :: rest).length = w := by
    rw [List.length_append, hlen]
    omega
  simp only [stampFraction, hread, bind, Except.bind, hdone]
  rfl

/-- A fraction is read back whatever number of digits it was written with. -/
theorem stampFraction_printFraction {nano : Nat} (hn : nano < nanosPerSecond) (rest : List Char) :
    stampFraction (printFraction nano ++ 'Z' :: rest) = .ok (nano, 'Z' :: rest) := by
  rw [nanosPerSecond] at hn
  rw [printFraction]
  split
  · next hzero =>
    rw [hzero]
    rfl
  · split
    · next hmilli =>
      rw [List.cons_append, stampFraction_padded (by decide) (by decide) (by omega)]
      simp only [Except.ok.injEq, Prod.mk.injEq, and_true]
      omega
    · split
      · next hmicro =>
        rw [List.cons_append, stampFraction_padded (by decide) (by decide) (by omega)]
        simp only [Except.ok.injEq, Prod.mk.injEq, and_true]
        omega
      · rw [List.cons_append, stampFraction_padded (by decide) (by decide) (by omega)]
        simp

theorem fromLocal_universal (t : Instant) : fromLocal t.date t.second t.nano 0 = .ok t := by
  have hsecond : t.second < secondsPerDay := t.valid.1
  have hmod : ((t.second : Int) % (secondsPerDay : Int)).toNat = t.second := by
    rw [secondsPerDay] at hsecond ⊢
    omega
  have hpast : ¬ (t.second : Int) < 0 := by omega
  have hnext : ¬ (secondsPerDay : Int) ≤ t.second := by omega
  simp [fromLocal, hpast, hnext, hmod, Instant.of?, t.valid]

theorem Date.of?_eq_some (d : Date) : Date.of? d.year d.month d.day = some d := by
  rw [Date.of?, dif_pos d.valid]

/-! ### Leap seconds -/

/-- If the instant lies in a leap second, that stands at the end of a minute. -/
def Instant.IsSettled (t : Instant) : Prop := t.nano < nanosPerSecond ∨ t.second % 60 = 59

instance (t : Instant) : Decidable t.IsSettled := inferInstanceAs (Decidable (_ ∨ _))

/-- The instant as it is read: for a leap second within a minute the second after it. -/
def Instant.settled (t : Instant) : Instant :=
  if h : t.IsSettled then t
  else ⟨t.date, t.second + 1, t.nano - nanosPerSecond, by
    obtain ⟨hsecond, hnano⟩ := t.valid
    unfold IsSettled at h
    unfold IsMoment
    unfold secondsPerDay at *
    omega⟩

theorem Instant.settled_of_isSettled {t : Instant} (h : t.IsSettled) : t.settled = t := dif_pos h

/-- An instant is read as another one just if it lies in a leap second within a minute. -/
theorem Instant.settled_eq_self_iff (t : Instant) : t.settled = t ↔ t.IsSettled := by
  refine ⟨fun h => ?_, settled_of_isSettled⟩
  by_contra hnot
  rw [settled, dif_neg hnot] at h
  exact absurd (congrArg Instant.second h) (Nat.succ_ne_self t.second)

theorem Instant.isSettled_settled (t : Instant) : t.settled.IsSettled := by
  by_cases h : t.IsSettled
  · rw [settled_of_isSettled h]
    exact h
  · left
    have hnano := t.valid.2
    rw [settled, dif_neg h]
    dsimp only
    omega

/-- A leap second that no minute ends with. -/
def hastySecond : Instant := ⟨⟨2024, 1, 1, by decide⟩, 0, 1500000000, by decide⟩

/-- The second after it, as which it is read. -/
def nextSecond : Instant := ⟨hastySecond.date, 1, 500000000, by decide⟩

theorem Instant.date_settled (t : Instant) : t.settled.date = t.date := by
  unfold settled
  split <;> rfl

/-- The second of its minute: within a leap second the one after it, which is sixty at the end. -/
def Instant.shownSecond (t : Instant) : Nat :=
  t.second % 60 + if nanosPerSecond ≤ t.nano then 1 else 0

def Instant.shownNano (t : Instant) : Nat :=
  if nanosPerSecond ≤ t.nano then t.nano - nanosPerSecond else t.nano

/-- A day begins with a moment. -/
theorem isMoment_zero : IsMoment 0 0 := by decide

/-- What is shown of a second tells the second and the nanosecond of the instant that is read. -/
theorem Instant.shown_facts (t : Instant) :
    t.shownSecond ≤ 60 ∧ t.shownNano < nanosPerSecond ∧
      t.second / 3600 * 3600 + t.second / 60 % 60 * 60 +
          (if t.shownSecond = 60 then 59 else t.shownSecond) = t.settled.second ∧
      t.shownNano + (if t.shownSecond = 60 then nanosPerSecond else 0) = t.settled.nano := by
  obtain ⟨hday, hnano⟩ := t.valid
  rw [shownSecond, shownNano]
  by_cases hleap : nanosPerSecond ≤ t.nano
  · by_cases hlast : t.second % 60 = 59
    · rw [settled_of_isSettled (.inr hlast)]
      simp only [if_pos hleap, hlast, Nat.reduceAdd, if_true]
      omega
    · have hnot : ¬ t.IsSettled := fun h => h.elim (Nat.not_lt.mpr hleap) hlast
      have hshown : ¬ t.second % 60 + 1 = 60 := by omega
      rw [settled, dif_neg hnot]
      simp only [if_pos hleap, if_neg hshown]
      omega
  · have hnot : ¬ t.second % 60 + 0 = 60 := by omega
    rw [settled_of_isSettled (.inl (Nat.not_le.mp hleap))]
    simp only [if_neg hleap, if_neg hnot]
    omega

/-- An instant is written as the one that is read. -/
theorem Instant.print_settled (t : Instant) : t.settled.print = t.print := by
  by_cases h : t.IsSettled
  · rw [settled_of_isSettled h]
  · obtain ⟨hday, hnano⟩ := t.valid
    obtain ⟨hleap, hlast⟩ : nanosPerSecond ≤ t.nano ∧ t.second % 60 ≠ 59 := by
      unfold IsSettled at h
      omega
    have hrest : ¬ nanosPerSecond ≤ t.nano - nanosPerSecond := by omega
    have hhour : (t.second + 1) / 3600 = t.second / 3600 := by omega
    have hminute : (t.second + 1) / 60 % 60 = t.second / 60 % 60 := by omega
    have hsecond : (t.second + 1) % 60 = t.second % 60 + 1 := by omega
    rw [settled, dif_neg h]
    simp only [print, if_pos hleap, if_neg hrest, hhour, hminute, hsecond, Nat.add_zero]

/-- A timestamp is read back as it was written. -/
theorem parseStamp_print (t : Instant) : parseStamp t.print = .ok t.settled := by
  obtain ⟨hyear, hmonth, hday⟩ := t.date.valid
  have hdays : daysIn t.date.year t.date.month ≤ 31 := by
    unfold daysIn
    split
    · split <;> omega
    · split <;> omega
  have hsecond : t.second < 86400 := t.valid.1
  obtain ⟨hshown, hnano, hback, hnanoBack⟩ := t.shown_facts
  have hprint : t.print = printYear t.date.year ++ '-' :: (padded 2 t.date.month ++ '-' ::
      (padded 2 t.date.day ++ 'T' :: (padded 2 (t.second / 3600) ++ ':' ::
        (padded 2 (t.second / 60 % 60) ++ ':' :: (padded 2 t.shownSecond ++
          (printFraction t.shownNano ++ ['Z'])))))) := by
    simp [Instant.print, Instant.shownSecond, Instant.shownNano]
  have hzone : ∀ cs, trimStart ('Z' :: cs) = 'Z' :: cs := fun _ => rfl
  have hoffset : stampOffset ['Z'] = .ok (0, []) := rfl
  have hnoOffset : (0 : Int).natAbs < secondsPerDay := by decide
  have huniversal := fromLocal_universal t.settled
  rw [t.date_settled] at huniversal
  rw [hprint, parseStamp, stampYear_printYear hyear.1 hyear.2]
  simp only [bind, Except.bind, separator_cons (show isBlank '-' = false from rfl),
    separator_cons (show isBlank ':' = false from rfl),
    stampField_padded hmonth.1 hmonth.2 (by omega),
    stampField_padded hday.1 (Nat.le_trans hday.2 hdays) (by omega), timeMark, true_or,
    if_true, stampField_padded (Nat.zero_le _) (by omega : t.second / 3600 ≤ 23) (by omega),
    stampField_padded (Nat.zero_le _) (by omega : t.second / 60 % 60 ≤ 59) (by omega),
    stampField_padded (Nat.zero_le _) hshown (by omega), stampFraction_printFraction hnano, hzone,
    hoffset, hnoOffset, Date.of?_eq_some, hback, hnanoBack, huniversal]
  rfl

end Companion.Time
