import Companion.Json.Reader
import Companion.Proofs.Skipping
import Mathlib.Data.List.DropRight

/-!
Where words, numbers and strings end. A token that is read is passed over, and what comes behind the
text makes no difference to that, except to a number that the text ends with. A pair of surrogates is
read as one character but passed over in two steps.
-/

namespace Companion.Json

open Number Text

section Pieces

variable {s rest t : List Symbol}

theorem dropSpace_append {x : Symbol} (h : dropSpace s = x :: rest) (t : List Symbol) :
    dropSpace (s ++ t) = x :: (rest ++ t) := by
  rw [dropSpace] at h ⊢
  rw [List.dropWhile_append, h]
  rfl

theorem length_dropSpace_le (s : List Symbol) : (dropSpace s).length ≤ s.length :=
  (List.dropWhile_sublist _).length_le

theorem dropSpace_dropSpace (s : List Symbol) : dropSpace (dropSpace s) = dropSpace s :=
  List.dropWhile_idempotent ..

theorem startsWith_append (q : Char → Bool) (hs : s ≠ []) (t : List Symbol) :
    startsWith q (s ++ t) = startsWith q s := by
  obtain ⟨x, u, rfl⟩ := List.exists_cons_of_ne_nil hs
  cases x with
  | char c => rfl
  | stray o => rfl

theorem ne_nil_of_startsWith {q : Char → Bool} (h : startsWith q s = true) : s ≠ [] := by
  obtain ⟨c, u, rfl, _⟩ := startsWith_eq_true h
  exact List.cons_ne_nil _ _

/-! ### Words and numbers -/

theorem readWord_append {w : List Char} (h : readWord w s = .ok rest) (t : List Symbol) :
    readWord w (s ++ t) = .ok (rest ++ t) := by
  induction w generalizing s with
  | nil =>
    obtain rfl := Except.ok.inj h
    rfl
  | cons c w ih =>
    cases s with
    | nil => cases h
    | cons x s =>
      rw [readWord] at h
      rw [List.cons_append, readWord]
      split at h
      · next hx =>
        rw [if_pos hx]
        exact ih h
      · cases h

/-- Digits end in the text, or with it. -/
theorem takeDigits_append_right (h : (takeDigits s).2 ≠ []) (t : List Symbol) :
    (takeDigits (s ++ t)).2 = (takeDigits s).2 ++ t := by
  induction s with
  | nil => exact absurd rfl h
  | cons x s ih =>
    cases x with
    | stray o => rfl
    | char c =>
      rw [takeDigits] at h ⊢
      rw [List.cons_append, takeDigits]
      split at h
      · next hc =>
        rw [if_pos hc, if_pos hc]
        exact ih h
      · next hc =>
        rw [if_neg hc, if_neg hc]
        rfl

theorem skipDigits_append (h : skipDigits s = .ok rest) (hrest : rest ≠ []) (t : List Symbol) :
    skipDigits (s ++ t) = .ok (rest ++ t) := by
  rw [skipDigits] at h ⊢
  split at h
  · next hdigit =>
    obtain rfl := Except.ok.inj h
    rw [startsWith_append _ (ne_nil_of_startsWith hdigit), if_pos hdigit,
      takeDigits_append_right hrest]
  · cases h

theorem ne_nil_of_skipDigits (h : skipDigits s = .ok rest) : s ≠ [] := by
  rw [skipDigits] at h
  split at h
  · next hdigit => exact ne_nil_of_startsWith hdigit
  · cases h

theorem skipExponent_append (h : skipExponent s = .ok rest) (hrest : rest ≠ []) (t : List Symbol) :
    skipExponent (s ++ t) = .ok (rest ++ t) := by
  rw [skipExponent] at h ⊢
  split at h
  · next hmark =>
    obtain ⟨c, u, rfl, hc⟩ := startsWith_eq_true hmark
    have hmark' : startsWith isExponentMark ((.char c :: u) ++ t) = true := hc
    rw [if_pos hmark']
    simp only [List.cons_append, List.drop_succ_cons, List.drop_zero] at h ⊢
    cases u with
    | nil => exact absurd rfl (ne_nil_of_skipDigits h)
    | cons x u =>
      rw [startsWith_append _ (List.cons_ne_nil x u)]
      split at h
      · next hsign =>
        rw [if_pos hsign]
        exact skipDigits_append h hrest t
      · next hsign =>
        rw [if_neg hsign]
        exact skipDigits_append h hrest t
  · next hmark =>
    obtain rfl := Except.ok.inj h
    rw [startsWith_append _ hrest, if_neg hmark]

/-- A number that the text does not end with is passed over whatever follows the text. -/
theorem skipNumber_append (h : skipNumber s = .ok rest) (hrest : rest ≠ []) (t : List Symbol) :
    skipNumber (s ++ t) = .ok (rest ++ t) := by
  obtain ⟨u, hu, h⟩ := bind_eq_ok h
  have hs := ne_nil_of_skipDigits hu
  have hu' : u ≠ [] := by
    intro hnil
    subst hnil
    split at h
    · exact nomatch h
    · have hend : rest = [] := (Except.ok.inj h).symm
      exact hrest hend
  have hdigits := skipDigits_append hu hu' t
  rw [skipNumber, hdigits]
  show (if startsWith (· == '0') (s ++ t) = true ∧
      startsWith Char.isDigit ((s ++ t).drop 1) = true then _ else _) = _
  have hzero : (startsWith (· == '0') (s ++ t) = true ∧
      startsWith Char.isDigit ((s ++ t).drop 1) = true) ↔
      (startsWith (· == '0') s = true ∧ startsWith Char.isDigit (s.drop 1) = true) := by
    rw [startsWith_append _ hs]
    refine and_congr_right fun hfront => ?_
    obtain ⟨c, v, rfl, hc⟩ := startsWith_eq_true hfront
    cases v with
    | nil =>
      -- A zero that ends the text would have left nothing.
      obtain rfl := beq_iff_eq.mp hc
      exact absurd (Except.ok.inj hu).symm hu'
    | cons x v =>
      show startsWith Char.isDigit ((x :: v) ++ t) = true ↔ _
      rw [startsWith_append _ (List.cons_ne_nil x v)]
      rfl
  split at h
  · exact nomatch h
  · next hnot =>
    rw [if_neg (fun hboth => hnot (hzero.mp hboth)), startsWith_append _ hu']
    split at h
    · next hpoint =>
      rw [if_pos hpoint]
      obtain ⟨c, v, rfl, _⟩ := startsWith_eq_true hpoint
      obtain ⟨w, hw, h⟩ := bind_eq_ok h
      have hw' : w ≠ [] := by
        intro hnil
        subst hnil
        have hend : rest = [] := (Except.ok.inj h).symm
        exact hrest hend
      have hfraction : skipDigits (((.char c :: v) ++ t).drop 1) = .ok (w ++ t) :=
        skipDigits_append hw hw' t
      rw [hfraction]
      exact skipExponent_append h hrest t
    · next hpoint =>
      rw [if_neg hpoint]
      exact skipExponent_append h hrest t

theorem exponentDigits_rest (n : Nat) (s : List Symbol) :
    match exponentDigits n s with
    | .inl rest => (takeDigits s).2 = (takeDigits rest).2
    | .inr (_, rest) => (takeDigits s).2 = rest := by
  induction s generalizing n with
  | nil => rfl
  | cons x s ih =>
    cases x with
    | stray o => rfl
    | char c =>
      rw [exponentDigits, takeDigits]
      by_cases hc : c.isDigit = true
      · rw [if_pos hc, if_pos hc]
        by_cases hlimit : exponentLimit < 10 * n + digitValue c
        · rw [if_pos hlimit]
        · rw [if_neg hlimit]
          exact ih (10 * n + digitValue c)
      · rw [if_neg hc, if_neg hc]

theorem readExponent_skips {negative : Bool} {significand : Nat} {start : Int} {n : Numeral}
    (h : readExponent negative significand start s = .ok (n, rest)) :
    skipDigits (if startsWith (fun c => c == '+' || c == '-') s then s.drop 1 else s) =
      .ok rest := by
  unfold readExponent at h
  split at h
  next down u hsign =>
  -- Past the sign there is a digit, and what is left is left by the digits.
  have hdigits : skipDigits u = .ok rest := by
    cases u with
    | nil => cases h
    | cons x u =>
      dsimp only at h
      have hrest := exponentDigits_rest 0 (x :: u)
      split at h
      · next hdigit =>
        have hfront : startsWith Char.isDigit (x :: u) = true := by
          cases x with
          | char c => exact hdigit
          | stray o => cases hdigit
        rw [skipDigits, if_pos hfront]
        cases hexp : exponentDigits 0 (x :: u) with
        | inl left =>
          rw [hexp] at h hrest
          dsimp only at h hrest
          split at h
          · cases h
          · rw [hrest, (Prod.mk.inj (Except.ok.inj h)).2]
        | inr found =>
          obtain ⟨e, left⟩ := found
          rw [hexp] at h hrest
          dsimp only at h hrest
          split at h
          · rw [hrest, (Prod.mk.inj (Except.ok.inj h)).2]
          · cases h
      · cases h
  split at hsign
  · obtain ⟨_, rfl⟩ := Prod.mk.inj hsign
    exact hdigits
  · obtain ⟨_, rfl⟩ := Prod.mk.inj hsign
    exact hdigits
  · next hplus hminus =>
    obtain ⟨_, rfl⟩ := Prod.mk.inj hsign
    have hnone : ¬ startsWith (fun c => c == '+' || c == '-') s = true := by
      intro hstart
      obtain ⟨c, u, rfl, hc⟩ := startsWith_eq_true hstart
      simp only [Bool.or_eq_true, beq_iff_eq] at hc
      rcases hc with rfl | rfl
      · exact hplus u rfl
      · exact hminus u rfl
    rw [if_neg hnone]
    exact hdigits

theorem finishReal_skips {negative : Bool} {significand : Nat} {exponent : Int} {n : Numeral}
    (h : finishReal negative significand exponent s = .ok (n, rest)) :
    skipExponent s = .ok rest := by
  unfold finishReal at h
  rw [skipExponent]
  split at h
  · next hmark =>
    rw [if_pos hmark]
    exact readExponent_skips h
  · next hmark =>
    rw [if_neg hmark]
    split at h
    · rw [(Prod.mk.inj (Except.ok.inj h)).2]
    · cases h

theorem startsWith_digit_iff (s : List Symbol) :
    startsWith Char.isDigit s = true ↔ (takeDigits s).1 ≠ [] := by
  rcases s with _ | ⟨⟨c⟩ | ⟨o⟩, s⟩
  · simp [startsWith, takeDigits]
  · by_cases hc : c.isDigit = true
    · simp [startsWith, takeDigits, hc]
    · simp [startsWith, takeDigits, hc]
  · simp [startsWith, takeDigits]

/-- A number that is read is passed over. -/
theorem readNumber_skips {negative : Bool} {n : Numeral}
    (h : readNumber negative s = .ok (n, rest)) : skipNumber s = .ok rest := by
  cases s with
  | nil => cases h
  | cons x tail =>
    unfold readNumber at h
    dsimp only at h
    split at h
    · cases h
    · next hdigit =>
      have hfront : startsWith Char.isDigit (x :: tail) = true := by simpa using hdigit
      split at h
      · cases h
      · next hzero =>
        have hzero' : ¬ (startsWith (· == '0') (x :: tail) = true ∧
            startsWith Char.isDigit ((x :: tail).drop 1) = true) := by
          rintro ⟨hfirst, hsecond⟩
          obtain ⟨c, v, heq, hc⟩ := startsWith_eq_true hfirst
          obtain ⟨rfl, rfl⟩ := List.cons.inj heq
          obtain rfl := beq_iff_eq.mp hc
          exact hzero ⟨rfl, hsecond⟩
        have hdigits : skipDigits (x :: tail) = .ok (takeDigits (x :: tail)).2 := by
          rw [skipDigits, if_pos hfront]
        rw [skipNumber, hdigits]
        show (if _ then _ else _) = _
        rw [if_neg hzero']
        split at h
        · next hpoint =>
          rw [if_pos hpoint]
          unfold readFraction at h
          dsimp only at h
          split at h
          · cases h
          · next hsome =>
            have hmore : startsWith Char.isDigit ((takeDigits (x :: tail)).2.drop 1) = true :=
              (startsWith_digit_iff _).mpr (by simpa using hsome)
            rw [skipDigits, if_pos hmore]
            exact finishReal_skips h
        · next hpoint =>
          rw [if_neg hpoint]
          split at h
          · exact finishReal_skips h
          · next hwhole =>
            obtain ⟨hmark, _⟩ := not_or.mp hwhole
            rw [skipExponent, if_neg hmark, (Prod.mk.inj (Except.ok.inj h)).2]

/-! ### Strings -/

theorem readHex_append {n : Nat} (h : readHex s = .ok (n, rest)) (t : List Symbol) :
    readHex (s ++ t) = .ok (n, rest ++ t) := by
  unfold readHex at h ⊢
  dsimp only at h ⊢
  split at h
  · split at h
    · next ha hb hc hd =>
      obtain ⟨rfl, rfl⟩ := Prod.mk.inj (Except.ok.inj h)
      simp only [List.cons_append, ha, hb, hc, hd]
    · exact nomatch h
  · exact nomatch h

theorem readHex_length {n : Nat} (h : readHex s = .ok (n, rest)) : s.length = rest.length + 4 := by
  unfold readHex at h
  dsimp only at h
  split at h
  · split at h
    · obtain ⟨_, rfl⟩ := Prod.mk.inj (Except.ok.inj h)
      rfl
    · exact nomatch h
  · exact nomatch h

theorem readInside_eq {c : Char} {otherwise : Cause} (h : readInside c otherwise s = .ok rest) :
    s = .char c :: rest := by
  cases s with
  | nil => exact nomatch h
  | cons x s =>
    rw [readInside] at h
    split at h
    · next hx => rw [hx, Except.ok.inj h]
    · exact nomatch h

theorem skipString_quote (n : Nat) (s : List Symbol) :
    skipString (n + 1) (.char '"' :: s) = .ok s := by
  rw [skipString.eq_def]
  exact if_pos rfl

theorem skipString_plain {c : Char} (hquote : c ≠ '"') (hslash : c ≠ '\\')
    (hcontrol : ¬ c.toNat < 0x20) (n : Nat) (s : List Symbol) :
    skipString (n + 1) (.char c :: s) = skipString n s := by
  rw [skipString.eq_def]
  dsimp only
  rw [if_neg hquote, if_neg hslash, if_neg hcontrol]

theorem skipString_code {k : Nat} (h : readHex s = .ok (k, rest)) (n : Nat) :
    skipString (n + 1) (.char '\\' :: .char 'u' :: s) = skipString n rest := by
  rw [skipString.eq_def]
  dsimp only
  rw [if_neg (by decide), if_pos rfl]
  show (do skipString n (← readHex s).2) = _
  rw [h]
  rfl

theorem skipString_letter {c d : Char} (hc : c ≠ 'u') (h : escapedChar? c = some d) (n : Nat)
    (s : List Symbol) : skipString (n + 1) (.char '\\' :: .char c :: s) = skipString n s := by
  rw [skipString.eq_def]
  dsimp only
  rw [if_neg (by decide), if_pos rfl, readEscape, if_neg hc, h]
  split
  · next hu =>
    obtain ⟨hletter, _⟩ := List.cons.inj hu
    exact absurd (Symbol.char.inj hletter) hc
  · rfl

/-- One escape is passed over in one step, a pair of surrogates in two. -/
theorem readEscape_skips {c : Char} (h : readEscape s = .ok (c, rest)) (t : List Symbol) {m : Nat}
    (hm : (s ++ t).length ≤ m) :
    ∃ m', (rest ++ t).length ≤ m' ∧
      skipString (m + 1) (.char '\\' :: (s ++ t)) = skipString m' (rest ++ t) := by
  rcases s with _ | ⟨⟨e⟩ | ⟨o⟩, s⟩
  · cases h
  · simp only [List.cons_append, List.length_cons, List.length_append] at hm ⊢
    rw [readEscape] at h
    by_cases he : e = 'u'
    · subst he
      rw [if_pos rfl] at h
      obtain ⟨⟨k, u⟩, hhex, h⟩ := bind_eq_ok h
      have hlength := readHex_length hhex
      have hstep := skipString_code (readHex_append hhex t) m
      dsimp only at h
      split at h
      · cases h
      · split at h
        · obtain ⟨_, rfl⟩ := Prod.mk.inj (Except.ok.inj h)
          exact ⟨m, by omega, hstep⟩
        · obtain ⟨v, hslash, hpair⟩ := bind_eq_ok h
          obtain ⟨w, hletter, hpair⟩ := bind_eq_ok hpair
          obtain ⟨⟨k', r⟩, hhex', hpair⟩ := bind_eq_ok hpair
          rw [readInside_eq hslash, readInside_eq hletter] at hlength hstep
          have hlength' := readHex_length hhex'
          simp only [List.length_cons] at hlength
          dsimp only at hpair
          split at hpair
          · cases hpair
          · obtain ⟨_, rfl⟩ := Prod.mk.inj (Except.ok.inj hpair)
            obtain ⟨m, rfl⟩ : ∃ m', m = m' + 1 := ⟨m - 1, by omega⟩
            exact ⟨m, by omega, hstep.trans (skipString_code (readHex_append hhex' t) m)⟩
    · rw [if_neg he] at h
      split at h
      · next d hd =>
        obtain ⟨_, rfl⟩ := Prod.mk.inj (Except.ok.inj h)
        exact ⟨m, by omega, skipString_letter he hd m (s ++ t)⟩
      · cases h
  · cases h

theorem readString_skips {n : Nat} {content : Content} {cs : List Char}
    (h : readString n content s = .ok (cs, rest)) (t : List Symbol) {m : Nat}
    (hm : (s ++ t).length ≤ m) : skipString m (s ++ t) = .ok (rest ++ t) := by
  induction n generalizing content s m with
  | zero => cases h
  | succ n ih =>
    rcases s with _ | ⟨⟨c⟩ | ⟨o⟩, s⟩
    · cases h
    · simp only [List.cons_append, List.length_cons] at hm ⊢
      obtain ⟨m, rfl⟩ : ∃ m', m = m' + 1 := ⟨m - 1, by omega⟩
      rw [readString] at h
      split at h
      · next hquote =>
        rw [Content.close] at h
        subst hquote
        split at h
        · rw [skipString_quote, (Prod.mk.inj (Except.ok.inj h)).2]
        · cases h
      · next hquote =>
        split at h
        · next hslash =>
          subst hslash
          obtain ⟨⟨d, u⟩, hescape, h⟩ := bind_eq_ok h
          obtain ⟨m', hm', hstep⟩ := readEscape_skips hescape t (m := m) (by omega)
          rw [hstep]
          exact ih h hm'
        · next hslash =>
          split at h
          · cases h
          · next hcontrol =>
            rw [skipString_plain hquote hslash hcontrol]
            exact ih h (by omega)
    · simp only [List.cons_append, List.length_cons] at hm ⊢
      obtain ⟨m, rfl⟩ : ∃ m', m = m' + 1 := ⟨m - 1, by omega⟩
      rw [readString] at h
      rw [skipString]
      exact ih h (by omega)

/-- A string that is read is passed over, whatever follows the text. -/
theorem readText_skips {text : String} (h : readText s = .ok (text, rest)) (t : List Symbol) :
    skipString (s ++ t).length (s ++ t) = .ok (rest ++ t) := by
  obtain ⟨⟨cs, u⟩, hread, h⟩ := bind_eq_ok h
  obtain ⟨_, rfl⟩ := Prod.mk.inj (Except.ok.inj h)
  exact readString_skips hread t (Nat.le_refl _)

end Pieces

end Companion.Json
