import Companion.Json.Skip
import Companion.Proofs.Blanks
import Companion.Proofs.JsonText

/-!
What is passed over when a value is. A value begins and ends outside of string literals, its last
symbol is not blank, and the letter of a tag follows none of its opening brackets but those inside
string literals.
-/

namespace Companion.Json

open Number Text

/-! ### Literals -/

/-- Where one stands in JSON: outside of string literals, inside of one, or there after a backslash. -/
inductive Spot
  | outside
  | inside
  | escaped
  deriving DecidableEq, Repr

def Spot.next : Spot → Symbol → Spot
  | .outside, x => if x = .char '"' then .inside else .outside
  | .inside, x => if x = .char '"' then .outside else if x = .char '\\' then .escaped else .inside
  | .escaped, _ => .inside

def Spot.after (spot : Spot) (s : List Symbol) : Spot := s.foldl next spot

theorem Spot.after_append (spot : Spot) (s t : List Symbol) :
    spot.after (s ++ t) = (spot.after s).after t := List.foldl_append

def startsNoName : List Symbol → Prop
  | .char c :: _ => c ≠ 'U' ∧ c ≠ 'R'
  | _ => False

/-- The name of a tag follows no opening bracket but those inside string literals. -/
def Untagged : Spot → List Symbol → Prop
  | _, [] => True
  | spot, x :: rest =>
    (spot = .outside → x = .char '[' → startsNoName rest) ∧ Untagged (spot.next x) rest

theorem startsNoName_append {s : List Symbol} (h : startsNoName s) (t : List Symbol) :
    startsNoName (s ++ t) := by
  rcases s with _ | ⟨⟨c⟩ | ⟨o⟩, s⟩
  · exact absurd h id
  · exact h
  · exact absurd h id

theorem Untagged.append {spot : Spot} {s t : List Symbol} (hs : Untagged spot s)
    (ht : Untagged (spot.after s) t) : Untagged spot (s ++ t) := by
  induction s generalizing spot with
  | nil => exact ht
  | cons x s ih =>
    obtain ⟨hx, hs⟩ := hs
    refine ⟨?_, ih hs ht⟩
    intro hspot hbracket
    exact startsNoName_append (hx hspot hbracket) t

def Passes (spot : Spot) (s : List Symbol) (spot' : Spot) (rest : List Symbol) : Prop :=
  ∃ p, s = p ++ rest ∧ Untagged spot p ∧ spot.after p = spot'

section Passes

variable {spot spot' spot'' : Spot} {s t rest : List Symbol} {x : Symbol}

theorem Passes.refl : Passes spot s spot s := ⟨[], rfl, trivial, rfl⟩

theorem Passes.trans (h : Passes spot s spot' t) (h' : Passes spot' t spot'' rest) :
    Passes spot s spot'' rest := by
  obtain ⟨p, rfl, hp, rfl⟩ := h
  obtain ⟨q, rfl, hq, rfl⟩ := h'
  exact ⟨p ++ q, (List.append_assoc ..).symm, hp.append hq, spot.after_append p q⟩

/-- A symbol is passed that opens no list. -/
theorem Passes.cons (hx : spot = .outside → x ≠ .char '[')
    (h : Passes (spot.next x) s spot' rest) : Passes spot (x :: s) spot' rest := by
  obtain ⟨p, rfl, hp, rfl⟩ := h
  refine ⟨x :: p, rfl, ⟨?_, hp⟩, rfl⟩
  intro hspot hbracket
  exact absurd hbracket (hx hspot)

/-- Inside of a string any symbol is passed. -/
theorem Passes.literal (hspot : spot ≠ .outside) : Passes spot (x :: s) (spot.next x) s :=
  .cons (fun hout => absurd hout hspot) .refl

/-- A symbol of a string that neither ends it nor escapes the next one. -/
theorem Passes.inner (hquote : x ≠ .char '"') (hslash : x ≠ .char '\\') :
    Passes .inside (x :: s) .inside s := by
  have hspot : Spot.next .inside x = .inside := by simp [Spot.next, hquote, hslash]
  have hpass : Passes .inside (x :: s) (Spot.next .inside x) s := .literal (by decide)
  rwa [hspot] at hpass

end Passes

def Ends (s rest : List Symbol) : Prop := ∃ p c, s = p ++ .char c :: rest ∧ isBlank c = false

theorem Ends.of_cons {c : Char} (h : isBlank c = false) (rest : List Symbol) :
    Ends (.char c :: rest) rest := ⟨[], c, rfl, h⟩

theorem Ends.append {s rest : List Symbol} (h : Ends s rest) (p : List Symbol) :
    Ends (p ++ s) rest := by
  obtain ⟨q, c, rfl, hc⟩ := h
  exact ⟨p ++ q, c, (List.append_assoc ..).symm, hc⟩

theorem Ends.after {spot spot' : Spot} {s t rest : List Symbol} (h : Ends t rest)
    (hpass : Passes spot s spot' t) : Ends s rest := by
  obtain ⟨p, rfl, _⟩ := hpass
  exact h.append p

theorem Ends.cons {s rest : List Symbol} (h : Ends s rest) (x : Symbol) : Ends (x :: s) rest :=
  h.append [x]

structure Passed (spot : Spot) (s rest : List Symbol) : Prop where
  passes : Passes spot s .outside rest
  ends : Ends s rest

theorem Passed.after {spot spot' : Spot} {s t rest : List Symbol} (h : Passed spot' t rest)
    (hpass : Passes spot s spot' t) : Passed spot s rest :=
  ⟨hpass.trans h.passes, h.ends.after hpass⟩

/-- A closing mark is passed. -/
theorem Passed.of_mark {c : Char} (hc : isBlank c = false) (hopen : c ≠ '[') (hquote : c ≠ '"')
    (rest : List Symbol) : Passed .outside (.char c :: rest) rest where
  passes := by
    refine .cons (fun _ => by simpa using hopen) ?_
    have hspot : Spot.next .outside (.char c) = .outside := if_neg (by simpa using hquote)
    rw [hspot]
    exact .refl
  ends := .of_cons hc rest

/-! ### Plain symbols -/

/-- A symbol that means nothing to lists and strings. -/
def IsPlain (x : Symbol) : Prop := x ≠ .char '"' ∧ x ≠ .char '[' ∧ x ≠ .char ']'

def PassesPlain (s rest : List Symbol) : Prop :=
  ∃ p, s = p ++ rest ∧ ∀ x ∈ p, IsPlain x

theorem PassesPlain.refl {s : List Symbol} : PassesPlain s s := ⟨[], rfl, by simp⟩

theorem PassesPlain.trans {s t rest : List Symbol} (h : PassesPlain s t)
    (h' : PassesPlain t rest) : PassesPlain s rest := by
  obtain ⟨p, rfl, hp⟩ := h
  obtain ⟨q, rfl, hq⟩ := h'
  refine ⟨p ++ q, (List.append_assoc ..).symm, ?_⟩
  intro x hx
  rcases List.mem_append.mp hx with hx | hx
  · exact hp x hx
  · exact hq x hx

theorem PassesPlain.cons {x : Symbol} {s rest : List Symbol} (hx : IsPlain x)
    (h : PassesPlain s rest) : PassesPlain (x :: s) rest := by
  obtain ⟨p, rfl, hp⟩ := h
  refine ⟨x :: p, rfl, ?_⟩
  intro y hy
  rcases List.mem_cons.mp hy with rfl | hy
  · exact hx
  · exact hp y hy

theorem PassesPlain.passes {s rest : List Symbol} (h : PassesPlain s rest) :
    Passes .outside s .outside rest := by
  obtain ⟨p, rfl, hp⟩ := h
  induction p with
  | nil => exact .refl
  | cons x p ih =>
    obtain ⟨hquote, hopen, _⟩ := hp x List.mem_cons_self
    refine .cons (fun _ => hopen) ?_
    have hspot : Spot.next .outside x = .outside := if_neg hquote
    rw [hspot]
    exact ih fun y hy => hp y (List.mem_cons_of_mem x hy)

theorem isPlain_of_isSpace {x : Symbol} (h : isSpace x = true) : IsPlain x := by
  unfold isSpace at h
  simp only [Bool.or_eq_true, beq_iff_eq] at h
  unfold IsPlain
  rcases h with ((rfl | rfl) | rfl) | rfl <;> decide

def isLetter (c : Char) : Bool := decide (97 ≤ c.toNat) && decide (c.toNat ≤ 122)

theorem isPlain_of_isLetter {c : Char} (h : isLetter c = true) : IsPlain (.char c) := by
  refine ⟨?_, ?_, ?_⟩ <;> · intro hc; rw [Symbol.char.inj hc] at h; exact absurd h (by decide)

theorem isBlank_of_isLetter {c : Char} (h : isLetter c = true) : isBlank c = false := by
  simp only [isLetter, Bool.and_eq_true, decide_eq_true_eq] at h
  simp only [isBlank, Bool.or_eq_false_iff, Bool.and_eq_false_iff, decide_eq_false_iff_not,
    beq_eq_false_iff_ne]
  omega

theorem isPlain_of_isDigit {c : Char} (h : c.isDigit = true) : IsPlain (.char c) := by
  refine ⟨?_, ?_, ?_⟩ <;> · intro hc; rw [Symbol.char.inj hc] at h; exact absurd h (by decide)

theorem dropSpace_passesPlain (s : List Symbol) : PassesPlain s (dropSpace s) := by
  refine ⟨s.takeWhile isSpace, List.takeWhile_append_dropWhile.symm, ?_⟩
  intro x hx
  exact isPlain_of_isSpace (List.all_eq_true.mp List.all_takeWhile x hx)

/-! ### Words and numbers -/

theorem readWord_passesPlain {w : List Char} (hw : ∀ c ∈ w, IsPlain (.char c)) {s rest : List Symbol}
    (h : readWord w s = .ok rest) : PassesPlain s rest := by
  induction w generalizing s with
  | nil =>
    obtain rfl := Except.ok.inj h
    exact .refl
  | cons c w ih =>
    cases s with
    | nil => exact nomatch h
    | cons x s =>
      rw [readWord] at h
      split at h
      · next hx =>
        subst hx
        have htail := ih (fun d hd => hw d (List.mem_cons_of_mem c hd)) h
        exact htail.cons (hw c List.mem_cons_self)
      · exact nomatch h

theorem takeDigits_passesPlain (s : List Symbol) : PassesPlain s (takeDigits s).2 := by
  induction s with
  | nil => exact .refl
  | cons x s ih =>
    cases x with
    | stray o => exact .refl
    | char c =>
      rw [takeDigits]
      split
      · next hc => exact ih.cons (isPlain_of_isDigit hc)
      · exact .refl

/-- Digits end with one. -/
theorem takeDigits_ends {s : List Symbol} (h : startsWith Char.isDigit s = true) :
    Ends s (takeDigits s).2 := by
  induction s with
  | nil => exact nomatch h
  | cons x s ih =>
    cases x with
    | stray o => exact nomatch h
    | char c =>
      have hc : c.isDigit = true := h
      rw [takeDigits, if_pos hc]
      cases htail : startsWith Char.isDigit s with
      | true => exact (ih htail).cons (.char c)
      | false =>
        have hstop : (takeDigits s).2 = s := by
          rcases s with _ | ⟨⟨d⟩ | ⟨o⟩, s⟩
          · rfl
          · have hd : d.isDigit = false := htail
            rw [takeDigits, if_neg (by simp [hd])]
          · rfl
        dsimp only
        rw [hstop]
        exact .of_cons (isBlank_of_isDigit hc) s

theorem bind_eq_ok {ε α β : Type} {x : Except ε α} {f : α → Except ε β} {b : β}
    (h : (x >>= f) = .ok b) : ∃ a, x = .ok a ∧ f a = .ok b := by
  cases x with
  | error e => exact nomatch h
  | ok a => exact ⟨a, rfl, h⟩

theorem startsWith_eq_true {q : Char → Bool} {s : List Symbol} (h : startsWith q s = true) :
    ∃ c t, s = .char c :: t ∧ q c = true := by
  rcases s with _ | ⟨⟨c⟩ | ⟨o⟩, t⟩
  · exact nomatch h
  · exact ⟨c, t, rfl, h⟩
  · exact nomatch h

theorem skipDigits_passes {s rest : List Symbol} (h : skipDigits s = .ok rest) :
    PassesPlain s rest ∧ Ends s rest := by
  rw [skipDigits] at h
  split at h
  · next hdigit =>
    obtain rfl := Except.ok.inj h
    exact ⟨takeDigits_passesPlain s, takeDigits_ends hdigit⟩
  · exact nomatch h

theorem PassesPlain.ends {s t rest : List Symbol} (h : PassesPlain s t) (hend : Ends t rest) :
    Ends s rest := by
  obtain ⟨p, rfl, _⟩ := h
  exact hend.append p

theorem skipExponent_passes {s rest : List Symbol} (h : skipExponent s = .ok rest) :
    PassesPlain s rest ∧ (rest = s ∨ Ends s rest) := by
  rw [skipExponent] at h
  split at h
  · next hmark =>
    obtain ⟨c, t, rfl, hc⟩ := startsWith_eq_true hmark
    have hplain : IsPlain (.char c) := by
      simp only [isExponentMark, Bool.or_eq_true, beq_iff_eq] at hc
      unfold IsPlain
      rcases hc with rfl | rfl <;> decide
    have hsign : PassesPlain t
        (if startsWith (fun c => c == '+' || c == '-') t = true then t.drop 1 else t) := by
      split
      · next hsign =>
        obtain ⟨d, u, rfl, hd⟩ := startsWith_eq_true hsign
        refine .cons ?_ .refl
        simp only [Bool.or_eq_true, beq_iff_eq] at hd
        unfold IsPlain
        rcases hd with rfl | rfl <;> decide
      · exact .refl
    obtain ⟨hdigits, hend⟩ := skipDigits_passes h
    have hall := (hsign.trans hdigits).cons hplain
    exact ⟨hall, .inr ((hsign.ends hend).cons (.char c))⟩
  · obtain rfl := Except.ok.inj h
    exact ⟨.refl, .inl rfl⟩

/-- A number is passed by plain symbols. -/
theorem skipNumber_passes {s rest : List Symbol} (h : skipNumber s = .ok rest) :
    PassesPlain s rest ∧ Ends s rest := by
  obtain ⟨t, ht, h⟩ := bind_eq_ok h
  obtain ⟨hplain, hend⟩ := skipDigits_passes ht
  have hexponent : ∀ {u : List Symbol}, PassesPlain s u → Ends s u → skipExponent u = .ok rest →
      PassesPlain s rest ∧ Ends s rest := by
    intro u hu huend hskip
    obtain ⟨hpass, hcases⟩ := skipExponent_passes hskip
    refine ⟨hu.trans hpass, ?_⟩
    rcases hcases with rfl | hmore
    · exact huend
    · exact hu.ends hmore
  split at h
  · exact nomatch h
  · split at h
    · next hpoint =>
      obtain ⟨c, u, rfl, hc⟩ := startsWith_eq_true hpoint
      obtain rfl := beq_iff_eq.mp hc
      obtain ⟨v, hv, h⟩ := bind_eq_ok h
      obtain ⟨hdigits, hdigitsend⟩ := skipDigits_passes hv
      have hpointed : PassesPlain (.char '.' :: u) v := hdigits.cons (by unfold IsPlain; decide)
      exact hexponent (hplain.trans hpointed) (hplain.ends (hdigitsend.cons _)) h
    · exact hexponent hplain hend h

/-! ### Strings -/

theorem readHex_passes {s : List Symbol} {n : Nat} {rest : List Symbol}
    (h : readHex s = .ok (n, rest)) : Passes .inside s .inside rest := by
  have hdigit : ∀ {c : Char} {m : Nat}, hexValue? c = some m → c ≠ '"' ∧ c ≠ '\\' := by
    intro c m hc
    constructor
    · rintro rfl
      exact nomatch hc
    · rintro rfl
      exact nomatch hc
  have hstep : ∀ {c : Char} {m : Nat} {t : List Symbol}, hexValue? c = some m →
      Passes .inside (.char c :: t) .inside t := by
    intro c m t hc
    obtain ⟨hquote, hslash⟩ := hdigit hc
    exact .inner (by simpa using hquote) (by simpa using hslash)
  unfold readHex at h
  dsimp only at h
  split at h
  · split at h
    · next ha hb hc hd =>
      obtain ⟨_, rfl⟩ := Prod.mk.inj (Except.ok.inj h)
      exact (hstep ha).trans ((hstep hb).trans ((hstep hc).trans (hstep hd)))
    · exact nomatch h
  · exact nomatch h

/-- A string is passed from after its opening quote on. -/
theorem skipString_passed (n : Nat) {s rest : List Symbol} (h : skipString n s = .ok rest) :
    Passed .inside s rest := by
  induction n generalizing s with
  | zero => cases h
  | succ n ih =>
    rcases s with _ | ⟨⟨c⟩ | ⟨o⟩, s⟩
    · cases h
    · unfold skipString at h
      split at h
      · next hquote =>
        subst hquote
        obtain rfl := Except.ok.inj h
        exact ⟨.literal (by decide), .of_cons (by decide) s⟩
      · next hquote =>
        split at h
        · next hslash =>
          subst hslash
          have hescaped : Passes .inside (.char '\\' :: s) .escaped s :=
            .literal (by decide)
          split at h
          · next t =>
            obtain ⟨⟨m, u⟩, hhex, h⟩ := bind_eq_ok h
            have hmark : Passes .escaped (.char 'u' :: t) .inside t :=
              .literal (by decide)
            exact (ih h).after (hescaped.trans (hmark.trans (readHex_passes hhex)))
          · next hnohex =>
            obtain ⟨⟨d, u⟩, hescape, h⟩ := bind_eq_ok h
            rcases s with _ | ⟨⟨e⟩ | ⟨o⟩, s⟩
            · cases hescape
            · have hletter : e ≠ 'u' := by
                rintro rfl
                exact hnohex s rfl
              rw [readEscape, if_neg hletter] at hescape
              split at hescape
              · obtain ⟨_, rfl⟩ := Prod.mk.inj (Except.ok.inj hescape)
                have hone : Passes .escaped (.char e :: s) .inside s :=
                  .literal (by decide)
                exact (ih h).after (hescaped.trans hone)
              · cases hescape
            · cases hescape
        · next hslash =>
          split at h
          · cases h
          · exact (ih h).after (.inner (by simpa using hquote) (by simpa using hslash))
    · exact (ih h).after (.inner (by simp) (by simp))

/-! ### Lists and objects -/

theorem dropSpace_passes (s : List Symbol) : Passes .outside s .outside (dropSpace s) :=
  (dropSpace_passesPlain s).passes

theorem skipKey_passes {s rest : List Symbol} (h : skipKey s = .ok rest) :
    Passes .outside s .outside rest := by
  have hspace := dropSpace_passes s
  unfold skipKey at h
  split at h
  · exact nomatch h
  · next x t hx =>
    rw [hx] at hspace
    split at h
    · next hquote =>
      subst hquote
      obtain ⟨u, hu, h⟩ := bind_eq_ok h
      have hkey : Passes .outside (.char '"' :: t) .outside u :=
        .cons (fun _ => by simp) (skipString_passed _ hu).passes
      have hgap := dropSpace_passes u
      split at h
      · exact nomatch h
      · next y v hy =>
        rw [hy] at hgap
        split at h
        · next hcolon =>
          subst hcolon
          obtain rfl := Except.ok.inj h
          have hmark : Passed .outside (.char ':' :: v) v :=
            .of_mark (by decide) (by decide) (by decide) v
          exact hspace.trans (hkey.trans (hgap.trans hmark.passes))
        · exact nomatch h
    · exact nomatch h

def PassesValues (item : List Symbol → Except Fault (List Symbol)) : Prop :=
  ∀ {s rest : List Symbol}, item s = .ok rest → Passed .outside s rest ∧ startsNoName s

section Containers

variable {item : List Symbol → Except Fault (List Symbol)}

theorem skipItems_passed (hitem : PassesValues item) (n : Nat) {s rest : List Symbol}
    (h : skipItems item n s = .ok rest) : Passed .outside s rest := by
  induction n generalizing s with
  | zero => exact nomatch h
  | succ n ih =>
    have hspace := dropSpace_passes s
    unfold skipItems at h
    split at h
    · exact nomatch h
    · next x t hx =>
      rw [hx] at hspace
      split at h
      · next hclose =>
        subst hclose
        obtain rfl := Except.ok.inj h
        exact (Passed.of_mark (by decide) (by decide) (by decide) t).after hspace
      · split at h
        · next hcomma =>
          subst hcomma
          obtain ⟨u, hu, h⟩ := bind_eq_ok h
          have hmark : Passed .outside (.char ',' :: t) t :=
            .of_mark (by decide) (by decide) (by decide) t
          exact (ih h).after (hspace.trans (hmark.passes.trans (hitem hu).1.passes))
        · exact nomatch h

theorem skipMembers_passed (hitem : PassesValues item) (n : Nat) {s rest : List Symbol}
    (h : skipMembers item n s = .ok rest) : Passed .outside s rest := by
  induction n generalizing s with
  | zero => exact nomatch h
  | succ n ih =>
    have hspace := dropSpace_passes s
    unfold skipMembers at h
    split at h
    · exact nomatch h
    · next x t hx =>
      rw [hx] at hspace
      split at h
      · next hclose =>
        subst hclose
        obtain rfl := Except.ok.inj h
        exact (Passed.of_mark (by decide) (by decide) (by decide) t).after hspace
      · split at h
        · next hcomma =>
          subst hcomma
          obtain ⟨u, hu, h⟩ := bind_eq_ok h
          obtain ⟨v, hv, h⟩ := bind_eq_ok h
          have hmark : Passed .outside (.char ',' :: t) t :=
            .of_mark (by decide) (by decide) (by decide) t
          have hmember := (skipKey_passes hu).trans (hitem hv).1.passes
          exact (ih h).after (hspace.trans (hmark.passes.trans hmember))
        · exact nomatch h

theorem startsNoName_of_dropSpace {s : List Symbol} (h : startsNoName (dropSpace s)) :
    startsNoName s := by
  cases s with
  | nil => exact h
  | cons x s =>
    cases hx : isSpace x with
    | false =>
      rw [dropSpace, List.dropWhile_cons_of_neg (by simp [hx])] at h
      exact h
    | true =>
      simp only [isSpace, Bool.or_eq_true, beq_iff_eq] at hx
      rcases hx with ((rfl | rfl) | rfl) | rfl <;> exact ⟨by decide, by decide⟩

/-- A list is passed from after its bracket on, and no name of a tag follows that. -/
theorem skipList_passed (hitem : PassesValues item) {s rest : List Symbol}
    (h : skipList item s = .ok rest) : Passed .outside s rest ∧ startsNoName s := by
  have hspace := dropSpace_passes s
  unfold skipList at h
  split at h
  · exact nomatch h
  · next x t hx =>
    rw [hx] at hspace
    split at h
    · next hclose =>
      subst hclose
      obtain rfl := Except.ok.inj h
      have hname : startsNoName (dropSpace s) := by
        rw [hx]
        exact ⟨by decide, by decide⟩
      exact ⟨(Passed.of_mark (by decide) (by decide) (by decide) t).after hspace,
        startsNoName_of_dropSpace hname⟩
    · obtain ⟨u, hu, h⟩ := bind_eq_ok h
      obtain ⟨hpassed, hname⟩ := hitem hu
      exact ⟨(skipItems_passed hitem _ h).after (hspace.trans hpassed.passes),
        startsNoName_of_dropSpace (hx ▸ hname)⟩

theorem skipObject_passed (hitem : PassesValues item) {s rest : List Symbol}
    (h : skipObject item s = .ok rest) : Passed .outside s rest := by
  have hspace := dropSpace_passes s
  unfold skipObject at h
  split at h
  · exact nomatch h
  · next x t hx =>
    rw [hx] at hspace
    split at h
    · next hclose =>
      subst hclose
      obtain rfl := Except.ok.inj h
      exact (Passed.of_mark (by decide) (by decide) (by decide) t).after hspace
    · obtain ⟨u, hu, h⟩ := bind_eq_ok h
      obtain ⟨v, hv, h⟩ := bind_eq_ok h
      have hmember := (skipKey_passes hu).trans (hitem hv).1.passes
      exact (skipMembers_passed hitem _ h).after (hspace.trans hmember)

end Containers

/-! ### Values -/

def opensWhole (s : List Symbol) : Bool :=
  startsWith (fun c => c == '"' || c == '[' || c == '\x7b') s

theorem readWord_ends {w : List Char} (hne : w ≠ []) (hw : ∀ c ∈ w, isBlank c = false)
    {s rest : List Symbol} (h : readWord w s = .ok rest) : Ends s rest := by
  induction w generalizing s with
  | nil => exact absurd rfl hne
  | cons c w ih =>
    cases s with
    | nil => exact nomatch h
    | cons x s =>
      rw [readWord] at h
      split at h
      · next hx =>
        subst hx
        cases w with
        | nil =>
          obtain rfl := Except.ok.inj h
          exact .of_cons (hw c List.mem_cons_self) s
        | cons d w =>
          have htail := ih (List.cons_ne_nil d w) (fun e he => hw e (List.mem_cons_of_mem c he)) h
          exact htail.cons (.char c)
      · exact nomatch h

/-- A list is passed if it is from after its bracket on, and begins with no name of a tag there. -/
theorem Passed.list {s rest : List Symbol} (h : Passed .outside s rest) (hname : startsNoName s) :
    Passed .outside (.char '[' :: s) rest := by
  obtain ⟨⟨p, rfl, huntagged, hspot⟩, hends⟩ := h
  have hfirst : startsNoName p := by
    cases p with
    | nil =>
      obtain ⟨q, c, hq, _⟩ := hends
      have hlength := congrArg List.length hq
      simp only [List.nil_append, List.length_append, List.length_cons] at hlength
      omega
    | cons x p =>
      cases x with
      | char c => exact hname
      | stray o => exact hname
  exact ⟨⟨.char '[' :: p, rfl, ⟨fun _ _ => hfirst, huntagged⟩, hspot⟩, hends.cons _⟩

/-- What passing over a value passes. -/
theorem skipWithin_passed (n : Nat) {s rest : List Symbol} (h : skipWithin n s = .ok rest) :
    Passed .outside s rest ∧ startsNoName s ∧
      (opensWhole (dropSpace s) = false → PassesPlain s rest) := by
  induction n generalizing s rest with
  | zero => cases h
  | succ n ih =>
    have hvalues : PassesValues (fun s => skipWithin n s) := fun hs => ⟨(ih hs).1, (ih hs).2.1⟩
    unfold skipWithin at h
    split at h
    · cases h
    · cases h
    · next c t hx =>
      have hspace := dropSpace_passesPlain s
      rw [hx] at hspace
      have hname : c ≠ 'U' ∧ c ≠ 'R' → startsNoName s := by
        intro hc
        exact startsNoName_of_dropSpace (hx ▸ hc)
      -- A word or a number is plain; a string, a list or an object opens whole.
      have hplain : c ≠ 'U' ∧ c ≠ 'R' → PassesPlain (.char c :: t) rest →
          Ends (.char c :: t) rest → Passed .outside s rest ∧ startsNoName s ∧
            (opensWhole (dropSpace s) = false → PassesPlain s rest) := by
        intro hc hpass hends
        exact ⟨⟨(hspace.trans hpass).passes, hspace.ends hends⟩, hname hc,
          fun _ => hspace.trans hpass⟩
      have hwhole : c ≠ 'U' ∧ c ≠ 'R' → opensWhole (.char c :: t) = true →
          Passed .outside (.char c :: t) rest → Passed .outside s rest ∧ startsNoName s ∧
            (opensWhole (dropSpace s) = false → PassesPlain s rest) := by
        intro hc hopens hpassed
        refine ⟨hpassed.after hspace.passes, hname hc, ?_⟩
        intro hnone
        rw [hx, hopens] at hnone
        cases hnone
      have hword : ∀ {w : List Char}, w ≠ [] → (c :: w).all isLetter = true →
          readWord w t = .ok rest → PassesPlain (.char c :: t) rest ∧ Ends (.char c :: t) rest := by
        intro w hne hall hread
        have hletters := List.all_eq_true.mp hall
        have htail := readWord_passesPlain
          (fun d hd => isPlain_of_isLetter (hletters d (List.mem_cons_of_mem c hd))) hread
        have hend := readWord_ends hne
          (fun d hd => isBlank_of_isLetter (hletters d (List.mem_cons_of_mem c hd))) hread
        exact ⟨htail.cons (isPlain_of_isLetter (hletters c List.mem_cons_self)), hend.cons _⟩
      split at h
      · obtain ⟨hpass, hends⟩ := hword (by decide) (by decide) h
        exact hplain (by decide) hpass hends
      · obtain ⟨hpass, hends⟩ := hword (by decide) (by decide) h
        exact hplain (by decide) hpass hends
      · obtain ⟨hpass, hends⟩ := hword (by decide) (by decide) h
        exact hplain (by decide) hpass hends
      · obtain ⟨hpass, hends⟩ := skipNumber_passes h
        exact hplain (by decide) (hpass.cons (by unfold IsPlain; decide)) (hends.cons _)
      · have hstring := skipString_passed _ h
        exact hwhole (by decide) rfl (hstring.after (.cons (fun _ => by simp) .refl))
      · obtain ⟨hlist, hnext⟩ := skipList_passed hvalues h
        exact hwhole (by decide) rfl (hlist.list hnext)
      · have hobject := skipObject_passed hvalues h
        have hopen : Passed .outside (.char '\x7b' :: t) t :=
          .of_mark (by decide) (by decide) (by decide) t
        exact hwhole (by decide) rfl (hobject.after hopen.passes)
      · split at h
        · next hdigit =>
          obtain ⟨hpass, hends⟩ := skipNumber_passes h
          refine hplain ?_ hpass hends
          constructor <;> · rintro rfl; exact absurd hdigit (by decide)
        · cases h

end Companion.Json
