import Companion.Proofs.TokenEnds

/-!
Where values end. The reader that keeps a value and the one that passes over it agree on its end, and
what comes behind the text makes no difference to them, except to a number that the text ends with.
The induction is on how deep a value may be; what passing over it needs is bounded by the symbols it
is read from. So a text that is an object is a whole one in front of anything else.
-/

namespace Companion.Json

open Number Text

/-! ### Keys, lists and objects -/

theorem skipKey_quote_read {s u v w : List Symbol} {name : String}
    (hs : dropSpace s = .char '"' :: u) (hname : readText u = .ok (name, v))
    (hcolon : readColon v = .ok w) (t : List Symbol) :
    skipKey (s ++ t) = .ok (w ++ t) := by
  rw [readColon] at hcolon
  split at hcolon
  · cases hcolon
  · next x rest hx =>
    split at hcolon
    · next hmark =>
      obtain rfl := Except.ok.inj hcolon
      rw [skipKey, dropSpace_append hs]
      dsimp only
      rw [if_pos rfl, readText_skips hname]
      dsimp only [bind, Except.bind]
      rw [dropSpace_append hx]
      exact if_pos hmark
    · cases hcolon

/-- What is read of at most `n` symbols is passed over, if something of the text is left, whatever
follows the text. -/
def PassedOver {α : Type} (read : Reader α) (item : List Symbol → Except Fault (List Symbol))
    (n : Nat) (t : List Symbol) : Prop :=
  ∀ {s rest : List Symbol} {x : α}, read s = .ok (x, rest) → rest ≠ [] → s.length + t.length ≤ n →
    item (s ++ t) = .ok (rest ++ t) ∧ rest.length < s.length

/-- How the reader goes on with a list. -/
theorem moreItems_cases {first more : Bool} {s s' : List Symbol}
    (h : moreItems first s = .ok (more, s')) :
    (more = false ∧ ∃ u, dropSpace s = .char ']' :: u ∧ s' = .char ']' :: u) ∨
    (more = true ∧ first = true ∧ dropSpace s = s' ∧ ∃ x u, s' = x :: u ∧ x ≠ .char ']') ∨
    (more = true ∧ first = false ∧ ∃ u, dropSpace s = .char ',' :: u ∧ dropSpace u = s') := by
  rw [moreItems] at h
  split at h
  · exact nomatch h
  · next x u hx =>
    split at h
    · next hclose =>
      obtain ⟨rfl, rfl⟩ := Prod.mk.inj (Except.ok.inj h)
      subst hclose
      exact .inl ⟨rfl, u, hx, rfl⟩
    · next hclose =>
      split at h
      · next hfirst =>
        obtain ⟨rfl, rfl⟩ := Prod.mk.inj (Except.ok.inj h)
        exact .inr (.inl ⟨rfl, hfirst, hx, x, u, rfl, hclose⟩)
      · next hfirst =>
        split at h
        · next hcomma =>
          subst hcomma
          split at h
          · exact nomatch h
          · next y v hy =>
            split at h
            · exact nomatch h
            · obtain ⟨rfl, rfl⟩ := Prod.mk.inj (Except.ok.inj h)
              exact .inr (.inr ⟨rfl, by simpa using hfirst, u, hx, hy⟩)
        · exact nomatch h

/-- How the reader goes on with an object. -/
theorem moreMembers_cases {first more : Bool} {s s' : List Symbol}
    (h : moreMembers first s = .ok (more, s')) :
    (more = false ∧ ∃ u, dropSpace s = .char '\x7d' :: u ∧ s' = .char '\x7d' :: u) ∨
    (more = true ∧ first = true ∧ dropSpace s = .char '"' :: s') ∨
    (more = true ∧ first = false ∧
      ∃ u, dropSpace s = .char ',' :: u ∧ dropSpace u = .char '"' :: s') := by
  rw [moreMembers] at h
  split at h
  · exact nomatch h
  · next x u hx =>
    split at h
    · next hclose =>
      obtain ⟨rfl, rfl⟩ := Prod.mk.inj (Except.ok.inj h)
      subst hclose
      exact .inl ⟨rfl, u, hx, rfl⟩
    · split at h
      · next hfirst =>
        split at h
        · next hquote =>
          obtain ⟨rfl, rfl⟩ := Prod.mk.inj (Except.ok.inj h)
          subst hquote
          exact .inr (.inl ⟨rfl, hfirst, hx⟩)
        · exact nomatch h
      · next hfirst =>
        split at h
        · next hcomma =>
          subst hcomma
          split at h
          · exact nomatch h
          · next y v hy =>
            split at h
            · next hquote =>
              obtain ⟨rfl, rfl⟩ := Prod.mk.inj (Except.ok.inj h)
              subst hquote
              exact .inr (.inr ⟨rfl, by simpa using hfirst, u, hx, hy⟩)
            · split at h <;> exact nomatch h
        · exact nomatch h

/-- A list or an object is not at its end where the text is. -/
theorem readItems_ne_nil {α : Type} {item : Reader α} {k : Nat} {first : Bool} {s rest : List Symbol}
    {xs : List α} (h : readItems item k first s = .ok (xs, rest)) : s ≠ [] := by
  intro hnil
  subst hnil
  cases k with
  | zero => exact nomatch h
  | succ k => exact nomatch h

theorem readMembers_ne_nil {σ : Type} {member : String → σ → Reader σ} {k : Nat} {first : Bool}
    {state state' : σ} {s rest : List Symbol}
    (h : readMembers member k first state s = .ok (state', rest)) : s ≠ [] := by
  intro hnil
  subst hnil
  cases k with
  | zero => exact nomatch h
  | succ k => exact nomatch h

def IgnoresSpace {α : Type} (read : Reader α) : Prop :=
  ∀ {s : List Symbol} {r : α × List Symbol}, read (dropSpace s) = .ok r → read s = .ok r

theorem length_lt_of_dropSpace {s u : List Symbol} {x : Symbol} (h : dropSpace s = x :: u) :
    u.length < s.length := by
  have hle := length_dropSpace_le s
  rw [h, List.length_cons] at hle
  exact hle

section Containers

variable {α σ : Type} {read : Reader α} {item : List Symbol → Except Fault (List Symbol)} {n : Nat}
  {t : List Symbol}

/-- The items of a list after its first one are passed over. -/
theorem readItems_skips (hitem : PassedOver read item n t) (hspace : IgnoresSpace read) {k m : Nat}
    {s rest : List Symbol} {xs : List α} (h : readItems read k false s = .ok (xs, rest))
    (hs : s.length + t.length ≤ n) (hm : s.length < m) :
    skipItems item m (s ++ t) = .ok (rest ++ t) := by
  induction k generalizing s xs m with
  | zero => exact nomatch h
  | succ k ih =>
    obtain ⟨m, rfl⟩ : ∃ m', m = m' + 1 := ⟨m - 1, by omega⟩
    obtain ⟨⟨more, u⟩, hmore, h⟩ := bind_eq_ok h
    rw [skipItems]
    rcases moreItems_cases hmore with ⟨rfl, v, hclose, rfl⟩ | ⟨_, hfirst, _⟩ | ⟨rfl, _, v, hcomma, hv⟩
    · obtain ⟨_, rfl⟩ := Prod.mk.inj (Except.ok.inj h)
      rw [dropSpace_append hclose]
      exact if_pos rfl
    · exact nomatch hfirst
    · obtain ⟨⟨x, w⟩, hread, h⟩ := bind_eq_ok h
      obtain ⟨⟨ys, r⟩, hmoreitems, h⟩ := bind_eq_ok h
      obtain ⟨_, rfl⟩ := Prod.mk.inj (Except.ok.inj h)
      have hlength := length_lt_of_dropSpace hcomma
      obtain ⟨hpassed, hshort⟩ :=
        hitem (hspace (hv ▸ hread)) (readItems_ne_nil hmoreitems) (by omega)
      rw [dropSpace_append hcomma]
      dsimp only
      rw [if_neg (by decide), if_pos rfl, hpassed]
      exact ih hmoreitems (by omega) (by omega)

theorem readItems_skipList (hitem : PassedOver read item n t) (hspace : IgnoresSpace read) {k : Nat}
    {s rest : List Symbol} {xs : List α} (h : readItems read k true s = .ok (xs, rest))
    (hs : s.length + t.length ≤ n) : skipList item (s ++ t) = .ok (rest ++ t) := by
  cases k with
  | zero => exact nomatch h
  | succ k =>
    obtain ⟨⟨more, u⟩, hmore, h⟩ := bind_eq_ok h
    rw [skipList]
    rcases moreItems_cases hmore with
      ⟨rfl, v, hclose, rfl⟩ | ⟨rfl, _, hdrop, x, v, rfl, hopen⟩ | ⟨_, hfirst, _⟩
    · obtain ⟨_, rfl⟩ := Prod.mk.inj (Except.ok.inj h)
      rw [dropSpace_append hclose]
      exact if_pos rfl
    · obtain ⟨⟨y, w⟩, hread, h⟩ := bind_eq_ok h
      obtain ⟨⟨ys, r⟩, hmoreitems, h⟩ := bind_eq_ok h
      obtain ⟨_, rfl⟩ := Prod.mk.inj (Except.ok.inj h)
      have hlength := length_dropSpace_le s
      rw [hdrop] at hlength
      obtain ⟨hpassed, hshort⟩ := hitem hread (readItems_ne_nil hmoreitems) (by omega)
      rw [dropSpace_append hdrop]
      dsimp only
      rw [List.cons_append] at hpassed
      rw [if_neg hopen, hpassed]
      refine readItems_skips hitem hspace hmoreitems (by omega) ?_
      rw [List.length_append]
      omega
    · exact nomatch hfirst

def memberBy (read : Reader α) (put : String → α → σ → σ) (name : String) (state : σ) : Reader σ :=
  fun s => do
    let s ← readColon s
    let (v, s) ← read s
    .ok (put name v state, s)

theorem readColon_length {s rest : List Symbol} (h : readColon s = .ok rest) :
    rest.length < s.length := by
  rw [readColon] at h
  split at h
  · exact nomatch h
  · next x u hx =>
    split at h
    · obtain rfl := Except.ok.inj h
      exact length_lt_of_dropSpace hx
    · exact nomatch h

theorem readText_length {s rest : List Symbol} {text : String} (h : readText s = .ok (text, rest)) :
    rest.length < s.length := by
  have hskip := readText_skips h []
  rw [List.append_nil, List.append_nil] at hskip
  obtain ⟨p, c, rfl, _⟩ := (skipString_passed _ hskip).ends
  rw [List.length_append, List.length_cons]
  omega

/-- One member is passed over from in front of its key on. -/
theorem member_skips (hitem : PassedOver read item n t) {put : String → α → σ → σ}
    {s u v rest : List Symbol} {name : String} {state state' : σ} (hs : dropSpace s = .char '"' :: u)
    (hname : readText u = .ok (name, v)) (h : memberBy read put name state v = .ok (state', rest))
    (hrest : rest ≠ []) (hn : s.length + t.length ≤ n) :
    (do item (← skipKey (s ++ t))) = .ok (rest ++ t) ∧ rest.length < s.length := by
  obtain ⟨w, hcolon, h⟩ := bind_eq_ok h
  obtain ⟨⟨x, r⟩, hread, h⟩ := bind_eq_ok h
  obtain ⟨_, rfl⟩ := Prod.mk.inj (Except.ok.inj h)
  have hquote := length_lt_of_dropSpace hs
  have htext := readText_length hname
  have hmark := readColon_length hcolon
  obtain ⟨hpassed, hshort⟩ := hitem hread hrest (by omega)
  rw [skipKey_quote_read hs hname hcolon]
  exact ⟨hpassed, by omega⟩

/-- The members of an object after its first one are passed over. -/
theorem readMembers_skips (hitem : PassedOver read item n t) {put : String → α → σ → σ} {k m : Nat}
    {s rest : List Symbol} {state state' : σ}
    (h : readMembers (memberBy read put) k false state s = .ok (state', rest))
    (hs : s.length + t.length ≤ n) (hm : s.length < m) :
    skipMembers item m (s ++ t) = .ok (rest ++ t) := by
  induction k generalizing s state m with
  | zero => exact nomatch h
  | succ k ih =>
    obtain ⟨m, rfl⟩ : ∃ m', m = m' + 1 := ⟨m - 1, by omega⟩
    obtain ⟨⟨more, u⟩, hmore, h⟩ := bind_eq_ok h
    rw [skipMembers]
    rcases moreMembers_cases hmore with
      ⟨rfl, v, hclose, rfl⟩ | ⟨_, hfirst, _⟩ | ⟨rfl, _, v, hcomma, hquote⟩
    · obtain ⟨_, rfl⟩ := Prod.mk.inj (Except.ok.inj h)
      rw [dropSpace_append hclose]
      exact if_pos rfl
    · exact nomatch hfirst
    · obtain ⟨⟨name, w⟩, hname, h⟩ := bind_eq_ok h
      obtain ⟨⟨next, r⟩, hmember, h⟩ := bind_eq_ok h
      have hlength := length_lt_of_dropSpace hcomma
      obtain ⟨hpassed, hshort⟩ :=
        member_skips hitem hquote hname hmember (readMembers_ne_nil h) (by omega)
      obtain ⟨key, hkey, hvalue⟩ := bind_eq_ok hpassed
      rw [dropSpace_append hcomma]
      dsimp only
      rw [if_neg (by decide), if_pos rfl, hkey]
      show (do skipMembers item m (← item key)) = _
      rw [hvalue]
      exact ih h (by omega) (by omega)

theorem readMembers_skipObject (hitem : PassedOver read item n t) (put : String → α → σ → σ)
    {k : Nat} {s rest : List Symbol} {state state' : σ}
    (h : readMembers (memberBy read put) k true state s = .ok (state', rest))
    (hs : s.length + t.length ≤ n) : skipObject item (s ++ t) = .ok (rest ++ t) := by
  cases k with
  | zero => exact nomatch h
  | succ k =>
    obtain ⟨⟨more, u⟩, hmore, h⟩ := bind_eq_ok h
    rw [skipObject]
    rcases moreMembers_cases hmore with
      ⟨rfl, v, hclose, rfl⟩ | ⟨rfl, _, hquote⟩ | ⟨_, hfirst, _⟩
    · obtain ⟨_, rfl⟩ := Prod.mk.inj (Except.ok.inj h)
      rw [dropSpace_append hclose]
      exact if_pos rfl
    · obtain ⟨⟨name, w⟩, hname, h⟩ := bind_eq_ok h
      obtain ⟨⟨next, r⟩, hmember, h⟩ := bind_eq_ok h
      have hlength := length_dropSpace_le s
      have hfront : dropSpace (dropSpace s) = .char '"' :: u := by rw [dropSpace_dropSpace, hquote]
      obtain ⟨hpassed, hshort⟩ :=
        member_skips hitem hfront hname hmember (readMembers_ne_nil h) (by omega)
      rw [hquote, List.cons_append] at hpassed
      obtain ⟨key, hkey, hvalue⟩ := bind_eq_ok hpassed
      rw [dropSpace_append hquote]
      dsimp only
      rw [if_neg (by decide), hkey]
      show (do let rest ← item key; skipMembers item (rest.length + 1) rest) = _
      rw [hvalue]
      refine readMembers_skips hitem h (by omega) ?_
      rw [List.length_append]
      omega
    · exact nomatch hfirst

end Containers

/-! ### Values -/

theorem ignoresSpace_readWithin (depth : Nat) : IgnoresSpace (readWithin depth) := by
  intro s r h
  cases depth with
  | zero => exact nomatch h
  | succ depth =>
    rw [readWithin, dropSpace_dropSpace] at h
    rw [readWithin]
    exact h

theorem opensWhole_of_digit {c : Char} (hc : c.isDigit = true) (s : List Symbol) :
    opensWhole (.char c :: s) = false := by
  show (c == '"' || c == '[' || c == '\x7b') = false
  simp only [Bool.or_eq_false_iff, beq_eq_false_iff_ne]
  refine ⟨⟨?_, ?_⟩, ?_⟩
  all_goals
    intro hmark
    subst hmark
    exact absurd hc (by decide)

/-- A value that is read is passed over, whatever follows the text, unless the text ends with a
number. -/
theorem readWithin_skips {depth n : Nat} {s rest : List Symbol} {v : Value} (t : List Symbol)
    (h : readWithin depth s = .ok (v, rest))
    (hends : rest ≠ [] ∨ opensWhole (dropSpace s) = true) (hn : s.length + t.length ≤ n) :
    skipWithin n (s ++ t) = .ok (rest ++ t) := by
  induction depth generalizing n s rest v with
  | zero => cases h
  | succ depth ih =>
    have hvalue := h
    rw [readWithin] at h
    split at h
    · cases h
    · cases h
    · next c u hx =>
      have hlength := length_lt_of_dropSpace hx
      obtain ⟨n, rfl⟩ : ∃ n', n = n' + 1 := ⟨n - 1, by omega⟩
      -- The values inside are shorter by the bracket or the brace.
      have hitem : PassedOver (readWithin depth) (fun s => skipWithin n s) n t := by
        intro s' rest' x hread hrest hs'
        have hpassed := ih hread (.inl hrest) hs'
        obtain ⟨p, d, hp, _⟩ := (skipWithin_passed n hpassed).1.ends
        have hshort := congrArg List.length hp
        simp only [List.length_append, List.length_cons] at hshort
        exact ⟨hpassed, by omega⟩
      have hnumber : opensWhole (.char c :: u) = false → rest ≠ [] := by
        intro hplain
        rcases hends with hends | hends
        · exact hends
        · rw [hx, hplain] at hends
          cases hends
      by_cases hdigit : c.isDigit = true
      · rw [readWithin_number hx depth hdigit] at hvalue
        obtain ⟨⟨i, r⟩, hread, hvalue⟩ := bind_eq_ok hvalue
        obtain ⟨_, rfl⟩ := Prod.mk.inj (Except.ok.inj hvalue)
        have hend := hnumber (opensWhole_of_digit hdigit u)
        rw [skipWithin_number (dropSpace_append hx t) n hdigit]
        exact skipNumber_append (readNumber_skips hread) hend t
      · rw [skipWithin, dropSpace_append hx]
        dsimp only
        split at h
        · obtain ⟨r, hword, h⟩ := bind_eq_ok h
          obtain ⟨_, rfl⟩ := Prod.mk.inj (Except.ok.inj h)
          exact readWord_append hword t
        · obtain ⟨r, hword, h⟩ := bind_eq_ok h
          obtain ⟨_, rfl⟩ := Prod.mk.inj (Except.ok.inj h)
          exact readWord_append hword t
        · obtain ⟨r, hword, h⟩ := bind_eq_ok h
          obtain ⟨_, rfl⟩ := Prod.mk.inj (Except.ok.inj h)
          exact readWord_append hword t
        · obtain ⟨⟨i, r⟩, hread, h⟩ := bind_eq_ok h
          obtain ⟨_, rfl⟩ := Prod.mk.inj (Except.ok.inj h)
          exact skipNumber_append (readNumber_skips hread) (hnumber rfl) t
        · obtain ⟨⟨text, r⟩, hread, h⟩ := bind_eq_ok h
          obtain ⟨_, rfl⟩ := Prod.mk.inj (Except.ok.inj h)
          exact readText_skips hread t
        · split at h
          · cases h
          · obtain ⟨⟨items, r⟩, hread, h⟩ := bind_eq_ok h
            obtain ⟨_, rfl⟩ := Prod.mk.inj (Except.ok.inj h)
            exact readItems_skipList hitem (ignoresSpace_readWithin depth) hread (by omega)
        · split at h
          · cases h
          · obtain ⟨⟨members, r⟩, hread, h⟩ := bind_eq_ok h
            obtain ⟨_, rfl⟩ := Prod.mk.inj (Except.ok.inj h)
            exact readMembers_skipObject hitem place hread (by omega)
        · rw [if_neg hdigit] at h
          cases h

/-- An object is read from where a brace opens it. -/
theorem opensWhole_of_readWithin {depth : Nat} {s rest : List Symbol}
    {members : List (String × Value)} (h : readWithin depth s = .ok (.object members, rest)) :
    opensWhole (dropSpace s) = true := by
  cases depth with
  | zero => cases h
  | succ depth =>
    rw [readWithin] at h
    -- Whatever opens otherwise is no object.
    have hother : ∀ {α : Type} {x : Except Fault α} {f : α → Value × List Symbol},
        (∀ a, (f a).1 ≠ .object members) → (do .ok (f (← x))) = .ok (.object members, rest) →
        False := by
      intro α x f hf hx
      obtain ⟨a, _, ha⟩ := bind_eq_ok hx
      exact hf a (congrArg Prod.fst (Except.ok.inj ha))
    split at h
    · cases h
    · cases h
    · next c u hx =>
      rw [hx]
      split at h
      · exact (hother (by simp) h).elim
      · exact (hother (by simp) h).elim
      · exact (hother (by simp) h).elim
      · exact (hother (by simp) h).elim
      · rfl
      · rfl
      · rfl
      · split at h
        · exact (hother (by simp) h).elim
        · cases h

theorem isBlank_of_isSpace {c : Char} (h : isSpace (.char c) = true) : isBlank c = true := by
  simp only [isSpace, Bool.or_eq_true, beq_iff_eq, Symbol.char.injEq] at h
  rcases h with ((rfl | rfl) | rfl) | rfl <;> decide

/-- A text that is an object up to its last symbol is passed over, whatever follows it. -/
theorem skipPlain_object {object : List Char} {members : List (String × Value)}
    (h : parse object = .ok (.object members)) (hend : trimEnd object = object)
    (after : List Char) :
    skipPlain (symbolsOf (object ++ after)) = .ok (symbolsOf after) := by
  obtain ⟨⟨v, rest⟩, hread, h⟩ := bind_eq_ok h
  obtain ⟨⟨⟩, hnothing, h⟩ := bind_eq_ok h
  obtain rfl := Except.ok.inj h
  have hopens := opensWhole_of_readWithin hread
  -- Only blanks could be left, and the text ends with none.
  have hrest : rest = [] := by
    have hskip := readWithin_skips [] hread (.inr hopens) (Nat.le_refl _)
    rw [List.append_nil, List.append_nil] at hskip
    obtain ⟨p, hsplit, _⟩ := (skipWithin_passed _ hskip).1.passes
    obtain ⟨a, b, rfl, rfl, rfl⟩ := symbolsOf_eq_append hsplit
    have hblank : AllBlank b := by
      intro c hc
      have hspaces : dropSpace (symbolsOf b) = [] := by
        unfold readEnd at hnothing
        split at hnothing
        · assumption
        · exact nomatch hnothing
      exact isBlank_of_isSpace
        (List.dropWhile_eq_nil_iff.mp hspaces (.char c) (List.mem_map_of_mem hc))
    rw [trimEnd_append hblank] at hend
    have hshort := (trimEnd_sublist a).length_le
    rw [hend, List.length_append] at hshort
    have hnil : b = [] := List.eq_nil_of_length_eq_zero (by omega)
    rw [hnil]
    rfl
  subst hrest
  have hskip : skip (symbolsOf object ++ symbolsOf after) = .ok (symbolsOf after) :=
    readWithin_skips (symbolsOf after) hread (.inr hopens) (by rw [List.length_append]; omega)
  have hopens' : opensWhole (dropSpace (symbolsOf object ++ symbolsOf after)) = true := by
    obtain ⟨c, u, hx, hc⟩ := startsWith_eq_true hopens
    rw [dropSpace_append hx]
    exact hc
  rw [symbolsOf_append, skipPlain, hskip]
  show (if opensWhole _ || _ || _ then _ else _) = _
  rw [hopens']
  rfl

end Companion.Json
