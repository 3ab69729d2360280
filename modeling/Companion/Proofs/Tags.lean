import Companion.Directive.Tag
import Companion.Proofs.Blanks

/-!
The tags of a text and which of them become directives. A tag has a bracket at its front only, so two
tags never overlap, and what is between two tags has none. Directives are taken from the front: a tag
inside one that was taken is passed over.
-/

namespace Companion

open Text Json

/-! ### Lists with a mark -/

/-- What ends before a mark that it does not contain is in front of the mark. -/
theorem append_in_front {α : Type} {x y a w b : List α} {c : α}
    (h : x ++ c :: y = a ++ (w ++ b)) (hc : c ∉ w) (ha : a.length ≤ x.length) :
    ∃ b', x = a ++ (w ++ b') ∧ b = b' ++ c :: y := by
  obtain ⟨z, rfl, hz⟩ : ∃ z, x = a ++ z ∧ z ++ c :: y = w ++ b := by
    rcases List.append_eq_append_iff.mp h with ⟨d, hd, hrest⟩ | ⟨z, hx, hrest⟩
    · have hlen := congrArg List.length hd
      rw [List.length_append] at hlen
      have hnil : d = [] := List.eq_nil_of_length_eq_zero (by omega)
      subst hnil
      exact ⟨[], by simpa using hd.symm, by simpa using hrest⟩
    · exact ⟨z, hx, hrest.symm⟩
  rcases List.append_eq_append_iff.mp hz with ⟨d, rfl, hrest⟩ | ⟨d, rfl, hrest⟩
  · cases d with
    | nil => exact ⟨[], by simp, by simpa using hrest.symm⟩
    | cons e d =>
      obtain ⟨rfl, _⟩ := List.cons.inj hrest
      simp at hc
  · exact ⟨d, rfl, hrest⟩

/-! ### Tags -/

def DirectiveKind.label (k : DirectiveKind) : List Char := k.name.toList ++ [':']

theorem DirectiveKind.tag_eq (k : DirectiveKind) : k.tag = '[' :: k.label := rfl

theorem length_label (k : DirectiveKind) : k.label.length = tagLength - 1 := by cases k <;> rfl

theorem bracket_notMem_label (k : DirectiveKind) : '[' ∉ k.label := by cases k <;> decide

theorem close_notMem_tag (k : DirectiveKind) : ']' ∉ k.tag := by cases k <;> decide

theorem isBlank_of_mem_tag {k : DirectiveKind} {c : Char} (h : c ∈ k.tag) : isBlank c = false := by
  have hall : k.tag.all (fun c => !isBlank c) = true := by cases k <;> decide
  simpa using List.all_eq_true.mp hall c h

theorem after?_eq_some {start text body : List Char} :
    after? start text = some body ↔ text = start ++ body := by
  induction start generalizing text with
  | nil => simp [after?, eq_comm]
  | cons a start ih =>
    cases text with
    | nil => simp [after?]
    | cons b text =>
      rw [after?, List.cons_append, List.cons.injEq]
      by_cases hab : a = b
      · simp [hab, ih]
      · simp [hab, Ne.symm hab]

/-- A text starts with one tag at most. -/
theorem tag_unique {k k' : DirectiveKind} {a b : List Char} (h : k.tag ++ a = k'.tag ++ b) :
    k = k' ∧ a = b := by
  have hlen : k.tag.length = k'.tag.length := by rw [length_tag, length_tag]
  obtain ⟨htag, hbody⟩ := List.append_inj h hlen
  refine ⟨?_, hbody⟩
  cases k <;> cases k' <;> first | rfl | exact absurd htag (by decide)

theorem tag?_eq_some {cs : List Char} {k : DirectiveKind} {body : List Char} :
    tag? cs = some (k, body) ↔ cs = k.tag ++ body := by
  unfold tag?
  cases hupdate : after? DirectiveKind.update.tag cs with
  | some rest =>
    obtain rfl := after?_eq_some.mp hupdate
    simp only [Option.some.injEq, Prod.mk.injEq]
    constructor
    · rintro ⟨rfl, rfl⟩
      rfl
    · exact tag_unique
  | none =>
    rw [Option.map_eq_some_iff]
    constructor
    · rintro ⟨rest, hrest, heq⟩
      obtain ⟨rfl, rfl⟩ := Prod.mk.inj heq
      exact after?_eq_some.mp hrest
    · rintro rfl
      cases k with
      | update => rw [after?_eq_some.mpr rfl] at hupdate; exact nomatch hupdate
      | remind => exact ⟨body, after?_eq_some.mpr rfl, rfl⟩

/-- Two tags of a text do not overlap. -/
theorem tag_apart {k k' : DirectiveKind} {body a b : List Char} (ha : a ≠ [])
    (h : k.tag ++ body = a ++ (k'.tag ++ b)) :
    ∃ inner, a = k.tag ++ inner ∧ body = inner ++ (k'.tag ++ b) := by
  rcases List.append_eq_append_iff.mp h with ⟨inner, rfl, hbody⟩ | ⟨d, htag, hrest⟩
  · exact ⟨inner, rfl, hbody⟩
  · cases d with
    | nil => exact ⟨[], by simpa using htag.symm, by simpa using hrest.symm⟩
    | cons c d =>
      rw [k'.tag_eq, List.cons_append, List.cons_append] at hrest
      obtain ⟨rfl, _⟩ := List.cons.inj hrest
      obtain ⟨e, a, rfl⟩ := List.exists_cons_of_ne_nil ha
      rw [k.tag_eq, List.cons_append] at htag
      obtain ⟨_, hlabel⟩ := List.cons.inj htag
      have hmem : '[' ∈ k.label := by simp [hlabel]
      exact absurd hmem (bracket_notMem_label k)

/-! ### Openers -/

theorem openersFrom_none {n : Nat} {c : Char} {cs : List Char} (h : tag? (c :: cs) = none) :
    openersFrom n (c :: cs) = openersFrom (n + 1) cs := by
  simp only [openersFrom, h]

theorem openersFrom_some {n : Nat} {c : Char} {cs : List Char} {k : DirectiveKind}
    {body : List Char} (h : tag? (c :: cs) = some (k, body)) :
    openersFrom n (c :: cs) = ⟨k, n, body⟩ :: openersFrom (n + 1) cs := by
  simp only [openersFrom, h]

/-- A tag of a text is at its front or in what follows the first symbol. -/
theorem exists_before_cons {c : Char} {cs tail : List Char} {P : Nat → Prop} :
    (∃ before, c :: cs = before ++ tail ∧ P before.length) ↔
      (c :: cs = tail ∧ P 0) ∨ ∃ before, cs = before ++ tail ∧ P (before.length + 1) := by
  constructor
  · rintro ⟨before, h, hplace⟩
    rcases List.cons_eq_append_iff.mp h with ⟨rfl, hfront⟩ | ⟨later, rfl, hrest⟩
    · exact .inl ⟨hfront.symm, hplace⟩
    · exact .inr ⟨later, hrest, hplace⟩
  · rintro (⟨hfront, hplace⟩ | ⟨before, rfl, hplace⟩)
    · exact ⟨[], hfront, hplace⟩
    · exact ⟨c :: before, rfl, hplace⟩

theorem tag_ne_nil (k : DirectiveKind) (before body : List Char) :
    before ++ (k.tag ++ body) ≠ [] := by simp [k.tag_eq]

theorem mem_openersFrom {n : Nat} {cs : List Char} {o : Opener} :
    o ∈ openersFrom n cs ↔
      ∃ before, cs = before ++ (o.kind.tag ++ o.body) ∧ o.start = n + before.length := by
  induction cs generalizing n with
  | nil =>
    rw [openersFrom]
    constructor
    · intro h
      exact absurd h List.not_mem_nil
    · rintro ⟨before, h, _⟩
      exact absurd h.symm (tag_ne_nil o.kind before o.body)
  | cons c cs ih =>
    have hlater : (∃ before, cs = before ++ (o.kind.tag ++ o.body) ∧
        o.start = n + (before.length + 1)) ↔ o ∈ openersFrom (n + 1) cs := by
      rw [ih]
      simp only [Nat.add_assoc, Nat.add_comm 1]
    rw [exists_before_cons (P := fun place => o.start = n + place), hlater]
    cases htag : tag? (c :: cs) with
    | none =>
      rw [openersFrom_none htag]
      constructor
      · exact .inr
      · rintro (⟨hfront, _⟩ | hmem)
        · rw [tag?_eq_some.mpr hfront] at htag
          exact nomatch htag
        · exact hmem
    | some found =>
      obtain ⟨k, body⟩ := found
      have hfront : o = ⟨k, n, body⟩ ↔ c :: cs = o.kind.tag ++ o.body ∧ o.start = n + 0 := by
        obtain ⟨kind, start, rest⟩ := o
        rw [← tag?_eq_some, htag, Opener.mk.injEq, Option.some.injEq, Prod.mk.injEq]
        constructor
        · rintro ⟨rfl, rfl, rfl⟩
          exact ⟨⟨rfl, rfl⟩, rfl⟩
        · rintro ⟨⟨rfl, rfl⟩, rfl⟩
          exact ⟨rfl, rfl, rfl⟩
      rw [openersFrom_some htag, List.mem_cons, hfront]

/-- Tags are found in their order. -/
theorem openersFrom_sorted (n : Nat) (cs : List Char) :
    (openersFrom n cs).Pairwise fun o p => o.start < p.start := by
  induction cs generalizing n with
  | nil => exact .nil
  | cons c cs ih =>
    unfold openersFrom
    split
    · refine List.pairwise_cons.mpr ⟨?_, ih (n + 1)⟩
      intro p hp
      obtain ⟨before, _, hstart⟩ := mem_openersFrom.mp hp
      dsimp only
      omega
    · exact ih (n + 1)

/-- There is no tag in what follows a tag before the next one, which is `room` characters away. -/
structure Room (body : List Char) (room : Nat) : Prop where
  free : ∀ {a b : List Char} {k : DirectiveKind}, body = a ++ (k.tag ++ b) → room ≤ a.length
  next : room = body.length ∨ ∃ k b, body.drop room = DirectiveKind.tag k ++ b

theorem Room.le_length {body : List Char} {room : Nat} (h : Room body room) :
    room ≤ body.length := by
  rcases h.next with rfl | ⟨k, b, hdrop⟩
  · exact Nat.le_refl _
  · have hlen := congrArg List.length hdrop
    rw [List.length_drop, List.length_append, length_tag, tagLength] at hlen
    omega

theorem Room.le {body : List Char} {room room' : Nat} (h : Room body room) (h' : Room body room') :
    room ≤ room' := by
  rcases h'.next with rfl | ⟨k, b, hdrop⟩
  · exact h.le_length
  · have hsplit : body = body.take room' ++ (k.tag ++ b) := by
      rw [← hdrop, List.take_append_drop]
    have hle := h.free hsplit
    rw [List.length_take] at hle
    omega

theorem Room.unique {body : List Char} {room room' : Nat} (h : Room body room)
    (h' : Room body room') : room = room' := Nat.le_antisymm (h.le h') (h'.le h)

/-! ### Directives from the front -/

def Opener.found? (room : Nat) (o : Opener) : Option Tagged :=
  (locate? o.body room).map fun found =>
    ⟨o.kind, ⟨o.start, o.start + tagLength + found.length⟩, trim found.payload⟩

/-- Where the first of some tags starts, in a text of the given length. -/
def boundary (length : Nat) : List Opener → Nat
  | next :: _ => next.start
  | [] => length

/-- What may become a directive: where a tag starts, and the directive of that tag. -/
def candidates (length : Nat) : List Opener → List (Nat × Option Tagged)
  | [] => []
  | o :: rest =>
    (o.start, o.found? (boundary length rest - (o.start + tagLength))) :: candidates length rest

def chosen : Nat → List (Nat × Option Tagged) → List Tagged
  | _, [] => []
  | consumed, (start, found) :: rest =>
    if start < consumed then chosen consumed rest
    else
      match found with
      | some t => t :: chosen t.span.stop rest
      | none => chosen consumed rest

theorem directivesOf_eq (length consumed : Nat) (os : List Opener) :
    directivesOf length consumed os = chosen consumed (candidates length os) := by
  induction os generalizing consumed with
  | nil => rfl
  | cons o rest ih =>
    unfold directivesOf candidates chosen
    split
    · exact ih consumed
    · rw [Opener.found?]
      cases rest with
      | nil =>
        dsimp only [boundary]
        cases locate? o.body (length - (o.start + tagLength)) with
        | none => exact ih consumed
        | some found => exact congrArg (List.cons _) (ih _)
      | cons p rest =>
        dsimp only [boundary]
        cases locate? o.body (p.start - (o.start + tagLength)) with
        | none => exact ih consumed
        | some found => exact congrArg (List.cons _) (ih _)

theorem directivesOf_passed {length consumed : Nat} {o : Opener} (h : o.start < consumed)
    (rest : List Opener) :
    directivesOf length consumed (o :: rest) = directivesOf length consumed rest := by
  rw [directivesOf_eq, directivesOf_eq]
  exact if_pos h

theorem directivesOf_taken {length consumed : Nat} {o : Opener} {t : Tagged} {rest : List Opener}
    (h : consumed ≤ o.start)
    (hfound : o.found? (boundary length rest - (o.start + tagLength)) = some t) :
    directivesOf length consumed (o :: rest) = t :: directivesOf length t.span.stop rest := by
  rw [directivesOf_eq, directivesOf_eq, candidates, hfound]
  exact if_neg (Nat.not_lt.mpr h)

theorem directivesOf_missed {length consumed : Nat} {o : Opener} {rest : List Opener}
    (hfound : o.found? (boundary length rest - (o.start + tagLength)) = none) :
    directivesOf length consumed (o :: rest) = directivesOf length consumed rest := by
  rw [directivesOf_eq, directivesOf_eq, candidates, hfound]
  exact ite_self _

/-- The room of the first tag of a text is told by the tags after it. -/
theorem room_boundary {n : Nat} {c : Char} {cs : List Char} {k : DirectiveKind} {body : List Char}
    (h : c :: cs = k.tag ++ body) :
    Room body (boundary (n + (c :: cs).length) (openersFrom (n + 1) cs) - (n + tagLength)) := by
  have hlen := congrArg List.length h
  rw [List.length_append, length_tag, List.length_cons] at hlen
  rw [k.tag_eq, List.cons_append] at h
  obtain ⟨rfl, rfl⟩ := List.cons.inj h
  -- A tag of the body is one that was found.
  have hfound : ∀ {a b : List Char} {k' : DirectiveKind}, body = a ++ (k'.tag ++ b) →
      (⟨k', n + tagLength + a.length, b⟩ : Opener) ∈ openersFrom (n + 1) (k.label ++ body) := by
    intro a b k' hbody
    refine mem_openersFrom.mpr ⟨k.label ++ a, by simp [hbody], ?_⟩
    rw [List.length_append, length_label]
    dsimp only [tagLength]
    omega
  have hsorted := openersFrom_sorted (n + 1) (k.label ++ body)
  cases hrest : openersFrom (n + 1) (k.label ++ body) with
  | nil =>
    dsimp only [boundary]
    rw [List.length_cons, hlen, Nat.add_sub_add_left, Nat.add_sub_cancel_left]
    refine ⟨?_, .inl rfl⟩
    intro a b k' hbody
    have hnone := hfound hbody
    rw [hrest] at hnone
    exact absurd hnone List.not_mem_nil
  | cons next rest =>
    obtain ⟨before, hbefore, hstart⟩ := mem_openersFrom.mp (hrest ▸ List.mem_cons_self)
    have hsplit : k.tag ++ body = ('[' :: before) ++ (next.kind.tag ++ next.body) := by
      rw [k.tag_eq, List.cons_append, hbefore]
      rfl
    obtain ⟨inner, hinner, hbody⟩ := tag_apart (List.cons_ne_nil '[' before) hsplit
    have hroom := congrArg List.length hinner
    rw [List.length_cons, List.length_append, length_tag] at hroom
    have hdistance : boundary (n + ('[' :: (k.label ++ body)).length) (next :: rest) -
        (n + tagLength) = inner.length := by
      dsimp only [boundary]
      omega
    rw [hdistance]
    refine ⟨?_, .inr ⟨next.kind, next.body, ?_⟩⟩
    · intro a b k' hsplit'
      have hmem := hfound hsplit'
      rw [hrest] at hmem hsorted
      rcases List.mem_cons.mp hmem with heq | hmem
      · have hfirst := congrArg Opener.start heq
        dsimp only at hfirst
        omega
      · have hlater := (List.pairwise_cons.mp hsorted).1 _ hmem
        dsimp only at hlater
        omega
    · rw [hbody, List.drop_left']
      rfl

/-- Every tag has room for its directive. -/
theorem exists_room (body : List Char) : ∃ room, Room body room :=
  ⟨_, room_boundary (n := 0) (rfl : '[' :: (DirectiveKind.update.label ++ body) = _)⟩

def IsCandidate (n : Nat) (cs : List Char) (p : Nat × Option Tagged) : Prop :=
  ∃ before k body room, cs = before ++ (DirectiveKind.tag k ++ body) ∧ Room body room ∧
    p = (n + before.length, (⟨k, n + before.length, body⟩ : Opener).found? room)

theorem isCandidate_cons {n : Nat} {c : Char} {cs : List Char} {p : Nat × Option Tagged} :
    IsCandidate n (c :: cs) p ↔
      (∃ k body room, c :: cs = DirectiveKind.tag k ++ body ∧ Room body room ∧
        p = (n, (⟨k, n, body⟩ : Opener).found? room)) ∨ IsCandidate (n + 1) cs p := by
  constructor
  · rintro ⟨before, k, body, room, h, hroom, hp⟩
    rcases (exists_before_cons (P := fun place =>
      p = (n + place, (⟨k, n + place, body⟩ : Opener).found? room))).mp ⟨before, h, hp⟩ with
      ⟨hfront, hp⟩ | ⟨later, hrest, hp⟩
    · exact .inl ⟨k, body, room, hfront, hroom, hp⟩
    · refine .inr ⟨later, k, body, room, hrest, hroom, ?_⟩
      rwa [Nat.add_assoc, Nat.add_comm 1]
  · rintro (⟨k, body, room, hfront, hroom, hp⟩ | ⟨before, k, body, room, rfl, hroom, hp⟩)
    · exact ⟨[], k, body, room, hfront, hroom, hp⟩
    · refine ⟨c :: before, k, body, room, rfl, hroom, ?_⟩
      rwa [List.length_cons, ← Nat.add_assoc, Nat.add_right_comm]

theorem mem_candidates {n : Nat} {cs : List Char} {p : Nat × Option Tagged} :
    p ∈ candidates (n + cs.length) (openersFrom n cs) ↔ IsCandidate n cs p := by
  induction cs generalizing n with
  | nil =>
    constructor
    · intro h
      exact absurd h List.not_mem_nil
    · rintro ⟨before, k, body, room, h, _⟩
      exact absurd h.symm (tag_ne_nil k before body)
  | cons c cs ih =>
    have hlater : IsCandidate (n + 1) cs p ↔
        p ∈ candidates (n + (c :: cs).length) (openersFrom (n + 1) cs) := by
      rw [← ih, List.length_cons, Nat.add_right_comm, Nat.add_assoc]
    rw [isCandidate_cons, hlater]
    cases htag : tag? (c :: cs) with
    | none =>
      rw [openersFrom_none htag]
      constructor
      · exact .inr
      · rintro (⟨k, body, room, h, _⟩ | hmem)
        · rw [tag?_eq_some.mpr h] at htag
          exact nomatch htag
        · exact hmem
    | some found =>
      obtain ⟨k, body⟩ := found
      have hfront := tag?_eq_some.mp htag
      have hroom := room_boundary (n := n) hfront
      rw [openersFrom_some htag, candidates, List.mem_cons]
      refine or_congr ?_ Iff.rfl
      constructor
      · rintro rfl
        exact ⟨k, body, _, hfront, hroom, rfl⟩
      · rintro ⟨k', body', room, h, hroom', rfl⟩
        obtain ⟨rfl, rfl⟩ := tag_unique (hfront.symm.trans h)
        rw [hroom'.unique hroom]

/-- Candidates are in order, and a directive starts at its tag. -/
structure Aligned (cands : List (Nat × Option Tagged)) : Prop where
  sorted : cands.Pairwise fun p q => p.1 < q.1
  starts : ∀ {n : Nat} {t : Tagged}, (n, some t) ∈ cands → t.span.start = n ∧ n < t.span.stop

/-- The candidates of a text are in order, and each starts at its tag. -/
theorem candidates_aligned (n : Nat) (cs : List Char) :
    Aligned (candidates (n + cs.length) (openersFrom n cs)) where
  sorted := by
    have hsorted := openersFrom_sorted n cs
    generalize n + cs.length = length
    generalize openersFrom n cs = openers at hsorted
    induction openers with
    | nil => exact .nil
    | cons o rest ih =>
      obtain ⟨hfirst, hrest⟩ := List.pairwise_cons.mp hsorted
      refine List.pairwise_cons.mpr ⟨?_, ih hrest⟩
      intro p hp
      have hstart : ∀ {os : List Opener}, p ∈ candidates length os → ∃ q ∈ os, p.1 = q.start := by
        intro os
        induction os with
        | nil => intro h; exact nomatch h
        | cons q os ihq =>
          intro h
          rcases List.mem_cons.mp h with rfl | h
          · exact ⟨q, List.mem_cons_self, rfl⟩
          · obtain ⟨r, hr, hpr⟩ := ihq h
            exact ⟨r, List.mem_cons_of_mem q hr, hpr⟩
      obtain ⟨q, hq, hpq⟩ := hstart hp
      rw [hpq]
      exact hfirst q hq
  starts := by
    intro start t h
    obtain ⟨before, k, body, room, _, _, heq⟩ := mem_candidates.mp h
    obtain ⟨rfl, hfound⟩ := Prod.mk.inj heq
    obtain ⟨found, _, rfl⟩ := Option.map_eq_some_iff.mp hfound.symm
    dsimp only [tagLength]
    omega

def Tagged.Covers (t : Tagged) (n : Nat) : Prop := t.span.start < n ∧ n < t.span.stop

section Chosen

variable {consumed : Nat} {cands : List (Nat × Option Tagged)}

theorem Aligned.tail {p : Nat × Option Tagged} (h : Aligned (p :: cands)) : Aligned cands where
  sorted := (List.pairwise_cons.mp h.sorted).2
  starts hmem := h.starts (List.mem_cons_of_mem p hmem)

/-- A place has one candidate. -/
theorem Aligned.unique (h : Aligned cands) {n : Nat} {f g : Option Tagged} (hf : (n, f) ∈ cands)
    (hg : (n, g) ∈ cands) : f = g := by
  induction cands with
  | nil => exact nomatch hf
  | cons p cands ih =>
    have hlater : ∀ {g}, (n, g) ∈ cands → p.1 < n := fun hmem =>
      (List.pairwise_cons.mp h.sorted).1 _ hmem
    rcases List.mem_cons.mp hf with rfl | hf'
    · rcases List.mem_cons.mp hg with hg' | hg'
      · exact (Prod.mk.inj hg').2.symm
      · exact absurd (hlater hg') (Nat.lt_irrefl n)
    · rcases List.mem_cons.mp hg with rfl | hg'
      · exact absurd (hlater hf') (Nat.lt_irrefl n)
      · exact ih h.tail hf' hg'

/-- What is taken is a candidate that starts where the ones taken before have ended. -/
theorem chosen_sound (h : Aligned cands) {t : Tagged} (ht : t ∈ chosen consumed cands) :
    consumed ≤ t.span.start ∧ (t.span.start, some t) ∈ cands := by
  induction cands generalizing consumed with
  | nil => exact nomatch ht
  | cons p cands ih =>
    obtain ⟨start, found⟩ := p
    unfold chosen at ht
    split at ht
    · obtain ⟨hstart, hmem⟩ := ih h.tail ht
      exact ⟨hstart, List.mem_cons_of_mem _ hmem⟩
    · next hpast =>
      cases found with
      | none =>
        obtain ⟨hstart, hmem⟩ := ih h.tail ht
        exact ⟨hstart, List.mem_cons_of_mem _ hmem⟩
      | some u =>
        obtain ⟨hu, hstop⟩ := h.starts List.mem_cons_self
        rcases List.mem_cons.mp ht with rfl | ht
        · rw [hu]
          exact ⟨by omega, List.mem_cons_self⟩
        · obtain ⟨hstart, hmem⟩ := ih h.tail ht
          exact ⟨by omega, List.mem_cons_of_mem _ hmem⟩

/-- What is taken is in order and apart. -/
theorem chosen_pairwise (h : Aligned cands) :
    (chosen consumed cands).Pairwise fun t u => t.span.stop ≤ u.span.start := by
  induction cands generalizing consumed with
  | nil => exact .nil
  | cons p cands ih =>
    obtain ⟨start, found⟩ := p
    unfold chosen
    split
    · exact ih h.tail
    · cases found with
      | none => exact ih h.tail
      | some u =>
        refine List.pairwise_cons.mpr ⟨?_, ih h.tail⟩
        intro t ht
        exact (chosen_sound h.tail ht).1

/-- A candidate is taken unless it starts inside one that is. -/
theorem chosen_complete (h : Aligned cands) {n : Nat} {t : Tagged} (ht : (n, some t) ∈ cands)
    (hn : consumed ≤ n) (hfree : ∀ u ∈ chosen consumed cands, ¬ u.Covers n) :
    t ∈ chosen consumed cands := by
  induction cands generalizing consumed with
  | nil => exact nomatch ht
  | cons p cands ih =>
    obtain ⟨start, found⟩ := p
    unfold chosen at hfree ⊢
    rcases List.mem_cons.mp ht with heq | ht'
    · obtain ⟨rfl, rfl⟩ := Prod.mk.inj heq
      rw [if_neg (by omega)]
      exact List.mem_cons_self
    · have hlater : start < n := (List.pairwise_cons.mp h.sorted).1 _ ht'
      split at hfree
      · next hpast =>
        rw [if_pos hpast]
        exact ih h.tail ht' hn hfree
      · next hpast =>
        rw [if_neg hpast]
        cases found with
        | none => exact ih h.tail ht' hn hfree
        | some u =>
          obtain ⟨hu, hstop⟩ := h.starts List.mem_cons_self
          have hnot := hfree u List.mem_cons_self
          have hbehind : u.span.stop ≤ n := by
            unfold Tagged.Covers at hnot
            omega
          have hrest := ih h.tail ht' hbehind fun v hv => hfree v (List.mem_cons_of_mem u hv)
          exact List.mem_cons_of_mem u hrest

end Chosen

end Companion
