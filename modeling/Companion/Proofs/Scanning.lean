import Companion.Proofs.Skipping
import Companion.Proofs.Stripping

/-!
Which directives a text has. A tag with a JSON value and a bracket after it is a directive of exactly
that extent, however broken its neighbours are, unless it is quoted in a string of an earlier one. Any
other tag runs to the first bracket if there is one before the next tag, and stays in the text if not.
-/

namespace Companion

open Text Json

/-! ### Values in a text -/

/-- A JSON value between blanks, and the bracket that closes it, as a reader of values takes it. -/
structure Closes (read : List Symbol → Except Fault (List Symbol))
    (body gap json gap' after : List Char) : Prop where
  body_eq : body = gap ++ (json ++ (gap' ++ ']' :: after))
  blank : AllBlank gap
  blank' : AllBlank gap'
  starts : trimStart json = json
  value : read (symbolsOf (json ++ (gap' ++ ']' :: after))) = .ok (symbolsOf (gap' ++ ']' :: after))

/-- What a value that was passed over looks like. -/
structure IsValue (json : List Char) : Prop where
  untagged : Untagged .outside (symbolsOf json)
  ends : ∃ q c, json = q ++ [c] ∧ isBlank c = false

theorem skip_value {json tail : List Char}
    (h : skip (symbolsOf (json ++ tail)) = .ok (symbolsOf tail)) : IsValue json ∧
      (opensWhole (dropSpace (symbolsOf (json ++ tail))) = false →
        ∀ c ∈ json, IsPlain (.char c)) := by
  obtain ⟨⟨⟨p, hp, huntagged, _⟩, q, c, hq, hblank⟩, _, hplain⟩ := skipWithin_passed _ h
  rw [symbolsOf_append] at hp hq hplain
  obtain rfl := List.append_cancel_right hp
  have hlast : symbolsOf json = q ++ [.char c] := by
    apply List.append_cancel_right
    rw [hq, List.append_assoc]
    rfl
  obtain ⟨a, b, rfl, _, hb⟩ := symbolsOf_eq_append hlast
  obtain rfl : b = [c] := symbolsOf_injective hb
  refine ⟨⟨huntagged, a, c, rfl, hblank⟩, ?_⟩
  intro hwhole d hd
  rw [symbolsOf_append (a ++ [c]) tail] at hwhole
  obtain ⟨r, hr, hall⟩ := hplain hwhole
  obtain rfl := List.append_cancel_right hr
  exact hall (.char d) (List.mem_map_of_mem hd)

theorem IsValue.trimEnd_eq {json : List Char} (h : IsValue json) : trimEnd json = json := by
  obtain ⟨q, c, rfl, hc⟩ := h.ends
  exact trimEnd_concat hc q

theorem skip_of_skipPlain {s rest : List Symbol} (h : skipPlain s = .ok rest) :
    skip s = .ok rest := by
  obtain ⟨t, ht, h⟩ := bind_eq_ok h
  split at h
  · rw [ht, Except.ok.inj h]
  · exact nomatch h

theorem Closes.of_plain {body gap json gap' after : List Char}
    (h : Closes skipPlain body gap json gap' after) : Closes skip body gap json gap' after :=
  ⟨h.body_eq, h.blank, h.blank', h.starts, skip_of_skipPlain h.value⟩

section Closes

variable {body gap json gap' after : List Char}

theorem Closes.isValue (h : Closes skip body gap json gap' after) : IsValue json :=
  (skip_value h.value).1

/-- What is left of a body once the blanks in front are gone. -/
theorem Closes.trimStart_body (h : Closes skip body gap json gap' after) :
    trimStart body = json ++ (gap' ++ ']' :: after) := by
  obtain ⟨q, c, hjson, _⟩ := h.isValue.ends
  rw [h.body_eq, trimStart_append h.blank]
  cases hcs : json with
  | nil =>
    rw [hcs] at hjson
    simp at hjson
  | cons d json' =>
    have hd := trimStart_head (hcs ▸ h.starts)
    exact trimStart_cons hd _

theorem Closes.trim_json (h : Closes skip body gap json gap' after) : trim json = json := by
  rw [trim, h.starts, h.isValue.trimEnd_eq]

theorem trimStart_close {gap : List Char} (h : AllBlank gap) (after : List Char) :
    trimStart (gap ++ ']' :: after) = ']' :: after := by
  rw [trimStart_append h]
  exact trimStart_cons (by decide) after

/-- A payload is found as JSON just where there is a value whose end is plain to see. -/
theorem locateJson?_eq_some {found : Located} : locateJson? body = some found ↔
    ∃ gap json gap' after, Closes skipPlain body gap json gap' after ∧
      found = ⟨json, body.length - after.length⟩ := by
  constructor
  · intro h
    unfold locateJson? at h
    dsimp only at h
    split at h
    · next rest hread =>
      obtain ⟨⟨⟨p, hp, _⟩, q, c, hq, _⟩, _⟩ := skipWithin_passed _ (skip_of_skipPlain hread)
      obtain ⟨json, tail, hsplit, rfl, rfl⟩ := symbolsOf_eq_append hp
      have hsize : (trimStart body).length - (symbolsOf tail).length = json.length := by
        rw [hsplit, List.length_append, length_symbolsOf]
        omega
      rw [hsize] at h
      split at h
      · next after hclose =>
        obtain ⟨gap, hgap, hbody⟩ := trimStart_eq body
        obtain ⟨gap', hgap', htail⟩ := trimStart_eq ((trimStart body).drop json.length)
        have hdrop : (trimStart body).drop json.length = tail := by
          rw [hsplit, List.drop_left']
          rfl
        have htake : (trimStart body).take json.length = json := by
          rw [hsplit, List.take_left']
          rfl
        rw [hdrop] at htail hclose
        rw [hclose] at htail
        rw [htake] at h
        refine ⟨gap, json, gap', after, ⟨?_, hgap, hgap', ?_, ?_⟩, (Option.some.inj h).symm⟩
        · rw [← htail, ← hsplit]
          exact hbody
        · cases json with
          | nil =>
            rw [hsplit] at hq
            have hlen := congrArg List.length hq
            simp only [List.nil_append, List.length_append, List.length_cons] at hlen
            omega
          | cons d json => exact trimStart_cons (trimStart_head hsplit) json
        · rw [← htail, ← hsplit]
          exact hread
      · exact nomatch h
    · exact nomatch h
  · rintro ⟨gap, json, gap', after, hcloses, rfl⟩
    have htrim := hcloses.of_plain.trimStart_body
    have hsize : (json ++ (gap' ++ ']' :: after)).length -
        (symbolsOf (gap' ++ ']' :: after)).length = json.length := by
      rw [List.length_append, length_symbolsOf]
      omega
    have hclose := trimStart_close hcloses.blank' after
    unfold locateJson?
    simp only [htrim, hcloses.value, hsize, List.drop_left, List.take_left, hclose]

end Closes

/-! ### Brackets in a text -/

theorem findIdx?_close {cs : List Char} {i : Nat} : cs.findIdx? (· == ']') = some i ↔
    ∃ inner after, cs = inner ++ ']' :: after ∧ ']' ∉ inner ∧ i = inner.length := by
  induction cs generalizing i with
  | nil => simp
  | cons c cs ih =>
    rw [List.findIdx?_cons]
    by_cases hc : c = ']'
    · subst hc
      simp only [beq_self_eq_true, if_true, Option.some.injEq]
      constructor
      · rintro rfl
        exact ⟨[], cs, rfl, by simp, rfl⟩
      · rintro ⟨inner, after, h, hfirst, rfl⟩
        cases inner with
        | nil => rfl
        | cons d inner =>
          obtain ⟨rfl, _⟩ := List.cons.inj h
          simp at hfirst
    · simp only [beq_iff_eq, hc, if_false, Option.map_eq_some_iff, ih]
      constructor
      · rintro ⟨j, ⟨inner, after, rfl, hfirst, rfl⟩, rfl⟩
        exact ⟨c :: inner, after, rfl, by simp [hfirst, Ne.symm hc], rfl⟩
      · rintro ⟨inner, after, h, hfirst, rfl⟩
        cases inner with
        | nil => exact absurd (List.cons.inj h).1 hc
        | cons d inner =>
          obtain ⟨rfl, rfl⟩ := List.cons.inj h
          refine ⟨inner.length, ⟨inner, after, rfl, ?_, rfl⟩, rfl⟩
          exact fun hmem => hfirst (List.mem_cons_of_mem c hmem)

/-- The first bracket comes before the next tag just where there is no tag in front of it. -/
theorem Room.lt_iff {inner after : List Char} {room : Nat} (h : Room (inner ++ ']' :: after) room) :
    inner.length < room ↔ ∀ a b k, inner ≠ a ++ (DirectiveKind.tag k ++ b) := by
  constructor
  · rintro hlt a b k rfl
    have hsplit : (a ++ (k.tag ++ b)) ++ ']' :: after = a ++ (k.tag ++ (b ++ ']' :: after)) := by
      simp
    have hle := h.free hsplit
    rw [List.length_append] at hlt
    omega
  · intro hfree
    rcases h.next with rfl | ⟨k, b, hdrop⟩
    · rw [List.length_append, List.length_cons]
      omega
    · by_contra hge
      have hsplit := List.take_append_drop room (inner ++ ']' :: after)
      rw [hdrop] at hsplit
      have hfront : ((inner ++ ']' :: after).take room).length ≤ inner.length := by
        rw [List.length_take]
        omega
      obtain ⟨b', hinner, _⟩ := append_in_front hsplit.symm (close_notMem_tag k) hfront
      exact hfree _ _ _ hinner

/-- The blanks in front of a text with a bracket are in front of the bracket. -/
theorem blanks_before_close {gap rest inner after : List Char} (hgap : AllBlank gap)
    (h : inner ++ ']' :: after = gap ++ rest) : ∃ inner', inner = gap ++ inner' := by
  rcases List.append_eq_append_iff.mp h with ⟨d, rfl, hrest⟩ | ⟨d, hinner, _⟩
  · cases d with
    | nil => exact ⟨[], by simp⟩
    | cons e d =>
      obtain ⟨rfl, _⟩ := List.cons.inj hrest
      have hblank := hgap ']' (by simp)
      exact absurd hblank (by decide)
  · exact ⟨d, hinner⟩

/-- What lies between the blanks in front of a text and the bracket is the trimmed text in front of the
bracket. -/
theorem trim_drop_blanks (inner after : List Char) :
    trim (inner.drop ((inner ++ ']' :: after).length - (trimStart (inner ++ ']' :: after)).length)) =
      trim inner := by
  obtain ⟨gap, hgap, hbody⟩ := trimStart_eq (inner ++ ']' :: after)
  have hsize : (inner ++ ']' :: after).length - (trimStart (inner ++ ']' :: after)).length =
      gap.length := by
    have hlen : _ = (gap ++ trimStart (inner ++ ']' :: after)).length := congrArg List.length hbody
    rw [hlen, List.length_append, Nat.add_sub_cancel]
  obtain ⟨rest, rfl⟩ := blanks_before_close hgap hbody
  rw [hsize, List.drop_left, trim, trim, trimStart_append hgap]

/-- A payload is found by its bracket just where the first one comes before the next tag. -/
theorem locateBracket?_eq_some {body : List Char} {room : Nat} (hroom : Room body room)
    {found : Located} : locateBracket? body room = some found ↔
      ∃ inner after, body = inner ++ ']' :: after ∧ ']' ∉ inner ∧
        (∀ a b k, inner ≠ a ++ (DirectiveKind.tag k ++ b)) ∧
        found = ⟨inner.drop (body.length - (trimStart body).length), inner.length + 1⟩ := by
  unfold locateBracket?
  rw [Option.map_eq_some_iff]
  constructor
  · rintro ⟨i, hi, rfl⟩
    obtain ⟨inner, tail, htake, hfirst, rfl⟩ := findIdx?_close.mp hi
    have hbody : body = inner ++ ']' :: (tail ++ body.drop room) := by
      have hsplit := List.take_append_drop room body
      rw [htake, List.append_assoc] at hsplit
      exact hsplit.symm
    have hlt : inner.length < room := by
      have hlen := congrArg List.length htake
      rw [List.length_take, List.length_append, List.length_cons] at hlen
      omega
    refine ⟨inner, _, hbody, hfirst, (Room.lt_iff (hbody ▸ hroom)).mp hlt, ?_⟩
    have hfront : body.take inner.length = inner := by
      rw [hbody, List.take_left']
      rfl
    rw [hfront]
  · rintro ⟨inner, after, rfl, hfirst, hfree, rfl⟩
    have hlt := hroom.lt_iff.mpr hfree
    refine ⟨inner.length, ?_, ?_⟩
    · refine findIdx?_close.mpr ⟨inner, after.take (room - inner.length - 1), ?_, hfirst, rfl⟩
      obtain ⟨extra, hextra⟩ := Nat.exists_eq_add_of_lt hlt
      have hrest : room - inner.length = extra + 1 := by omega
      rw [List.take_append, List.take_of_length_le (by omega), hrest, List.take_succ_cons,
        Nat.add_sub_cancel]
    · rw [List.take_left]

/-! ### Directives in a text -/

/-- A directive stands in a text whose tag is followed by a JSON value between blanks and a bracket. -/
structure Tagged.WellFormed (text : List Char) (t : Tagged) (before body gap gap' after : List Char) :
    Prop where
  text_eq : text = before ++ (t.kind.tag ++ body)
  closes : Closes skip body gap t.payload gap' after
  span : t.span = ⟨before.length, text.length - after.length⟩

/-- A directive stands in a text whose tag is followed by a bracket, and by no tag before the first
one. -/
structure Tagged.Bracketed (text : List Char) (t : Tagged) (before inner after : List Char) : Prop where
  text_eq : text = before ++ (t.kind.tag ++ (inner ++ ']' :: after))
  first : ']' ∉ inner
  free : ∀ a b k, inner ≠ a ++ (DirectiveKind.tag k ++ b)
  payload : t.payload = trim inner
  span : t.span = ⟨before.length, text.length - after.length⟩

def Tagged.IsWellFormed (text : List Char) (t : Tagged) : Prop :=
  ∃ before body gap gap' after, t.WellFormed text before body gap gap' after

def Tagged.IsBracketed (text : List Char) (t : Tagged) : Prop :=
  ∃ before inner after, t.Bracketed text before inner after

def TagAt (text : List Char) (n : Nat) (k : DirectiveKind) : Prop :=
  ∃ before body, text = before ++ (k.tag ++ body) ∧ before.length = n

/-- One place has one tag at most. -/
theorem tag_at_place {text a b c d : List Char} {k k' : DirectiveKind} (h : text = a ++ (k.tag ++ b))
    (h' : text = c ++ (k'.tag ++ d)) (hlen : a.length = c.length) : a = c ∧ k = k' ∧ b = d := by
  obtain ⟨hfront, hrest⟩ := List.append_inj (h.symm.trans h') hlen
  obtain ⟨hk, hb⟩ := tag_unique hrest
  exact ⟨hfront, hk, hb⟩

section Found

variable {text before body : List Char} {k : DirectiveKind} {room : Nat} {t : Tagged}

theorem found?_eq_some : (⟨k, before.length, body⟩ : Opener).found? room = some t ↔
    ∃ found, locate? body room = some found ∧
      t = ⟨k, ⟨before.length, before.length + tagLength + found.length⟩, trim found.payload⟩ := by
  rw [Opener.found?, Option.map_eq_some_iff]
  exact exists_congr fun found => and_congr_right fun _ => eq_comm

/-- A directive of plain symbols is found whichever way it is looked for. -/
theorem locateBracket?_plain {gap json gap' after : List Char} (hroom : Room body room)
    (h : Closes skip body gap json gap' after) (hplain : ∀ c ∈ json, IsPlain (.char c)) :
    ∃ found, locateBracket? body room = some found ∧ trim found.payload = json ∧
      found.length = body.length - after.length := by
  have hmark : ∀ c ∈ gap ++ (json ++ gap'), c ≠ ']' ∧ c ≠ '[' := by
    intro c hc
    have hblank : isBlank c = true → c ≠ ']' ∧ c ≠ '[' := by
      intro hc
      constructor <;> · rintro rfl; exact absurd hc (by decide)
    rcases List.mem_append.mp hc with hc | hc
    · exact hblank (h.blank c hc)
    · rcases List.mem_append.mp hc with hc | hc
      · obtain ⟨_, hopen, hclose⟩ := hplain c hc
        exact ⟨fun heq => hclose (congrArg Symbol.char heq), fun heq => hopen (congrArg Symbol.char heq)⟩
      · exact hblank (h.blank' c hc)
  have hbody : body = (gap ++ (json ++ gap')) ++ ']' :: after := by simp [h.body_eq]
  have hfree : ∀ a b k, gap ++ (json ++ gap') ≠ a ++ (DirectiveKind.tag k ++ b) := by
    intro a b k heq
    have hopen : '[' ∈ gap ++ (json ++ gap') := by simp [heq, k.tag_eq]
    exact (hmark '[' hopen).2 rfl
  refine ⟨_, (locateBracket?_eq_some hroom).mpr ⟨_, after, hbody, ?_, hfree, rfl⟩, ?_, ?_⟩
  · intro hclose
    exact (hmark ']' hclose).1 rfl
  · have htrim := trim_drop_blanks (gap ++ (json ++ gap')) after
    rw [← hbody] at htrim
    rw [htrim]
    exact trim_between h.blank h.blank' h.starts h.isValue.trimEnd_eq
  · have hlength := congrArg List.length hbody
    rw [List.length_append, List.length_cons] at hlength
    dsimp only
    omega

/-- A tag with a JSON value and a bracket after it becomes that directive. -/
theorem found?_of_wellFormed (htext : text = before ++ (k.tag ++ body)) (hroom : Room body room)
    (h : t.IsWellFormed text) (hstart : t.span.start = before.length) :
    (⟨k, before.length, body⟩ : Opener).found? room = some t := by
  obtain ⟨before', body', gap, gap', after, htext', hcloses, hspan⟩ := h
  have hplace : before.length = before'.length := by rw [← hstart, hspan]
  obtain ⟨rfl, hk, rfl⟩ := tag_at_place htext htext' hplace
  have hsize : text.length - after.length =
      before.length + tagLength + (body.length - after.length) := by
    have hafter := congrArg List.length hcloses.body_eq
    simp only [List.length_append, List.length_cons] at hafter
    rw [htext, List.length_append, List.length_append, length_tag]
    omega
  obtain ⟨kind, span, payload⟩ := t
  dsimp only at hk hspan hcloses
  rw [found?_eq_some, hspan, hsize, ← hk]
  cases hread : skipPlain (symbolsOf (payload ++ (gap' ++ ']' :: after))) with
  | ok rest =>
    have hvalue := hcloses.value
    rw [skip_of_skipPlain hread] at hvalue
    have hfound : locateJson? body = some ⟨payload, body.length - after.length⟩ :=
      locateJson?_eq_some.mpr ⟨gap, payload, gap', after,
        ⟨hcloses.body_eq, hcloses.blank, hcloses.blank', hcloses.starts, hvalue ▸ hread⟩, rfl⟩
    refine ⟨_, by rw [locate?, hfound], ?_⟩
    dsimp only
    rw [hcloses.trim_json]
  | error e =>
    have hnone : locateJson? body = none := by
      have htrim := hcloses.trimStart_body
      simp only [locateJson?, htrim, hread]
    have hwhole : opensWhole (dropSpace (symbolsOf (payload ++ (gap' ++ ']' :: after)))) = false := by
      cases hopens : opensWhole (dropSpace (symbolsOf (payload ++ (gap' ++ ']' :: after)))) with
      | false => rfl
      | true =>
        rw [opensWhole] at hopens
        simp only [skipPlain, hcloses.value, bind, Except.bind, hopens, Bool.true_or, if_true] at hread
        exact nomatch hread
    obtain ⟨found, hfound, hpayload, hlength⟩ :=
      locateBracket?_plain hroom hcloses ((skip_value hcloses.value).2 hwhole)
    refine ⟨found, by rw [locate?, hnone]; exact hfound, ?_⟩
    rw [hpayload, hlength]

/-- What a tag becomes is a directive that stands in the text. -/
theorem found?_sound (htext : text = before ++ (k.tag ++ body)) (hroom : Room body room)
    (h : (⟨k, before.length, body⟩ : Opener).found? room = some t) :
    t.IsWellFormed text ∨ t.IsBracketed text := by
  obtain ⟨found, hlocate, rfl⟩ := found?_eq_some.mp h
  have hsize : ∀ {front after : List Char}, body = front ++ after →
      before.length + tagLength + front.length = text.length - after.length := by
    intro front after hbody
    rw [htext, hbody]
    simp only [List.length_append, length_tag]
    omega
  unfold locate? at hlocate
  split at hlocate
  · next json hjson =>
    obtain rfl := Option.some.inj hlocate
    obtain ⟨gap, payload, gap', after, hcloses, rfl⟩ := locateJson?_eq_some.mp hjson
    left
    have hskip := hcloses.of_plain
    have hbody : body = (gap ++ (payload ++ (gap' ++ [']']))) ++ after := by simp [hcloses.body_eq]
    refine ⟨before, body, gap, gap', after, htext, ?_, ?_⟩
    · dsimp only
      rw [hskip.trim_json]
      exact hskip
    · have hlength : body.length - after.length = (gap ++ (payload ++ (gap' ++ [']']))).length := by
        rw [hbody, List.length_append, Nat.add_sub_cancel]
      dsimp only
      rw [hlength, hsize hbody]
  · obtain ⟨inner, after, rfl, hfirst, hfree, rfl⟩ := (locateBracket?_eq_some hroom).mp hlocate
    right
    refine ⟨before, inner, after, htext, hfirst, hfree, trim_drop_blanks inner after, ?_⟩
    have hbody : inner ++ ']' :: after = (inner ++ [']']) ++ after := by simp
    have hlength := hsize hbody
    rw [List.length_append, List.length_singleton] at hlength
    dsimp only
    rw [hlength]

/-- A tag with a bracket before the next tag becomes the directive up to that bracket, unless it
becomes one with a JSON payload. -/
theorem found?_of_bracketed (htext : text = before ++ (k.tag ++ body)) (hroom : Room body room)
    (h : t.IsBracketed text) (hstart : t.span.start = before.length)
    (hnone : ∀ u : Tagged, u.IsWellFormed text → u.span.start ≠ before.length) :
    (⟨k, before.length, body⟩ : Opener).found? room = some t := by
  obtain ⟨before', inner, after, htext', hfirst, hfree, hpayload, hspan⟩ := h
  have hplace : before.length = before'.length := by rw [← hstart, hspan]
  obtain ⟨rfl, hk, rfl⟩ := tag_at_place htext htext' hplace
  have hjson : locateJson? (inner ++ ']' :: after) = none := by
    cases hfound : locateJson? (inner ++ ']' :: after) with
    | none => rfl
    | some found =>
      have hlocate : locate? (inner ++ ']' :: after) room = some found := by rw [locate?, hfound]
      obtain ⟨gap, payload, gap', rest, hcloses, rfl⟩ := locateJson?_eq_some.mp hfound
      refine absurd rfl (hnone ⟨k, ⟨before.length, text.length - rest.length⟩, payload⟩ ?_)
      exact ⟨before, _, gap, gap', rest, htext, hcloses.of_plain, rfl⟩
  have hfound := (locateBracket?_eq_some hroom).mpr ⟨inner, after, rfl, hfirst, hfree, rfl⟩
  refine found?_eq_some.mpr ⟨_, by rw [locate?, hjson]; exact hfound, ?_⟩
  obtain ⟨kind, span, payload⟩ := t
  dsimp only at hk hpayload hspan ⊢
  have hsize : text.length - after.length = before.length + tagLength + (inner.length + 1) := by
    rw [htext]
    simp only [List.length_append, List.length_cons, length_tag]
    omega
  rw [hk, hpayload, hspan, hsize, trim_drop_blanks]

end Found

/-! ### Tags inside directives -/

/-- A tag lies in a string literal of the JSON payload of a directive. -/
def Tagged.Quotes (text : List Char) (t : Tagged) (n : Nat) (k : DirectiveKind) : Prop :=
  ∃ before body gap gap' after front back, t.WellFormed text before body gap gap' after ∧
    t.payload = front ++ (k.tag ++ back) ∧
    n = before.length + tagLength + gap.length + front.length ∧
    Spot.outside.after (symbolsOf front) ≠ .outside

/-- A tag that is not in front of some blanks is behind them. -/
theorem tag_behind {gap x a b : List Char} {k : DirectiveKind} (hgap : AllBlank gap)
    (h : gap ++ x = a ++ (k.tag ++ b)) : ∃ a', a = gap ++ a' ∧ x = a' ++ (k.tag ++ b) := by
  rcases List.append_eq_append_iff.mp h with ⟨d, rfl, hrest⟩ | ⟨d, hd, hrest⟩
  · exact ⟨d, rfl, hrest⟩
  · cases d with
    | nil => exact ⟨[], by simpa using hd.symm, by simpa using hrest.symm⟩
    | cons c d =>
      rw [k.tag_eq, List.cons_append, List.cons_append] at hrest
      obtain ⟨rfl, _⟩ := List.cons.inj hrest
      have hblank := hgap '[' (by simp [hd])
      exact absurd hblank (by decide)

/-- A tag that is not behind some blanks is in front of them. -/
theorem tag_in_front {x gap a b : List Char} {k : DirectiveKind} (hgap : AllBlank gap)
    (h : x ++ gap = a ++ (k.tag ++ b)) : ∃ b', x = a ++ (k.tag ++ b') := by
  have hmember : ∀ {c : Char}, c ∈ k.tag → c ∉ gap := by
    intro c hc hmem
    have hblank := hgap c hmem
    rw [isBlank_of_mem_tag hc] at hblank
    exact nomatch hblank
  rcases List.append_eq_append_iff.mp h with ⟨d, rfl, hrest⟩ | ⟨d, rfl, hrest⟩
  · have hopen : '[' ∈ k.tag := by simp [k.tag_eq]
    exact absurd (by simp [hrest, k.tag_eq] : '[' ∈ gap) (hmember hopen)
  · rcases List.append_eq_append_iff.mp hrest with ⟨e, rfl, _⟩ | ⟨e, htag, hback⟩
    · exact ⟨e, rfl⟩
    · cases e with
      | nil => exact ⟨[], by rw [htag]; simp⟩
      | cons c e => exact absurd (by simp [hback] : c ∈ gap) (hmember (by simp [htag]))

/-- A tag that starts inside a directive stands between the tag and the bracket of that one. -/
theorem tag_inside {text before inner after front back : List Char} {k k' : DirectiveKind}
    (h : text = before ++ (k.tag ++ (inner ++ ']' :: after)))
    (h' : text = front ++ (k'.tag ++ back)) (hstart : before.length < front.length)
    (hstop : front.length < text.length - after.length) :
    ∃ a b, inner = a ++ (k'.tag ++ b) ∧ front.length = before.length + tagLength + a.length := by
  obtain ⟨d, rfl, hrest⟩ : ∃ d, front = before ++ d ∧
      k.tag ++ (inner ++ ']' :: after) = d ++ (k'.tag ++ back) := by
    rcases List.append_eq_append_iff.mp (h.symm.trans h') with ⟨d, hd, hrest⟩ | ⟨d, hd, _⟩
    · exact ⟨d, hd, hrest⟩
    · have hlen := congrArg List.length hd
      rw [List.length_append] at hlen
      omega
  have hne : d ≠ [] := by
    rintro rfl
    simp at hstart
  obtain ⟨a, rfl, hbody⟩ := tag_apart hne hrest
  have hlen := congrArg List.length h
  simp only [List.length_append, List.length_cons, length_tag] at hlen hstop ⊢
  obtain ⟨b, hinner, _⟩ := append_in_front hbody (close_notMem_tag k') (by omega)
  exact ⟨a, b, hinner, by omega⟩

/-- A bracket that the name of a tag follows stands in a string literal. -/
theorem spot_of_untagged {spot : Spot} {p q : List Symbol} {c : Char}
    (h : Untagged spot (p ++ .char '[' :: .char c :: q)) (hc : c = 'U' ∨ c = 'R') :
    spot.after p ≠ .outside := by
  induction p generalizing spot with
  | nil =>
    intro hspot
    obtain ⟨hU, hR⟩ := h.1 hspot rfl
    rcases hc with rfl | rfl
    · exact hU rfl
    · exact hR rfl
  | cons x p ih => exact ih h.2

/-- A tag inside a directive is quoted there, and that directive has a JSON payload. -/
theorem quotes_of_covers {text : List Char} {t : Tagged} {n : Nat} {k : DirectiveKind}
    (ht : t.IsWellFormed text ∨ t.IsBracketed text) (htag : TagAt text n k) (hcover : t.Covers n) :
    t.Quotes text n k := by
  obtain ⟨front, back, htext, rfl⟩ := htag
  obtain ⟨hstart, hstop⟩ := hcover
  rcases ht with ⟨before, body, gap, gap', after, hwell⟩ | ⟨before, inner, after, hbracketed⟩
  · have hspan := hwell.span
    rw [hspan] at hstart hstop
    have hbody : body = (gap ++ (t.payload ++ gap')) ++ ']' :: after := by
      simp [hwell.closes.body_eq]
    have hwhole := hwell.text_eq
    rw [hbody] at hwhole
    obtain ⟨a, b, hinner, hplace⟩ := tag_inside hwhole htext hstart hstop
    obtain ⟨a', rfl, hrest⟩ := tag_behind hwell.closes.blank hinner
    obtain ⟨b', hpayload⟩ := tag_in_front hwell.closes.blank' hrest
    refine ⟨before, body, gap, gap', after, a', b', hwell, hpayload, ?_, ?_⟩
    · rw [hplace, List.length_append]
      omega
    · have huntagged := hwell.closes.isValue.untagged
      rw [hpayload, symbolsOf_append] at huntagged
      cases k with
      | update => exact spot_of_untagged huntagged (.inl rfl)
      | remind => exact spot_of_untagged huntagged (.inr rfl)
  · have hspan := hbracketed.span
    rw [hspan] at hstart hstop
    obtain ⟨a, b, hinner, _⟩ := tag_inside hbracketed.text_eq htext hstart hstop
    exact absurd hinner (hbracketed.free a b k)

/-! ### Scanning -/

/-- The tags of a text with what each may become. -/
theorem scan_eq (text : List Char) :
    scan text = chosen 0 (candidates (0 + text.length) (openersFrom 0 text)) := by
  rw [scan, directivesOf_eq, Nat.zero_add]

/-- What was reported is a directive that stands in the text, and nothing else is. -/
theorem scan_sound {text : List Char} {t : Tagged} (h : t ∈ scan text) :
    ∃ before body room, text = before ++ (t.kind.tag ++ body) ∧ Room body room ∧
      t.span.start = before.length ∧
      (⟨t.kind, before.length, body⟩ : Opener).found? room = some t := by
  rw [scan_eq] at h
  obtain ⟨_, hmem⟩ := chosen_sound (candidates_aligned 0 text) h
  obtain ⟨before, k, body, room, htext, hroom, heq⟩ := mem_candidates.mp hmem
  obtain ⟨hstart, hfound⟩ := Prod.mk.inj heq
  rw [Nat.zero_add] at hstart hfound
  obtain ⟨found, _, ht⟩ := found?_eq_some.mp hfound.symm
  obtain rfl : t.kind = k := congrArg Tagged.kind ht
  exact ⟨before, body, room, htext, hroom, hstart, hfound.symm⟩

/-- A directive that a tag becomes is reported unless the tag is inside one that is. -/
theorem scan_complete {text before body : List Char} {k : DirectiveKind} {room : Nat} {t : Tagged}
    (htext : text = before ++ (k.tag ++ body)) (hroom : Room body room)
    (hfound : (⟨k, before.length, body⟩ : Opener).found? room = some t)
    (hfree : ∀ u ∈ scan text, ¬ u.Covers before.length) : t ∈ scan text := by
  have hmem : (before.length, some t) ∈ candidates (0 + text.length) (openersFrom 0 text) := by
    refine mem_candidates.mpr ⟨before, k, body, room, htext, hroom, ?_⟩
    rw [Nat.zero_add, hfound]
  rw [scan_eq] at hfree ⊢
  exact chosen_complete (candidates_aligned 0 text) hmem (Nat.zero_le _) hfree

theorem TagAt.apart {text : List Char} {n m : Nat} {k k' : DirectiveKind} (h : TagAt text n k)
    (h' : TagAt text m k') (hlt : n < m) : n + tagLength ≤ m := by
  obtain ⟨a, b, htext, rfl⟩ := h
  obtain ⟨c, d, htext', rfl⟩ := h'
  rcases List.append_eq_append_iff.mp (htext.symm.trans htext') with ⟨e, rfl, hrest⟩ | ⟨e, hc, _⟩
  · have hne : e ≠ [] := by
      rintro rfl
      simp at hlt
    obtain ⟨inner, rfl, _⟩ := tag_apart hne hrest
    rw [List.length_append, List.length_append, length_tag]
    omega
  · have hlen := congrArg List.length hc
    rw [List.length_append] at hlen
    omega

/-- A tag stays in a text when its directives are taken out. -/
def Stays (text : List Char) (n : Nat) (k : DirectiveKind) : Prop :=
  ∃ left right, strip text ((scan text).map (·.span)) = left ++ (k.tag ++ right) ∧
    left.Sublist (text.take n) ∧ right.Sublist (text.drop (n + tagLength))

theorem tagAt_of_mem_scan {text : List Char} {t : Tagged} (h : t ∈ scan text) :
    TagAt text t.span.start t.kind := by
  obtain ⟨before, body, _, htext, _, hstart, _⟩ := scan_sound h
  exact ⟨before, body, htext, hstart.symm⟩

theorem scan_pairwise (text : List Char) :
    (scan text).Pairwise fun t u => t.span.stop ≤ u.span.start := by
  rw [scan_eq]
  exact chosen_pairwise (candidates_aligned 0 text)

theorem start_lt_stop {text : List Char} {t : Tagged} (h : t ∈ scan text) :
    t.span.start < t.span.stop := by
  obtain ⟨before, _, _, _, _, hstart, hfound⟩ := scan_sound h
  obtain ⟨found, _, ht⟩ := found?_eq_some.mp hfound
  have hstop := congrArg (fun t : Tagged => t.span.stop) ht
  dsimp only [tagLength] at hstop
  omega

theorem eq_or_of_pairwise {α : Type} {R : α → α → Prop} {l : List α} (h : l.Pairwise R) {a b : α}
    (ha : a ∈ l) (hb : b ∈ l) : a = b ∨ R a b ∨ R b a := by
  induction l with
  | nil => exact nomatch ha
  | cons c l ih =>
    obtain ⟨hfirst, hrest⟩ := List.pairwise_cons.mp h
    rcases List.mem_cons.mp ha with rfl | ha'
    · rcases List.mem_cons.mp hb with rfl | hb'
      · exact .inl rfl
      · exact .inr (.inl (hfirst b hb'))
    · rcases List.mem_cons.mp hb with rfl | hb'
      · exact .inr (.inr (hfirst a ha'))
      · exact ih hrest ha' hb'

/-- No reported directive starts inside another. -/
theorem scan_free {text : List Char} {t u : Tagged} (ht : t ∈ scan text) (hu : u ∈ scan text) :
    ¬ u.Covers t.span.start := by
  rintro ⟨hstart, hstop⟩
  have hlt := start_lt_stop ht
  rcases eq_or_of_pairwise (scan_pairwise text) ht hu with rfl | hbefore | hbehind
  · omega
  · omega
  · omega

/-- A tag stays in the text if no directive is reported for it and it is inside none that is. -/
theorem stays_of_free {text : List Char} {n : Nat} {k : DirectiveKind} (htag : TagAt text n k)
    (hfree : ∀ u ∈ scan text, ¬ u.Covers n) (hnone : ∀ t ∈ scan text, t.span.start ≠ n) :
    Stays text n k := by
  have hmisses : Misses n k.tag.length 0 ((scan text).map (·.span)) := by
    refine ⟨List.pairwise_map.mpr (scan_pairwise text), ?_, ?_⟩
    · intro s hs
      obtain ⟨t, ht, rfl⟩ := List.mem_map.mp hs
      exact ⟨Nat.zero_le _, Nat.le_of_lt (start_lt_stop ht)⟩
    · intro s hs
      obtain ⟨t, ht, rfl⟩ := List.mem_map.mp hs
      have hne := hnone t ht
      have hnot := hfree t ht
      unfold Tagged.Covers at hnot
      rw [length_tag]
      by_cases hlt : n < t.span.start
      · exact .inr (htag.apart (tagAt_of_mem_scan ht) hlt)
      · left
        omega
  obtain ⟨before, body, htext, rfl⟩ := htag
  have hdrop : text.drop before.length = k.tag ++ body := by rw [htext, List.drop_left]
  have hbody : text.drop (before.length + tagLength) = body := by
    rw [← List.drop_drop, hdrop, ← length_tag k, List.drop_left]
  rw [Stays, hbody]
  refine strip_keeps hdrop ?_ ?_ (by simp [k.tag_eq]) hmisses
  · cases k <;> decide
  · cases k <;> decide

/-- Malformed tags never hide a sibling. Directives are reported in order and apart. A directive with
a JSON payload is reported exactly, unless its tag is quoted in a string of an earlier one. A tag
without one that is inside no reported directive is reported up to the first bracket before the next
tag, and else is not reported and stays in the text. Nothing else is reported. -/
theorem scan_reports (text : List Char) :
    ((scan text).Pairwise fun t u => t.span.stop ≤ u.span.start) ∧
    (∀ t : Tagged, t.IsWellFormed text → t ∈ scan text ∨
      ∃ u ∈ scan text, u.span.start < t.span.start ∧ u.Quotes text t.span.start t.kind) ∧
    (∀ n k, TagAt text n k → (∀ t : Tagged, t.IsWellFormed text → t.span.start ≠ n) →
      (∀ u ∈ scan text, ¬ u.Covers n) →
      (∀ t : Tagged, t.IsBracketed text → t.span.start = n → t ∈ scan text) ∧
      ((∀ t : Tagged, t.IsBracketed text → t.span.start ≠ n) →
        (∀ t ∈ scan text, t.span.start ≠ n) ∧ Stays text n k)) ∧
    ∀ t ∈ scan text, (∀ u ∈ scan text, ¬ u.Covers t.span.start) ∧
      (t.IsWellFormed text ∨ t.IsBracketed text ∧
        ∀ u : Tagged, u.IsWellFormed text → u.span.start ≠ t.span.start) := by
  have hsound : ∀ t ∈ scan text, t.IsWellFormed text ∨ t.IsBracketed text := by
    intro t ht
    obtain ⟨before, body, room, htext, hroom, _, hfound⟩ := scan_sound ht
    exact found?_sound htext hroom hfound
  refine ⟨scan_pairwise text, ?_, ?_, ?_⟩
  · intro t hwell
    obtain ⟨before, body, gap, gap', after, htext, hcloses, hspan⟩ := hwell
    have hstart : t.span.start = before.length := by rw [hspan]
    obtain ⟨room, hroom⟩ := exists_room body
    have hfound := found?_of_wellFormed htext hroom
      ⟨before, body, gap, gap', after, htext, hcloses, hspan⟩ hstart
    by_cases hcover : ∃ u ∈ scan text, u.Covers before.length
    · obtain ⟨u, hu, hcovers⟩ := hcover
      right
      rw [hstart]
      exact ⟨u, hu, hcovers.1, quotes_of_covers (hsound u hu) ⟨before, body, htext, rfl⟩ hcovers⟩
    · left
      exact scan_complete htext hroom hfound fun u hu hcovers => hcover ⟨u, hu, hcovers⟩
  · intro n k htag hnone hfree
    constructor
    · intro t hbracketed hstart
      obtain ⟨before, body, htext, rfl⟩ := htag
      obtain ⟨room, hroom⟩ := exists_room body
      exact scan_complete htext hroom
        (found?_of_bracketed htext hroom hbracketed hstart hnone) hfree
    · intro hbracket
      have hunreported : ∀ t ∈ scan text, t.span.start ≠ n := by
        intro t ht
        rcases hsound t ht with hwell | hbracketed
        · exact hnone t hwell
        · exact hbracket t hbracketed
      exact ⟨hunreported, stays_of_free htag hfree hunreported⟩
  · intro t ht
    refine ⟨fun u hu => scan_free ht hu, ?_⟩
    by_cases hwell : t.IsWellFormed text
    · exact .inl hwell
    · refine .inr ⟨(hsound t ht).resolve_left hwell, ?_⟩
      intro u hu hstart
      -- The tag of both becomes one directive.
      obtain ⟨before, body, room, htext, hroom, hplace, hfound⟩ := scan_sound ht
      have hsame := found?_of_wellFormed htext hroom hu (hstart.trans hplace)
      rw [hfound] at hsame
      rw [Option.some.inj hsame] at hwell
      exact hwell hu

end Companion
