import Companion.Proofs.Acceptance
import Companion.Proofs.Removal
import Mathlib.Data.Option.Basic

/-!
Scanning by octets. A scanner that keeps its places in octets adds up sizes: of a tag, of blanks that
are trimmed, of a JSON value that is passed over, of what stands in front of a bracket. Whatever it
takes of the text can be taken, and it finds the directives of the text.
-/

namespace Companion

open Text Json

/-! ### The scanner -/

/-- A tag in a text: where it starts and where it stops, in octets. -/
structure TagPlace where
  kind : DirectiveKind
  start : Nat
  body : Nat

def tagPlaces : Nat → List Char → List TagPlace
  | _, [] => []
  | n, c :: cs =>
    match tag? (c :: cs) with
    | some (kind, _) => ⟨kind, n, n + tagLength⟩ :: tagPlaces (n + c.utf8Size) cs
    | none => tagPlaces (n + c.utf8Size) cs

/-- Where a payload lies, and where its directive stops, in octets. -/
structure Site where
  payload : Span
  stop : Nat

/-- The site of a payload from one octet to another that has a bracket after it. Like the other steps,
there is no result at all if a part is asked for that cannot be taken. -/
def closedSite? (text : List Char) (start stop : Nat) : Option (Option Site) := do
  let rest ← behind? stop text
  let gap := utf8Size rest - utf8Size (trimStart rest)
  match ← behind? gap rest with
  | ']' :: _ => some (some ⟨⟨start, stop⟩, stop + gap + 1⟩)
  | _ => some none

def jsonSite? (text : List Char) (start : Nat) : Option (Option Site) := do
  let json ← behind? start text
  match skipPlain (symbolsOf json) with
  | .error _ => some none
  | .ok left => closedSite? text start (start + (utf8Size json - octetCount left))

def octetOf? (c : Char) (cs : List Char) : Option Nat :=
  (cs.findIdx? (· == c)).map fun place => utf8Size (cs.take place)

/-- The site of a payload that runs to the first bracket before the next tag. -/
def bracketSite? (text : List Char) (body start boundary : Nat) : Option (Option Site) := do
  let front ← part? body boundary text
  some ((octetOf? ']' front).map fun n => ⟨⟨min start (body + n), body + n⟩, body + n + 1⟩)

def site? (text : List Char) (body boundary : Nat) : Option (Option Site) := do
  let tail ← behind? body text
  let start := body + (utf8Size tail - utf8Size (trimStart tail))
  match ← jsonSite? text start with
  | some site => some (some site)
  | none => bracketSite? text body start boundary

/-- Where the first of some tags starts, or the text stops. -/
def boundaryOctets (text : List Char) : List TagPlace → Nat
  | next :: _ => next.start
  | [] => utf8Size text

/-- The directives of tags, in a text of which the first `consumed` octets are taken. -/
def taggedOctets (text : List Char) : (consumed : Nat) → List TagPlace → Option (List Tagged)
  | _, [] => some []
  | consumed, o :: rest =>
    if o.start < consumed then taggedOctets text consumed rest
    else do
      match ← site? text o.body (boundaryOctets text rest) with
      | some site =>
        let payload ← part? site.payload.start site.payload.stop text
        let later ← taggedOctets text site.stop rest
        some (⟨o.kind, ⟨o.start, site.stop⟩, trim payload⟩ :: later)
      | none => taggedOctets text consumed rest

def scanOctets (text : List Char) : Option (List Tagged) := taggedOctets text 0 (tagPlaces 0 text)

def Reply.parseOctets (settings : DirectiveSettings) (generated : String) : Option Reply := do
  let found ← scanOctets generated.toList
  let visible ← stripOctets generated.toList (found.map (·.span))
  let results := (inOrder settings.scanOrder found).map (Tagged.read settings)
  some ⟨String.ofList visible, successes results, failures results⟩

/-! ### Sites -/

/-- A site shows in octets what was located in characters behind a place. -/
structure Site.Shows (text : List Char) (place : Nat) (site : Site) (found : Located) : Prop where
  payload : part? site.payload.start site.payload.stop text = some found.payload
  stop : site.stop = octetsBefore text (place + found.length)

/-- The blanks in front of a text take the octets that trimming saves. -/
theorem utf8Size_blanks {cs gap : List Char} (h : cs = gap ++ trimStart cs) :
    utf8Size cs - utf8Size (trimStart cs) = utf8Size gap ∧
      cs.length - (trimStart cs).length = gap.length := by
  have hsize := congrArg utf8Size h
  have hlength := congrArg List.length h
  rw [utf8Size_append] at hsize
  rw [List.length_append] at hlength
  omega

/-- What is left when a value was passed over is what stands behind it. -/
theorem skipPlain_splits {cs : List Char} {left : List Symbol}
    (h : skipPlain (symbolsOf cs) = .ok left) :
    ∃ json tail, cs = json ++ tail ∧ left = symbolsOf tail := by
  obtain ⟨⟨⟨p, hp, _⟩, _⟩, _⟩ := skipWithin_passed _ (skip_of_skipPlain h)
  obtain ⟨json, tail, hsplit, _, rfl⟩ := symbolsOf_eq_append hp
  exact ⟨json, tail, hsplit, rfl⟩

theorem utf8Size_close : utf8Size [']'] = 1 := by decide

/-- A payload is closed by a bracket behind it, or has no site. -/
theorem closedSite?_cases (front json tail : List Char) :
    (∃ after, trimStart tail = ']' :: after ∧
      closedSite? (front ++ (json ++ tail)) (utf8Size front) (utf8Size front + utf8Size json) =
        some (some ⟨⟨utf8Size front, utf8Size front + utf8Size json⟩,
          octetsBefore (front ++ (json ++ tail)) ((front ++ (json ++ tail)).length - after.length)⟩)) ∨
    ((∀ after, trimStart tail ≠ ']' :: after) ∧
      closedSite? (front ++ (json ++ tail)) (utf8Size front) (utf8Size front + utf8Size json) =
        some none) := by
  obtain ⟨gap, _, htail⟩ := trimStart_eq tail
  have hrest := behind?_front (front ++ json) tail
  rw [List.append_assoc, utf8Size_append] at hrest
  have hclose := behind?_front gap (trimStart tail)
  rw [← htail] at hclose
  unfold closedSite?
  rw [hrest]
  simp only [Option.bind_eq_bind, Option.bind_some, (utf8Size_blanks htail).1, hclose]
  cases hafter : trimStart tail with
  | nil => exact .inr ⟨nofun, rfl⟩
  | cons c after =>
    by_cases hc : c = ']'
    · subst hc
      have htext : front ++ (json ++ tail) = front ++ ((json ++ (gap ++ [']'])) ++ after) := by
        conv_lhs => rw [htail, hafter]
        simp only [List.append_assoc, List.singleton_append]
      have hplace : (front ++ (json ++ tail)).length - after.length =
          front.length + (json ++ (gap ++ [']'])).length := by
        rw [htext, ← List.append_assoc, List.length_append, Nat.add_sub_cancel, List.length_append]
      refine .inl ⟨after, rfl, ?_⟩
      rw [hplace, htext, octetsBefore_inside]
      simp only [utf8Size_append, utf8Size_close, Nat.add_assoc]
    · refine .inr ⟨fun _ heq => hc (List.cons.inj heq).1, ?_⟩
      split
      · next heq => exact absurd (List.cons.inj heq).1 hc
      · rfl

section Sites

variable {body gap : List Char}

theorem jsonSite?_shows (front : List Char) (hgap : body = gap ++ trimStart body) :
    ∃ site, jsonSite? (front ++ body) (utf8Size front + utf8Size gap) = some site ∧
      Option.Rel (Site.Shows (front ++ body) front.length) site (locateJson? body) := by
  have htext : front ++ body = (front ++ gap) ++ trimStart body := by
    rw [List.append_assoc, ← hgap]
  have hjson := behind?_front (front ++ gap) (trimStart body)
  rw [← htext, utf8Size_append] at hjson
  unfold jsonSite? locateJson?
  rw [hjson]
  simp only [Option.bind_eq_bind, Option.bind_some]
  cases hread : skipPlain (symbolsOf (trimStart body)) with
  | error f => exact ⟨none, rfl, .none⟩
  | ok left =>
    obtain ⟨json, tail, hsplit, rfl⟩ := skipPlain_splits hread
    have hsize : utf8Size (trimStart body) - octetCount (symbolsOf tail) = utf8Size json := by
      rw [hsplit, utf8Size_append, octetCount_symbolsOf, Nat.add_sub_cancel]
    have hlength : (trimStart body).length - (symbolsOf tail).length = json.length := by
      rw [hsplit, List.length_append, length_symbolsOf, Nat.add_sub_cancel]
    have htake : (trimStart body).take json.length = json := by rw [hsplit, List.take_left]
    have hdrop : (trimStart body).drop json.length = tail := by rw [hsplit, List.drop_left]
    have hclosed := closedSite?_cases (front ++ gap) json tail
    rw [← hsplit, ← htext, utf8Size_append] at hclosed
    dsimp only
    rw [hsize, hlength, htake, hdrop]
    rcases hclosed with ⟨after, hafter, hclosed⟩ | ⟨hnot, hclosed⟩
    · have hpart := part?_front (front ++ gap) json tail
      rw [← hsplit, ← htext, utf8Size_append] at hpart
      have hbound : after.length ≤ body.length := by
        have hbody : (trimStart body).length ≤ body.length := (List.dropWhile_sublist _).length_le
        have htail : (trimStart tail).length ≤ tail.length := (List.dropWhile_sublist _).length_le
        rw [hsplit, List.length_append] at hbody
        rw [hafter, List.length_cons] at htail
        omega
      have hstop := Nat.add_sub_assoc hbound front.length
      rw [← List.length_append] at hstop
      rw [hstop] at hclosed
      rw [hafter]
      exact ⟨_, hclosed, .some ⟨hpart, rfl⟩⟩
    · refine ⟨none, hclosed, ?_⟩
      split
      · next after hafter => exact absurd hafter (hnot after)
      · exact .none

theorem bracketSite?_shows (front : List Char) (hgap : body = gap ++ trimStart body)
    (hblank : AllBlank gap) (room : Nat) :
    ∃ site, bracketSite? (front ++ body) (utf8Size front) (utf8Size front + utf8Size gap)
        (utf8Size front + utf8Size (body.take room)) = some site ∧
      Option.Rel (Site.Shows (front ++ body) front.length) site (locateBracket? body room) := by
  have hpart := part?_front front (body.take room) (body.drop room)
  rw [List.take_append_drop] at hpart
  unfold bracketSite? locateBracket? octetOf?
  rw [hpart]
  simp only [Option.bind_eq_bind, Option.bind_some]
  cases hclose : (body.take room).findIdx? (· == ']') with
  | none => exact ⟨none, rfl, .none⟩
  | some close =>
    obtain ⟨inner, after, htake, _, rfl⟩ := findIdx?_close.mp hclose
    have hbody : body = inner ++ ']' :: (after ++ body.drop room) := by
      have hsplit := List.take_append_drop room body
      rw [htake, List.append_assoc] at hsplit
      exact hsplit.symm
    obtain ⟨inner', rfl⟩ := blanks_before_close hblank (hbody.symm.trans hgap)
    have hfront : body.take (gap ++ inner').length = gap ++ inner' := by
      conv_lhs => rw [hbody]
      exact List.take_left
    refine ⟨_, rfl, .some ⟨?_, ?_⟩⟩
    · have hinner := part?_front (front ++ gap) inner' (']' :: (after ++ body.drop room))
      have htext : front ++ body =
          (front ++ gap) ++ (inner' ++ ']' :: (after ++ body.drop room)) := by
        conv_lhs => rw [hbody]
        simp only [List.append_assoc]
      rw [← htext, utf8Size_append] at hinner
      dsimp only
      rw [htake, List.take_left, hfront, (utf8Size_blanks hgap).2, List.drop_left, utf8Size_append,
        ← Nat.add_assoc, Nat.min_eq_left (Nat.le_add_right _ _), hinner]
    · have hinside := octetsBefore_inside front (gap ++ inner' ++ [']']) (after ++ body.drop room)
      have hsplit : gap ++ inner' ++ [']'] ++ (after ++ body.drop room) = body := by
        conv_rhs => rw [hbody]
        simp only [List.append_assoc, List.singleton_append]
      rw [hsplit, List.length_append, List.length_singleton, utf8Size_append,
        utf8Size_close] at hinside
      dsimp only
      rw [htake, List.take_left, hinside, Nat.add_assoc]

theorem length_located {found : Located} {room : Nat} (h : locate? body room = some found) :
    found.length ≤ body.length := by
  unfold locate? at h
  split at h
  · next json hjson =>
    obtain ⟨_, _, _, after, _, rfl⟩ := locateJson?_eq_some.mp hjson
    obtain rfl := Option.some.inj h
    exact Nat.sub_le _ _
  · obtain ⟨close, hclose, rfl⟩ := Option.map_eq_some_iff.mp h
    have hlt := (List.findIdx?_eq_some_iff_findIdx_eq.mp hclose).1
    rw [List.length_take] at hlt
    dsimp only
    omega

/-- The site of a payload shows what is located there. -/
theorem site?_shows (front body : List Char) (room : Nat) :
    ∃ site, site? (front ++ body) (utf8Size front) (utf8Size front + utf8Size (body.take room)) =
        some site ∧
      Option.Rel (Site.Shows (front ++ body) front.length) site (locate? body room) := by
  obtain ⟨gap, hblank, hgap⟩ := trimStart_eq body
  obtain ⟨json, hjson, hshows⟩ := jsonSite?_shows front hgap
  obtain ⟨bracket, hbracket, hshows'⟩ := bracketSite?_shows front hgap hblank room
  unfold site? locate?
  rw [behind?_front]
  simp only [Option.bind_eq_bind, Option.bind_some, (utf8Size_blanks hgap).1, hjson]
  generalize locateJson? body = located at hshows
  cases hshows with
  | some h => exact ⟨_, rfl, .some h⟩
  | none => exact ⟨_, hbracket, hshows'⟩

end Sites

/-! ### Directives -/

def Opener.place (text : List Char) (o : Opener) : TagPlace :=
  ⟨o.kind, octetsBefore text o.start, octetsBefore text o.start + tagLength⟩

def Tagged.inOctets (text : List Char) (t : Tagged) : Tagged :=
  { t with span := t.span.inOctets text }

theorem utf8Size_tag (k : DirectiveKind) : utf8Size k.tag = tagLength := by cases k <;> decide

theorem tagPlaces_eq (front cs : List Char) :
    tagPlaces (utf8Size front) cs =
      (openersFrom front.length cs).map (Opener.place (front ++ cs)) := by
  induction cs generalizing front with
  | nil => rfl
  | cons c cs ih =>
    have hsplit : front ++ c :: cs = (front ++ [c]) ++ cs := by simp
    have hrest := ih (front ++ [c])
    rw [← hsplit, utf8Size_append, List.length_append] at hrest
    have hsize : utf8Size [c] = c.utf8Size := Nat.add_zero _
    rw [hsize, List.length_singleton] at hrest
    unfold tagPlaces openersFrom
    cases htag : tag? (c :: cs) with
    | none => exact hrest
    | some found =>
      dsimp only
      rw [hrest, List.map_cons, Opener.place, octetsBefore_front]

section Directives

variable {text : List Char}

/-- Tags of a text, in order, as they are found in it. -/
structure Found (text : List Char) (os : List Opener) : Prop where
  stands : ∀ o ∈ os, ∃ before, text = before ++ (o.kind.tag ++ o.body) ∧ o.start = before.length
  sorted : os.Pairwise fun o p => o.start < p.start

theorem found_openersFrom (text : List Char) : Found text (openersFrom 0 text) where
  stands o ho := by
    obtain ⟨before, htext, hstart⟩ := mem_openersFrom.mp ho
    exact ⟨before, htext, by rw [hstart, Nat.zero_add]⟩
  sorted := openersFrom_sorted 0 text

theorem Found.tail {o : Opener} {os : List Opener} (h : Found text (o :: os)) : Found text os where
  stands p hp := h.stands p (List.mem_cons_of_mem o hp)
  sorted := (List.pairwise_cons.mp h.sorted).2

/-- The room of a tag lies behind it and inside the text. -/
theorem Found.bounds {o : Opener} {os : List Opener} (h : Found text (o :: os)) :
    o.start + tagLength ≤ boundary text.length os ∧ boundary text.length os ≤ text.length := by
  obtain ⟨before, htext, hstart⟩ := h.stands o List.mem_cons_self
  cases os with
  | nil =>
    have hlength := congrArg List.length htext
    simp only [List.length_append, length_tag] at hlength
    dsimp only [boundary]
    omega
  | cons p os =>
    obtain ⟨before', htext', hstart'⟩ := h.stands p (List.mem_cons_of_mem o List.mem_cons_self)
    have hlater := (List.pairwise_cons.mp h.sorted).1 p List.mem_cons_self
    have hlength := congrArg List.length htext'
    rw [List.length_append] at hlength
    dsimp only [boundary]
    refine ⟨?_, by omega⟩
    have hfirst : TagAt text o.start o.kind := ⟨before, o.body, htext, hstart.symm⟩
    exact hfirst.apart ⟨before', p.body, htext', hstart'.symm⟩ hlater

/-- The next tag starts at the same place in octets. -/
theorem boundaryOctets_place (text : List Char) (os : List Opener) :
    boundaryOctets text (os.map (Opener.place text)) =
      octetsBefore text (boundary text.length os) := by
  cases os with
  | nil => exact (octetsBefore_length text).symm
  | cons p os => rfl

/-- The site of the first of some tags shows what is located behind it. -/
theorem Found.site {o : Opener} {os : List Opener} (h : Found text (o :: os)) :
    text.length = o.start + tagLength + o.body.length ∧
    ∃ site, site? text (o.place text).body (boundaryOctets text (os.map (Opener.place text))) =
        some site ∧
      Option.Rel (Site.Shows text (o.start + tagLength)) site
        (locate? o.body (boundary text.length os - (o.start + tagLength))) := by
  obtain ⟨before, htext, hstart⟩ := h.stands o List.mem_cons_self
  obtain ⟨hbehind, hinside⟩ := h.bounds
  have hbody : text = (before ++ o.kind.tag) ++ o.body := by rw [htext, List.append_assoc]
  have hfront : (before ++ o.kind.tag).length = o.start + tagLength := by
    rw [List.length_append, length_tag, hstart]
  have hlength := congrArg List.length hbody
  rw [List.length_append, hfront] at hlength
  obtain ⟨room, hroom⟩ := Nat.exists_eq_add_of_le hbehind
  have hspare : boundary text.length os - (o.start + tagLength) = room := by omega
  have hplace : (o.place text).body = utf8Size (before ++ o.kind.tag) := by
    have hbefore := octetsBefore_front before (o.kind.tag ++ o.body)
    rw [← htext, ← hstart] at hbefore
    rw [Opener.place, hbefore, utf8Size_append, utf8Size_tag]
  have hboundary : octetsBefore text (boundary text.length os) =
      utf8Size (before ++ o.kind.tag) + utf8Size (o.body.take room) := by
    have hpart := octetsBefore_inside (before ++ o.kind.tag) (o.body.take room) (o.body.drop room)
    rw [List.take_append_drop, ← hbody, hfront, List.length_take, Nat.min_eq_left (by omega),
      ← hroom] at hpart
    exact hpart
  have hshows := site?_shows (before ++ o.kind.tag) o.body room
  rw [hfront, ← hbody, ← hboundary, ← hplace] at hshows
  rw [boundaryOctets_place, hspare]
  exact ⟨hlength, hshows⟩

/-- The directives of tags are found by octets as they are by characters, and no part is asked for
that cannot be taken. -/
theorem taggedOctets_eq {os : List Opener} (h : Found text os) {consumed : Nat}
    (hconsumed : consumed ≤ text.length) :
    taggedOctets text (octetsBefore text consumed) (os.map (Opener.place text)) =
      some ((directivesOf text.length consumed os).map (Tagged.inOctets text)) := by
  induction os generalizing consumed with
  | nil => rfl
  | cons o os ih =>
    have hcompare : (o.place text).start < octetsBefore text consumed ↔ o.start < consumed :=
      octetsBefore_lt_iff hconsumed
    by_cases hlt : o.start < consumed
    · rw [List.map_cons, taggedOctets, if_pos (hcompare.mpr hlt), ih h.tail hconsumed,
        directivesOf_passed hlt]
    · obtain ⟨hlength, site, hsite, hshows⟩ := h.site
      rw [List.map_cons, taggedOctets, if_neg (mt hcompare.mp hlt), hsite]
      simp only [Option.bind_eq_bind, Option.bind_some]
      cases hlocate : locate? o.body (boundary text.length os - (o.start + tagLength)) with
      | none =>
        rw [hlocate] at hshows
        cases hshows
        have hmissed : o.found? (boundary text.length os - (o.start + tagLength)) = none := by
          rw [Opener.found?, hlocate]
          rfl
        rw [directivesOf_missed hmissed]
        exact ih h.tail hconsumed
      | some found =>
        rw [hlocate] at hshows
        cases hshows with
        | some hshows =>
          have hfits := length_located hlocate
          have htaken : o.found? (boundary text.length os - (o.start + tagLength)) =
              some ⟨o.kind, ⟨o.start, o.start + tagLength + found.length⟩, trim found.payload⟩ := by
            rw [Opener.found?, hlocate]
            rfl
          dsimp only
          rw [directivesOf_taken (Nat.le_of_not_lt hlt) htaken, hshows.payload, hshows.stop,
            ih h.tail (by omega)]
          rfl

/-- The directives of a text are found by octets as they are by characters. -/
theorem scanOctets_eq (text : List Char) :
    scanOctets text = some ((scan text).map (Tagged.inOctets text)) := by
  have htags := tagPlaces_eq [] text
  rw [List.nil_append, utf8Size_nil, List.length_nil] at htags
  rw [scanOctets, htags]
  exact taggedOctets_eq (found_openersFrom text) (Nat.zero_le _)

end Directives

/-! ### Cutting directives out -/

/-- A directive whose span is in octets stands in a text so that it can be cut out: from the tag of its
kind to a bracket, with nothing but blanks around the payload between the two. -/
structure Tagged.Cut (text : String) (t : Tagged) : Prop where
  runs : t.span.start < t.span.stop
  inside : t.span.stop ≤ (utf8 text.toList).length
  valid : (⟨t.span.start⟩ : String.Pos.Raw).IsValid text ∧
    (⟨t.span.stop⟩ : String.Pos.Raw).IsValid text
  trimmed : trim t.payload = t.payload
  octets : ∃ gap gap', AllBlank gap ∧ AllBlank gap' ∧
    ((utf8 text.toList).take t.span.stop).drop t.span.start =
      utf8 (t.kind.tag ++ (gap ++ (t.payload ++ (gap' ++ [']']))))

section Cut

variable {text : List Char}

/-- The spans of the directives of a text go on from its start. -/
theorem follows_scan (text : List Char) : Follows 0 ((scan text).map (·.span)) where
  apart := List.pairwise_map.mpr (scan_pairwise text)
  runs := by
    intro s hs
    obtain ⟨t, ht, rfl⟩ := List.mem_map.mp hs
    exact ⟨Nat.zero_le _, Nat.le_of_lt (start_lt_stop ht)⟩

theorem cut_inOctets {text : String} {t : Tagged} (h : t ∈ scan text.toList) :
    (t.inOctets text.toList).Cut text := by
  obtain ⟨before, gap, gap', after, hstands⟩ := stands_of_mem_scan h
  have htext : text.toList =
      before ++ ((t.kind.tag ++ (gap ++ (t.payload ++ (gap' ++ [']'])))) ++ after) := by
    simpa only [List.append_assoc, List.singleton_append] using hstands.text_eq
  have hlength := congrArg List.length htext
  rw [List.length_append, List.length_append] at hlength
  have hstart : t.span.start = before.length := congrArg Span.start hstands.span
  have hstop : t.span.stop = text.toList.length - after.length := congrArg Span.stop hstands.span
  have hlt := start_lt_stop h
  have hslice : slice text.toList t.span.start t.span.stop =
      t.kind.tag ++ (gap ++ (t.payload ++ (gap' ++ [']']))) := by
    have hdirective : t.span.stop = before.length +
        (t.kind.tag ++ (gap ++ (t.payload ++ (gap' ++ [']'])))).length := by omega
    rw [hstart, hdirective, htext, slice, List.drop_left, Nat.add_sub_cancel_left, List.take_left]
  have hpart := part?_place text.toList (Nat.le_of_lt hlt)
  refine ⟨octetsBefore_lt hlt (by omega), ?_, ⟨?_, ?_⟩, ?_, gap, gap', hstands.blank,
    hstands.blank', ?_⟩
  · have hfits : t.span.stop ≤ text.toList.length := by omega
    have hle := octetsBefore_le text.toList hfits
    rw [octetsBefore_length] at hle
    rw [length_utf8]
    exact hle
  · rw [← isSome_behind?_iff]
    exact Option.isSome_of_eq_some (behind?_place text.toList t.span.start)
  · rw [← isSome_behind?_iff]
    exact Option.isSome_of_eq_some (behind?_place text.toList t.span.stop)
  · show trim t.payload = t.payload
    rw [trim, hstands.starts, hstands.ends]
  · rw [hslice] at hpart
    exact (utf8_part hpart).symm

theorem inOrder_inOctets (order : ScanOrder) (text : List Char) (found : List Tagged) :
    inOrder order (found.map (Tagged.inOctets text)) =
      (inOrder order found).map (Tagged.inOctets text) := by
  cases order with
  | sourceOrder => rfl
  | kindGrouped =>
    rw [inOrder, inOrder, List.map_append, List.filter_map, List.filter_map]
    rfl

theorem stripOctets_scan (text : List Char) :
    stripOctets text (((scan text).map (Tagged.inOctets text)).map (·.span)) =
      some (strip text ((scan text).map (·.span))) := by
  have hspans : ((scan text).map (Tagged.inOctets text)).map (·.span) =
      ((scan text).map (·.span)).map (Span.inOctets text) := by
    rw [List.map_map, List.map_map]
    rfl
  rw [hspans]
  exact stripOctets_inOctets text (follows_scan text)

theorem parseOctets_eq (settings : DirectiveSettings) (generated : String) :
    Reply.parseOctets settings generated = some (Reply.parse settings generated) := by
  rw [Reply.parseOctets, scanOctets_eq]
  simp only [Option.bind_eq_bind, Option.bind_some, stripOctets_scan]
  rw [inOrder_inOctets, List.map_map]
  rfl

/-- The directives of a text can be cut out of it. Scanning by octets, and stripping the spans that
were found, take parts of the text all of which can be taken, so that every text is taken apart; and
what comes out is what taking it apart by characters gives. The spans are apart and in order, inside
the text, and start and stop between two characters. Each goes from the tag of its kind to a bracket,
and its payload, which is trimmed, stands with nothing but blanks around it between the two. -/
theorem directives_cut (settings : DirectiveSettings) (generated : String) :
    ∃ found, scanOctets generated.toList = some found ∧
      found = (scan generated.toList).map (Tagged.inOctets generated.toList) ∧
      (found.Pairwise fun t u => t.span.stop ≤ u.span.start) ∧
      (∀ t ∈ found, t.Cut generated) ∧
      stripOctets generated.toList (found.map (·.span)) =
        some (strip generated.toList ((scan generated.toList).map (·.span))) ∧
      Reply.parseOctets settings generated = some (Reply.parse settings generated) := by
  refine ⟨_, scanOctets_eq _, rfl, ?_, ?_, stripOctets_scan _, parseOctets_eq settings generated⟩
  · refine List.pairwise_map.mpr ((scan_pairwise _).imp ?_)
    intro t u hapart
    exact octetsBefore_le generated.toList hapart
  · intro t ht
    obtain ⟨u, hu, rfl⟩ := List.mem_map.mp ht
    exact cut_inOctets hu

end Cut

end Companion
