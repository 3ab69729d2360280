import Companion.Names
import Companion.Proofs.OctetParts

/-!
Which names a text mentions. A name is mentioned where a marker stands with no word before it and the
name, a whole run of word characters, right behind it. Three programs find all of them, in the order in
which they stand: one that looks ahead from every marker, one that reads character by character and only
remembers what it is in, and one that works with octets, which never asks for a part of the text that
cannot be taken.
-/

namespace Companion.Names

open Text

/-! ### Words at the ends of a text -/

def endsInWord (cs : List Char) : Bool := cs.getLast?.any isWord

def startsInWord (cs : List Char) : Bool := cs.head?.any isWord

theorem isWord_marker : isWord marker = false := by decide

theorem endsInWord_concat (cs : List Char) (c : Char) : endsInWord (cs ++ [c]) = isWord c := by
  rw [endsInWord, List.getLast?_concat, Option.any_some]

/-- The run of word characters in front of a text, told by what makes it one. -/
theorem takeWhile_eq_iff {cs name : List Char} : cs.takeWhile isWord = name ↔
    ∃ after, cs = name ++ after ∧ (∀ c ∈ name, isWord c = true) ∧ startsInWord after = false := by
  constructor
  · rintro rfl
    refine ⟨cs.dropWhile isWord, List.takeWhile_append_dropWhile.symm,
      List.all_eq_true.mp List.all_takeWhile, ?_⟩
    have hhead := List.head?_dropWhile_not isWord cs
    cases hrest : (cs.dropWhile isWord).head? with
    | none => rw [startsInWord, hrest, Option.any_none]
    | some c =>
      rw [hrest] at hhead
      rw [startsInWord, hrest, Option.any_some]
      simpa using hhead
  · rintro ⟨after, rfl, hname, hafter⟩
    rw [List.takeWhile_append_of_pos hname]
    cases after with
    | nil => rw [List.takeWhile_nil, List.append_nil]
    | cons c after =>
      rw [List.takeWhile_cons_of_neg (by simpa [startsInWord] using hafter), List.append_nil]

/-! ### Mentions where they stand -/

/-- A name is mentioned at a place of a text: there is the marker, no word goes on before it, and the
name is the whole run of word characters behind it. -/
def MentionedAt (text : List Char) (place : Nat) (name : List Char) : Prop :=
  ∃ before after, text = before ++ marker :: (name ++ after) ∧ before.length = place ∧ name ≠ [] ∧
    (∀ c ∈ name, isWord c = true) ∧ endsInWord before = false ∧ startsInWord after = false

def named (cs : List Char) : List (List Char) :=
  if cs.takeWhile isWord = [] then [] else [cs.takeWhile isWord]

/-- The names behind a character, if it is a marker and no word goes on before it. -/
def heralded (inWord : Bool) (c : Char) (cs : List Char) : List (List Char) :=
  if c = marker ∧ inWord = false then named cs else []

/-- The names that `mentionsFrom` finds in a text, with their places in the text that goes on there. -/
def placed (inWord : Bool) (place : Nat) : List Char → List (Nat × List Char)
  | [] => []
  | c :: cs => (heralded inWord c cs).map (place, ·) ++ placed (isWord c) (place + 1) cs

section Placed

variable {inWord : Bool} {c : Char} {front cs name : List Char}

theorem mem_named : name ∈ named cs ↔ cs.takeWhile isWord = name ∧ name ≠ [] := by
  unfold named
  split
  · next hnone => exact ⟨(nomatch ·), fun h => absurd (h.1.symm.trans hnone) h.2⟩
  · next hsome =>
    rw [List.mem_singleton]
    exact ⟨fun h => ⟨h.symm, h ▸ hsome⟩, fun h => h.1.symm⟩

theorem pairwise_named (cs : List Char) (R : List Char → List Char → Prop) :
    (named cs).Pairwise R := by
  unfold named
  split
  · exact .nil
  · exact List.pairwise_singleton _ _

theorem heralded_marker (cs : List Char) : heralded false marker cs = named cs := if_pos ⟨rfl, rfl⟩

theorem heralded_inWord (c : Char) (cs : List Char) : heralded true c cs = [] :=
  if_neg fun h => nomatch h.2

theorem heralded_other (inWord : Bool) (hc : c ≠ marker) (cs : List Char) :
    heralded inWord c cs = [] := if_neg fun h => hc h.1

theorem mem_heralded :
    name ∈ heralded inWord c cs ↔ c = marker ∧ inWord = false ∧ name ∈ named cs := by
  unfold heralded
  split
  · next h => exact ⟨fun hname => ⟨h.1, h.2, hname⟩, fun hname => hname.2.2⟩
  · next h => exact ⟨(nomatch ·), fun hname => absurd ⟨hname.1, hname.2.1⟩ h⟩

theorem mentionsFrom_cons (inWord : Bool) (c : Char) (cs : List Char) :
    mentionsFrom inWord (c :: cs) = heralded inWord c cs ++ mentionsFrom (isWord c) cs := by
  rw [mentionsFrom]
  unfold heralded named
  by_cases hmarker : c = marker ∧ inWord = false
  · by_cases hname : cs.takeWhile isWord = [] <;> simp [hmarker, hname]
  · have hnot : ¬ (c = marker ∧ inWord = false ∧ cs.takeWhile isWord ≠ []) :=
      fun h => hmarker ⟨h.1, h.2.1⟩
    rw [if_neg hnot, if_neg hmarker, List.nil_append]

theorem map_placed (inWord : Bool) (place : Nat) (cs : List Char) :
    (placed inWord place cs).map Prod.snd = mentionsFrom inWord cs := by
  induction cs generalizing inWord place with
  | nil => rfl
  | cons c cs ih =>
    rw [placed, mentionsFrom_cons, List.map_append, ih, List.map_map]
    exact congrArg (· ++ _) (List.map_id _)

/-- What is mentioned right where the text behind some front begins. -/
theorem mentionedAt_front_iff : MentionedAt (front ++ c :: cs) front.length name ↔
    name ∈ heralded (endsInWord front) c cs := by
  rw [mem_heralded, mem_named, takeWhile_eq_iff]
  constructor
  · rintro ⟨before, after, htext, hplace, hne, hname, hbefore, hafter⟩
    obtain ⟨rfl, hrest⟩ := List.append_inj htext hplace.symm
    obtain ⟨rfl, rfl⟩ := List.cons.inj hrest
    exact ⟨rfl, hbefore, ⟨after, rfl, hname, hafter⟩, hne⟩
  · rintro ⟨rfl, hfront, ⟨after, rfl, hname, hafter⟩, hne⟩
    exact ⟨front, after, rfl, rfl, hne, hname, hfront, hafter⟩

theorem mem_placed (front cs : List Char) (place : Nat) (name : List Char) :
    (place, name) ∈ placed (endsInWord front) front.length cs ↔
      front.length ≤ place ∧ MentionedAt (front ++ cs) place name := by
  -- on what is left of the text, which moves to the front character by character
  induction cs generalizing front with
  | nil =>
    refine ⟨(nomatch ·), fun ⟨hle, before, after, htext, hplace, _⟩ => ?_⟩
    have hlength := congrArg List.length htext
    rw [List.append_nil, List.length_append, List.length_cons] at hlength
    omega
  | cons c cs ih =>
    have hlater := ih (front ++ [c])
    rw [endsInWord_concat, List.length_append, List.length_singleton, List.append_assoc,
      List.singleton_append] at hlater
    have hhere : (place, name) ∈ (heralded (endsInWord front) c cs).map (front.length, ·) ↔
        front.length = place ∧ MentionedAt (front ++ c :: cs) front.length name := by
      rw [mentionedAt_front_iff, List.mem_map]
      constructor
      · rintro ⟨found, hfound, heq⟩
        obtain ⟨hplace, rfl⟩ := Prod.mk.inj heq
        exact ⟨hplace, hfound⟩
      · rintro ⟨rfl, hname⟩
        exact ⟨name, hname, rfl⟩
    rw [placed, List.mem_append, hlater, hhere]
    constructor
    · rintro (⟨rfl, hat⟩ | ⟨hle, hat⟩)
      · exact ⟨Nat.le_refl _, hat⟩
      · exact ⟨Nat.le_of_succ_le hle, hat⟩
    · rintro ⟨hle, hat⟩
      rcases Nat.eq_or_lt_of_le hle with rfl | hlt
      · exact .inl ⟨rfl, hat⟩
      · exact .inr ⟨hlt, hat⟩

theorem placed_ge (inWord : Bool) (place : Nat) (cs : List Char) :
    ∀ p ∈ placed inWord place cs, place ≤ p.1 := by
  induction cs generalizing inWord place with
  | nil => exact nofun
  | cons c cs ih =>
    intro p hp
    rcases List.mem_append.mp hp with hhere | hlater
    · obtain ⟨name, -, rfl⟩ := List.mem_map.mp hhere
      exact Nat.le_refl _
    · exact Nat.le_of_succ_le (ih _ _ p hlater)

theorem pairwise_placed (inWord : Bool) (place : Nat) (cs : List Char) :
    (placed inWord place cs).Pairwise fun a b => a.1 < b.1 := by
  induction cs generalizing inWord place with
  | nil => exact .nil
  | cons c cs ih =>
    refine List.pairwise_append.mpr ⟨List.pairwise_map.mpr ?_, ih _ _, fun p hp q hq => ?_⟩
    · unfold heralded
      split
      · exact pairwise_named cs _
      · exact .nil
    · obtain ⟨name, -, rfl⟩ := List.mem_map.mp hp
      exact placed_ge _ _ _ q hq

theorem word_ne_marker (h : isWord c = true) : c ≠ marker := by
  rintro rfl
  rw [isWord_marker] at h
  exact nomatch h

theorem named_cons_word (h : isWord c = true) (cs : List Char) :
    named (c :: cs) = [c :: cs.takeWhile isWord] := by
  rw [named, List.takeWhile_cons_of_pos h, if_neg (List.cons_ne_nil _ _)]

theorem named_cons_other (h : isWord c = false) (cs : List Char) :
    named (c :: cs) = [] := by
  rw [named, List.takeWhile_cons_of_neg (by simp [h]), if_pos rfl]

end Placed

/-! ### Character by character -/

/-- What a reader is in who has read a text up to some place: between words, right behind a marker that
may begin a mention, inside a word that is none, or inside a name of which so much is known. -/
inductive Reading
  | between
  | marked
  | word
  | name (begun : List Char)
  deriving DecidableEq, Repr

namespace Reading

def next : Reading → Char → Reading
  | between, c => if isWord c then word else if c = marker then marked else between
  | marked, c => if isWord c then name [c] else if c = marker then marked else between
  | word, c => if isWord c then word else between
  | name begun, c => if isWord c then name (begun ++ [c]) else between

def ended : Reading → Char → List (List Char)
  | name begun, c => if isWord c then [] else [begun]
  | _, _ => []

def last : Reading → List (List Char)
  | name begun => [begun]
  | _ => []

def names : Reading → List Char → List (List Char)
  | r, [] => r.last
  | r, c :: cs => r.ended c ++ (r.next c).names cs

/-- The names that end in the rest of a text, found by looking ahead. -/
def awaited : Reading → List Char → List (List Char)
  | between, cs => mentionsFrom false cs
  | marked, cs => named cs ++ mentionsFrom false cs
  | word, cs => mentionsFrom true cs
  | name begun, cs => (begun ++ cs.takeWhile isWord) :: mentionsFrom true cs

/-- A step of the reader finds what looking ahead finds on the way. -/
theorem awaited_cons (r : Reading) (c : Char) (cs : List Char) :
    r.awaited (c :: cs) = r.ended c ++ (r.next c).awaited cs := by
  cases hword : isWord c with
  | true =>
    have hother : ∀ inWord, heralded inWord c cs = [] := fun inWord =>
      heralded_other inWord (word_ne_marker hword) cs
    cases r with
    | between => simp [awaited, ended, next, hword, mentionsFrom_cons, hother]
    | marked => simp [awaited, ended, next, hword, mentionsFrom_cons, hother, named_cons_word]
    | word => simp [awaited, ended, next, hword, mentionsFrom_cons, hother]
    | name begun => simp [awaited, ended, next, hword, mentionsFrom_cons, hother]
  | false =>
    by_cases hmarker : c = marker
    · subst hmarker
      cases r <;> simp [awaited, ended, next, hword, mentionsFrom_cons, heralded_marker,
        heralded_inWord, named_cons_other]
    · have hother : ∀ inWord, heralded inWord c cs = [] := fun inWord =>
        heralded_other inWord hmarker cs
      cases r <;> simp [awaited, ended, next, hword, hmarker, mentionsFrom_cons, hother,
        named_cons_other]

theorem names_eq (r : Reading) (cs : List Char) : r.names cs = r.awaited cs := by
  induction cs generalizing r with
  | nil => cases r <;> simp [names, last, awaited, mentionsFrom, named]
  | cons c cs ih => rw [names, awaited_cons, ih]

end Reading

/-! ### By octets -/

/-- The octets at which the markers stand in a text that starts at octet `n`. -/
def markerPlaces : Nat → List Char → List Nat
  | _, [] => []
  | n, c :: cs =>
    if c = marker then n :: markerPlaces (n + c.utf8Size) cs else markerPlaces (n + c.utf8Size) cs

/-- How many octets of a text lie in front of the first symbol that is no word character. -/
def wordOctets (cs : List Char) : Nat :=
  match cs.findIdx? (!isWord ·) with
  | some place => utf8Size (cs.take place)
  | none => utf8Size cs

/-- The name behind a marker at an octet, if there is one. Like the other steps, there is no result at
all if a part is asked for that cannot be taken. -/
def octetMention? (text : List Char) (place : Nat) : Option (List (List Char)) := do
  let before ← part? 0 place text
  if endsInWord before then some []
  else
    let rest ← behind? (place + marker.utf8Size) text
    if 0 < wordOctets rest then (part? 0 (wordOctets rest) rest).map ([·]) else some []

def octetMentionsAt? (text : List Char) : List Nat → Option (List (List Char))
  | [] => some []
  | place :: places => do
    let here ← octetMention? text place
    let later ← octetMentionsAt? text places
    some (here ++ later)

def octetMentions? (text : List Char) : Option (List (List Char)) :=
  octetMentionsAt? text (markerPlaces 0 text)

theorem wordOctets_eq (cs : List Char) : wordOctets cs = utf8Size (cs.takeWhile isWord) := by
  rw [List.takeWhile_eq_take_findIdx_not]
  unfold wordOctets
  cases hfound : cs.findIdx? (!isWord ·) with
  | some place => rw [(List.findIdx?_eq_some_iff_findIdx_eq.mp hfound).2]
  | none =>
    have hlength : cs.findIdx (!isWord ·) = cs.length := by
      rw [List.findIdx_eq_length]
      exact List.findIdx?_eq_none_iff.mp hfound
    rw [hlength, List.take_length]

theorem octetMention?_front (front cs : List Char) :
    octetMention? (front ++ marker :: cs) (utf8Size front) =
      some (heralded (endsInWord front) marker cs) := by
  have hrest := behind?_front (front ++ [marker]) cs
  rw [utf8Size_append, List.append_assoc, List.singleton_append] at hrest
  have hmarker : utf8Size [marker] = marker.utf8Size := rfl
  rw [hmarker] at hrest
  unfold octetMention?
  rw [part?_start, hrest]
  simp only [Option.bind_eq_bind, Option.bind_some]
  cases hword : endsInWord front with
  | true => rw [if_pos rfl, heralded_inWord]
  | false =>
    rw [if_neg Bool.false_ne_true, heralded_marker, wordOctets_eq, named]
    have htake := part?_start (cs.takeWhile isWord) (cs.dropWhile isWord)
    rw [List.takeWhile_append_dropWhile] at htake
    by_cases hname : cs.takeWhile isWord = []
    · rw [hname, utf8Size_nil, if_neg (Nat.lt_irrefl 0), if_pos rfl]
    · rw [if_pos (utf8Size_pos hname), if_neg hname, htake, Option.map_some]

theorem octetMentionsAt?_front (front cs : List Char) :
    octetMentionsAt? (front ++ cs) (markerPlaces (utf8Size front) cs) =
      some (mentionsFrom (endsInWord front) cs) := by
  induction cs generalizing front with
  | nil => rfl
  | cons c cs ih =>
    have hlater := ih (front ++ [c])
    have hsize : utf8Size (front ++ [c]) = utf8Size front + c.utf8Size := by
      rw [utf8Size_append]
      rfl
    rw [endsInWord_concat, hsize, List.append_assoc, List.singleton_append] at hlater
    rw [markerPlaces, mentionsFrom_cons]
    by_cases hmarker : c = marker
    · subst hmarker
      rw [if_pos rfl, octetMentionsAt?, octetMention?_front, hlater]
      rfl
    · rw [if_neg hmarker, hlater, heralded_other _ hmarker, List.nil_append]

/-! ### Texts made of mentions -/

/-- A text made of mentions: what stands in front of the first marker, and for each marker the name
behind it and what follows the name. -/
def spelled (start : List Char) (pieces : List (List Char × List Char)) : List Char :=
  start ++ pieces.flatMap fun p => marker :: (p.1 ++ p.2)

/-- The names in such a text are words, and no other marker and no other word character touches a marker
or a name. -/
structure Apart (start : List Char) (pieces : List (List Char × List Char)) : Prop where
  start_unmarked : marker ∉ start
  start_ends : endsInWord start = false
  names : ∀ p ∈ pieces, p.1 ≠ [] ∧ p.1.all isWord = true
  unmarked : ∀ p ∈ pieces, marker ∉ p.2
  starts : ∀ p ∈ pieces, startsInWord p.2 = false
  ends : ∀ p ∈ pieces.dropLast, p.2 ≠ [] ∧ endsInWord p.2 = false

section Spelled

variable {inWord : Bool} {front rest : List Char}

/-- Nothing is mentioned in what has no marker; what counts is whether a word goes on at its end. -/
theorem mentionsFrom_unmarked (h : marker ∉ front) :
    mentionsFrom inWord (front ++ rest) =
      mentionsFrom ((front.getLast?.map isWord).getD inWord) rest := by
  induction front generalizing inWord with
  | nil => rfl
  | cons c front ih =>
    obtain ⟨hc, hfront⟩ := not_or.mp fun hmem => h (List.mem_cons.mpr hmem)
    rw [List.cons_append, mentionsFrom_cons, heralded_other _ (Ne.symm hc), List.nil_append, ih hfront]
    cases front with
    | nil => rfl
    | cons d front =>
      rw [List.getLast?_cons_cons, List.getLast?_cons, Option.map_some, Option.getD_some,
        Option.getD_some]

/-- No word goes on after something that has no marker and does not end in a word. -/
theorem mentionsFrom_closed (h : marker ∉ front) (hne : front ≠ []) (hends : endsInWord front = false) :
    mentionsFrom inWord (front ++ rest) = mentionsFrom false rest := by
  rw [mentionsFrom_unmarked h]
  have hlast := List.getLast?_eq_some_getLast hne
  rw [endsInWord, hlast, Option.any_some] at hends
  rw [hlast, Option.map_some, Option.getD_some, hends]

/-- What starts a text goes on to start a longer one. -/
theorem startsInWord_append (hfront : startsInWord front = false) (hrest : startsInWord rest = false) :
    startsInWord (front ++ rest) = false := by
  cases front with
  | nil => exact hrest
  | cons c front => exact hfront

theorem startsInWord_pieces (pieces : List (List Char × List Char)) :
    startsInWord (pieces.flatMap fun p => marker :: (p.1 ++ p.2)) = false := by
  cases pieces with
  | nil => rfl
  | cons p pieces => exact isWord_marker

theorem mentionsFrom_pieces {pieces : List (List Char × List Char)}
    (hnames : ∀ p ∈ pieces, p.1 ≠ [] ∧ p.1.all isWord = true)
    (hunmarked : ∀ p ∈ pieces, marker ∉ p.2) (hstarts : ∀ p ∈ pieces, startsInWord p.2 = false)
    (hends : ∀ p ∈ pieces.dropLast, p.2 ≠ [] ∧ endsInWord p.2 = false) :
    mentionsFrom false (pieces.flatMap fun p => marker :: (p.1 ++ p.2)) = pieces.map Prod.fst := by
  induction pieces with
  | nil => rfl
  | cons p pieces ih =>
    obtain ⟨⟨hne, hall⟩, hlaterNames⟩ := List.forall_mem_cons.mp hnames
    have hword : ∀ c ∈ p.1, isWord c = true := List.all_eq_true.mp hall
    obtain ⟨hmarker, hlaterUnmarked⟩ := List.forall_mem_cons.mp hunmarked
    obtain ⟨hstart, hlaterStarts⟩ := List.forall_mem_cons.mp hstarts
    have hafter := startsInWord_append hstart (startsInWord_pieces pieces)
    have hname : named (p.1 ++ (p.2 ++ pieces.flatMap fun p => marker :: (p.1 ++ p.2))) = [p.1] := by
      have htake := takeWhile_eq_iff.mpr ⟨_, rfl, hword, hafter⟩
      rw [named, htake, if_neg hne]
    have hnameUnmarked : marker ∉ p.1 := fun hmem =>
      word_ne_marker (hword marker hmem) rfl
    rw [List.flatMap_cons, List.cons_append, List.append_assoc, mentionsFrom_cons, heralded_marker,
      hname, isWord_marker, mentionsFrom_unmarked hnameUnmarked, List.map_cons, List.singleton_append]
    congr 1
    -- behind the last name there may be nothing at all, so there a word may go on to the end
    cases pieces with
    | nil =>
      rw [List.flatMap_nil, mentionsFrom_unmarked hmarker]
      rfl
    | cons q pieces =>
      rw [List.dropLast_cons_of_ne_nil (List.cons_ne_nil q pieces)] at hends
      obtain ⟨⟨hgap, hgapEnds⟩, hlaterEnds⟩ := List.forall_mem_cons.mp hends
      rw [mentionsFrom_closed hmarker hgap hgapEnds]
      exact ih hlaterNames hlaterUnmarked hlaterStarts hlaterEnds

theorem Apart.mentions_eq {start : List Char} {pieces : List (List Char × List Char)}
    (h : Apart start pieces) :
    mentions (String.ofList (spelled start pieces)) = pieces.map fun p => String.ofList p.1 := by
  have hstart : mentionsFrom false (spelled start pieces) = pieces.map Prod.fst := by
    have hpieces := mentionsFrom_pieces h.names h.unmarked h.starts h.ends
    by_cases hnone : start = []
    · rw [spelled, hnone]
      exact hpieces
    · rw [spelled, mentionsFrom_closed h.start_unmarked hnone h.start_ends, hpieces]
  rw [mentions, String.toList_ofList, hstart, List.map_map]
  rfl

end Spelled

/-- The mentions of a text are the names at all places where one is mentioned, in the order of these
places. Reading character by character finds the same, and so does working with octets, which never asks
for a part that cannot be taken. Of a text made of mentions that are kept apart these come back. -/
theorem mentions_exact (text : String) :
    (∃ found : List (Nat × List Char), (found.Pairwise fun a b => a.1 < b.1) ∧
      (∀ place name, (place, name) ∈ found ↔ MentionedAt text.toList place name) ∧
      mentions text = found.map fun f => String.ofList f.2) ∧
    mentions text = (Reading.between.names text.toList).map String.ofList ∧
    (octetMentions? text.toList).map (·.map String.ofList) = some (mentions text) ∧
    ∀ start pieces, Apart start pieces → text = String.ofList (spelled start pieces) →
      mentions text = pieces.map fun p => String.ofList p.1 := by
  have hplaced : ∀ place name, (place, name) ∈ placed false 0 text.toList ↔
      MentionedAt text.toList place name := by
    intro place name
    have hmem := mem_placed [] text.toList place name
    rw [List.nil_append] at hmem
    exact hmem.trans ⟨And.right, fun h => ⟨Nat.zero_le _, h⟩⟩
  refine ⟨⟨placed false 0 text.toList, pairwise_placed false 0 _, hplaced, ?_⟩, ?_, ?_, ?_⟩
  · rw [mentions, ← map_placed false 0, List.map_map]
    rfl
  · rw [Reading.names_eq]
    rfl
  · have hfound := octetMentionsAt?_front [] text.toList
    rw [List.nil_append] at hfound
    exact congrArg (Option.map (List.map String.ofList)) hfound
  · rintro start pieces hapart rfl
    exact hapart.mentions_eq

/-- What stands before the first marker of a text, and its names with what follows each. -/
def greeting : List Char × List (List Char × List Char) :=
  ("Grüß ".toList, [("alex_1".toList, " und (".toList), ("東京".toList, "), ".toList),
    ("zoë".toList, "!".toList)])

theorem mentions_exact_greeting : Apart greeting.1 greeting.2 ∧
    mentions "Grüß @alex_1 und (@東京), @zoë!" = ["alex_1", "東京", "zoë"] := by
  have hapart : Apart greeting.1 greeting.2 :=
    { start_unmarked := by decide +kernel
      start_ends := by decide +kernel
      names := by decide +kernel
      unmarked := by decide +kernel
      starts := by decide +kernel
      ends := by decide +kernel }
  obtain ⟨-, -, -, hspelled⟩ := mentions_exact "Grüß @alex_1 und (@東京), @zoë!"
  exact ⟨hapart, (hspelled _ _ hapart (by decide +kernel)).trans (by decide +kernel)⟩

example : mentions "@@name a@b@c é@x @ó_1@y @" = ["name", "ó_1"] := by decide +kernel

end Companion.Names
