import Companion.Directive.Reply
import Companion.Proofs.Scanning
import Companion.Proofs.ValueText
import Mathlib.Data.List.Forall2

/-!
Messages with directives written into them. A message is prose with directives between its parts, and
scanning it takes out the directives as they were written, whatever is quoted in their payloads. The
step is one directive and the prose after it; tags inside the payload are passed over because they
start before the directive stops.
-/

namespace Companion

open Number Text Json

structure Prose where
  text : List Char
  free : ∀ a b k, text ≠ a ++ (DirectiveKind.tag k ++ b)

theorem Prose.free_of_plain {text : List Char} (h : '[' ∉ text) (a b : List Char)
    (k : DirectiveKind) : text ≠ a ++ (k.tag ++ b) := by
  rintro rfl
  simp [k.tag_eq] at h

/-- A directive to be written: an object of integers, texts, truth values and nulls, with at most 127
containers inside each other. -/
structure Writing where
  kind : DirectiveKind
  members : List (String × Value)
  fits : (Value.object members).Fits 127

namespace Writing

def payload (w : Writing) : List Char := (Value.object w.members).print

/-- What follows the tag, in front of the rest of a text. -/
def body (w : Writing) (rest : List Char) : List Char := ' ' :: (w.payload ++ ']' :: rest)

def text (w : Writing) : List Char := w.kind.tag ++ w.body []

/-- The directive that is found where the text starts at place `n`. -/
def tagged (w : Writing) (n : Nat) : Tagged := ⟨w.kind, ⟨n, n + w.text.length⟩, w.payload⟩

theorem text_append (w : Writing) (rest : List Char) :
    w.text ++ rest = w.kind.tag ++ w.body rest := by
  simp [text, body]

theorem payload_eq (w : Writing) :
    w.payload = '\x7b' :: (printFields (fieldsOf w.members) ++ ['\x7d']) := print_object w.members

theorem skip_payload (w : Writing) (rest : List Char) :
    skipPlain (symbolsOf (w.payload ++ ']' :: rest)) = .ok (symbolsOf (']' :: rest)) := by
  have hlong : w.payload.length ≤ (symbolsOf (w.payload ++ ']' :: rest)).length := by
    rw [length_symbolsOf, List.length_append]
    omega
  have hskip := w.fits.skips _ hlong (symbolsOf (']' :: rest)) (endsNumber_bracket _)
  have hopen : dropSpace (symbolsOf (w.payload ++ ']' :: rest)) =
      symbolsOf (w.payload ++ ']' :: rest) := by
    rw [payload_eq, List.cons_append, symbolsOf_cons]
    exact dropSpace_char rfl _
  have hread : skip (symbolsOf (w.payload ++ ']' :: rest)) = .ok (symbolsOf (']' :: rest)) := by
    rw [skip, symbolsOf_append]
    rw [symbolsOf_append] at hskip
    exact hskip
  rw [skipPlain, hread, hopen, payload_eq]
  rfl

/-- The payload is closed by the bracket that was written for it. -/
theorem closes (w : Writing) (rest : List Char) :
    Closes skipPlain (w.body rest) [' '] w.payload [] rest where
  body_eq := rfl
  blank := by simp [AllBlank, isBlank]
  blank' := by simp [AllBlank]
  starts := by
    rw [payload_eq]
    exact trimStart_cons (by decide) _
  value := w.skip_payload rest

theorem found (w : Writing) (n : Nat) (rest : List Char) (room : Nat) :
    (⟨w.kind, n, w.body rest⟩ : Opener).found? room = some (w.tagged n) := by
  have hjson := locateJson?_eq_some.mpr ⟨_, _, _, _, w.closes rest, rfl⟩
  have htrim : trim w.payload = w.payload := (w.closes rest).of_plain.trim_json
  have hstop : n + tagLength + ((w.body rest).length - rest.length) = n + w.text.length := by
    simp only [text, body, List.length_append, List.length_cons, List.length_nil, length_tag]
    omega
  simp only [Opener.found?, locate?, hjson, Option.map_some, htrim, hstop]
  rfl

end Writing

/-! ### Scanning -/

/-- Prose has no tag, not even one that the text after it completes. -/
theorem openersFrom_prose (p : Prose) {rest : List Char}
    (hrest : rest = [] ∨ ∃ tail, rest = '[' :: tail) (n : Nat) :
    openersFrom n (p.text ++ rest) = openersFrom (n + p.text.length) rest := by
  obtain ⟨prose, hfree⟩ := p
  dsimp only
  induction prose generalizing n with
  | nil => rfl
  | cons c cs ih =>
    have hnone : tag? (c :: (cs ++ rest)) = none := by
      rw [Option.eq_none_iff_forall_not_mem]
      rintro ⟨k, body⟩ htag
      have hsplit : (c :: cs) ++ rest = k.tag ++ body := tag?_eq_some.mp htag
      rcases List.append_eq_append_iff.mp hsplit with ⟨d, htag, hd⟩ | ⟨d, hprose, _⟩
      · cases d with
        | nil =>
          rw [List.append_nil] at htag
          exact hfree [] [] k (by simp [htag])
        | cons e d =>
          rcases hrest with rfl | ⟨tail, rfl⟩
          · cases hd
          · obtain ⟨rfl, _⟩ := List.cons.inj hd
            rw [k.tag_eq, List.cons_append] at htag
            have hmem : '[' ∈ k.label := by simp [(List.cons.inj htag).2]
            exact absurd hmem (bracket_notMem_label k)
      · exact hfree [] d k hprose
    have hprose : ∀ a b k, cs ≠ a ++ (DirectiveKind.tag k ++ b) := by
      intro a b k hcs
      exact hfree (c :: a) b k (by rw [hcs]; rfl)
    have hplace : n + 1 + cs.length = n + (c :: cs).length := by
      rw [List.length_cons]
      omega
    rw [List.cons_append, openersFrom_none hnone, ih (n + 1) hprose, hplace]

/-- The tags of a text are those of its first part, and then those of the rest. -/
theorem openersFrom_append (n : Nat) (a b : List Char) :
    ∃ inner, openersFrom n (a ++ b) = inner ++ openersFrom (n + a.length) b ∧
      ∀ o ∈ inner, o.start < n + a.length := by
  induction a generalizing n with
  | nil => exact ⟨[], rfl, by simp⟩
  | cons c a ih =>
    obtain ⟨inner, hinner, hbefore⟩ := ih (n + 1)
    have hplace : n + 1 + a.length = n + (c :: a).length := by
      rw [List.length_cons]
      omega
    rw [hplace] at hinner hbefore
    cases htag : tag? (c :: (a ++ b)) with
    | none => exact ⟨inner, by rw [List.cons_append, openersFrom_none htag, hinner], hbefore⟩
    | some found =>
      obtain ⟨k, body⟩ := found
      refine ⟨⟨k, n, body⟩ :: inner, ?_, ?_⟩
      · rw [List.cons_append, openersFrom_some htag, hinner]
        rfl
      · intro o ho
        rcases List.mem_cons.mp ho with rfl | ho
        · simp
        · exact hbefore o ho

/-- Tags in what is taken are passed over. -/
theorem directivesOf_append {length consumed : Nat} {inner : List Opener}
    (h : ∀ o ∈ inner, o.start < consumed) (rest : List Opener) :
    directivesOf length consumed (inner ++ rest) = directivesOf length consumed rest := by
  induction inner with
  | nil => rfl
  | cons o inner ih =>
    rw [List.cons_append, directivesOf_passed (h o List.mem_cons_self)]
    exact ih fun p hp => h p (List.mem_cons_of_mem o hp)

/-- A directive that was written is taken out, and what follows it is scanned next. -/
theorem directivesOf_writing (w : Writing) {length consumed n : Nat} (hconsumed : consumed ≤ n)
    (rest : List Char) :
    directivesOf length consumed (openersFrom n (w.text ++ rest)) =
      w.tagged n :: directivesOf length (n + w.text.length)
        (openersFrom (n + w.text.length) rest) := by
  obtain ⟨inner, hinner, hbefore⟩ := openersFrom_append (n + 1) (w.kind.label ++ w.body []) rest
  have hplace : n + 1 + (w.kind.label ++ w.body []).length = n + w.text.length := by
    rw [Writing.text, w.kind.tag_eq, List.cons_append, List.length_cons]
    omega
  have hbody : (w.kind.label ++ w.body []) ++ rest = w.kind.label ++ w.body rest := by
    simp [Writing.body]
  rw [hplace] at hinner hbefore
  rw [hbody] at hinner
  have htag : tag? ('[' :: (w.kind.label ++ w.body rest)) = some (w.kind, w.body rest) :=
    tag?_eq_some.mpr rfl
  rw [w.text_append, w.kind.tag_eq, List.cons_append, openersFrom_some htag, hinner,
    directivesOf_taken hconsumed (w.found n rest _)]
  exact congrArg (List.cons (w.tagged n)) (directivesOf_append hbefore _)

/-- A message: prose, and directives with more prose after each. -/
structure Message where
  opening : Prose
  parts : List (Writing × Prose)

def textOf : List (Writing × Prose) → List Char
  | [] => []
  | (w, p) :: rest => w.text ++ (p.text ++ textOf rest)

def taggedFrom : Nat → List (Writing × Prose) → List Tagged
  | _, [] => []
  | n, (w, p) :: rest => w.tagged n :: taggedFrom (n + w.text.length + p.text.length) rest

theorem textOf_opens (parts : List (Writing × Prose)) :
    textOf parts = [] ∨ ∃ tail, textOf parts = '[' :: tail := by
  cases parts with
  | nil => exact .inl rfl
  | cons part rest => exact .inr ⟨_, rfl⟩

theorem directivesOf_textOf (parts : List (Writing × Prose)) {length consumed n : Nat}
    (h : consumed ≤ n) :
    directivesOf length consumed (openersFrom n (textOf parts)) = taggedFrom n parts := by
  induction parts generalizing consumed n with
  | nil => rfl
  | cons part rest ih =>
    obtain ⟨w, p⟩ := part
    rw [textOf, directivesOf_writing w h, openersFrom_prose p (textOf_opens rest), ih (by omega)]
    rfl

namespace Message

def text (m : Message) : List Char := m.opening.text ++ textOf m.parts

def tagged (m : Message) : List Tagged := taggedFrom m.opening.text.length m.parts

theorem scan_text (m : Message) : scan m.text = m.tagged := by
  rw [scan, text, openersFrom_prose m.opening (textOf_opens m.parts),
    directivesOf_textOf m.parts (Nat.zero_le _), Nat.zero_add]
  rfl

end Message

/-! ### Reading -/

/-- What is remembered for a value: a text as it is, a truth value or an integer as printed, a list
or an object in JSON without blanks. Nothing is remembered for null. -/
inductive Shows : Value → String → Prop
  | string (s : String) : Shows (.string s) s
  | bool (b : Bool) : Shows (.bool b) (toString b)
  | whole (i : Int) : Shows (.number (.whole i)) (toString i)
  | array (items : List Value) : Shows (.array items) (Value.array items).settled.render
  | object (members : List (String × Value)) :
      Shows (.object members) (Value.object members).settled.render

theorem ofList_writeInt (i : Int) : String.ofList (writeInt i) = toString i := by
  cases i with
  | ofNat n =>
    have hneg : ¬ Int.ofNat n < 0 := Int.not_lt.mpr (Int.natCast_nonneg n)
    rw [writeInt, if_neg hneg]
    rfl
  | negSucc n =>
    rw [writeInt, if_pos (Int.negSucc_lt_zero n), String.ofList_append]
    rfl

theorem Shows.factText?_eq {v : Value} {text : String} (h : Shows v text) :
    factText? v.settled = some text := by
  cases h with
  | string => rfl
  | bool b => cases b <;> rfl
  | whole i => exact congrArg some (ofList_writeInt i)
  | array => rfl
  | object => rfl

/-- Only null shows nothing. -/
theorem exists_shows {v : Value} {n : Nat} (h : v.Fits n) : v = .null ∨ ∃ text, Shows v text := by
  cases h with
  | null => exact .inl rfl
  | bool b => exact .inr ⟨_, .bool b⟩
  | whole => exact .inr ⟨_, .whole _⟩
  | string s => exact .inr ⟨_, .string s⟩
  | array => exact .inr ⟨_, .array _⟩
  | object => exact .inr ⟨_, .object _⟩

theorem factText?_settled {v : Value} {n : Nat} (h : v.Fits n) {text : String} :
    factText? v.settled = some text ↔ Shows v text := by
  constructor
  · intro htext
    rcases exists_shows h with rfl | ⟨shown, hshows⟩
    · cases htext
    · obtain rfl := Option.some.inj (hshows.factText?_eq.symm.trans htext)
      exact hshows
  · intro hshows
    exact hshows.factText?_eq

theorem mem_factsOf {members : List (String × Value)} {name text : String} :
    (name, text) ∈ factsOf members ↔ ∃ v, (name, v) ∈ members ∧ factText? v = some text := by
  simp only [factsOf, List.mem_filterMap, Option.map_eq_some_iff, Prod.mk.injEq, Prod.exists]
  constructor
  · rintro ⟨k, v, hmem, t, ht, rfl, rfl⟩
    exact ⟨v, hmem, ht⟩
  · rintro ⟨v, hmem, ht⟩
    exact ⟨name, v, hmem, text, ht, rfl, rfl⟩

theorem factsOf_sorted {members : List (String × Value)} (h : IsSorted members) :
    IsSorted (factsOf members) := by
  refine List.Pairwise.filterMap _ ?_ h
  intro a b hab c hc d hd
  simp only [Option.map_eq_some_iff] at hc hd
  obtain ⟨_, _, rfl⟩ := hc
  obtain ⟨_, _, rfl⟩ := hd
  exact hab

namespace Writing

/-- The facts that an update gives: by rising key, for each key what is remembered for its value. -/
structure HasFacts (w : Writing) (facts : List (String × String)) : Prop where
  sorted : IsSorted facts
  shown : ∀ key text, (key, text) ∈ facts ↔
    ∃ v, valueOf? key w.members.reverse = some v ∧ Shows v text

inductive Yields (settings : DirectiveSettings) (w : Writing) : Directive → Prop
  | update {facts : List (String × String)} (hkind : w.kind = .update) (hfacts : w.HasFacts facts) :
      Yields settings w (.update facts)
  | remind (hkind : w.kind = .remind) :
      Yields settings w (.remind ⟨minutesOf settings (settledMembers [] w.members),
        reminderText settings (settledMembers [] w.members)⟩)

theorem parsePayload (w : Writing) :
    parsePayload w.payload = .ok (settledMembers [] w.members) := by
  have hparse : parse w.payload = .ok (.object (settledMembers [] w.members)) := parse_print w.fits
  rw [Companion.parsePayload, hparse]

theorem fits_of_last (w : Writing) {key : String} {v : Value}
    (h : valueOf? key w.members.reverse = some v) : v.Fits 126 := by
  cases w.fits with
  | object hmembers => exact hmembers (key, v) (List.mem_reverse.mp (mem_of_valueOf? h))

theorem hasFacts (w : Writing) : w.HasFacts (factsOf (settledMembers [] w.members)) where
  sorted := factsOf_sorted (settledMembers_sorted .nil)
  shown := by
    intro key text
    have hplaced : IsSorted (settledMembers [] w.members) := settledMembers_sorted .nil
    rw [mem_factsOf]
    simp only [mem_iff_valueOf? hplaced, valueOf?_settledMembers, valueOf?, Option.or_none,
      Option.map_eq_some_iff]
    constructor
    · rintro ⟨_, ⟨v, hv, rfl⟩, htext⟩
      exact ⟨v, hv, (factText?_settled (w.fits_of_last hv)).mp htext⟩
    · rintro ⟨v, hv, hshows⟩
      exact ⟨_, ⟨v, hv, rfl⟩, (factText?_settled (w.fits_of_last hv)).mpr hshows⟩

theorem read (w : Writing) (settings : DirectiveSettings) (n : Nat) :
    ∃ d, (w.tagged n).read settings = .ok d ∧ w.Yields settings d := by
  cases hkind : w.kind with
  | update =>
    refine ⟨_, ?_, .update hkind w.hasFacts⟩
    simp [Tagged.read, tagged, hkind, parseUpdate, w.parsePayload, Except.map, Except.mapError]
  | remind =>
    refine ⟨_, ?_, .remind hkind⟩
    simp [Tagged.read, tagged, hkind, parseReminder, w.parsePayload, Except.map, Except.mapError]

end Writing

theorem read_taggedFrom (settings : DirectiveSettings) (parts : List (Writing × Prose)) (n : Nat) :
    ∃ ds, (taggedFrom n parts).map (Tagged.read settings) = ds.map .ok ∧
      List.Forall₂ (fun part d => part.1.Yields settings d) parts ds := by
  induction parts generalizing n with
  | nil => exact ⟨[], rfl, .nil⟩
  | cons part rest ih =>
    obtain ⟨w, p⟩ := part
    obtain ⟨d, hread, hyields⟩ := w.read settings n
    obtain ⟨ds, hrest, hall⟩ := ih (n + w.text.length + p.text.length)
    refine ⟨d :: ds, ?_, .cons hyields hall⟩
    rw [taggedFrom, List.map_cons, hread, hrest, List.map_cons]

theorem successes_ok {ε α : Type} (xs : List α) :
    successes (xs.map .ok : List (Except ε α)) = xs := by
  rw [successes, List.filterMap_map]
  exact List.filterMap_some

theorem failures_ok {ε α : Type} (xs : List α) :
    failures (xs.map .ok : List (Except ε α)) = [] := by
  rw [failures, List.filterMap_map]
  exact List.filterMap_eq_nil_iff.mpr fun _ _ => rfl

/-- Writing directives and reading them back is lossless. Scanning finds each directive where it was
written, with the payload as it was written. In the order of the source none is dropped, and each is
read as what it says. -/
theorem Message.read_back (settings : DirectiveSettings) (horder : settings.scanOrder = .sourceOrder)
    (m : Message) :
    scan m.text = m.tagged ∧
    (Reply.parse settings (String.ofList m.text)).dropped = [] ∧
    List.Forall₂ (fun part d => part.1.Yields settings d) m.parts
      (Reply.parse settings (String.ofList m.text)).directives := by
  obtain ⟨ds, hread, hall⟩ := read_taggedFrom settings m.parts m.opening.text.length
  have hresults : (inOrder settings.scanOrder (scan m.text)).map (Tagged.read settings) =
      ds.map .ok := by
    rw [horder, m.scan_text]
    exact hread
  refine ⟨m.scan_text, ?_, ?_⟩
  · simp only [Reply.parse, String.toList_ofList, hresults, failures_ok]
  · simp only [Reply.parse, String.toList_ofList, hresults, successes_ok]
    exact hall

theorem fits_quoting :
    (Value.object [("note", .string "[UPDATE: \"]"), ("age", .number (.whole 7)), ("gone", .null)]).Fits
      127 := by
  refine .object ?_
  intro m hm
  simp only [List.mem_cons, List.not_mem_nil, or_false] at hm
  rcases hm with rfl | rfl | rfl
  · exact .string _ _
  · exact .whole (by decide) (by decide) _
  · exact .null _

def quoting : Message where
  opening := ⟨"Noted ".toList, Prose.free_of_plain (by simp)⟩
  parts := [(⟨.update, _, fits_quoting⟩, ⟨".".toList, Prose.free_of_plain (by simp)⟩)]

theorem Message.read_back_quoting :
    let reply := Reply.parse { scanOrder := .sourceOrder }
      "Noted [UPDATE: \x7b\"note\":\"[UPDATE: \\\"]\",\"age\":7,\"gone\":null\x7d]."
    reply.dropped = [] ∧ ∃ facts, reply.directives = [.update facts] ∧
      ("note", "[UPDATE: \"]") ∈ facts ∧ ("age", "7") ∈ facts := by
  have htext : String.ofList quoting.text =
      "Noted [UPDATE: \x7b\"note\":\"[UPDATE: \\\"]\",\"age\":7,\"gone\":null\x7d]." := by decide
  obtain ⟨_, hdropped, hread⟩ := Message.read_back { scanOrder := .sourceOrder } rfl quoting
  rw [htext] at hdropped hread
  refine ⟨hdropped, ?_⟩
  generalize (Reply.parse _ _).directives = ds at hread ⊢
  cases hread with
  | cons hfirst hrest =>
    cases hrest
    cases hfirst with
    | update hkind hfacts =>
      refine ⟨_, rfl, ?_, ?_⟩
      · exact (hfacts.shown _ _).mpr ⟨.string "[UPDATE: \"]", rfl, .string _⟩
      · exact (hfacts.shown _ _).mpr ⟨.number (.whole 7), rfl, .whole 7⟩
    | remind hkind => cases hkind

end Companion
