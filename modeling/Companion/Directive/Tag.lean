import Companion.Json.Skip
import Companion.Text.Blank

/-!
Directives in a text: a tag, a payload and a closing bracket. A payload that is a JSON value ends
where the value ends, so brackets inside it do no harm. Any other directive runs to the first
bracket before the next tag, and a tag without a bracket is prose. Places in a text count
characters.
-/

namespace Companion

open Text Json

inductive DirectiveKind
  | update
  | remind
  deriving DecidableEq, Repr

def DirectiveKind.name : DirectiveKind → String
  | .update => "UPDATE"
  | .remind => "REMIND"

def DirectiveKind.tag (k : DirectiveKind) : List Char := '[' :: k.name.toList ++ [':']

def tagLength : Nat := 8

/-- Both tags have the same length. -/
theorem length_tag (k : DirectiveKind) : k.tag.length = tagLength := by cases k <;> rfl

/-- A part of a text, from `start` to before `stop`. -/
structure Span where
  start : Nat
  stop : Nat
  deriving DecidableEq, Repr

def slice (text : List Char) (start stop : Nat) : List Char := (text.drop start).take (stop - start)

def Span.octets (s : Span) (text : List Char) : Nat × Nat :=
  (utf8Size (text.take s.start), utf8Size (text.take s.stop))

/-- A directive found in a text, its payload not yet read. -/
structure Tagged where
  kind : DirectiveKind
  span : Span
  payload : List Char
  deriving DecidableEq, Repr

/-- A tag in a text: where it starts, and what follows it. -/
structure Opener where
  kind : DirectiveKind
  start : Nat
  body : List Char
  deriving DecidableEq, Repr

/-- What follows a text at the front of another. -/
def after? : (start text : List Char) → Option (List Char)
  | [], text => some text
  | _ :: _, [] => none
  | a :: start, b :: text => if a = b then after? start text else none

def tag? (cs : List Char) : Option (DirectiveKind × List Char) :=
  match after? DirectiveKind.update.tag cs with
  | some body => some (.update, body)
  | none => (after? DirectiveKind.remind.tag cs).map (.remind, ·)

def openersFrom : Nat → List Char → List Opener
  | _, [] => []
  | n, c :: cs =>
    match tag? (c :: cs) with
    | some (kind, body) => ⟨kind, n, body⟩ :: openersFrom (n + 1) cs
    | none => openersFrom (n + 1) cs

/-- Where a payload was found: the payload, and how many characters its directive takes after the
tag, the closing bracket included. -/
structure Located where
  payload : List Char
  length : Nat
  deriving DecidableEq, Repr

def locateJson? (body : List Char) : Option Located :=
  let json := trimStart body
  match skipPlain (symbolsOf json) with
  | .ok rest =>
    let size := json.length - rest.length
    match trimStart (json.drop size) with
    | ']' :: tail => some ⟨json.take size, body.length - tail.length⟩
    | _ => none
  | .error _ => none

/-- A payload that ends at the first bracket among the first `room` characters. -/
def locateBracket? (body : List Char) (room : Nat) : Option Located :=
  ((body.take room).findIdx? (· == ']')).map fun close =>
    ⟨(body.take close).drop (body.length - (trimStart body).length), close + 1⟩

/-- The payload of a tag whose next tag is `room` characters away. -/
def locate? (body : List Char) (room : Nat) : Option Located :=
  match locateJson? body with
  | some found => some found
  | none => locateBracket? body room

/-- The directives of tags, in a text of the given length of which the first `consumed` characters
are taken: a tag inside an earlier directive is part of it. -/
def directivesOf (length : Nat) : (consumed : Nat) → List Opener → List Tagged
  | _, [] => []
  | consumed, o :: rest =>
    if o.start < consumed then directivesOf length consumed rest
    else
      let body := o.start + tagLength
      let boundary := match rest with
        | next :: _ => next.start
        | [] => length
      match locate? o.body (boundary - body) with
      | some found =>
        let stop := body + found.length
        ⟨o.kind, ⟨o.start, stop⟩, trim found.payload⟩ :: directivesOf length stop rest
      | none => directivesOf length consumed rest

def scan (text : List Char) : List Tagged := directivesOf text.length 0 (openersFrom 0 text)

/-- Spans with nothing but blanks between them made one. -/
def joinSpans (text : List Char) : List Span → List Span
  | a :: b :: rest =>
    if (slice text a.stop b.start).all isBlank then joinSpans text (⟨a.start, b.stop⟩ :: rest)
    else a :: joinSpans text (b :: rest)
  | spans => spans
termination_by spans => spans.length

/-- What is left of a text from `cursor` on when spans are taken out of it. -/
def without (text : List Char) : (cursor : Nat) → List Span → List Char
  | cursor, [] => text.drop cursor
  | cursor, s :: rest => slice text cursor s.start ++ without text s.stop rest

/-- The text without the spans, which are in order and apart. Spans with nothing but blanks between
them go as one block together with the blanks; blanks around a block stay, except at the two ends.
-/
def strip (text : List Char) (spans : List Span) : List Char :=
  trim (without text 0 (joinSpans text spans))

end Companion
