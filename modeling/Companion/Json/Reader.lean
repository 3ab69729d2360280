import Companion.Json.Token

/-!
Reading a value. At most 127 containers may be open at a time; of two members with one key the last
one stays.
-/

namespace Companion.Json

open Number Text

/-- Whether another item of a list follows, and the text from there on, or from the bracket on. -/
def moreItems (first : Bool) (s : List Symbol) : Except Fault (Bool × List Symbol) :=
  match dropSpace s with
  | [] => .error (fault .endInList [])
  | x :: rest =>
    if x = .char ']' then .ok (false, x :: rest)
    else if first then .ok (true, x :: rest)
    else if x = .char ',' then
      match dropSpace rest with
      | [] => .error (fault .endInValue [])
      | y :: rest =>
        if y = .char ']' then .error (faultAt .trailingComma (y :: rest))
        else .ok (true, y :: rest)
    else .error (faultAt .expectedCommaOrBracket (x :: rest))

/-- Whether another member of an object follows, and the text from after the quote of its key on, or
from the brace on. -/
def moreMembers (first : Bool) (s : List Symbol) : Except Fault (Bool × List Symbol) :=
  match dropSpace s with
  | [] => .error (fault .endInObject [])
  | x :: rest =>
    if x = .char '\x7d' then .ok (false, x :: rest)
    else if first then
      if x = .char '"' then .ok (true, rest) else .error (faultAt .keyNotString (x :: rest))
    else if x = .char ',' then
      match dropSpace rest with
      | [] => .error (fault .endInValue [])
      | y :: rest =>
        if y = .char '"' then .ok (true, rest)
        else if y = .char '\x7d' then .error (faultAt .trailingComma (y :: rest))
        else .error (faultAt .keyNotString (y :: rest))
    else .error (faultAt .expectedCommaOrBrace (x :: rest))

def readColon (s : List Symbol) : Except Fault (List Symbol) :=
  match dropSpace s with
  | [] => .error (fault .endInObject [])
  | x :: rest =>
    if x = .char ':' then .ok rest else .error (faultAt .expectedColon (x :: rest))

def closeList (s : List Symbol) : Except Fault (List Symbol) :=
  match dropSpace s with
  | [] => .error (fault .endInList [])
  | x :: rest =>
    if x = .char ']' then .ok rest
    else if x = .char ',' then
      match dropSpace rest with
      | [] => .error (fault .trailingCharacters [])
      | y :: rest =>
        .error (faultAt (if y = .char ']' then .trailingComma else .trailingCharacters) (y :: rest))
    else .error (faultAt .trailingCharacters (x :: rest))

def readItems {α : Type} (item : Reader α) : Nat → Bool → Reader (List α)
  | 0, _, s => .error (fault .endInList s)
  | n + 1, first, s => do
    let (more, s) ← moreItems first s
    if more then
      let (x, s) ← item s
      let (xs, s) ← readItems item n false s
      .ok (x :: xs, s)
    else .ok ([], s.drop 1)

/-- The members of an object from here to its brace, each by `member` from after the colon on. -/
def readMembers {σ : Type} (member : String → σ → Reader σ) : Nat → Bool → σ → Reader σ
  | 0, _, _, s => .error (fault .endInObject s)
  | n + 1, first, state, s => do
    let (more, s) ← moreMembers first s
    if more then
      let (key, s) ← readText s
      let (state, s) ← member key state s
      readMembers member n false state s
    else .ok (state, s.drop 1)

/-- A value with fewer than `depth` containers open at a time. -/
def readWithin : Nat → Reader Value
  | 0, s => .error (faultAt .tooDeep s)
  | depth + 1, s =>
    match dropSpace s with
    | [] => .error (fault .endInValue [])
    | .stray o :: rest => .error (faultAt .expectedValue (.stray o :: rest))
    | .char c :: rest =>
      match c with
      | 'n' => do .ok (.null, ← readWord "ull".toList rest)
      | 't' => do .ok (.bool true, ← readWord "rue".toList rest)
      | 'f' => do .ok (.bool false, ← readWord "alse".toList rest)
      | '-' => do
        let (n, rest) ← readNumber true rest
        .ok (.number n, rest)
      | '"' => do
        let (t, rest) ← readText rest
        .ok (.string t, rest)
      | '[' =>
        if depth = 0 then .error (faultAt .tooDeep (.char c :: rest))
        else do
          let (items, rest) ← readItems (fun s => readWithin depth s) (rest.length + 1) true rest
          .ok (.array items, rest)
      | '\x7b' =>
        if depth = 0 then .error (faultAt .tooDeep (.char c :: rest))
        else do
          let (members, rest) ← readMembers (fun key members s => do
            let s ← readColon s
            let (v, s) ← readWithin depth s
            .ok (place key v members, s)) (rest.length + 1) true [] rest
          .ok (.object members, rest)
      | _ => if c.isDigit then do
          let (n, rest) ← readNumber false (.char c :: rest)
          .ok (.number n, rest)
        else .error (faultAt .expectedValue (.char c :: rest))

/-- One more than how many containers may be open at a time. -/
def depthLimit : Nat := 128

def readValue : Reader Value := readWithin depthLimit

/-- Nothing but blanks may follow. -/
def readEnd (s : List Symbol) : Except Fault Unit :=
  match dropSpace s with
  | [] => .ok ()
  | x :: rest => .error (faultAt .trailingCharacters (x :: rest))

def readAll {α : Type} (read : Reader α) (s : List Symbol) : Except Fault α := do
  let (x, rest) ← read s
  readEnd rest
  .ok x

def parse (cs : List Char) : Except Fault Value := readAll readValue (symbolsOf cs)

def parseOctets (octets : Octets) : Except Fault Value := readAll readValue (symbolsOfOctets octets)

end Companion.Json
