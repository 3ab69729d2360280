import Companion.Json.Token

/-!
Passing over a value without keeping it. Any depth is passed over, numbers may be out of range, and
surrogates need not come in pairs; the shape of the value must be right.
-/

namespace Companion.Json

open Number Text

def skipDigits (s : List Symbol) : Except Fault (List Symbol) :=
  if startsWith Char.isDigit s then .ok (takeDigits s).2 else .error (faultAt .invalidNumber s)

def skipExponent (s : List Symbol) : Except Fault (List Symbol) :=
  if startsWith isExponentMark s then
    let s := s.drop 1
    skipDigits (if startsWith (fun c => c == '+' || c == '-') s then s.drop 1 else s)
  else .ok s

/-- A number, its minus sign already passed. -/
def skipNumber (s : List Symbol) : Except Fault (List Symbol) := do
  let rest ← skipDigits s
  if startsWith (· == '0') s ∧ startsWith Char.isDigit (s.drop 1) then
    .error (faultAt .invalidNumber (s.drop 1))
  else if startsWith (· == '.') rest then
    skipExponent (← skipDigits (rest.drop 1))
  else skipExponent rest

/-- A string, its opening quote already passed. -/
def skipString : Nat → List Symbol → Except Fault (List Symbol)
  | 0, s => .error (fault .endInString s)
  | _, [] => .error (fault .endInString [])
  | n + 1, .stray _ :: rest => skipString n rest
  | n + 1, .char c :: rest =>
    if c = '"' then .ok rest
    else if c = '\\' then
      match rest with
      | .char 'u' :: rest => do skipString n (← readHex rest).2
      | _ => do skipString n (← readEscape rest).2
    else if c.toNat < 0x20 then .error (fault .controlCharacter (.char c :: rest))
    else skipString n rest

def skipKey (s : List Symbol) : Except Fault (List Symbol) :=
  match dropSpace s with
  | [] => .error (fault .endInObject [])
  | x :: rest =>
    if x = .char '"' then do
      let rest ← skipString rest.length rest
      match dropSpace rest with
      | [] => .error (fault .endInObject [])
      | y :: rest =>
        if y = .char ':' then .ok rest else .error (faultAt .expectedColon (y :: rest))
    else .error (faultAt .keyNotString (x :: rest))

/-- What follows an item of a list: its end, or a comma and more items. -/
def skipItems (item : List Symbol → Except Fault (List Symbol)) :
    Nat → List Symbol → Except Fault (List Symbol)
  | 0, s => .error (faultAt .endInList s)
  | n + 1, s =>
    match dropSpace s with
    | [] => .error (fault .endInList [])
    | x :: rest =>
      if x = .char ']' then .ok rest
      else if x = .char ',' then do skipItems item n (← item rest)
      else .error (faultAt .expectedCommaOrBracket (x :: rest))

def skipMembers (item : List Symbol → Except Fault (List Symbol)) :
    Nat → List Symbol → Except Fault (List Symbol)
  | 0, s => .error (faultAt .endInObject s)
  | n + 1, s =>
    match dropSpace s with
    | [] => .error (fault .endInObject [])
    | x :: rest =>
      if x = .char '\x7d' then .ok rest
      else if x = .char ',' then do skipMembers item n (← item (← skipKey rest))
      else .error (faultAt .expectedCommaOrBrace (x :: rest))

/-- A list, its bracket already passed. -/
def skipList (item : List Symbol → Except Fault (List Symbol)) (s : List Symbol) :
    Except Fault (List Symbol) :=
  match dropSpace s with
  | [] => .error (fault .endInList [])
  | x :: rest =>
    if x = .char ']' then .ok rest
    else do
      let rest ← item (x :: rest)
      skipItems item (rest.length + 1) rest

/-- An object, its brace already passed. -/
def skipObject (item : List Symbol → Except Fault (List Symbol)) (s : List Symbol) :
    Except Fault (List Symbol) :=
  match dropSpace s with
  | [] => .error (fault .endInObject [])
  | x :: rest =>
    if x = .char '\x7d' then .ok rest
    else do
      let rest ← item (← skipKey (x :: rest))
      skipMembers item (rest.length + 1) rest

/-- A value with containers at most `n` deep. -/
def skipWithin : Nat → List Symbol → Except Fault (List Symbol)
  | 0, s => .error (faultAt .tooDeep s)
  | n + 1, s =>
    match dropSpace s with
    | [] => .error (fault .endInValue [])
    | .stray o :: rest => .error (faultAt .expectedValue (.stray o :: rest))
    | .char c :: rest =>
      match c with
      | 'n' => readWord "ull".toList rest
      | 't' => readWord "rue".toList rest
      | 'f' => readWord "alse".toList rest
      | '-' => skipNumber rest
      | '"' => skipString rest.length rest
      | '[' => skipList (fun s => skipWithin n s) rest
      | '\x7b' => skipObject (fun s => skipWithin n s) rest
      | _ => if c.isDigit then skipNumber (.char c :: rest)
        else .error (faultAt .expectedValue (.char c :: rest))

/-- A value of any depth: each container takes a bracket of its own, so the length of the text
bounds their depth. -/
def skip (s : List Symbol) : Except Fault (List Symbol) := skipWithin (s.length + 1) s

/-- A symbol that may follow a word or a number. -/
def endsWord (c : Char) : Bool :=
  c == ' ' || c == '\n' || c == '\t' || c == '\r' || c == '"' || c == '[' || c == ']' ||
    c == '\x7b' || c == '\x7d' || c == ',' || c == ':'

/-- A value whose end is plain to see: a string, a list or an object ends by itself, a word or a
number before a blank, a mark of JSON or the end of the text. -/
def skipPlain (s : List Symbol) : Except Fault (List Symbol) := do
  let rest ← skip s
  if startsWith (fun c => c == '"' || c == '[' || c == '\x7b') (dropSpace s) || rest.isEmpty ||
      startsWith endsWord rest then .ok rest
  else .error (faultAt .trailingCharacters rest)

end Companion.Json
