import Companion.Toml.Scalar

/-!
TOML documents: lines with a key and a value, and headers that say which table the next lines belong
to. Lists and inline tables nest to a depth below eighty, and keys have fewer than eighty parts.
-/

namespace Companion.Toml

open Number

/-- One more than how deep values and keys may go. -/
def depthLimit : Nat := 80

def readBoolean (cs : List Char) : Option (Bool × List Char) :=
  match strip? "true".toList cs with
  | some rest => some (true, rest)
  | none => (strip? "false".toList cs).map (false, ·)

/-- A character of a key without quotes. -/
def isBare (c : Char) : Bool := c.isAlphanum || c == '-' || c == '_'

def readPart (cs : List Char) : Option (String × List Char) :=
  let quoted := match cs with
    | '"' :: rest => basicString (rest.length + 1) rest
    | '\'' :: rest => literalString rest
    | _ => none
  match quoted with
  | some (text, rest) => some (String.ofList text, rest)
  | none =>
    let bare := cs.takeWhile isBare
    if bare.isEmpty then none else some (String.ofList bare, cs.drop bare.length)

/-- At most `n` parts of a key with dots between them, and the blanks around them. -/
def readParts : Nat → Reader (List String)
  | 0, _ => none
  | n + 1, cs => do
    let (part, cs) ← readPart (dropBlanks cs)
    match dropBlanks cs with
    | '.' :: rest => do
      let (parts, cs) ← readParts n rest
      some (part :: parts, cs)
    | cs => some ([part], cs)

/-- A key: the path to its table, and its name there. -/
structure Key where
  path : List String
  name : String
  deriving DecidableEq, Repr

def readKey (cs : List Char) : Option (Key × List Char) := do
  let (parts, cs) ← readParts (depthLimit - 1) cs
  let name ← parts.getLast?
  some (⟨parts.dropLast, name⟩, cs)

def skipComment (cs : List Char) : List Char := cs.dropWhile isPlain

/-- Blanks, comments and ends of lines dropped, at most `n` lines of them; each comment must end
with its line. -/
def skipGap : Nat → List Char → Option (List Char)
  | 0, cs => some cs
  | n + 1, cs =>
    match dropBlanks cs with
    | '#' :: rest => (newline? (skipComment rest)).bind (skipGap n)
    | cs =>
      match newline? cs with
      | some rest => skipGap n rest
      | none => some cs

def skipLines (cs : List Char) : Option (List Char) := skipGap cs.length cs

def readItems (item : Reader Value) : Nat → Reader (List Value)
  | 0, _ => none
  | n + 1, cs => do
    match ← skipLines cs with
    | ']' :: rest => some ([], rest)
    | cs => do
      let (v, cs) ← item cs
      match ← skipLines cs with
      | ',' :: rest => do
        let (vs, cs) ← readItems item n rest
        some (v :: vs, cs)
      | ']' :: rest => some ([v], rest)
      | _ => none

def readPairs (value : Reader Value) : Nat → Entries → Reader Entries
  | 0, _, _ => none
  | n + 1, entries, cs => do
    let (key, cs) ← readKey cs
    let cs ← strip? ['='] cs
    let (v, cs) ← value (dropBlanks cs)
    let entries ← insertKey true key.name v key.path entries
    match dropBlanks cs with
    | ',' :: rest => readPairs value n entries rest
    | '\x7d' :: rest => some (entries, rest)
    | _ => none

/-- A value with fewer than `depth` lists and inline tables open at a time. -/
def readWithin : Nat → Reader Value
  | 0, _ => none
  | depth + 1, cs =>
    match cs with
    | '[' :: rest =>
      if depth = 0 then none
      else
        (readItems (fun cs => readWithin depth cs) (rest.length + 1) rest).map
          fun (items, cs) => (.array items, cs)
    | '\x7b' :: rest =>
      if depth = 0 then none
      else
        match dropBlanks rest with
        | '\x7d' :: cs => some (.table [], cs)
        | _ =>
          (readPairs (fun cs => readWithin depth cs) (rest.length + 1) [] rest).map
            fun (entries, cs) => (.table (valuesOf entries), cs)
    | c :: _ =>
      if c = '"' ∨ c = '\'' then (readString cs).map fun (s, cs) => (.string s, cs)
      else if c = '+' ∨ c = '-' ∨ c.isDigit then readNumber cs
      else if c = 'i' ∨ c = 'n' then (specialFloat cs).map fun (x, cs) => (.float x, cs)
      else (readBoolean cs).map fun (b, cs) => (.boolean b, cs)
    | [] => none

def readValue : Reader Value := readWithin depthLimit

/-- The end of a line, or of the text, after blanks and a comment. -/
def endLine (cs : List Char) : Option (List Char) :=
  let cs := match dropBlanks cs with
    | '#' :: rest => skipComment rest
    | cs => cs
  if cs.isEmpty then some [] else newline? cs

/-- A document that was read in part: its keys, and the path to the table of the next lines. -/
structure Document where
  entries : Entries := []
  path : List String := []

/-- A header of a table, from after its first bracket on. -/
def readTable (d : Document) (cs : List Char) : Option (Document × List Char) := do
  let (key, cs) ← readKey cs
  let cs ← strip? [']'] cs
  let entries ← within (openTable key.name) key.path d.entries
  some (⟨entries, key.path ++ [key.name]⟩, ← endLine cs)

/-- A header of one more of several tables, from after its first two brackets on. -/
def readElement (d : Document) (cs : List Char) : Option (Document × List Char) := do
  let (key, cs) ← readKey cs
  let cs ← strip? [']', ']'] cs
  let entries ← within (openElement key.name) key.path d.entries
  some (⟨entries, key.path ++ [key.name]⟩, ← endLine cs)

def readPair (d : Document) (cs : List Char) : Option (Document × List Char) := do
  let (key, cs) ← readKey cs
  let cs ← strip? ['='] cs
  let (v, cs) ← readValue (dropBlanks cs)
  let entries ← within (insertKey true key.name v key.path) d.path d.entries
  some ({ d with entries }, ← endLine cs)

def readLines : Nat → Document → List Char → Option Document
  | 0, _, _ => none
  | n + 1, d, cs =>
    match dropBlanks cs with
    | [] => some d
    | '#' :: rest => (endLine (skipComment rest)).bind (readLines n d)
    | '[' :: '[' :: rest => (readElement d rest).bind fun (d, cs) => readLines n d cs
    | '[' :: rest => (readTable d rest).bind fun (d, cs) => readLines n d cs
    | cs =>
      match newline? cs with
      | some rest => readLines n d rest
      | none => (readPair d cs).bind fun (d, cs) => readLines n d cs

/-- A text without the mark that may stand in front of it. -/
def withoutMark : List Char → List Char
  | [] => []
  | c :: cs => if c.toNat = 0xFEFF then cs else c :: cs

def parse (text : String) : Option Value :=
  let cs := withoutMark text.toList
  (readLines (cs.length + 1) {} cs).map fun d => .table (valuesOf d.entries)

end Companion.Toml
