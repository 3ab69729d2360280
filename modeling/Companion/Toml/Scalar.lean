import Companion.Json.Token
import Companion.Number.Identifier
import Companion.Time.Instant
import Companion.Toml.Value

/-!
The scalars of TOML: strings of four kinds, dates and times, integers and floats. A reader takes a
value off the front of a text and gives what is left, or fails.
-/

namespace Companion.Toml

open Number Time

abbrev Reader (α : Type) := List Char → Option (α × List Char)

/-- The blanks within a line. -/
def isBlank (c : Char) : Bool := c == ' ' || c == '\t'

def dropBlanks (cs : List Char) : List Char := cs.dropWhile isBlank

def newline? : List Char → Option (List Char)
  | '\n' :: rest => some rest
  | '\r' :: '\n' :: rest => some rest
  | _ => none

/-- A character that may stand in a line as it is: a tab, or anything but a control. -/
def isPlain (c : Char) : Bool := c == '\t' || (' ' ≤ c && c != '\x7f')

def strip? : (start : List Char) → List Char → Option (List Char)
  | [], cs => some cs
  | _ :: _, [] => none
  | a :: start, c :: cs => if a = c then strip? start cs else none

def isDigitOf (base : Nat) (c : Char) : Bool := (Json.hexValue? c).any (· < base)

def ofDigitsIn (base : Nat) (digits : List Char) : Nat :=
  digits.foldl (fun n c => base * n + (Json.hexValue? c).getD 0) 0

/-- Exactly `n` hexadecimal digits as the character with that number. -/
def codePoint? (n : Nat) (cs : List Char) : Option (Char × List Char) :=
  let digits := cs.take n
  let number := ofDigitsIn 16 digits
  if digits.length = n ∧ digits.all (isDigitOf 16) ∧ number.isValidChar then
    some (Char.ofNat number, cs.drop n)
  else none

def escape? : Reader Char
  | 'b' :: rest => some ('\x08', rest)
  | 'f' :: rest => some ('\x0c', rest)
  | 'n' :: rest => some ('\n', rest)
  | 'r' :: rest => some ('\r', rest)
  | 't' :: rest => some ('\t', rest)
  | '\\' :: rest => some ('\\', rest)
  | '"' :: rest => some ('"', rest)
  | 'u' :: rest => codePoint? 4 rest
  | 'U' :: rest => codePoint? 8 rest
  | _ => none

/-- What follows a line that ends in a backslash, blanks and further ends of lines included. -/
def joined? (cs : List Char) : Option (List Char) :=
  (newline? (dropBlanks cs)).map fun rest => skipLines rest.length rest
where
  /-- Blanks and ends of lines dropped. -/
  skipLines : Nat → List Char → List Char
    | 0, cs => cs
    | n + 1, cs =>
      match newline? (dropBlanks cs) with
      | some rest => skipLines n rest
      | none => dropBlanks cs

/-- A string in double quotes, from after the first one on, of at most `n` characters. -/
def basicString : Nat → Reader (List Char)
  | 0, _ => none
  | _ + 1, [] => none
  | n + 1, c :: cs =>
    if c = '"' then some ([], cs)
    else if c = '\\' then do
      let (x, cs) ← escape? cs
      let (xs, cs) ← basicString n cs
      some (x :: xs, cs)
    else if isPlain c then (basicString n cs).map fun (xs, cs) => (c :: xs, cs)
    else none

def literalString (cs : List Char) : Option (List Char × List Char) :=
  let body := cs.takeWhile fun c => isPlain c && c != '\''
  match cs.drop body.length with
  | '\'' :: rest => some (body, rest)
  | _ => none

/-- Where several lines end: three quotes, of up to five in a row the last ones. The quotes in front
of them belong to the text. -/
def closing? (quote : Char) (cs : List Char) : Option (List Char × List Char) :=
  let run := (cs.takeWhile (· == quote)).length
  if run < 3 then none
  else
    let extra := min (run - 3) 2
    some (List.replicate extra quote, cs.drop (extra + 3))

def basicLines : Nat → Reader (List Char)
  | 0, _ => none
  | _ + 1, [] => none
  | n + 1, c :: cs =>
    match closing? '"' (c :: cs) with
    | some found => some found
    | none =>
      if c = '\\' then
        match joined? cs with
        | some cs => basicLines n cs
        | none => do
          let (x, cs) ← escape? cs
          let (xs, cs) ← basicLines n cs
          some (x :: xs, cs)
      else
        match newline? (c :: cs) with
        | some cs => (basicLines n cs).map fun (xs, cs) => ('\n' :: xs, cs)
        | none =>
          if isPlain c then (basicLines n cs).map fun (xs, cs) => (c :: xs, cs) else none

def literalLines : Nat → Reader (List Char)
  | 0, _ => none
  | _ + 1, [] => none
  | n + 1, c :: cs =>
    match closing? '\'' (c :: cs) with
    | some found => some found
    | none =>
      match newline? (c :: cs) with
      | some cs => (literalLines n cs).map fun (xs, cs) => ('\n' :: xs, cs)
      | none => if isPlain c then (literalLines n cs).map fun (xs, cs) => (c :: xs, cs) else none

/-- What follows an end of a line, if the text starts with one. -/
def afterNewline (cs : List Char) : List Char := (newline? cs).getD cs

def readString (cs : List Char) : Option (String × List Char) :=
  let found := match cs with
    | '"' :: '"' :: '"' :: rest => basicLines (rest.length + 1) (afterNewline rest)
    | '"' :: rest => basicString (rest.length + 1) rest
    | '\'' :: '\'' :: '\'' :: rest => literalLines (rest.length + 1) (afterNewline rest)
    | '\'' :: rest => literalString rest
    | _ => none
  found.map fun (text, rest) => (String.ofList text, rest)

/-- Exactly `n` decimal digits, whose number lies between two bounds. -/
def numberBetween (n low high : Nat) (cs : List Char) : Option (Nat × List Char) :=
  let digits := cs.take n
  let number := ofDigits digits
  if digits.length = n ∧ digits.all Char.isDigit ∧ low ≤ number ∧ number ≤ high then
    some (number, cs.drop n)
  else none

def skipDate (cs : List Char) : Option (List Char) := do
  let (year, cs) ← numberBetween 4 0 9999 cs
  let cs ← strip? ['-'] cs
  let (month, cs) ← numberBetween 2 1 12 cs
  let cs ← strip? ['-'] cs
  let (_, cs) ← numberBetween 2 1 (daysIn year month) cs
  some cs

def skipFraction (cs : List Char) : List Char :=
  match cs with
  | '.' :: c :: rest => if c.isDigit then rest.dropWhile Char.isDigit else cs
  | _ => cs

def skipMinutes (cs : List Char) : Option (List Char) := do
  let (_, cs) ← numberBetween 2 0 23 cs
  let cs ← strip? [':'] cs
  let (_, cs) ← numberBetween 2 0 59 cs
  some cs

def skipTime (cs : List Char) : Option (List Char) := do
  let cs ← strip? [':'] (← skipMinutes cs)
  let (_, cs) ← numberBetween 2 0 60 cs
  some (skipFraction cs)

def skipOffset (cs : List Char) : List Char :=
  match cs with
  | 'Z' :: rest => rest
  | 'z' :: rest => rest
  | '+' :: rest => (skipMinutes rest).getD cs
  | '-' :: rest => (skipMinutes rest).getD cs
  | _ => cs

def skipDayTime (cs : List Char) : List Char :=
  match cs with
  | c :: rest =>
    if c = 'T' ∨ c = 't' ∨ c = ' ' then
      match skipTime rest with
      | some left => skipOffset left
      | none => cs
    else cs
  | [] => []

def skipMoment (cs : List Char) : Option (List Char) :=
  match skipDate cs with
  | some rest => some (skipDayTime rest)
  | none => skipTime cs

/-- Digits, between any two of which may stand one underscore. -/
def groupedDigits (isDigit : Char → Bool) : Reader (List Char)
  | [] => none
  | c :: cs => if isDigit c then some (rest c cs) else none
where
  /-- The digits after one. -/
  rest (first : Char) : List Char → List Char × List Char
    | '_' :: c :: cs =>
      if isDigit c then
        let (ds, left) := rest c cs
        (first :: ds, left)
      else ([first], '_' :: c :: cs)
    | c :: cs =>
      if isDigit c then
        let (ds, left) := rest c cs
        (first :: ds, left)
      else ([first], c :: cs)
    | [] => ([first], [])

def readSign : List Char → List Char × List Char
  | '+' :: rest => (['+'], rest)
  | '-' :: rest => (['-'], rest)
  | cs => ([], cs)

/-- A decimal integer without its sign; zero stands alone. -/
def wholeDigits : Reader (List Char)
  | '0' :: rest => some (['0'], rest)
  | cs => groupedDigits Char.isDigit cs

def wholePart (cs : List Char) : Option (List Char × List Char) :=
  let (sign, cs) := readSign cs
  (wholeDigits cs).map fun (digits, cs) => (sign ++ digits, cs)

def fractionPart : Reader (List Char)
  | '.' :: cs => (groupedDigits Char.isDigit cs).map fun (digits, cs) => ('.' :: digits, cs)
  | _ => none

def exponentPart : Reader (List Char)
  | c :: cs =>
    if c = 'e' ∨ c = 'E' then
      let (sign, cs) := readSign cs
      (groupedDigits Char.isDigit cs).map fun (digits, cs) => ('e' :: sign ++ digits, cs)
    else none
  | [] => none

/-- A fraction, an exponent, or both. -/
def floatTail (cs : List Char) : Option (List Char × List Char) :=
  match fractionPart cs with
  | none => exponentPart cs
  | some (fraction, cs) =>
    match exponentPart cs with
    | some (exponent, cs) => some (fraction ++ exponent, cs)
    | none => some (fraction, cs)

def specialFloat (cs : List Char) : Option (Double × List Char) :=
  let (sign, cs) := readSign cs
  match strip? "inf".toList cs with
  | some rest => some (.infinite (sign == ['-']), rest)
  | none => (strip? "nan".toList cs).map fun rest => (.nan, rest)

/-- A float. A numeral must not be too large for one, unless it is negative. -/
def readFloat (cs : List Char) : Option (Double × List Char) :=
  match wholePart cs with
  | none => specialFloat cs
  | some (whole, cs) => do
    let (tail, cs) ← floatTail cs
    let x ← Double.read? (whole ++ tail)
    if x = .infinite false then none else some (x, cs)

def readInBase (base : Nat) (cs : List Char) : Option (Int × List Char) := do
  let (digits, cs) ← groupedDigits (isDigitOf base) cs
  let n := ofDigitsIn base digits
  if n < UInt64.size / 2 then some (n, cs) else none

def readInteger (cs : List Char) : Option (Int × List Char) :=
  match cs with
  | '0' :: 'x' :: rest => readInBase 16 rest
  | '0' :: 'o' :: rest => readInBase 8 rest
  | '0' :: 'b' :: rest => readInBase 2 rest
  | _ => do
    let (digits, cs) ← wholePart cs
    let n ← (readIdentifier digits).toOption
    some (n.toInt, cs)

/-- A date, a float or an integer, the first of them that fits. -/
def readNumber (cs : List Char) : Option (Value × List Char) :=
  match skipMoment cs with
  | some rest => some (.date, rest)
  | none =>
    match readFloat cs with
    | some (x, rest) => some (.float x, rest)
    | none => (readInteger cs).map fun (n, rest) => (.integer n, rest)

end Companion.Toml
