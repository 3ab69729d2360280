import Companion.Json.Fault
import Companion.Json.Value
import Companion.Number.Decimal

/-!
The tokens of JSON: blanks, words, numbers and strings. Digits go into an integer of 64 bits until
the next one does not fit; the others only move the exponent. Such a number is multiplied by or
divided by a power of ten once, so the last binary digit of a long number may differ from that of
the nearest double. A string is checked character by character, and its surrogates in pairs.
-/

namespace Companion.Json

open Number Text

def isSpace (s : Symbol) : Bool :=
  s == .char ' ' || s == .char '\t' || s == .char '\n' || s == .char '\r'

def dropSpace (s : List Symbol) : List Symbol := s.dropWhile isSpace

/-- The letters that must follow the first one of a word. -/
def readWord : List Char → List Symbol → Except Fault (List Symbol)
  | [], s => .ok s
  | _ :: _, [] => .error (fault .endInValue [])
  | c :: cs, x :: rest =>
    if x = .char c then readWord cs rest else .error (faultAt .expectedWord (x :: rest))

def takeDigits : List Symbol → List Char × List Symbol
  | .char c :: rest =>
    if c.isDigit then
      let (ds, left) := takeDigits rest
      (c :: ds, left)
    else ([], .char c :: rest)
  | s => ([], s)

def startsWith (p : Char → Bool) : List Symbol → Bool
  | .char c :: _ => p c
  | _ => false

def isExponentMark (c : Char) : Bool := c == 'e' || c == 'E'

/-- The greatest integer of 64 bits. -/
def wordLimit : Nat := UInt64.size - 1

/-- Digits added to `n` while they fit, and how many they were. -/
def absorb : Nat → List Char → Nat × Nat
  | n, [] => (n, 0)
  | n, c :: cs =>
    if wordLimit < 10 * n + digitValue c then (n, 0)
    else
      let (m, k) := absorb (10 * n + digitValue c) cs
      (m, k + 1)

/-- The greatest power of ten that a double comes near to. -/
def greatestPower : Nat := 308

/-- `x · 10 ^ e`, in one step where the power is a double; nothing where the answer is infinite. -/
def scale : Nat → Double → Int → Option Double
  | 0, _, _ => some .zero
  | n + 1, x, e =>
    if e.natAbs ≤ greatestPower then
      if 0 ≤ e then
        match x.mul (.ofNat (Nat.pow 10 e.natAbs)) with
        | .finite s u => some (.finite s u)
        | _ => none
      else some (x.div (.ofNat (Nat.pow 10 e.natAbs)))
    else if x = .zero then some x
    else if 0 ≤ e then none
    else scale n (x.div (.ofNat (Nat.pow 10 greatestPower))) (e + greatestPower)

/-- A double from its digits and its exponent; three divisions are enough to reach zero. -/
def realOf (negative : Bool) (significand : Nat) (exponent : Int) : Option Double :=
  (scale 4 (.ofNat significand) exponent).map fun x => if negative then x.neg else x

def exponentLimit : Nat := UInt32.size / 2 - 1

/-- The digits of an exponent; the left side is what is left where the exponent leaves the range. -/
def exponentDigits : Nat → List Symbol → List Symbol ⊕ (Nat × List Symbol)
  | n, .char c :: rest =>
    if c.isDigit then
      if exponentLimit < 10 * n + digitValue c then .inl rest
      else exponentDigits (10 * n + digitValue c) rest
    else .inr (n, .char c :: rest)
  | n, s => .inr (n, s)

/-- An exponent, its mark already read, and with it the number. -/
def readExponent (negative : Bool) (significand : Nat) (start : Int) : Reader Numeral := fun s =>
  let (down, afterSign) := match s with
    | .char '+' :: rest => (false, rest)
    | .char '-' :: rest => (true, rest)
    | _ => (false, s)
  match afterSign with
  | [] => .error (fault .endInValue [])
  | x :: _ =>
    if startsWith Char.isDigit [x] then
      match exponentDigits 0 afterSign with
      | .inl rest =>
        if significand ≠ 0 ∧ down = false then .error (fault .numberOutOfRange rest)
        else .ok (.real (.finite negative 0), (takeDigits rest).2)
      | .inr (e, rest) =>
        match realOf negative significand (if down then start - e else start + e) with
        | some x => .ok (.real x, rest)
        | none => .error (fault .numberOutOfRange rest)
    else .error (faultAt .invalidNumber afterSign)

def finishReal (negative : Bool) (significand : Nat) (exponent : Int) : Reader Numeral := fun s =>
  if startsWith isExponentMark s then readExponent negative significand exponent (s.drop 1)
  else
    match realOf negative significand exponent with
    | some x => .ok (.real x, s)
    | none => .error (fault .numberOutOfRange s)

def readFraction (negative : Bool) (significand : Nat) (exponent : Int) : Reader Numeral := fun s =>
  let (ds, rest) := takeDigits s
  if ds.isEmpty then
    .error (faultAt (if rest.isEmpty then .endInValue else .invalidNumber) rest)
  else
    let (m, k) := absorb significand ds
    finishReal negative m (exponent - k) rest

/-- An integer that fits: a negative one may go down to minus 2⁶³, and minus zero is a double. -/
def wholeOf (negative : Bool) (n : Nat) : Numeral :=
  if negative then
    if 0 < n ∧ n ≤ UInt64.size / 2 then .whole (-(n : Int)) else .real (Double.ofNat n).neg
  else .whole n

/-- A number, its minus sign already read. -/
def readNumber (negative : Bool) : Reader Numeral := fun s =>
  match s with
  | [] => .error (fault .endInValue [])
  | x :: tail =>
    if ¬ startsWith Char.isDigit s then .error (faultAt .invalidNumber s)
    else if x = .char '0' ∧ startsWith Char.isDigit tail then .error (faultAt .invalidNumber tail)
    else
      let (ds, rest) := takeDigits s
      let (m, k) := absorb 0 ds
      let exponent : Int := ds.length - k
      if startsWith (· == '.') rest then readFraction negative m exponent (rest.drop 1)
      else if startsWith isExponentMark rest ∨ k < ds.length then
        finishReal negative m exponent rest
      else .ok (wholeOf negative m, rest)

def hexValue? (c : Char) : Option Nat :=
  if c.isDigit then some (c.toNat - 48)
  else if 'a' ≤ c ∧ c ≤ 'f' then some (c.toNat - 87)
  else if 'A' ≤ c ∧ c ≤ 'F' then some (c.toNat - 55)
  else none

def readHex : Reader Nat := fun s =>
  let short := if octetCount s < 4 then Fault.mk .endInString 0 else faultPast 4 .invalidEscape s
  match s with
  | .char a :: .char b :: .char c :: .char d :: rest =>
    match hexValue? a, hexValue? b, hexValue? c, hexValue? d with
    | some a, some b, some c, some d => .ok (((a * 16 + b) * 16 + c) * 16 + d, rest)
    | _, _, _, _ => .error short
  | _ => .error short

def readInside (c : Char) (otherwise : Cause) : List Symbol → Except Fault (List Symbol)
  | [] => .error (fault .endInString [])
  | x :: rest => if x = .char c then .ok rest else .error (faultAt otherwise (x :: rest))

/-- A character by its code: one escape, or two for a pair of surrogates. -/
def readCode : Reader Char := fun s => do
  let (n, rest) ← readHex s
  if 0xDC00 ≤ n ∧ n ≤ 0xDFFF then .error (fault .loneSurrogate rest)
  else if n < 0xD800 ∨ 0xDBFF < n then .ok (Char.ofNat n, rest)
  else
    let rest ← readInside '\\' .unfinishedSurrogate rest
    let rest ← readInside 'u' .unfinishedSurrogate rest
    let (m, rest) ← readHex rest
    if m < 0xDC00 ∨ 0xDFFF < m then .error (fault .loneSurrogate rest)
    else .ok (Char.ofNat ((n - 0xD800) * 1024 + (m - 0xDC00) + 0x10000), rest)

def escapedChar? (c : Char) : Option Char :=
  match c with
  | '"' => some '"'
  | '\\' => some '\\'
  | '/' => some '/'
  | 'b' => some '\x08'
  | 'f' => some '\x0c'
  | 'n' => some '\n'
  | 'r' => some '\r'
  | 't' => some '\t'
  | _ => none

def readEscape : Reader Char
  | [] => .error (fault .endInString [])
  | .stray o :: rest => .error (faultAt .invalidEscape (.stray o :: rest))
  | .char c :: rest =>
    if c = 'u' then readCode rest
    else match escapedChar? c with
      | some d => .ok (d, rest)
      | none => .error (faultAt .invalidEscape (.char c :: rest))

/-- What a string holds: its characters, backwards, and how many octets there are from the first
stray one on, if there is one. -/
structure Content where
  chars : List Char := []
  spoilt : Option Nat := none

def Content.push (content : Content) (c : Char) : Content :=
  ⟨c :: content.chars, content.spoilt.map (· + c.utf8Size)⟩

def Content.spoil (content : Content) : Content :=
  { content with spoilt := some (content.spoilt.getD 0 + 1) }

/-- The characters of a string that ended well, with what follows it. A stray octet is an error as
many octets before the end of the string as it and what follows it take in the content. -/
def Content.close (content : Content) : Reader (List Char) := fun rest =>
  match content.spoilt with
  | none => .ok (content.chars.reverse, rest)
  | some n => .error ⟨.invalidCharacter, octetCount rest + n⟩

/-- The characters of a string up to its closing quote, after those of `content`. -/
def readString : Nat → Content → Reader (List Char)
  | 0, _, s => .error (fault .endInString s)
  | _, _, [] => .error (fault .endInString [])
  | n + 1, content, .stray _ :: rest => readString n content.spoil rest
  | n + 1, content, .char c :: rest =>
    if c = '"' then content.close rest
    else if c = '\\' then do
      let (d, rest) ← readEscape rest
      readString n (content.push d) rest
    else if c.toNat < 0x20 then .error (fault .controlCharacter rest)
    else readString n (content.push c) rest

/-- A string, its opening quote already read. -/
def readText : Reader String := fun s => do
  let (cs, rest) ← readString s.length {} s
  .ok (String.ofList cs, rest)

end Companion.Json
