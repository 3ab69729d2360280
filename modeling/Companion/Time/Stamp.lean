import Companion.Number.Decimal
import Companion.Text.Blank
import Companion.Time.Instant

/-!
Timestamps as text. Written in universal time with a Z, and with as many groups of three digits
after the second as are needed. Read with any offset, a small t or a blank between date and time,
and blanks in front of numbers; digits after the ninth are dropped.
-/

namespace Companion.Time

open Number Text

inductive StampError
  | tooShort
  | invalid
  | outOfRange
  | tooLong
  | impossible
  deriving DecidableEq, Repr

def StampError.message : StampError → String
  | .tooShort => "premature end of input"
  | .invalid => "input contains invalid characters"
  | .outOfRange => "input is out of range"
  | .tooLong => "trailing input"
  | .impossible => "no possible date and time matching input"

/-- The last `width` digits of a number, with zeros in front. -/
def padded : Nat → Nat → List Char
  | 0, _ => []
  | width + 1, n => padded width (n / 10) ++ [Char.ofNat (48 + n % 10)]

/-- A year: four digits, or a sign and at least four digits. -/
def printYear (year : Int) : List Char :=
  if 0 ≤ year ∧ year ≤ 9999 then padded 4 year.toNat
  else
    let digits := Nat.toDigits 10 year.natAbs
    (if year < 0 then '-' else '+') :: List.replicate (4 - digits.length) '0' ++ digits

def printFraction (nano : Nat) : List Char :=
  if nano = 0 then []
  else if nano % 1000000 = 0 then '.' :: padded 3 (nano / 1000000)
  else if nano % 1000 = 0 then '.' :: padded 6 (nano / 1000)
  else '.' :: padded 9 nano

def Instant.print (t : Instant) : List Char :=
  let leap := nanosPerSecond ≤ t.nano
  printYear t.date.year ++ '-' :: padded 2 t.date.month ++ '-' :: padded 2 t.date.day ++
    'T' :: padded 2 (t.second / 3600) ++ ':' :: padded 2 (t.second / 60 % 60) ++
    ':' :: padded 2 (t.second % 60 + if leap then 1 else 0) ++
    printFraction (if leap then t.nano - nanosPerSecond else t.nano) ++ ['Z']

def Instant.render (t : Instant) : String := String.ofList t.print

/-- A piece of a timestamp, and what is left of the text. -/
abbrev StampReader (α : Type) := List Char → Except StampError (α × List Char)

def numberLimit : Nat := UInt64.size / 2 - 1

/-- A number of one to `width` digits. -/
def stampNumber (width : Nat) : StampReader Nat := fun cs =>
  let digits := (cs.take width).takeWhile Char.isDigit
  let n := ofDigits digits
  if digits.isEmpty then .error (if cs.isEmpty then .tooShort else .invalid)
  else if numberLimit < n then .error .outOfRange
  else .ok (n, cs.drop digits.length)

/-- A number of one or two digits between two bounds, after blanks. -/
def stampField (low high : Nat) : StampReader Nat := fun cs => do
  let (n, rest) ← stampNumber 2 (trimStart cs)
  if low ≤ n ∧ n ≤ high then .ok (n, rest) else .error .outOfRange

/-- A year: four digits, or a sign and any number of them. -/
def stampYear : StampReader Int := fun cs => do
  let cs := trimStart cs
  let (year, rest) ← match cs with
    | '-' :: rest => do
      let (n, left) ← stampNumber rest.length rest
      pure (-(n : Int), left)
    | '+' :: rest => do
      let (n, left) ← stampNumber rest.length rest
      pure ((n : Int), left)
    | _ => do
      let (n, left) ← stampNumber 4 cs
      pure ((n : Int), left)
  if Int32.minValue.toInt ≤ year ∧ year ≤ Int32.maxValue.toInt then .ok (year, rest)
  else .error .outOfRange

/-- A separator, after blanks. -/
def separator (c : Char) (cs : List Char) : Except StampError (List Char) :=
  match trimStart cs with
  | [] => .error .tooShort
  | d :: rest => if d = c then .ok rest else .error .invalid

def timeMark (cs : List Char) : Except StampError (List Char) :=
  match cs with
  | [] => .error .tooShort
  | c :: rest => if c = 'T' ∨ c = 't' ∨ c = ' ' then .ok rest else .error .invalid

/-- The nanoseconds, if a point follows. -/
def stampFraction : StampReader Nat := fun cs =>
  match cs with
  | '.' :: rest => do
    let (n, left) ← stampNumber 9 rest
    .ok (n * Nat.pow 10 (9 - (rest.length - left.length)), left.dropWhile Char.isDigit)
  | _ => .ok (0, cs)

/-- Two digits of an offset, the first one at most `top`. -/
def offsetPart (top : Char) : StampReader Nat := fun cs =>
  match cs with
  | a :: b :: rest =>
    if a.isDigit && b.isDigit then
      if a ≤ top then .ok (10 * digitValue a + digitValue b, rest) else .error .outOfRange
    else .error .invalid
  | [a] => .error (if a.utf8Size < 2 then .tooShort else .invalid)
  | [] => .error .tooShort

/-- A character that may stand between the hours and the minutes of an offset. -/
def isOffsetGap (c : Char) : Bool := c == ':' || isBlank c

/-- An offset in seconds, its sign already read. -/
def signedOffset (negative : Bool) : StampReader Int := fun cs => do
  let (hours, rest) ← offsetPart '9' cs
  let (minutes, rest) ← offsetPart '5' (rest.dropWhile isOffsetGap)
  let seconds : Int := hours * 3600 + minutes * 60
  .ok (if negative then -seconds else seconds, rest)

def stampOffset : StampReader Int := fun cs =>
  match cs with
  | [] => .error .tooShort
  | c :: rest =>
    if c = 'Z' ∨ c = 'z' then .ok (0, rest)
    else if (cs.take 3).map Char.toLower = ['u', 't', 'c'] then .ok (0, cs.drop 3)
    else if c = '+' then signedOffset false rest
    else if c = '-' ∨ c = Char.ofNat 0x2212 then signedOffset true rest
    else .error .invalid

/-- An instant from its local date and second, an offset away from universal time. -/
def fromLocal (date : Date) (second nano : Nat) (offset : Int) : Except StampError Instant :=
  let shifted : Int := second - offset
  let day := if shifted < 0 then date.previous?
    else if (secondsPerDay : Int) ≤ shifted then date.next? else some date
  match day.bind fun d => Instant.of? d (shifted % secondsPerDay).toNat nano with
  | some t => .ok t
  | none => .error .impossible

def parseStamp (cs : List Char) : Except StampError Instant := do
  let (year, rest) ← stampYear cs
  let (month, rest) ← stampField 1 12 (← separator '-' rest)
  let (day, rest) ← stampField 1 31 (← separator '-' rest)
  let (hour, rest) ← stampField 0 23 (← timeMark rest)
  let (minute, rest) ← stampField 0 59 (← separator ':' rest)
  let (second, rest) ← stampField 0 60 (← separator ':' rest)
  let (fraction, rest) ← stampFraction rest
  let (offset, rest) ← stampOffset (trimStart rest)
  if !(trimStart rest).isEmpty then .error .tooLong
  else match Date.of? year month day with
    | none => .error .outOfRange
    | some date =>
      if offset.natAbs < secondsPerDay then
        let leap := second = 60
        fromLocal date (hour * 3600 + minute * 60 + if leap then 59 else second)
          (fraction + if leap then nanosPerSecond else 0) offset
      else .error .outOfRange

end Companion.Time
