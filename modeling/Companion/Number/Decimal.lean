import Companion.Number.Shortest

/-!
Reading decimal numbers, rounded correctly. A numeral is an optional sign, digits with at most one
point among them, at least one digit, and an optional exponent; besides numerals there are names for
infinity and for what is no number.
-/

namespace Companion.Number

def digitValue (c : Char) : Nat := c.toNat - 48

def ofDigits (cs : List Char) : Nat := cs.foldl (fun n c => 10 * n + digitValue c) 0

/-- The double nearest to `mantissa · 10 ^ exponent`. Beyond four hundred places on either side the
answer is known without computing the power. -/
def Double.ofDecimal (negative : Bool) (mantissa : Nat) (exponent : Int) : Double :=
  let places := exponent + (Nat.toDigits 10 mantissa).length
  if mantissa = 0 ∨ places < -400 then .finite negative 0
  else if 400 < places then .infinite negative
  else Format.double.nearest negative (mantissa * unitsPerOne * Nat.pow 10 exponent.toNat)
    (Nat.pow 10 (-exponent).toNat)

/-- An exponent: a sign and at least one digit, and nothing else. -/
def readExponent? (cs : List Char) : Option Int :=
  let (negative, digits) := match cs with
    | '-' :: rest => (true, rest)
    | '+' :: rest => (false, rest)
    | _ => (false, cs)
  if digits.isEmpty || !digits.all Char.isDigit then none
  else some (if negative then -(ofDigits digits : Int) else ofDigits digits)

def readNumeral? (negative : Bool) (cs : List Char) : Option Double :=
  let whole := cs.takeWhile Char.isDigit
  let afterWhole := cs.dropWhile Char.isDigit
  let (fraction, afterFraction) := match afterWhole with
    | '.' :: rest => (rest.takeWhile Char.isDigit, rest.dropWhile Char.isDigit)
    | _ => ([], afterWhole)
  if whole.isEmpty && fraction.isEmpty then none
  else
    let mantissa := ofDigits (whole ++ fraction)
    match afterFraction with
    | [] => some (.ofDecimal negative mantissa (-fraction.length))
    | c :: rest =>
      if c = 'e' ∨ c = 'E' then
        (readExponent? rest).map fun e => .ofDecimal negative mantissa (e - fraction.length)
      else none

/-- A number as people write it: a numeral, or a name in any case. -/
def Double.read? (cs : List Char) : Option Double :=
  let (negative, body) := match cs with
    | '-' :: rest => (true, rest)
    | '+' :: rest => (false, rest)
    | _ => (false, cs)
  let name := body.map Char.toLower
  if name = "inf".toList ∨ name = "infinity".toList then some (.infinite negative)
  else if name = "nan".toList then some .nan
  else readNumeral? negative body

end Companion.Number
