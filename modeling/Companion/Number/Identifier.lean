import Companion.Number.Decimal

/-!
Identifiers are integers of 64 bits, written in decimal. Reading one fails at the first character
that settles the matter: one that is no digit, or a digit with which the number leaves the range.
-/

namespace Companion.Number

inductive IdentifierError
  | empty
  | invalidDigit
  | tooLarge
  | tooSmall
  deriving DecidableEq, Repr

def IdentifierError.message : IdentifierError → String
  | .empty => "cannot parse integer from empty string"
  | .invalidDigit => "invalid digit found in string"
  | .tooLarge => "number too large to fit in target type"
  | .tooSmall => "number too small to fit in target type"

/-- The digits of a number whose magnitude may be at most `limit`. -/
def readDigits (limit : Nat) (overflow : IdentifierError) :
    Nat → List Char → Except IdentifierError Nat
  | n, [] => .ok n
  | n, c :: cs =>
    if !c.isDigit then .error .invalidDigit
    else if limit < 10 * n + digitValue c then .error overflow
    else readDigits limit overflow (10 * n + digitValue c) cs

def readIdentifier (cs : List Char) : Except IdentifierError Int64 :=
  match cs with
  | [] => .error .empty
  | ['-'] => .error .invalidDigit
  | ['+'] => .error .invalidDigit
  | '-' :: rest =>
    (readDigits (UInt64.size / 2) .tooSmall 0 rest).map fun n => Int64.ofInt (-(n : Int))
  | '+' :: rest => (readDigits (UInt64.size / 2 - 1) .tooLarge 0 rest).map Int64.ofNat
  | _ => (readDigits (UInt64.size / 2 - 1) .tooLarge 0 cs).map Int64.ofNat

def writeInt (n : Int) : List Char :=
  (if n < 0 then ['-'] else []) ++ Nat.toDigits 10 n.natAbs

def writeIdentifier (n : Int64) : String := String.ofList (writeInt n.toInt)

end Companion.Number
