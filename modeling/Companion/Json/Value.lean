import Companion.Number.Double
import Companion.Table

/-!
JSON values. A number is an integer of at most 64 bits or a double. The members of an object are
listed by rising key, each key once.
-/

namespace Companion.Json

open Number

inductive Numeral
  | whole (n : Int)
  | real (x : Double)
  deriving DecidableEq, Repr

def Numeral.toDouble : Numeral → Double
  | .whole n => .ofInt n
  | .real x => x

inductive Value
  | null
  | bool (b : Bool)
  | number (n : Numeral)
  | string (s : String)
  | array (items : List Value)
  | object (members : List (String × Value))
  deriving Repr, Inhabited

def Value.get? (key : String) : Value → Option Value
  | .object members => valueOf? key members
  | _ => none

def Value.at? (i : Nat) : Value → Option Value
  | .array items => items[i]?
  | _ => none

def Value.text? : Value → Option String
  | .string s => some s
  | _ => none

def Value.kindName : Value → String
  | .null => "null"
  | .bool _ => "a boolean"
  | .number _ => "a number"
  | .string _ => "a string"
  | .array _ => "an array"
  | .object _ => "an object"

end Companion.Json
