import Companion.Number.Shortest
import Companion.Text.Octets
import Companion.Text.Quoted

/-!
What can be wrong with a JSON text, and where. A fault knows how many octets were left when it was
found; the line and the column follow from the whole text. A column counts the octets of its line up
to and with the offending one.
-/

namespace Companion.Json

open Number Text

/-- Numbers are written with the fewest digits, plainly while the decimal exponent is between minus
five and fifteen, and else with an exponent that has its sign. -/
def layout : Layout := ⟨-5, 15, 'e', true⟩

/-- A double in JSON, where a number that is not finite is null. -/
def printDouble (x : Double) : List Char :=
  (layout.print? .double x).getD ['n', 'u', 'l', 'l']

inductive Found
  | null
  | boolean (b : Bool)
  | integer (n : Int)
  | real (x : Double)
  | text (s : String)
  | sequence
  | map
  deriving DecidableEq, Repr

def Found.describe : Found → String
  | .null => "null"
  | .boolean b => if b then "boolean `true`" else "boolean `false`"
  | .integer n => "integer `" ++ toString n ++ "`"
  | .real x => "floating point `" ++ String.ofList (printDouble x) ++ "`"
  | .text s => "string " ++ quoted s
  | .sequence => "sequence"
  | .map => "map"

inductive Cause
  | endInList
  | endInObject
  | endInString
  | endInValue
  | expectedColon
  | expectedCommaOrBracket
  | expectedCommaOrBrace
  | expectedWord
  | expectedValue
  | invalidEscape
  | invalidNumber
  | numberOutOfRange
  | invalidCharacter
  | controlCharacter
  | keyNotString
  | loneSurrogate
  | unfinishedSurrogate
  | trailingComma
  | trailingCharacters
  | tooDeep
  | invalidType (found : Found) (expected : String)
  | invalidValue (found : Found) (expected : String)
  | invalidLength (n : Nat) (expected : String)
  | missingField (name : String)
  | duplicateField (name : String)
  | unknownVariant (name : String) (expected : String)
  | timestamp (reason : String)
  deriving DecidableEq, Repr

def Cause.message : Cause → String
  | .endInList => "EOF while parsing a list"
  | .endInObject => "EOF while parsing an object"
  | .endInString => "EOF while parsing a string"
  | .endInValue => "EOF while parsing a value"
  | .expectedColon => "expected `:`"
  | .expectedCommaOrBracket => "expected `,` or `]`"
  | .expectedCommaOrBrace => "expected `,` or `\x7d`"
  | .expectedWord => "expected ident"
  | .expectedValue => "expected value"
  | .invalidEscape => "invalid escape"
  | .invalidNumber => "invalid number"
  | .numberOutOfRange => "number out of range"
  | .invalidCharacter => "invalid unicode code point"
  | .controlCharacter => "control character (\\u0000-\\u001F) found while parsing a string"
  | .keyNotString => "key must be a string"
  | .loneSurrogate => "lone leading surrogate in hex escape"
  | .unfinishedSurrogate => "unexpected end of hex escape"
  | .trailingComma => "trailing comma"
  | .trailingCharacters => "trailing characters"
  | .tooDeep => "recursion limit exceeded"
  | .invalidType found expected => "invalid type: " ++ found.describe ++ ", expected " ++ expected
  | .invalidValue found expected => "invalid value: " ++ found.describe ++ ", expected " ++ expected
  | .invalidLength n expected => "invalid length " ++ toString n ++ ", expected " ++ expected
  | .missingField name => "missing field `" ++ name ++ "`"
  | .duplicateField name => "duplicate field `" ++ name ++ "`"
  | .unknownVariant name expected => "unknown variant `" ++ name ++ "`, expected " ++ expected
  | .timestamp reason => reason

/-- A cause, and how many octets were left when it was found. -/
structure Fault where
  cause : Cause
  left : Nat
  deriving DecidableEq, Repr

/-- A fault found once everything in front of `rest` was read. -/
def fault (cause : Cause) (rest : List Symbol) : Fault := ⟨cause, octetCount rest⟩

/-- A fault found `n` octets further on. -/
def faultPast (n : Nat) (cause : Cause) (rest : List Symbol) : Fault := ⟨cause, octetCount rest - n⟩

/-- A fault found at the first octet of `rest`, or at the end. -/
def faultAt (cause : Cause) (rest : List Symbol) : Fault := faultPast 1 cause rest

/-- A line, counted from one, and the octets of it that were read. -/
structure Position where
  line : Nat
  column : Nat
  deriving DecidableEq, Repr

def Position.advance (p : Position) : Nat → List Symbol → Position
  | _, [] => p
  | n, s :: rest =>
    if n = 0 then p
    else if n < s.size then ⟨p.line, p.column + n⟩
    else if s = .char '\n' then Position.advance ⟨p.line + 1, 0⟩ (n - s.size) rest
    else Position.advance ⟨p.line, p.column + s.size⟩ (n - s.size) rest

def Fault.position (f : Fault) (text : List Symbol) : Position :=
  Position.advance ⟨1, 0⟩ (octetCount text - f.left) text

def Fault.message (f : Fault) (text : List Symbol) : String :=
  let p := f.position text
  f.cause.message ++ " at line " ++ toString p.line ++ " column " ++ toString p.column

/-- A reader takes a value off the front of a text and gives what is left. -/
abbrev Reader (α : Type) := List Symbol → Except Fault (α × List Symbol)

end Companion.Json
