import Companion.Json.Fault
import Companion.Json.Value
import Companion.Number.Identifier

/-!
Writing values without blanks. In a string the quote, the backslash and the controls are escaped and
nothing else; five controls have letters of their own.
-/

namespace Companion.Json

open Number Text

def printChar (c : Char) : List Char :=
  match c with
  | '"' => ['\\', '"']
  | '\\' => ['\\', '\\']
  | '\x08' => ['\\', 'b']
  | '\x0c' => ['\\', 'f']
  | '\n' => ['\\', 'n']
  | '\r' => ['\\', 'r']
  | '\t' => ['\\', 't']
  | _ =>
    if c.toNat < 0x20 then
      ['\\', 'u', '0', '0', hexDigit (c.toNat / 16), hexDigit (c.toNat % 16)]
    else [c]

def printString (s : String) : List Char := '"' :: s.toList.flatMap printChar ++ ['"']

def Numeral.print : Numeral → List Char
  | .whole n => writeInt n
  | .real x => printDouble x

mutual

def Value.print : Value → List Char
  | .null => "null".toList
  | .bool b => if b then "true".toList else "false".toList
  | .number n => n.print
  | .string s => printString s
  | .array items => '[' :: printItems items ++ [']']
  | .object members => '\x7b' :: printMembers members ++ ['\x7d']

def printItems : List Value → List Char
  | [] => []
  | [v] => v.print
  | v :: rest => v.print ++ ',' :: printItems rest

def printMembers : List (String × Value) → List Char
  | [] => []
  | [(k, v)] => printString k ++ ':' :: v.print
  | (k, v) :: rest => printString k ++ ':' :: v.print ++ ',' :: printMembers rest

end

def Value.render (v : Value) : String := String.ofList v.print

end Companion.Json
