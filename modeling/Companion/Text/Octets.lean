/-!
Octets and the characters they encode. A text is stored as the octets of its UTF-8 form. Octets
that came from elsewhere may hold anything, so they are read as a list of symbols: characters, and
stray octets that belong to none.
-/

namespace Companion.Text

abbrev Octets := List UInt8

def utf8 (cs : List Char) : Octets := (String.ofList cs).toUTF8.data.toList

def ofUtf8? (octets : Octets) : Option (List Char) :=
  octets.toByteArray.utf8Decode?.map (·.toList)

def utf8Size (cs : List Char) : Nat := cs.foldr (fun c n => c.utf8Size + n) 0

/-- How many characters of a text lie in its first `n` octets. -/
def charsWithin (n : Nat) : List Char → Nat
  | [] => 0
  | c :: cs => if c.utf8Size ≤ n then charsWithin (n - c.utf8Size) cs + 1 else 0

/-- A character, or an octet that belongs to no character. -/
inductive Symbol
  | char (c : Char)
  | stray (octet : UInt8)
  deriving DecidableEq, Repr

def Symbol.size : Symbol → Nat
  | .char c => c.utf8Size
  | .stray _ => 1

def octetCount (symbols : List Symbol) : Nat := symbols.foldr (fun s n => s.size + n) 0

/-- Characters where the octets hold some, and stray octets between them. -/
def scatter (octets : Octets) : List Symbol :=
  match octets with
  | [] => []
  | o :: rest =>
    match (o :: rest.take 3).toByteArray.utf8DecodeChar? 0 with
    | some c => .char c :: scatter (rest.drop (c.utf8Size - 1))
    | none => .stray o :: scatter rest
termination_by octets.length
decreasing_by
  · rw [List.length_drop, List.length_cons]
    omega
  · exact Nat.lt_succ_self _

def symbolsOf (cs : List Char) : List Symbol := cs.map .char

/-- The symbols of any octets: those of the text they encode, or as many characters as can be found.
-/
def symbolsOfOctets (octets : Octets) : List Symbol :=
  match ofUtf8? octets with
  | some cs => symbolsOf cs
  | none => scatter octets

def charsOf? : List Symbol → Option (List Char)
  | [] => some []
  | .char c :: rest => (charsOf? rest).map (c :: ·)
  | .stray _ :: _ => none

def hexDigit (n : Nat) : Char :=
  if n < 10 then Char.ofNat (48 + n) else Char.ofNat (87 + n)

def hex (octets : Octets) : String :=
  String.ofList (octets.flatMap fun o => [hexDigit (o.toNat / 16), hexDigit (o.toNat % 16)])

end Companion.Text
