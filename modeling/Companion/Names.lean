import Companion.Store
import Companion.Text.Lowercase
import Companion.Text.Word

/-!
Names of users. A name is compared without the blanks around it, without one marker in front and in
small letters. Names are not unique: of several records with one name the first that the backend
lists is found. A mention in a text is the marker with a word after it and no word before it.
-/

namespace Companion

open Text Time

def marker : Char := '@'

namespace Names

def unmarked : List Char → List Char
  | [] => []
  | c :: cs => if c = marker then cs else c :: cs

/-- The form in which names are compared. -/
def normalize (name : String) : String :=
  String.ofList (lowercase (trim (unmarked (trim name.toList))))

/-- The record goes by a name, which is given in the form in which names are compared. -/
def answersTo (wanted : String) (record : UserRecord) : Bool :=
  match record.username with
  | some name => normalize name == wanted
  | none => false

variable {σ : Type} [Backend σ]

/-- The first record that goes by a name and passes a test; none goes by an empty name. -/
def findWhere (passes : UserRecord → Bool) (now : Instant) (name : String) (s : Store σ) :
    Option UserRecord × Store σ :=
  let wanted := normalize name
  if wanted = "" then (none, s)
  else
    let (records, s) := s.listAll UserRecord now
    (records.find? fun r => passes r && answersTo wanted r, s)

def find : Instant → String → Store σ → Option UserRecord × Store σ := findWhere fun _ => true

def findOther (asker : Int64) : Instant → String → Store σ → Option UserRecord × Store σ :=
  findWhere fun r => r.id != asker

/-- The names mentioned in a text, where `inWord` tells whether a word goes on before it. -/
def mentionsFrom (inWord : Bool) : List Char → List (List Char)
  | [] => []
  | c :: cs =>
    let name := cs.takeWhile isWord
    if c = marker ∧ inWord = false ∧ name ≠ [] then name :: mentionsFrom (isWord c) cs
    else mentionsFrom (isWord c) cs

def mentions (text : String) : List String := (mentionsFrom false text.toList).map String.ofList

/-- The record of the first name among several that belongs to another user than the one who asks.
-/
def resolve (asker : Int64) (now : Instant) : List String → Store σ → Option UserRecord × Store σ
  | [], s => (none, s)
  | name :: rest, s =>
    match findOther asker now name s with
    | (some record, s) => (some record, s)
    | (none, s) => resolve asker now rest s

end Names

end Companion
