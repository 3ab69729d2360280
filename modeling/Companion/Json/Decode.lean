import Companion.Json.Reader
import Companion.Json.Skip

/-!
Reading values of a known shape. What stands in the place of something else is read far enough to
name it. A record is an object with named fields, of which unknown ones are passed over, or the list
of its fields in order; a choice is the name of a variant, or an object from that name to null.
-/

namespace Companion.Json

open Number Text

/-- The fault of finding something else than `expected`; a container is not entered. -/
def mismatch (expected : String) (s : List Symbol) : Fault :=
  let because (found : Found) (rest : List Symbol) : Fault :=
    fault (.invalidType found expected) rest
  let named (found : Found) : Except Fault (List Symbol) → Fault
    | .ok rest => because found rest
    | .error e => e
  let numbered : Except Fault (Numeral × List Symbol) → Fault
    | .ok (.whole n, rest) => because (.integer n) rest
    | .ok (.real x, rest) => because (.real x) rest
    | .error e => e
  match s with
  | .char 'n' :: rest => named .null (readWord "ull".toList rest)
  | .char 't' :: rest => named (.boolean true) (readWord "rue".toList rest)
  | .char 'f' :: rest => named (.boolean false) (readWord "alse".toList rest)
  | .char '-' :: rest => numbered (readNumber true rest)
  | .char '[' :: _ => because .sequence s
  | .char '\x7b' :: _ => because .map s
  | .char '"' :: rest =>
    match readText rest with
    | .ok (t, rest) => because (.text t) rest
    | .error e => e
  | .char c :: _ => if c.isDigit then numbered (readNumber false s) else faultAt .expectedValue s
  | _ => faultAt .expectedValue s

/-- A value that begins with one given character, from after it on. -/
def expecting {α : Type} (opener : Char) (expected : String) (read : Reader α) : Reader α :=
  fun s =>
  match dropSpace s with
  | [] => .error (fault .endInValue [])
  | x :: rest => if x = .char opener then read rest else .error (mismatch expected (x :: rest))

def decodeTextAs (expected : String) : Reader String := expecting '"' expected readText

def decodeText : Reader String := decodeTextAs "a string"

/-- An integer between two bounds, of the type called `name`. -/
def decodeInteger (low high : Int) (name : String) : Reader Int := fun s =>
  match dropSpace s with
  | [] => .error (fault .endInValue [])
  | x :: rest =>
    let bounded : Numeral × List Symbol → Except Fault (Int × List Symbol)
      | (.real y, rest) => .error (fault (.invalidType (.real y) name) rest)
      | (.whole n, rest) =>
        if low ≤ n ∧ n ≤ high then .ok (n, rest)
        else .error (fault (.invalidValue (.integer n) name) rest)
    if x = .char '-' then do bounded (← readNumber true rest)
    else if startsWith Char.isDigit [x] then do bounded (← readNumber false (x :: rest))
    else .error (mismatch name (x :: rest))

def decodeBool : Reader Bool := fun s =>
  match dropSpace s with
  | [] => .error (fault .endInValue [])
  | x :: rest =>
    if x = .char 't' then do .ok (true, ← readWord "rue".toList rest)
    else if x = .char 'f' then do .ok (false, ← readWord "alse".toList rest)
    else .error (mismatch "a boolean" (x :: rest))

def decodeUnit : Reader Unit := expecting 'n' "unit" fun s => do .ok ((), ← readWord "ull".toList s)

def decodeOption {α : Type} (read : Reader α) : Reader (Option α) := fun s =>
  match dropSpace s with
  | .char 'n' :: rest => do .ok (none, ← readWord "ull".toList rest)
  | s => do
    let (x, rest) ← read s
    .ok (some x, rest)

def decodeList {α : Type} (item : Reader α) : Reader (List α) :=
  expecting '[' "a sequence" fun s => readItems item (s.length + 1) true s

/-- An object as a fold over its members, in their order. -/
def decodeMembers {σ α : Type} (value : Reader α) (start : σ) (add : String → α → σ → σ) :
    Reader σ :=
  expecting '\x7b' "a map" fun s => readMembers (fun key state s => do
    let (x, s) ← value (← readColon s)
    .ok (add key x state, s)) (s.length + 1) true start s

/-- The end of an object where its reading stopped at `s`, for the place of a fault. -/
def pastObject (s : List Symbol) : List Symbol :=
  match dropSpace s with
  | .char '\x7d' :: rest => rest
  | s => s

/-- A field of a record under construction: how its value is put in place, and whether it is there.
-/
structure RecordField (σ : Type) where
  name : String
  required : Bool
  isSet : σ → Bool
  read : Reader (σ → σ)

/-- A record under construction with one more member of its object. -/
def readField {σ : Type} (fields : List (RecordField σ)) (key : String) (state : σ) : Reader σ :=
  fun s =>
  match fields.find? (·.name == key) with
  | some f =>
    if f.isSet state then .error (fault (.duplicateField key) (pastObject s))
    else do
      let (put, s) ← f.read (← readColon s)
      .ok (put state, s)
  | none => do .ok (state, ← skip (← readColon s))

/-- The fields of a record from a list of `total` items, of which the first `done` are read. -/
def readFields {σ : Type} (expected : String) :
    List (RecordField σ) → (done : Nat) → σ → Reader σ
  | [], _, state, s => do .ok (state, ← closeList s)
  | f :: fields, done, state, s => do
    let (more, s) ← moreItems (done == 0) s
    if more then
      let (put, s) ← f.read s
      readFields expected fields (done + 1) (put state) s
    else if f.required then .error (fault (.invalidLength done expected) (s.drop 1))
    else readFields expected fields (done + 1) state s

def decodeRecord {σ : Type} (name : String) (fields : List (RecordField σ)) (start : σ) :
    Reader σ := fun s =>
  match dropSpace s with
  | [] => .error (fault .endInValue [])
  | .char '[' :: rest =>
    readFields ("struct " ++ name ++ " with " ++ toString fields.length ++ " elements")
      fields 0 start rest
  | .char '\x7b' :: rest => do
    let (state, rest) ← readMembers (readField fields) (rest.length + 1) true start rest
    match fields.find? fun f => f.required && !f.isSet state with
    | some f => .error (fault (.missingField f.name) rest)
    | none => .ok (state, rest)
  | s => .error (mismatch ("struct " ++ name) s)

def eitherOf (a b : String) : String := "`" ++ a ++ "` or `" ++ b ++ "`"

/-- The name of a variant, its opening quote already read. -/
def readVariant {α : Type} (expected : String) (variants : List (String × α)) : Reader α :=
  fun s => do
  let (name, rest) ← readText s
  match variants.lookup name with
  | some x => .ok (x, rest)
  | none => .error (fault (.unknownVariant name expected) rest)

/-- The text after the quote of the only key of an object, which must be there. -/
def openKey (s : List Symbol) : Except Fault (List Symbol) :=
  match dropSpace s with
  | [] => .error (fault .endInObject [])
  | x :: rest =>
    if x = .char '"' then .ok rest
    else .error (faultAt (if x = .char '\x7d' then .expectedValue else .keyNotString) (x :: rest))

def decodeChoice {α : Type} (a : String × α) (b : String × α) : Reader α := fun s =>
  let variant := readVariant (eitherOf a.1 b.1) [a, b]
  match dropSpace s with
  | [] => .error (fault .endInValue [])
  | .char '"' :: rest => variant rest
  | .char '\x7b' :: rest => do
    let (x, rest) ← variant (← openKey rest)
    let (_, rest) ← decodeUnit (← readColon rest)
    match dropSpace rest with
    | [] => .error (fault .endInObject [])
    | y :: rest =>
      if y = .char '\x7d' then .ok (x, rest) else .error (fault .expectedValue (y :: rest))
  | s => .error (faultAt .expectedValue s)

end Companion.Json
