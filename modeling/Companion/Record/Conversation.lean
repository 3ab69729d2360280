import Companion.Json.Decode
import Companion.Json.Printer
import Companion.Time.Stamp

/-!
What is said in a conversation, and its JSON form. Each type is written as an object with its fields
in order; reading takes the fields in any order and passes over others.
-/

namespace Companion

open Number Text Time Json

inductive Role
  | user
  | assistant
  deriving DecidableEq, Repr

def Role.name : Role → String
  | .user => "user"
  | .assistant => "assistant"

def Role.read : Reader Role := decodeChoice ("user", .user) ("assistant", .assistant)

inductive RecordKind
  | user
  | group
  deriving DecidableEq, Repr

namespace RecordKind

def name : RecordKind → String
  | .user => "user"
  | .group => "group"

def space : RecordKind → String
  | .user => "user"
  | .group => "group"

/-- The namespace where unreadable records of a kind are kept. -/
def backupSpace : RecordKind → String
  | .user => "user_backup"
  | .group => "group_backup"

def read : Reader RecordKind := decodeChoice ("user", .user) ("group", .group)

end RecordKind

structure HistoryEntry where
  role : Role
  content : String
  timestamp : Instant
  deriving DecidableEq, Repr

structure GroupMessage where
  sender : String
  content : String
  timestamp : Instant
  deriving DecidableEq, Repr

structure Line where
  speaker : Role
  content : String
  deriving DecidableEq, Repr

def printStamp (t : Instant) : List Char := printString t.render

def readStamp : Reader Instant := fun s => do
  let (text, rest) ← decodeTextAs "an RFC 3339 formatted date and time string" s
  match parseStamp text.toList with
  | .ok t => .ok (t, rest)
  | .error e => .error (fault (.timestamp e.message) rest)

def readId : Reader Int64 := fun s => do
  let (n, rest) ← decodeInteger Int64.minValue.toInt Int64.maxValue.toInt "i64" s
  .ok (.ofInt n, rest)

def printFields : List (String × List Char) → List Char
  | [] => []
  | [(name, value)] => printString name ++ ':' :: value
  | (name, value) :: rest => printString name ++ ':' :: value ++ ',' :: printFields rest

def printObject (fields : List (String × List Char)) : List Char :=
  '\x7b' :: printFields fields ++ ['\x7d']

def printList {α : Type} (item : α → List Char) : List α → List Char
  | [] => ['[', ']']
  | x :: rest => '[' :: item x ++ rest.flatMap (fun y => ',' :: item y) ++ [']']

def HistoryEntry.print (e : HistoryEntry) : List Char :=
  printObject [("role", printString e.role.name), ("content", printString e.content),
    ("timestamp", printStamp e.timestamp)]

def GroupMessage.print (m : GroupMessage) : List Char :=
  printObject [("sender", printString m.sender), ("content", printString m.content),
    ("timestamp", printStamp m.timestamp)]

def Line.print (l : Line) : List Char :=
  printObject [("speaker", printString l.speaker.name), ("content", printString l.content)]

/-- Fields of a type whose fields are all required, found so far. -/
abbrev Found3 (α β γ : Type) := Option α × Option β × Option γ

def fieldOf {σ α : Type} (name : String) (read : Reader α) (get : σ → Option α)
    (set : α → σ → σ) : RecordField σ where
  name := name
  required := true
  isSet := fun s => (get s).isSome
  read := fun s => do
    let (x, rest) ← read s
    .ok (set x, rest)

def optionalField {σ α : Type} (name : String) (read : Reader α) (get : σ → Option α)
    (set : α → σ → σ) : RecordField σ :=
  { fieldOf name read get set with required := false }

/-- A reader for a type whose required fields are all found when it has read them. -/
def finish {σ α : Type} (read : Reader σ) (build : σ → Option α) : Reader α := fun s => do
  let (state, rest) ← read s
  match build state with
  | some x => .ok (x, rest)
  | none => .error (fault .expectedValue rest)

def HistoryEntry.read : Reader HistoryEntry :=
  finish (decodeRecord "HistoryEntry"
    [fieldOf "role" Role.read (·.1) (fun x s => (some x, s.2)),
      fieldOf "content" decodeText (·.2.1) (fun x s => (s.1, some x, s.2.2)),
      fieldOf "timestamp" readStamp (·.2.2) (fun x s => (s.1, s.2.1, some x))]
    ((none, none, none) : Found3 Role String Instant))
    fun
      | (some role, some content, some timestamp) => some ⟨role, content, timestamp⟩
      | _ => none

def GroupMessage.read : Reader GroupMessage :=
  finish (decodeRecord "GroupMessage"
    [fieldOf "sender" decodeText (·.1) (fun x s => (some x, s.2)),
      fieldOf "content" decodeText (·.2.1) (fun x s => (s.1, some x, s.2.2)),
      fieldOf "timestamp" readStamp (·.2.2) (fun x s => (s.1, s.2.1, some x))]
    ((none, none, none) : Found3 String String Instant))
    fun
      | (some sender, some content, some timestamp) => some ⟨sender, content, timestamp⟩
      | _ => none

def Line.read : Reader Line :=
  finish (decodeRecord "Turn"
    [fieldOf "speaker" Role.read (·.1) (fun x s => (some x, s.2)),
      fieldOf "content" decodeText (·.2) (fun x s => (s.1, some x))]
    ((none, none) : Option Role × Option String))
    fun
      | (some speaker, some content) => some ⟨speaker, content⟩
      | _ => none

end Companion
