import Companion.Record.Facts
import Companion.Rolling
import Companion.Settings.Basic
import Companion.Text.Blank

/-!
User records: the durable state of one user.
-/

namespace Companion

open Number Text Time Json

structure UserRecord where
  id : Int64
  username : Option String
  language : String
  facts : Facts
  history : List HistoryEntry
  lastInteraction : Instant
  deriving DecidableEq

namespace UserRecord

def blank (settings : RecordSettings) (id : Int64) (now : Instant) : UserRecord :=
  ⟨id, none, settings.defaultLanguage, .empty, [], now⟩

/-- The record with facts merged in, and how many changes that made. -/
def mergeFacts (r : UserRecord) (updates : List (String × String)) : UserRecord × Nat :=
  let (facts, changed) := r.facts.merge updates
  ({ r with facts }, changed)

def pushHistory (r : UserRecord) (capacity : Nat) (entry : HistoryEntry) : UserRecord :=
  { r with history := Rolling.appended capacity entry r.history }

/-- The record with the name its user has now, and whether that is a change; a blank name is none.
-/
def syncUsername (r : UserRecord) (displayName : Option String) : UserRecord × Bool :=
  match displayName.map trimmed with
  | none => (r, false)
  | some name =>
    if name = "" ∨ some name = r.username then (r, false)
    else ({ r with username := some name }, true)

def touch (r : UserRecord) (now : Instant) : UserRecord := { r with lastInteraction := now }

def recentHistory (r : UserRecord) (n : Nat) : List HistoryEntry := Rolling.newest n r.history

def print (r : UserRecord) : List Char :=
  printObject [("id", writeInt r.id.toInt),
    ("username", (r.username.map printString).getD "null".toList),
    ("language", printString r.language), ("facts", r.facts.print),
    ("history", printList HistoryEntry.print r.history),
    ("lastInteraction", printStamp r.lastInteraction)]

structure Draft where
  id : Option Int64 := none
  username : Option (Option String) := none
  language : Option String := none
  facts : Option Facts := none
  history : Option (List HistoryEntry) := none
  lastInteraction : Option Instant := none

def fields : List (RecordField Draft) :=
  [fieldOf "id" readId (·.id) fun x d => { d with id := some x },
    optionalField "username" (decodeOption decodeText) (·.username)
      fun x d => { d with username := some x },
    optionalField "language" decodeText (·.language) fun x d => { d with language := some x },
    optionalField "facts" Facts.read (·.facts) fun x d => { d with facts := some x },
    optionalField "history" (decodeList HistoryEntry.read) (·.history)
      fun x d => { d with history := some x },
    optionalField "lastInteraction" readStamp (·.lastInteraction)
      fun x d => { d with lastInteraction := some x }]

/-- A user record from JSON; what is missing is as in a new record. -/
def read (now : Instant) : Reader UserRecord :=
  finish (decodeRecord "UserRecord" fields {}) fun d => d.id.map fun id =>
    ⟨id, d.username.getD none, d.language.getD ({} : RecordSettings).defaultLanguage,
      d.facts.getD .empty, d.history.getD [], d.lastInteraction.getD now⟩

end UserRecord

end Companion
