import Companion.Record.Conversation
import Companion.Text.Blank

/-!
Events: messages as they come in from a chat.
-/

namespace Companion

open Number Text Json

inductive ChatKind
  | direct
  | group
  deriving DecidableEq, Repr

def ChatKind.name : ChatKind → String
  | .direct => "private"
  | .group => "group"

def ChatKind.read : Reader ChatKind := decodeChoice ("private", .direct) ("group", .group)

structure Event where
  chat : Int64
  sender : Int64
  senderName : String
  text : String
  kind : ChatKind
  addressed : Bool
  deriving DecidableEq, Repr

namespace Event

/-- A private message. The chat has the number of the user. -/
def ofPrivate (sender : Int64) (name text : String) : Event :=
  ⟨sender, sender, name, text, .direct, true⟩

def ofGroup (chat sender : Int64) (name text : String) (addressed : Bool) : Event :=
  ⟨chat, sender, name, text, .group, addressed⟩

def wantsReply (e : Event) : Bool := e.kind == .direct || e.addressed

/-- The name of the sender, unless it is blank. -/
def displayName? (e : Event) : Option String :=
  let name := trimmed e.senderName
  if name = "" then none else some name

/-- The name of the sender, or the number where it is blank. -/
def label (e : Event) : String := e.displayName?.getD (writeIdentifier e.sender)

def print (e : Event) : List Char :=
  printObject [("chat_id", writeInt e.chat.toInt), ("sender_id", writeInt e.sender.toInt),
    ("sender_display_name", printString e.senderName), ("text", printString e.text),
    ("chat_kind", printString e.kind.name),
    ("is_addressed_to_agent", if e.addressed then "true".toList else "false".toList)]

structure Draft where
  chat : Option Int64 := none
  sender : Option Int64 := none
  senderName : Option String := none
  text : Option String := none
  kind : Option ChatKind := none
  addressed : Option Bool := none

def fields : List (RecordField Draft) :=
  [fieldOf "chat_id" readId (·.chat) fun x d => { d with chat := some x },
    fieldOf "sender_id" readId (·.sender) fun x d => { d with sender := some x },
    fieldOf "sender_display_name" decodeText (·.senderName)
      fun x d => { d with senderName := some x },
    fieldOf "text" decodeText (·.text) fun x d => { d with text := some x },
    fieldOf "chat_kind" ChatKind.read (·.kind) fun x d => { d with kind := some x },
    fieldOf "is_addressed_to_agent" decodeBool (·.addressed)
      fun x d => { d with addressed := some x }]

def ofDraft? (d : Draft) : Option Event := do
  some ⟨← d.chat, ← d.sender, ← d.senderName, ← d.text, ← d.kind, ← d.addressed⟩

def read : Reader Event := finish (decodeRecord "InboundEvent" fields {}) ofDraft?

end Event

end Companion
