import Companion.Record.User

/-!
Group records: the durable state of one group chat.
-/

namespace Companion

open Number Text Time Json

structure GroupRecord where
  id : Int64
  title : String
  membersCount : UInt32
  recentMessages : List GroupMessage
  addedAt : Instant
  deriving DecidableEq

namespace GroupRecord

def blank (id : Int64) (now : Instant) : GroupRecord := ⟨id, "", 0, [], now⟩

def pushMessage (r : GroupRecord) (capacity : Nat) (message : GroupMessage) : GroupRecord :=
  { r with recentMessages := Rolling.appended capacity message r.recentMessages }

def print (r : GroupRecord) : List Char :=
  printObject [("id", writeInt r.id.toInt), ("title", printString r.title),
    ("membersCount", Nat.toDigits 10 r.membersCount.toNat),
    ("recentMessages", printList GroupMessage.print r.recentMessages),
    ("addedAt", printStamp r.addedAt)]

structure Draft where
  id : Option Int64 := none
  title : Option String := none
  membersCount : Option UInt32 := none
  recentMessages : Option (List GroupMessage) := none
  addedAt : Option Instant := none

def readCount : Reader UInt32 := fun s => do
  let (n, rest) ← decodeInteger 0 (UInt32.size - 1) "u32" s
  .ok (.ofNat n.toNat, rest)

def fields : List (RecordField Draft) :=
  [fieldOf "id" readId (·.id) fun x d => { d with id := some x },
    optionalField "title" decodeText (·.title) fun x d => { d with title := some x },
    optionalField "membersCount" readCount (·.membersCount)
      fun x d => { d with membersCount := some x },
    optionalField "recentMessages" (decodeList GroupMessage.read) (·.recentMessages)
      fun x d => { d with recentMessages := some x },
    optionalField "addedAt" readStamp (·.addedAt) fun x d => { d with addedAt := some x }]

/-- A group record from JSON; what is missing is as in a new record. -/
def read (now : Instant) : Reader GroupRecord :=
  finish (decodeRecord "GroupRecord" fields {}) fun d => d.id.map fun id =>
    ⟨id, d.title.getD "", d.membersCount.getD 0, d.recentMessages.getD [], d.addedAt.getD now⟩

end GroupRecord

end Companion
