import Companion.Counters
import Companion.Record.Basic
import Companion.Storage.Slot

/-!
The record store: records by kind and identifier over a backend. Loading never fails. An empty slot
gives a new record, and so does an unreadable one once it has been moved aside. A record that stands
in for a slot that could be neither read nor moved aside is marked, and saving it is up to nobody.
Saving either counts a failure or reports it.
-/

namespace Companion

open Number Text Time Json

/-- Where a record came from: from its slot, made new for a slot that is empty by now, or made up
for a slot that may still hold something. -/
inductive LoadState
  | found
  | created
  | readFailed
  deriving DecidableEq, Repr

def LoadState.isCreated : LoadState → Bool
  | .created => true
  | _ => false

def LoadState.canSave : LoadState → Bool
  | .readFailed => false
  | _ => true

structure Loaded (R : Type) where
  record : R
  state : LoadState

structure Store (σ : Type) where
  slots : σ
  settings : RecordSettings := {}
  counters : Counters := {}

namespace Store

variable {σ : Type} [Backend σ] (R : Type) [Record R]

def address (id : Int64) : Address := ⟨(Record.kind R).space, writeIdentifier id⟩

def decodeSlot (now : Instant) (key : String) (data : Octets) : Except StoreError R :=
  (Record.decode now data).mapError fun f =>
    .corruptSlot (Record.kind R) key (f.message (symbolsOfOctets data))

def bump (s : Store σ) (k : Counter) : Store σ := { s with counters := s.counters.bump k }

def call {α : Type} (run : σ → α × σ) (s : Store σ) : α × Store σ :=
  let (answer, slots) := run s.slots
  (answer, { s with slots })

def fetch (now : Instant) (id : Int64) (s : Store σ) : Except StoreError (Option R) × Store σ :=
  let slot := address R id
  match s.call (Backend.read slot) with
  | (.error e, s) => (.error e, s)
  | (.ok none, s) => (.ok none, s)
  | (.ok (some data), s) => ((decodeSlot R now slot.key data).map some, s)

/-- An unreadable slot moved aside; the answer tells whether it is out of the way. -/
def quarantine (now : Instant) (id : Int64) (s : Store σ) : Bool × Store σ :=
  match s.call (Backend.quarantine now (address R id) (Record.kind R).backupSpace) with
  | (.ok (some _), s) => (true, s.bump .corruptSlotsRecovered)
  | (.ok none, s) => (true, s)
  | (.error _, s) => (false, s)

def newRecord (now : Instant) (id : Int64) (state : LoadState) (s : Store σ) : Loaded R :=
  ⟨Record.blank s.settings id now, state⟩

/-- What loading makes of what fetching found. -/
def settle (now : Instant) (id : Int64) :
    Except StoreError (Option R) × Store σ → Loaded R × Store σ
  | (.ok (some record), s) => (⟨record, .found⟩, s.bump .recordsLoaded)
  | (.ok none, s) => (s.newRecord R now id .created, s.bump .recordsCreated)
  | (.error (.corruptSlot _ _ _), s) =>
    match s.quarantine R now id with
    | (true, s) => (s.newRecord R now id .created, s.bump .recordsCreated)
    | (false, s) => (s.newRecord R now id .readFailed, s.bump .readFailures)
  | (.error _, s) => (s.newRecord R now id .readFailed, s.bump .readFailures)

def getOrCreate (now : Instant) (id : Int64) (s : Store σ) : Loaded R × Store σ :=
  settle R now id (s.fetch R now id)

def load (now : Instant) (id : Int64) (s : Store σ) : R × Store σ :=
  let (loaded, s) := s.getOrCreate R now id
  (loaded.record, s)

variable {R}

def trySave (record : R) (s : Store σ) : Except StoreError Unit × Store σ :=
  match s.call (Backend.write (address R (Record.id record)) (Record.encode record)) with
  | (.ok (), s) => (.ok (), s.bump .savesCompleted)
  | (.error e, s) => (.error e, s)

/-- A record written to its slot, where a failure is only counted. -/
def save (record : R) (s : Store σ) : Store σ :=
  match s.trySave record with
  | (.ok (), s) => s
  | (.error _, s) => s.bump .saveFailures

def keep (loaded : Loaded R) (s : Store σ) : Store σ :=
  if loaded.state.canSave then s.save loaded.record else s

variable (R)

def update {α : Type} (now : Instant) (id : Int64) (change : R → R × α) (s : Store σ) :
    (R × α) × Store σ :=
  let (loaded, s) := s.getOrCreate R now id
  let (record, result) := change loaded.record
  ((record, result), s.keep ⟨record, loaded.state⟩)

/-- The records that octets by key hold; unreadable ones are passed over. -/
def readable (now : Instant) (slots : List (String × Octets)) : List R :=
  slots.filterMap fun (key, data) => (decodeSlot R now key data).toOption

/-- All readable records of a kind, in the order of the backend; none if it cannot list them. -/
def listAll (now : Instant) (s : Store σ) : List R × Store σ :=
  match s.call (Backend.list (Record.kind R).space) with
  | (.ok slots, s) => (readable R now slots, s)
  | (.error _, s) => ([], s)

end Store

end Companion
