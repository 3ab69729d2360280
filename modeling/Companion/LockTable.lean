import Companion.Record.Conversation

/-!
Record locks. Whoever loads a record to change it holds the lock of that record until it is saved.
The table maps a record to a mutex for as long as a claim on the record lives. Every claim goes
through its stages on its own: it is requested, waits in line, is granted the mutex, holds it, gives
it back, and last looks whether the entry of the record can go. A mutex that is given back goes to
the first in line, even before that one has noticed.
-/

namespace Companion

structure LockKey where
  kind : RecordKind
  id : Int64
  deriving DecidableEq, Repr

inductive ClaimStage
  | requested
  | waiting
  | granted
  | holding
  | released
  deriving DecidableEq, Repr

def ClaimStage.hasMutex : ClaimStage → Bool
  | .granted => true
  | .holding => true
  | _ => false

/-- A claim refers to its mutex. -/
def ClaimStage.isLive : ClaimStage → Bool
  | .released => false
  | _ => true

/-- A claim on a record, by way of a mutex. -/
structure Claim where
  ticket : Nat
  key : LockKey
  mutex : Nat
  stage : ClaimStage
  deriving DecidableEq, Repr

/-- The mutexes by record, and the claims, those that wait in the order of their line. -/
structure LockTable where
  entries : List (LockKey × Nat) := []
  claims : List Claim := []
  nextTicket : Nat := 0
  nextMutex : Nat := 0
  deriving Repr

namespace LockTable

def mutexOf? (t : LockTable) (key : LockKey) : Option Nat := t.entries.lookup key

def claim? (t : LockTable) (ticket : Nat) : Option Claim := t.claims.find? (·.ticket == ticket)

def isTaken (t : LockTable) (mutex : Nat) : Bool :=
  t.claims.any fun c => c.mutex == mutex && c.stage.hasMutex

def isReferred (t : LockTable) (mutex : Nat) : Bool :=
  t.claims.any fun c => c.mutex == mutex && c.stage.isLive

def without (t : LockTable) (ticket : Nat) : LockTable :=
  { t with claims := t.claims.filter (·.ticket != ticket) }

def moved (t : LockTable) (ticket : Nat) (stage : ClaimStage) : LockTable :=
  { t with claims := t.claims.map fun c => if c.ticket = ticket then { c with stage } else c }

def queued (t : LockTable) (claim : Claim) : LockTable :=
  { t.without claim.ticket with
    claims := (t.without claim.ticket).claims ++ [{ claim with stage := .waiting }] }

/-- The table with a mutex for a record, which it may have already. -/
def withMutex (t : LockTable) (key : LockKey) : Nat × LockTable :=
  match t.mutexOf? key with
  | some mutex => (mutex, t)
  | none =>
    (t.nextMutex,
      { t with entries := t.entries ++ [(key, t.nextMutex)], nextMutex := t.nextMutex + 1 })

def request (t : LockTable) (key : LockKey) : Nat × LockTable :=
  let (mutex, t) := t.withMutex key
  (t.nextTicket,
    { t with
      claims := t.claims ++ [⟨t.nextTicket, key, mutex, .requested⟩]
      nextTicket := t.nextTicket + 1 })

/-- The mutex handed to the first in its line. -/
def handOver (t : LockTable) (mutex : Nat) : LockTable :=
  match t.claims.find? fun c => c.mutex == mutex && c.stage == .waiting with
  | some c => t.moved c.ticket .granted
  | none => t

/-- A claim tries to go on: a new one takes the mutex or gets in line, a granted one notices. -/
def poll (t : LockTable) (ticket : Nat) : LockTable :=
  match t.claim? ticket with
  | some c =>
    match c.stage with
    | .requested => if t.isTaken c.mutex then t.queued c else t.moved ticket .holding
    | .granted => t.moved ticket .holding
    | _ => t
  | none => t

/-- The claim was handed the mutex and has not noticed yet. -/
def isGranted (t : LockTable) (ticket : Nat) : Bool :=
  (t.claim? ticket).any (·.stage == .granted)

def isHeld (t : LockTable) (ticket : Nat) : Bool :=
  (t.claim? ticket).any (·.stage == .holding)

/-- A claim given up before it holds the lock. -/
def cancel (t : LockTable) (ticket : Nat) : LockTable :=
  match t.claim? ticket with
  | some c =>
    match c.stage with
    | .requested => t.without ticket
    | .waiting => t.without ticket
    | .granted => (t.without ticket).handOver c.mutex
    | _ => t
  | none => t

def release (t : LockTable) (ticket : Nat) : LockTable :=
  match t.claim? ticket with
  | some c => if c.stage = .holding then (t.moved ticket .released).handOver c.mutex else t
  | none => t

/-- The table without the entry of a record, unless a claim refers to its mutex. -/
def swept (t : LockTable) (key : LockKey) : LockTable :=
  match t.mutexOf? key with
  | some mutex =>
    if t.isReferred mutex then t else { t with entries := t.entries.filter (·.1 != key) }
  | none => t

/-- The last step of a claim that gave its lock back. -/
def tidy (t : LockTable) (ticket : Nat) : LockTable :=
  match t.claim? ticket with
  | some c => if c.stage = .released then (t.without ticket).swept c.key else t
  | none => t

def unlock (t : LockTable) (ticket : Nat) : LockTable := (t.release ticket).tidy ticket

def size (t : LockTable) : Nat := t.entries.length

end LockTable

end Companion
