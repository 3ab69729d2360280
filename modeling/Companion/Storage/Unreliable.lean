import Companion.Storage.Database
import Companion.Storage.Memory

/-!
Backends whose calls can fail. A plan says of each call, by its number and its kind, whether it
fails; a call that fails changes no slot.
-/

namespace Companion

open Text Time

inductive Medium
  | memory (slots : Memory)
  | database (slots : Database)

namespace Medium

def call {α : Type} (onMemory : Memory → α × Memory) (onDatabase : Database → α × Database) :
    Medium → α × Medium
  | memory m => (onMemory m).map id memory
  | database d => (onDatabase d).map id database

instance : Backend Medium where
  read := fun slot => call (Backend.read slot) (Backend.read slot)
  write := fun slot data => call (Backend.write slot data) (Backend.write slot data)
  list := fun space => call (Backend.list space) (Backend.list space)
  remove := fun slot => call (Backend.remove slot) (Backend.remove slot)
  quarantine := fun now slot space =>
    call (Backend.quarantine now slot space) (Backend.quarantine now slot space)

end Medium

inductive CallKind
  | read
  | write
  | backup
  | list
  deriving DecidableEq, Repr

/-- The kinds that a write is of; one to a namespace of backups is of two. -/
def CallKind.ofWrite (space : String) : List CallKind :=
  if space.endsWith "_backup" then [.write, .backup] else [.write]

def CallKind.error : CallKind → StoreError
  | .read => .io "database is locked"
  | .write => .io "disk full"
  | .backup => .io "backup disk full"
  | .list => .io "disk gone"

/-- A backend behind a plan of failures. `stepwise` says whether a slot is moved aside by calls that
can fail themselves, or by the one call of the backend, which cannot. -/
structure Unreliable (σ : Type) where
  slots : σ
  stepwise : Bool
  fails : Nat → CallKind → Bool := fun _ _ => false
  calls : Nat := 0

namespace Unreliable

variable {σ : Type} [Backend σ]

/-- A call that can fail as one of some kinds, of which the first that fails gives the error. -/
def attempt {α : Type} (kinds : List CallKind) (call : σ → Except StoreError α × σ)
    (u : Unreliable σ) : Except StoreError α × Unreliable σ :=
  let next := { u with calls := u.calls + 1 }
  match kinds.find? (u.fails u.calls) with
  | some kind => (.error kind.error, next)
  | none =>
    let (answer, slots) := call u.slots
    (answer, { next with slots })

/-- A call that does not fail on its own. -/
def direct {α : Type} (call : σ → Except StoreError α × σ) (u : Unreliable σ) :
    Except StoreError α × Unreliable σ :=
  let (answer, slots) := call u.slots
  (answer, { u with slots })

def read (slot : Address) : Unreliable σ → Except StoreError (Option Octets) × Unreliable σ :=
  attempt [.read] (Backend.read slot)

def write (slot : Address) (data : Octets) : Unreliable σ → Except StoreError Unit × Unreliable σ :=
  attempt (CallKind.ofWrite slot.space) (Backend.write slot data)

def remove (slot : Address) : Unreliable σ → Except StoreError Bool × Unreliable σ :=
  direct (Backend.remove slot)

instance : Backend (Unreliable σ) where
  read := read
  write := write
  list := fun space => attempt [.list] (Backend.list space)
  remove := remove
  quarantine := fun now slot space u =>
    if u.stepwise then moveAside read write remove now slot space u
    else direct (Backend.quarantine now slot space) u

end Unreliable

end Companion
