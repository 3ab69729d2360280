import Companion.Storage.Checksum
import Companion.Storage.Slot

/-!
Slots in a database: one table whose rows have a checksum beside their octets when checksums are on.
A call runs as a whole or not at all. Everything fails while the table is missing.
-/

namespace Companion

open Text Time

structure Row where
  data : Octets
  checksum : Option String
  deriving DecidableEq, Repr

abbrev Rows := Table Address Row

/-- What a database holds: its table, if there is one. -/
abbrev Contents := Option Rows

/-- A stored checksum that is not that of the octets beside it. It is reported, and the octets are read
all the same. -/
structure Mismatch where
  slot : Address
  expected : String
  actual : String
  deriving DecidableEq, Repr

/-- A database that is open: what it holds, and whether its writes compute checksums. -/
structure Database where
  checksums : Bool
  contents : Contents

namespace Database

/-- A database opened on what it holds, where the table is made if it is missing. -/
def opened (checksums : Bool) (contents : Contents) : Database :=
  ⟨checksums, some (contents.getD .empty)⟩

/-- A call on the rows, which fails if there are none. -/
def onRows {α : Type} (call : Rows → Except StoreError α × Rows) (d : Database) :
    Except StoreError α × Database :=
  match d.contents with
  | none => (.error .database, d)
  | some rows =>
    let (answer, rows) := call rows
    (answer, { d with contents := some rows })

def read (slot : Address) : Database → Except StoreError (Option Octets) × Database :=
  onRows fun rows => (.ok ((rows.get? slot).map (·.data)), rows)

/-- A row written, with the checksum of its octets or without any. -/
def write (slot : Address) (data : Octets) (d : Database) : Except StoreError Unit × Database :=
  let checksum := if d.checksums then some (Checksum.render data) else none
  d.onRows fun rows => (.ok (), rows.insert slot ⟨data, checksum⟩)

def rowsOf (space : String) (rows : Rows) : List (String × Row) :=
  (rows.entries.filter fun e => e.1.space == space).map fun e => (e.1.key, e.2)

def list (space : String) : Database → Except StoreError (List (String × Octets)) × Database :=
  onRows fun rows => (.ok ((rowsOf space rows).map fun (key, row) => (key, row.data)), rows)

def remove (slot : Address) : Database → Except StoreError Bool × Database :=
  onRows fun rows => (.ok (rows.contains slot), rows.erase slot)

/-- A row moved with its checksum, unless its new place is taken. -/
def quarantine (now : Instant) (slot : Address) (space : String) :
    Database → Except StoreError (Option String) × Database :=
  onRows fun rows =>
    match rows.get? slot with
    | none => (.ok none, rows)
    | some row =>
      let moved : Address := ⟨space, backupKey slot.key now⟩
      if rows.contains moved then (.error .database, rows)
      else (.ok (some moved.key), (rows.insert moved row).erase slot)

def count (space : String) : Database → Except StoreError Nat × Database :=
  onRows fun rows => (.ok (rowsOf space rows).length, rows)

def checksum (slot : Address) : Database → Except StoreError (Option String) × Database :=
  onRows fun rows => (.ok ((rows.get? slot).bind (·.checksum)), rows)

/-- What is found wrong with a row that is read, while checksums are on: the checksum stored in it is
not that of its octets. A row without one is not looked at. -/
def verify (slot : Address) (row : Row) (d : Database) : Option Mismatch :=
  if d.checksums then
    row.checksum.bind fun expected =>
      let actual := Checksum.render row.data
      if expected = actual then none else some ⟨slot, expected, actual⟩
  else none

def readReports (slot : Address) (d : Database) : List Mismatch :=
  (d.contents.bind fun rows => (rows.get? slot).bind fun row => d.verify slot row).toList

def listReports (space : String) (d : Database) : List Mismatch :=
  ((d.contents.map (rowsOf space)).getD []).filterMap fun (key, row) => d.verify ⟨space, key⟩ row

/-- The database is sound; what is wrong in its rows is not its concern. -/
def integrity (_ : Database) : Bool := true

instance : Backend Database where
  read := read
  write := write
  list := list
  remove := remove
  quarantine := quarantine

end Database

end Companion
