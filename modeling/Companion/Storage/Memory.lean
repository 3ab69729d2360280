import Companion.Storage.Slot

/-!
Slots in memory: a table by address. Its calls never fail, and nothing survives the process.
-/

namespace Companion

open Text

abbrev Memory := Table Address Octets

namespace Memory

def slotsOf (space : String) (m : Memory) : List (String × Octets) :=
  (m.entries.filter fun e => e.1.space == space).map fun e => (e.1.key, e.2)

def read (slot : Address) (m : Memory) : Except StoreError (Option Octets) × Memory :=
  (.ok (m.get? slot), m)

def write (slot : Address) (data : Octets) (m : Memory) : Except StoreError Unit × Memory :=
  (.ok (), m.insert slot data)

/-- Removing a slot tells whether there was one. -/
def remove (slot : Address) (m : Memory) : Except StoreError Bool × Memory :=
  (.ok (m.contains slot), m.erase slot)

instance : Backend Memory where
  read := read
  write := write
  list := fun space m => (.ok (m.slotsOf space), m)
  remove := remove
  quarantine := moveAside read write remove

end Memory

end Companion
