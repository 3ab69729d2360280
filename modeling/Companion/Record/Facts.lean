import Companion.Record.Conversation
import Companion.Table

/-!
Facts: what is known about a user, as values by name. Merging overrides and adds; nothing is ever
taken away.
-/

namespace Companion

open Json

abbrev Facts := Table String String

namespace Facts

/-- The facts with one merged in, and how many changed by it. -/
def mergeOne (facts : Facts) (name value : String) : Facts × Nat :=
  if facts.get? name = some value then (facts, 0) else (facts.insert name value, 1)

/-- The facts with others merged in, in their order, and how many changes that made. -/
def merge (facts : Facts) : List (String × String) → Facts × Nat
  | [] => (facts, 0)
  | (name, value) :: rest =>
    let (once, changed) := mergeOne facts name value
    let (all, more) := merge once rest
    (all, changed + more)

def print (facts : Facts) : List Char :=
  printObject (facts.entries.map fun (name, value) => (name, printString value))

/-- Facts from JSON, where the last value of a name counts. -/
def read : Reader Facts :=
  decodeMembers decodeText Table.empty fun name value facts => facts.insert name value

end Facts

end Companion
