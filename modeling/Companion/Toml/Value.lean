import Companion.Number.Double

/-!
TOML values, and the tables that a document builds up. Whether a table may still grow depends on how
it came about: by a header of its own, on the way to a deeper header, or by dotted keys.
-/

namespace Companion.Toml

open Number

/-- A value. What a date says is of no use here. -/
inductive Value
  | string (s : String)
  | integer (n : Int)
  | float (x : Double)
  | boolean (b : Bool)
  | date
  | array (items : List Value)
  | table (entries : List (String × Value))
  deriving Repr, Inhabited

def Value.get? (key : String) : Value → Option Value
  | .table entries => entries.lookup key
  | _ => none

inductive Style
  | header
  | implied
  | dotted
  deriving DecidableEq, Repr

/-- What a key of a document stands for: a value that is complete, a table, or a list of tables of
which the last may grow. -/
inductive Item
  | leaf (v : Value)
  | table (style : Style) (entries : List (String × Item))
  | tables (elements : List (List (String × Item)))
  deriving Repr, Inhabited

abbrev Entries := List (String × Item)

def replace (key : String) (item : Item) (entries : Entries) : Entries :=
  entries.map fun (k, x) => if k = key then (k, item) else (k, x)

def changeLast (f : Entries → Option Entries) (elements : List Entries) : Option (List Entries) :=
  elements.getLast?.bind fun last => (f last).map fun last => elements.dropLast ++ [last]

/-- The table at the end of a path of headers changed; tables that are missing on the way are
implied, and a list of tables stands for its last one. -/
def within (f : Entries → Option Entries) : List String → Entries → Option Entries
  | [], entries => f entries
  | key :: path, entries =>
    match entries.lookup key with
    | none => (within f path []).map fun sub => entries ++ [(key, .table .implied sub)]
    | some (.leaf _) => none
    | some (.table style sub) =>
      (within f path sub).map fun sub => replace key (.table style sub) entries
    | some (.tables elements) =>
      (changeLast (within f path) elements).map fun elements =>
        replace key (.tables elements) entries

/-- A header for a table, which may only have been implied before. -/
def openTable (key : String) (entries : Entries) : Option Entries :=
  match entries.lookup key with
  | none => some (entries ++ [(key, .table .header [])])
  | some (.table .implied sub) => some (replace key (.table .header sub) entries)
  | some _ => none

def openElement (key : String) (entries : Entries) : Option Entries :=
  match entries.lookup key with
  | none => some (entries ++ [(key, .tables [[]])])
  | some (.tables elements) => some (replace key (.tables (elements ++ [[]])) entries)
  | some _ => none

/-- A value put under a key of a table, where `fits` tells whether the table takes keys written this
way. -/
def putKey (fits : Bool) (key : String) (v : Value) (entries : Entries) : Option Entries :=
  if fits && (entries.lookup key).isNone then some (entries ++ [(key, .leaf v)]) else none

/-- A value put under a dotted key. Dotted keys make tables of their own, and only those grow by
them. -/
def insertKey (fits : Bool) (key : String) (v : Value) : List String → Entries → Option Entries
  | [], entries => putKey fits key v entries
  | part :: path, entries =>
    match entries.lookup part with
    | none =>
      (insertKey true key v path []).map fun sub => entries ++ [(part, .table .dotted sub)]
    | some (.leaf _) => none
    | some (.table .header _) => none
    | some (.table style sub) =>
      (insertKey (style == .dotted) key v path sub).map fun sub =>
        replace part (.table style sub) entries
    | some (.tables elements) =>
      (changeLast (insertKey false key v path) elements).map fun elements =>
        replace part (.tables elements) entries

mutual

def Item.value : Item → Value
  | .leaf v => v
  | .table _ entries => .table (valuesOf entries)
  | .tables elements => .array (tablesOf elements)

def valuesOf : List (String × Item) → List (String × Value)
  | [] => []
  | (key, item) :: rest => (key, item.value) :: valuesOf rest

def tablesOf : List (List (String × Item)) → List Value
  | [] => []
  | entries :: rest => .table (valuesOf entries) :: tablesOf rest

end

end Companion.Toml
