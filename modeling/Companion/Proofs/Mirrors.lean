import Companion.Proofs.Slots

/-!
Memory and databases side by side. A database mirrors memory if its rows, without their checksums,
are the slots in memory. Every call then has the same answer on both and leaves a mirror, as long as a
slot is moved aside to a place that is free: memory writes over what lies there, and a database
refuses.
-/

namespace Companion

open Text Time

/-! ### Calls on slots -/

inductive SlotCall
  | read (slot : Address)
  | write (slot : Address) (data : Octets)
  | remove (slot : Address)
  | list (space : String)
  | quarantine (slot : Address) (space : String)

inductive SlotAnswer
  | read (answer : Except StoreError (Option Octets))
  | write (answer : Except StoreError Unit)
  | remove (answer : Except StoreError Bool)
  | list (answer : Except StoreError (List (String × Octets)))
  | quarantine (answer : Except StoreError (Option String))

def SlotCall.run {σ : Type} [Backend σ] (now : Instant) : SlotCall → σ → SlotAnswer × σ
  | .read slot, s => (Backend.read slot s).map .read id
  | .write slot data, s => (Backend.write slot data s).map .write id
  | .remove slot, s => (Backend.remove slot s).map .remove id
  | .list space, s => (Backend.list space s).map .list id
  | .quarantine slot space, s => (Backend.quarantine now slot space s).map .quarantine id

/-- A slot that is moved aside, if it is not empty, goes to a place that is free. -/
def Memory.HasRoom (now : Instant) (slot : Address) (space : String) (m : Memory) : Prop :=
  m.contains slot = true → m.contains ⟨space, backupKey slot.key now⟩ = false

def SlotCall.HasRoom (now : Instant) (m : Memory) : SlotCall → Prop
  | .quarantine slot space => m.HasRoom now slot space
  | _ => True

namespace Database

def bare (rows : Rows) : Memory := rows.mapValues fun _ row => row.data

theorem get?_bare (rows : Rows) (slot : Address) :
    (bare rows).get? slot = (rows.get? slot).map (·.data) :=
  Table.get?_mapValues rows (fun _ row => row.data) slot

theorem contains_bare (rows : Rows) (slot : Address) :
    (bare rows).contains slot = rows.contains slot :=
  Table.contains_mapValues rows (fun _ row => row.data) slot

theorem bare_insert (rows : Rows) (slot : Address) (row : Row) :
    bare (rows.insert slot row) = (bare rows).insert slot row.data :=
  Table.mapValues_insert rows (fun _ row => row.data) slot row

theorem bare_erase (rows : Rows) (slot : Address) :
    bare (rows.erase slot) = (bare rows).erase slot :=
  Table.mapValues_erase rows (fun _ row => row.data) slot

theorem slotsOf_bare (space : String) (rows : Rows) :
    (bare rows).slotsOf space = (rowsOf space rows).map fun (key, row) => (key, row.data) := by
  simp only [bare, Table.mapValues, Memory.slotsOf, rowsOf, List.filter_map, List.map_map]
  rfl

/-- The rows of a database are the slots in memory but for their checksums. -/
def Mirrors (d : Database) (m : Memory) : Prop := d.contents.map bare = some m

/-- A call on rows gives an answer and leaves rows that are what a call on memory gives and leaves. -/
def Bares {α : Type} (x : Except StoreError α × Rows) (y : Except StoreError α × Memory) : Prop :=
  x.1 = y.1 ∧ bare x.2 = y.2

/-- Two calls give one answer and leave a database that mirrors memory. -/
def Echoes {α : Type} (x : α × Database) (y : α × Memory) : Prop := x.1 = y.1 ∧ x.2.Mirrors y.2

/-- An empty database mirrors empty memory, whether it computes checksums or not. -/
theorem mirrors_opened (checksums : Bool) : (opened checksums none).Mirrors .empty := rfl

variable {d : Database} {m : Memory}

theorem Mirrors.onRows (h : d.Mirrors m) {α : Type} {call : Rows → Except StoreError α × Rows}
    {called : Except StoreError α × Memory} (hcall : ∀ rows, bare rows = m → Bares (call rows) called) :
    Echoes (d.onRows call) called := by
  obtain ⟨checksums, contents⟩ := d
  obtain ⟨rows, rfl, hrows⟩ := Option.map_eq_some_iff.mp h
  obtain ⟨hanswer, hafter⟩ := hcall rows hrows
  exact ⟨hanswer, congrArg some hafter⟩

theorem Mirrors.read (h : d.Mirrors m) (slot : Address) :
    Echoes (Backend.read slot d) (Backend.read slot m) := by
  refine h.onRows fun rows hrows => ⟨?_, hrows⟩
  rw [← hrows]
  exact congrArg Except.ok (get?_bare rows slot).symm

theorem Mirrors.write (h : d.Mirrors m) (slot : Address) (data : Octets) :
    Echoes (Backend.write slot data d) (Backend.write slot data m) := by
  refine h.onRows fun rows hrows => ⟨rfl, ?_⟩
  rw [← hrows]
  exact bare_insert rows slot _

theorem Mirrors.remove (h : d.Mirrors m) (slot : Address) :
    Echoes (Backend.remove slot d) (Backend.remove slot m) := by
  refine h.onRows fun rows hrows => ⟨?_, ?_⟩
  · rw [← hrows]
    exact congrArg Except.ok (contains_bare rows slot).symm
  · rw [← hrows]
    exact bare_erase rows slot

theorem Mirrors.list (h : d.Mirrors m) (space : String) :
    Echoes (Backend.list space d) (Backend.list space m) := by
  refine h.onRows fun rows hrows => ⟨?_, hrows⟩
  rw [← hrows]
  exact congrArg Except.ok (slotsOf_bare space rows).symm

/-- A database moves a row in one go, and memory by three calls. The two do the same if there is
room. -/
theorem Mirrors.quarantine (h : d.Mirrors m) {now : Instant} {slot : Address} {space : String}
    (hroom : m.HasRoom now slot space) :
    Echoes (Backend.quarantine now slot space d) (Backend.quarantine now slot space m) := by
  refine h.onRows fun rows hrows => ?_
  change Bares _ (moveAside Memory.read Memory.write Memory.remove now slot space m)
  unfold moveAside Memory.read
  rw [← hrows, get?_bare]
  cases hrow : rows.get? slot with
  | none => exact ⟨rfl, rfl⟩
  | some row =>
    have hfilled : rows.contains slot = true := by rw [Table.contains, hrow]; rfl
    have hfree : rows.contains ⟨space, backupKey slot.key now⟩ = false := by
      rw [← contains_bare] at hfilled ⊢
      rw [hrows] at hfilled ⊢
      exact hroom hfilled
    simp only [hfree, Bool.false_eq_true, if_false, Option.map_some, Memory.write, Memory.remove]
    refine ⟨rfl, ?_⟩
    rw [bare_erase, bare_insert]

/-- Every call has one answer on memory and on a database that mirrors it, and leaves a mirror. -/
theorem Mirrors.run (h : d.Mirrors m) {now : Instant} {call : SlotCall} (hroom : call.HasRoom now m) :
    Echoes (call.run now d) (call.run now m) := by
  cases call with
  | read slot => exact (h.read slot).imp (congrArg _) id
  | write slot data => exact (h.write slot data).imp (congrArg _) id
  | remove slot => exact (h.remove slot).imp (congrArg _) id
  | list space => exact (h.list space).imp (congrArg _) id
  | quarantine slot space => exact (h.quarantine hroom).imp (congrArg _) id

end Database

end Companion
