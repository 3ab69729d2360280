import Companion.Proofs.Backups
import Companion.Proofs.Listings

/-!
Media told by their slots. What a call to a medium answers depends on what lies in its slots and on what
kind of medium it is: memory, a database, or a database whose table is missing, which answers nothing.
-/

namespace Companion

open Number Text Time Json

inductive MediumKind
  | memory
  | database
  | broken
  deriving DecidableEq, Repr

/-- What a medium of a kind answers, where one that is not broken would answer something. -/
def MediumKind.answer {α : Type} (kind : MediumKind) (x : α) : Except StoreError α :=
  match kind with
  | .broken => .error .database
  | _ => .ok x

/-- What a medium of a kind answers when a slot is to be moved aside, by whether the slot holds octets
and whether its place is taken. -/
def MediumKind.moveAnswer (kind : MediumKind) (held taken : Bool) (key : String) :
    Except StoreError (Option String) :=
  match kind with
  | .memory => .ok (if held then some key else none)
  | .database => if held && taken then .error .database else .ok (if held then some key else none)
  | .broken => .error .database

/-- Slots are moved aside on both sides or on none, if memory keeps them, or a database that finds their
places taken on both sides or on none. -/
theorem MediumKind.moveAnswer_cases {kind : MediumKind} {taken taken' : Bool}
    (h : kind = .memory ∨ taken = taken') (held : Bool) (key key' : String) :
    (∃ e, kind.moveAnswer held taken key = .error e ∧ kind.moveAnswer held taken' key' = .error e) ∨
      (kind.moveAnswer held taken key = .ok none ∧ kind.moveAnswer held taken' key' = .ok none) ∨
      kind.moveAnswer held taken key = .ok (some key) ∧
        kind.moveAnswer held taken' key' = .ok (some key') := by
  cases kind with
  | broken => exact .inl ⟨_, rfl, rfl⟩
  | memory =>
    cases held with
    | false => exact .inr (.inl ⟨rfl, rfl⟩)
    | true => exact .inr (.inr ⟨rfl, rfl⟩)
  | database =>
    obtain rfl := h.resolve_left nofun
    cases held with
    | false => exact .inr (.inl ⟨rfl, rfl⟩)
    | true =>
      cases taken with
      | false => exact .inr (.inr ⟨rfl, rfl⟩)
      | true => exact .inl ⟨_, rfl, rfl⟩

/-- What lies in all slots once one was moved into a namespace or not, by the answer. -/
def SlotContents.movedAside (c : SlotContents) (slot : Address) (space : String) :
    Except StoreError (Option String) → SlotContents
  | .ok (some key) => Function.update (Function.update c ⟨space, key⟩ (c slot)) slot none
  | _ => c

namespace Medium

def kind : Medium → MediumKind
  | memory _ => .memory
  | database ⟨_, some _⟩ => .database
  | database ⟨_, none⟩ => .broken

/-- The slots of a medium as they would lie in memory. -/
def table : Medium → Memory
  | memory m => m
  | database d => (d.contents.map Database.bare).getD .empty

theorem content_table (m : Medium) : Faithful.content m = Memory.content m.table := by
  funext slot
  obtain m | ⟨checksums, _ | rows⟩ := m
  · rfl
  · rfl
  · exact (Database.get?_bare rows slot).symm

variable (m : Medium)

theorem read_eq (slot : Address) :
    Backend.read slot m = (m.kind.answer (Faithful.content m slot), m) := by
  obtain m | ⟨checksums, _ | rows⟩ := m <;> rfl

theorem list_eq (space : String) :
    Backend.list space m = (m.kind.answer (m.table.slotsOf space), m) := by
  obtain m | ⟨checksums, _ | rows⟩ := m
  · rfl
  · rfl
  · change (Except.ok _, _) = (Except.ok ((Database.bare rows).slotsOf space), _)
    rw [Database.slotsOf_bare]

theorem write_answer (slot : Address) (data : Octets) :
    (Backend.write slot data m).1 = m.kind.answer () ∧ (Backend.write slot data m).2.kind = m.kind := by
  obtain m | ⟨checksums, _ | rows⟩ := m <;> exact ⟨rfl, rfl⟩

/-- A slot is moved aside unless it is empty, or a database finds its place taken. -/
theorem quarantine_answer (now : Instant) (slot : Address) (space : String) :
    (Backend.quarantine now slot space m).1 = m.kind.moveAnswer (Faithful.content m slot).isSome
        (Faithful.content m ⟨space, backupKey slot.key now⟩).isSome (backupKey slot.key now) ∧
      (Backend.quarantine now slot space m).2.kind = m.kind := by
  obtain m | ⟨checksums, _ | rows⟩ := m
  · cases hslot : m.get? slot <;>
      simp [Backend.quarantine, call, moveAside, Memory.read, hslot, Memory.write, Memory.remove,
        Faithful.content, content, Memory.content, kind, MediumKind.moveAnswer]
  · exact ⟨rfl, rfl⟩
  · cases hslot : rows.get? slot with
    | none =>
      simp [Backend.quarantine, call, Database.quarantine, Database.onRows, hslot, Faithful.content,
        content, Database.content, Database.octetsOf, kind, MediumKind.moveAnswer]
    | some row =>
      cases htaken : rows.get? ⟨space, backupKey slot.key now⟩ <;>
        simp [Backend.quarantine, call, Database.quarantine, Database.onRows, hslot, Table.contains,
          htaken, Faithful.content, content, Database.content, Database.octetsOf, kind,
          MediumKind.moveAnswer]

/-- A slot that is moved aside is moved whole. -/
theorem quarantine_content (now : Instant) (slot : Address) (space : String) :
    Faithful.content (Backend.quarantine now slot space m).2 =
      (Faithful.content m).movedAside slot space (Backend.quarantine now slot space m).1 := by
  have hmoved := Faithful.quarantine_moved now slot space m
  have hunmoved : ∀ e, (Backend.quarantine now slot space m).1 = .error e →
      Faithful.content (Backend.quarantine now slot space m).2 = Faithful.content m := by
    intro e he
    cases m with
    | memory m => exact movesWhole_memory.unmoved (s := m) he
    | database d => exact movesWhole_database.unmoved (s := d) he
  generalize Backend.quarantine now slot space m = q at hmoved hunmoved
  obtain ⟨answer, after⟩ := q
  match answer with
  | .error e => exact hunmoved e rfl
  | .ok none => exact hmoved.2
  | .ok (some key) =>
    obtain ⟨data, hdata, hafter⟩ := hmoved
    rw [SlotContents.movedAside, hdata]
    exact hafter

end Medium

end Companion
