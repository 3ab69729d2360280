import Companion.Proofs.TableLaws
import Companion.Storage.Unreliable
import Mathlib.Logic.Function.Basic

/-!
What a backend must do, told by the contents of its slots. A call that fails leaves every slot as it
was, except that moving a slot aside may leave a copy in the namespace of backups. Memory, databases
and both of them behind any plan of failures keep to this.
-/

namespace Companion

open Text Time

abbrev SlotContents := Address → Option Octets

/-- What moving a slot into another namespace does to all slots, by the answer of the call. -/
def MovedAside (slot : Address) (space : String) (before after : SlotContents) :
    Except StoreError (Option String) → Prop
  | .ok none => before slot = none ∧ after = before
  | .ok (some key) => ∃ data, before slot = some data ∧
      after = Function.update (Function.update before ⟨space, key⟩ (some data)) slot none
  | .error _ => ∀ a : Address, a.space ≠ space → after a = before a

/-- A backend whose calls do to its slots what their answers tell. It does not look into octets, so
no error of a read calls a slot corrupt. -/
class Faithful (σ : Type) [Backend σ] where
  content : σ → SlotContents
  read_content : ∀ slot s, content (Backend.read slot s).2 = content s
  read_ok : ∀ {slot s data}, (Backend.read slot s).1 = .ok data → data = content s slot
  read_error : ∀ {slot} {s : σ} {e}, (Backend.read slot s).1 = .error e →
    ∀ kind id reason, e ≠ .corruptSlot kind id reason
  write_ok : ∀ {slot data s}, (Backend.write slot data s).1 = .ok () →
    content (Backend.write slot data s).2 = Function.update (content s) slot (some data)
  write_error : ∀ {slot data s e}, (Backend.write slot data s).1 = .error e →
    content (Backend.write slot data s).2 = content s
  list_content : ∀ space s, content (Backend.list space s).2 = content s
  remove_ok : ∀ {slot s b}, (Backend.remove slot s).1 = .ok b →
    content (Backend.remove slot s).2 = Function.update (content s) slot none
  remove_error : ∀ {slot s e}, (Backend.remove slot s).1 = .error e →
    content (Backend.remove slot s).2 = content s
  quarantine_moved : ∀ now slot space s, MovedAside slot space (content s)
    (content (Backend.quarantine now slot space s).2) (Backend.quarantine now slot space s).1

open Faithful

section MoveAside

variable {σ : Type} {read : Address → σ → Except StoreError (Option Octets) × σ}
  {write : Address → Octets → σ → Except StoreError Unit × σ}
  {remove : Address → σ → Except StoreError Bool × σ} {content : σ → SlotContents}

/-- The laws of the three calls by which a slot is moved aside. -/
structure MovesFaithfully (read : Address → σ → Except StoreError (Option Octets) × σ)
    (write : Address → Octets → σ → Except StoreError Unit × σ)
    (remove : Address → σ → Except StoreError Bool × σ) (content : σ → SlotContents) : Prop where
  read_content : ∀ slot s, content (read slot s).2 = content s
  read_ok : ∀ {slot s data}, (read slot s).1 = .ok data → data = content s slot
  write_ok : ∀ {slot data s}, (write slot data s).1 = .ok () →
    content (write slot data s).2 = Function.update (content s) slot (some data)
  write_error : ∀ {slot data s e}, (write slot data s).1 = .error e →
    content (write slot data s).2 = content s
  remove_ok : ∀ {slot s b}, (remove slot s).1 = .ok b →
    content (remove slot s).2 = Function.update (content s) slot none
  remove_error : ∀ {slot s e}, (remove slot s).1 = .error e →
    content (remove slot s).2 = content s

/-- Three calls that keep to their laws move a slot aside. -/
theorem moveAside_moved (h : MovesFaithfully read write remove content) (now : Instant)
    (slot : Address) (space : String) (s : σ) :
    MovedAside slot space (content s) (content (moveAside read write remove now slot space s).2)
      (moveAside read write remove now slot space s).1 := by
  have hcontent := h.read_content slot s
  unfold moveAside
  split
  · next e s₁ hread =>
    rw [hread] at hcontent
    exact fun a _ => congrFun hcontent a
  · next s₁ hread =>
    have hslot := h.read_ok (congrArg Prod.fst hread)
    rw [hread] at hcontent
    exact ⟨hslot.symm, hcontent⟩
  · next data s₁ hread =>
    have hslot := h.read_ok (congrArg Prod.fst hread)
    rw [hread] at hcontent
    dsimp only
    split
    · next e s₂ hwrite =>
      have hsame := h.write_error (congrArg Prod.fst hwrite)
      rw [hwrite] at hsame
      exact fun a _ => congrFun (hsame.trans hcontent) a
    · next s₂ hwrite =>
      have hput := h.write_ok (congrArg Prod.fst hwrite)
      rw [hwrite, hcontent] at hput
      split
      · next e s₃ hremove =>
        have hsame := h.remove_error (congrArg Prod.fst hremove)
        rw [hremove] at hsame
        intro a ha
        have hne : a ≠ ⟨space, backupKey slot.key now⟩ := fun heq => ha (congrArg Address.space heq)
        rw [hsame, hput, Function.update_of_ne hne]
      · next b s₃ hremove =>
        have hgone := h.remove_ok (congrArg Prod.fst hremove)
        rw [hremove, hput] at hgone
        exact ⟨data, hslot.symm, hgone⟩

end MoveAside

/-! ### Memory -/

namespace Memory

def content (m : Memory) : SlotContents := m.get?

theorem content_insert (m : Memory) (slot : Address) (data : Octets) :
    content (m.insert slot data) = Function.update (content m) slot (some data) := by
  funext a
  by_cases ha : slot = a
  · subst ha
    simp [content, Table.get?_insert]
  · simp [content, Table.get?_insert, ha, Function.update_of_ne (Ne.symm ha)]

theorem content_erase (m : Memory) (slot : Address) :
    content (m.erase slot) = Function.update (content m) slot none := by
  funext a
  by_cases ha : slot = a
  · subst ha
    simp [content, Table.get?_erase]
  · simp [content, Table.get?_erase, ha, Function.update_of_ne (Ne.symm ha)]

theorem movesFaithfully : MovesFaithfully read write remove content where
  read_content := fun _ _ => rfl
  read_ok := fun h => (Except.ok.inj h).symm
  write_ok := fun _ => content_insert _ _ _
  write_error := fun h => nomatch h
  remove_ok := fun _ => content_erase _ _
  remove_error := fun h => nomatch h

instance : Faithful Memory where
  content := content
  read_content := movesFaithfully.read_content
  read_ok := movesFaithfully.read_ok
  read_error := fun h => nomatch h
  write_ok := movesFaithfully.write_ok
  write_error := movesFaithfully.write_error
  list_content := fun _ _ => rfl
  remove_ok := movesFaithfully.remove_ok
  remove_error := movesFaithfully.remove_error
  quarantine_moved := moveAside_moved movesFaithfully

end Memory

/-! ### Databases -/

namespace Database

def octetsOf (rows : Rows) : SlotContents := fun slot => (rows.get? slot).map (·.data)

/-- What lies in the rows of a database: nothing while the table is missing. -/
def content (d : Database) : SlotContents := fun slot => d.contents.bind (octetsOf · slot)

theorem octetsOf_insert (rows : Rows) (slot : Address) (row : Row) :
    octetsOf (rows.insert slot row) = Function.update (octetsOf rows) slot (some row.data) := by
  funext a
  by_cases ha : slot = a
  · subst ha
    simp [octetsOf, Table.get?_insert]
  · simp [octetsOf, Table.get?_insert, ha, Function.update_of_ne (Ne.symm ha)]

theorem octetsOf_erase (rows : Rows) (slot : Address) :
    octetsOf (rows.erase slot) = Function.update (octetsOf rows) slot none := by
  funext a
  by_cases ha : slot = a
  · subst ha
    simp [octetsOf, Table.get?_erase]
  · simp [octetsOf, Table.get?_erase, ha, Function.update_of_ne (Ne.symm ha)]

/-- A call on the rows either fails for want of a table or does to them what it does. -/
theorem onRows_cases {α : Type} (call : Rows → Except StoreError α × Rows) (d : Database) :
    d.onRows call = (.error .database, d) ∨
    ∃ rows, content d = octetsOf rows ∧ (d.onRows call).1 = (call rows).1 ∧
      content (d.onRows call).2 = octetsOf (call rows).2 := by
  obtain ⟨checksums, contents⟩ := d
  cases contents with
  | none => exact .inl rfl
  | some rows => exact .inr ⟨rows, rfl, rfl, rfl⟩

variable {α : Type} {call : Rows → Except StoreError α × Rows} {d : Database}

theorem onRows_same (h : ∀ rows, (call rows).2 = rows) : content (d.onRows call).2 = content d := by
  rcases onRows_cases call d with hmissing | ⟨rows, hrows, _, hafter⟩
  · rw [hmissing]
  · rw [hafter, hrows, h]

theorem onRows_ok {x : α} (h : (d.onRows call).1 = .ok x) :
    ∃ rows, content d = octetsOf rows ∧ (call rows).1 = .ok x ∧
      content (d.onRows call).2 = octetsOf (call rows).2 := by
  rcases onRows_cases call d with hmissing | ⟨rows, hrows, hanswer, hafter⟩
  · simp [hmissing] at h
  · exact ⟨rows, hrows, hanswer ▸ h, hafter⟩

theorem onRows_error {e : StoreError} (h : (d.onRows call).1 = .error e)
    (hcall : ∀ rows, (call rows).1 ≠ .error e) : (d.onRows call).2 = d := by
  rcases onRows_cases call d with hmissing | ⟨rows, _, hanswer, _⟩
  · rw [hmissing]
  · exact absurd (hanswer ▸ h) (hcall rows)

theorem quarantine_moved (now : Instant) (slot : Address) (space : String) (d : Database) :
    MovedAside slot space (content d) (content (quarantine now slot space d).2)
      (quarantine now slot space d).1 := by
  unfold quarantine
  rcases onRows_cases _ d with hmissing | ⟨rows, hrows, hanswer, hafter⟩
  · rw [hmissing]
    exact fun _ _ => rfl
  · rw [hanswer, hafter, hrows]
    cases hrow : rows.get? slot with
    | none => exact ⟨by simp [octetsOf, hrow], rfl⟩
    | some row =>
      dsimp only
      split
      · exact fun _ _ => rfl
      · refine ⟨row.data, by simp [octetsOf, hrow], ?_⟩
        rw [octetsOf_erase, octetsOf_insert]

instance : Faithful Database where
  content := content
  read_content := fun _ _ => onRows_same fun _ => rfl
  read_ok := by
    intro slot d data h
    obtain ⟨rows, hrows, hanswer, _⟩ := onRows_ok h
    rw [hrows]
    exact (Except.ok.inj hanswer).symm
  read_error := by
    intro slot d e h kind id reason
    rcases onRows_cases _ d with hmissing | ⟨rows, _, hanswer, _⟩
    · have he : StoreError.database = e := Except.error.inj ((congrArg Prod.fst hmissing).symm.trans h)
      simp [← he]
    · exact nomatch hanswer.symm.trans h
  write_ok := by
    intro slot data d h
    obtain ⟨rows, hrows, _, hafter⟩ := onRows_ok h
    rw [hrows]
    exact hafter.trans (octetsOf_insert rows slot _)
  write_error := fun h => congrArg content (onRows_error h fun _ h => nomatch h)
  list_content := fun _ _ => onRows_same fun _ => rfl
  remove_ok := by
    intro slot d b h
    obtain ⟨rows, hrows, _, hafter⟩ := onRows_ok h
    rw [hrows]
    exact hafter.trans (octetsOf_erase rows slot)
  remove_error := fun h => congrArg content (onRows_error h fun _ h => nomatch h)
  quarantine_moved := quarantine_moved

end Database

/-! ### Either of the two, and plans of failures -/

def Medium.content : Medium → SlotContents
  | .memory m => Memory.content m
  | .database d => Database.content d

instance : Faithful Medium where
  content := Medium.content
  read_content := fun slot m => by
    cases m with
    | memory m => exact read_content slot m
    | database d => exact read_content slot d
  read_ok := fun {slot m _} h => by
    cases m with
    | memory m => exact read_ok (σ := Memory) h
    | database d => exact read_ok (σ := Database) h
  read_error := fun {slot m _} h => by
    cases m with
    | memory m => exact read_error (σ := Memory) h
    | database d => exact read_error (σ := Database) h
  write_ok := fun {slot _ m} h => by
    cases m with
    | memory m => exact write_ok (σ := Memory) h
    | database d => exact write_ok (σ := Database) h
  write_error := fun {slot _ m _} h => by
    cases m with
    | memory m => exact write_error (σ := Memory) h
    | database d => exact write_error (σ := Database) h
  list_content := fun space m => by
    cases m with
    | memory m => exact list_content space m
    | database d => exact list_content space d
  remove_ok := fun {slot m _} h => by
    cases m with
    | memory m => exact remove_ok (σ := Memory) h
    | database d => exact remove_ok (σ := Database) h
  remove_error := fun {slot m _} h => by
    cases m with
    | memory m => exact remove_error (σ := Memory) h
    | database d => exact remove_error (σ := Database) h
  quarantine_moved := fun now slot space m => by
    cases m with
    | memory m => exact quarantine_moved now slot space m
    | database d => exact quarantine_moved now slot space d

namespace Unreliable

variable {σ : Type}

/-- A call that may fail either fails and does nothing or is the call behind it. -/
theorem attempt_cases {α : Type} (kinds : List CallKind) (call : σ → Except StoreError α × σ)
    (u : Unreliable σ) :
    (∃ kind : CallKind, (attempt kinds call u).1 = .error kind.error ∧
      (attempt kinds call u).2.slots = u.slots) ∨
    ((attempt kinds call u).1 = (call u.slots).1 ∧
      (attempt kinds call u).2.slots = (call u.slots).2) := by
  unfold attempt
  dsimp only
  split
  · next kind _ => exact .inl ⟨kind, rfl, rfl⟩
  · exact .inr ⟨rfl, rfl⟩

theorem attempt_ok {α : Type} {kinds : List CallKind} {call : σ → Except StoreError α × σ}
    {u : Unreliable σ} {x : α} (h : (attempt kinds call u).1 = .ok x) :
    (call u.slots).1 = .ok x ∧ (attempt kinds call u).2.slots = (call u.slots).2 := by
  rcases attempt_cases kinds call u with ⟨e, he, _⟩ | ⟨hanswer, hslots⟩
  · simp [he] at h
  · exact ⟨hanswer ▸ h, hslots⟩

variable [Backend σ] [Faithful σ]

def content (u : Unreliable σ) : SlotContents := Faithful.content u.slots

theorem movesFaithfully :
    MovesFaithfully (read (σ := σ)) write remove content where
  read_content := by
    intro slot u
    rcases attempt_cases [.read] (Backend.read slot) u with ⟨_, _, hslots⟩ | ⟨_, hslots⟩
    · exact congrArg Faithful.content hslots
    · exact (congrArg Faithful.content hslots).trans (read_content slot u.slots)
  read_ok := fun h => read_ok (attempt_ok h).1
  write_ok := by
    intro slot data u h
    obtain ⟨hanswer, hslots⟩ := attempt_ok h
    exact (congrArg Faithful.content hslots).trans (write_ok hanswer)
  write_error := by
    intro slot data u e h
    rcases attempt_cases (CallKind.ofWrite slot.space) (Backend.write slot data) u with
      ⟨_, _, hslots⟩ | ⟨hanswer, hslots⟩
    · exact congrArg Faithful.content hslots
    · exact (congrArg Faithful.content hslots).trans (write_error (hanswer.symm.trans h))
  remove_ok := fun h => remove_ok (σ := σ) h
  remove_error := fun h => remove_error (σ := σ) h

instance : Faithful (Unreliable σ) where
  content := content
  read_content := movesFaithfully.read_content
  read_ok := movesFaithfully.read_ok
  read_error := by
    intro slot u e h
    rcases attempt_cases [.read] (Backend.read slot) u with ⟨kind, hkind, _⟩ | ⟨hanswer, _⟩
    · have he : kind.error = e := Except.error.inj (hkind.symm.trans h)
      rw [← he]
      cases kind <;> simp [CallKind.error]
    · exact read_error (hanswer.symm.trans h)
  write_ok := movesFaithfully.write_ok
  write_error := movesFaithfully.write_error
  list_content := by
    intro space u
    rcases attempt_cases [.list] (Backend.list space) u with ⟨_, _, hslots⟩ | ⟨_, hslots⟩
    · exact congrArg Faithful.content hslots
    · exact (congrArg Faithful.content hslots).trans (list_content space u.slots)
  remove_ok := movesFaithfully.remove_ok
  remove_error := movesFaithfully.remove_error
  quarantine_moved := by
    intro now slot space u
    by_cases hstep : u.stepwise = true
    · have hmove : Backend.quarantine now slot space u =
          moveAside read write remove now slot space u := if_pos hstep
      rw [hmove]
      exact moveAside_moved movesFaithfully now slot space u
    · have hmove : Backend.quarantine now slot space u =
          direct (Backend.quarantine now slot space) u := if_neg hstep
      rw [hmove]
      exact quarantine_moved now slot space u.slots

end Unreliable

end Companion
