import Companion.Proofs.Media

/-!
Loading a record while any of the calls to the backend may fail. A load reads a slot, and if the slot
holds no record it moves it aside, by a call that does so as a whole or by three calls that read, write
and remove. Where the load ends tells whether the slot is still there, and nothing is lost on the way.
-/

namespace Companion

open Text Time Json

/-! ### Failures of any call -/

/-- Why a call does not get through to the slots. -/
inductive Mishap
  | io (reason : String)
  | database

def Mishap.error : Mishap → StoreError
  | .io reason => .io reason
  | .database => .database

/-- A backend any of whose calls may fail. A plan says of each call, by its number, whether it does;
one that fails changes no slot. `stepwise` says whether a slot is moved aside by three calls. -/
structure Brittle (σ : Type) where
  slots : σ
  stepwise : Bool
  mishap? : Nat → Option Mishap
  calls : Nat := 0

namespace Brittle

variable {σ α : Type}

/-- The backend after one call more that changed no slot. -/
def counted (b : Brittle σ) : Brittle σ := { b with calls := b.calls + 1 }

/-- A call that is made or fails, as the plan says. -/
def attempt (call : σ → Except StoreError α × σ) (b : Brittle σ) : Except StoreError α × Brittle σ :=
  match b.mishap? b.calls with
  | some mishap => (.error mishap.error, b.counted)
  | none =>
    let (answer, slots) := call b.slots
    (answer, { b.counted with slots })

section Backend

variable [Backend σ]

def read (slot : Address) : Brittle σ → Except StoreError (Option Octets) × Brittle σ :=
  attempt (Backend.read slot)

def write (slot : Address) (data : Octets) : Brittle σ → Except StoreError Unit × Brittle σ :=
  attempt (Backend.write slot data)

def remove (slot : Address) : Brittle σ → Except StoreError Bool × Brittle σ :=
  attempt (Backend.remove slot)

/-- Moving a slot aside, by three calls or as a whole. -/
def quarantine (now : Instant) (slot : Address) (space : String) (b : Brittle σ) :
    Except StoreError (Option String) × Brittle σ :=
  if b.stepwise then moveAside read write remove now slot space b
  else attempt (Backend.quarantine now slot space) b

instance : Backend (Brittle σ) where
  read := read
  write := write
  list := fun space => attempt (Backend.list space)
  remove := remove
  quarantine := quarantine

variable [Faithful σ]

def content (b : Brittle σ) : SlotContents := Faithful.content b.slots

/-- What holds of a call, and of an error that changes nothing, holds of a call that may fail. -/
theorem attempt_law (P : SlotContents → SlotContents → Except StoreError α → Prop)
    {call : σ → Except StoreError α × σ} {b : Brittle σ}
    (hmishap : ∀ mishap : Mishap, P b.content b.content (.error mishap.error))
    (hcall : P b.content (Faithful.content (call b.slots).2) (call b.slots).1) :
    P b.content (attempt call b).2.content (attempt call b).1 := by
  unfold attempt
  cases b.mishap? b.calls with
  | some mishap => exact hmishap mishap
  | none => exact hcall

theorem movesFaithfully : MovesFaithfully (read (σ := σ)) write remove content where
  read_content slot b :=
    attempt_law (fun before after _ => after = before) (fun _ => rfl)
      (Faithful.read_content slot b.slots)
  read_ok {slot _ data} :=
    attempt_law (fun before _ answer => answer = .ok data → data = before slot)
      (fun _ h => nomatch h) Faithful.read_ok
  write_ok {slot data _} :=
    attempt_law (fun before after answer =>
      answer = .ok () → after = Function.update before slot (some data))
      (fun _ h => nomatch h) Faithful.write_ok
  write_error {_ _ _ e} :=
    attempt_law (fun before after answer => answer = .error e → after = before)
      (fun _ _ => rfl) Faithful.write_error
  remove_ok {slot _ gone} :=
    attempt_law (fun before after answer =>
      answer = .ok gone → after = Function.update before slot none)
      (fun _ h => nomatch h) Faithful.remove_ok
  remove_error {_ _ e} :=
    attempt_law (fun before after answer => answer = .error e → after = before)
      (fun _ _ => rfl) Faithful.remove_error

instance : Faithful (Brittle σ) where
  content := content
  read_content := movesFaithfully.read_content
  read_ok := movesFaithfully.read_ok
  read_error {_ _ e} := by
    refine attempt_law (fun _ _ answer =>
      answer = .error e → ∀ kind id reason, e ≠ .corruptSlot kind id reason) ?_ Faithful.read_error
    intro mishap h kind id reason
    rw [← Except.error.inj h]
    cases mishap <;> simp [Mishap.error]
  write_ok := movesFaithfully.write_ok
  write_error := movesFaithfully.write_error
  list_content space b :=
    attempt_law (fun before after _ => after = before) (fun _ => rfl)
      (Faithful.list_content space b.slots)
  remove_ok := movesFaithfully.remove_ok
  remove_error := movesFaithfully.remove_error
  quarantine_moved now slot space b := by
    show MovedAside slot space b.content (quarantine now slot space b).2.content
      (quarantine now slot space b).1
    unfold quarantine
    split
    · exact moveAside_moved movesFaithfully now slot space b
    · exact attempt_law (MovedAside slot space) (fun _ _ _ => rfl)
        (Faithful.quarantine_moved now slot space b.slots)

end Backend

end Brittle

/-! ### Which calls go through -/

/-- A slot is removed unless the medium is broken. -/
theorem Medium.remove_answer {m : Medium} (h : m.kind ≠ .broken) (slot : Address) :
    ∃ gone, (Backend.remove slot m).1 = .ok gone := by
  obtain m | ⟨checksums, _ | rows⟩ := m
  · exact ⟨_, rfl⟩
  · exact absurd rfl h
  · exact ⟨_, rfl⟩

namespace MediumKind

variable {kind : MediumKind}

theorem answer_of_ne {α : Type} (h : kind ≠ .broken) (x : α) : kind.answer x = .ok x := by
  cases kind with
  | broken => exact absurd rfl h
  | memory => rfl
  | database => rfl

theorem isOk_moveAnswer (held taken : Bool) (key : String) :
    (kind.moveAnswer held taken key).isOk = true ↔
      kind ≠ .broken ∧ (held = false ∨ (kind = .database → taken = false)) := by
  cases kind <;> cases held <;> cases taken <;> simp [moveAnswer, Except.isOk, Except.toBool]

end MediumKind

namespace Brittle

/-- The call that comes after `n` others goes through. -/
def Goes {σ : Type} (b : Brittle σ) (n : Nat) : Prop := b.mishap? (b.calls + n) = none

def Reads (b : Brittle Medium) (n : Nat) : Prop := b.slots.kind ≠ .broken ∧ b.Goes n

/-- A slot is moved to a place, or found empty, by the three calls after `n` others or by the one call,
which does not write over what lies in a row of a database. -/
def Clears (b : Brittle Medium) (n : Nat) (slot place : Address) : Prop :=
  b.Reads n ∧ (b.content slot = none ∨
    if b.stepwise then b.Goes (n + 1) ∧ b.Goes (n + 2)
    else b.slots.kind = .database → b.content place = none)

theorem attempt_goes {σ α : Type} (call : σ → Except StoreError α × σ) {b : Brittle σ} (h : b.Goes 0) :
    attempt call b = ((call b.slots).1, { b.counted with slots := (call b.slots).2 }) := by
  have hplan : b.mishap? b.calls = none := h
  rw [attempt, hplan]

theorem attempt_stops {σ α : Type} (call : σ → Except StoreError α × σ) {b : Brittle σ}
    (h : ¬ b.Goes 0) : ∃ e, attempt call b = (.error e, b.counted) := by
  obtain ⟨mishap, hplan⟩ := Option.ne_none_iff_exists'.mp h
  replace hplan : b.mishap? b.calls = some mishap := hplan
  exact ⟨mishap.error, by rw [attempt, hplan]⟩

section Answers

variable (b : Brittle Medium)

/-- What lies in a slot is read if the call goes through, and there is an error if not. -/
theorem read_answer (slot : Address) :
    (b.Reads 0 ∧ read slot b = (.ok (b.content slot), b.counted)) ∨
      (¬ b.Reads 0 ∧ ∃ e, read slot b = (.error e, b.counted)) := by
  by_cases hgoes : b.Goes 0
  · have hcall := attempt_goes (Backend.read slot) hgoes
    rw [b.slots.read_eq slot] at hcall
    by_cases hbroken : b.slots.kind = .broken
    · rw [hbroken] at hcall
      exact .inr ⟨fun h => h.1 hbroken, _, hcall⟩
    · rw [MediumKind.answer_of_ne hbroken] at hcall
      exact .inl ⟨⟨hbroken, hgoes⟩, hcall⟩
  · exact .inr ⟨fun h => hgoes h.2, attempt_stops _ hgoes⟩

/-- A slot is written if the call goes through, and there is an error if not. -/
theorem write_answer (h : b.slots.kind ≠ .broken) (slot : Address) (data : Octets) :
    (b.Goes 0 ∧ ∃ m : Medium, m.kind = b.slots.kind ∧
      write slot data b = (.ok (), { b.counted with slots := m })) ∨
    (¬ b.Goes 0 ∧ ∃ e, write slot data b = (.error e, b.counted)) := by
  by_cases hgoes : b.Goes 0
  · obtain ⟨hanswer, hkind⟩ := b.slots.write_answer slot data
    have hcall := attempt_goes (Backend.write slot data) hgoes
    rw [hanswer, MediumKind.answer_of_ne h] at hcall
    exact .inl ⟨hgoes, _, hkind, hcall⟩
  · exact .inr ⟨hgoes, attempt_stops _ hgoes⟩

theorem isOk_remove (h : b.slots.kind ≠ .broken) (slot : Address) :
    (remove slot b).1.isOk = true ↔ b.Goes 0 := by
  by_cases hgoes : b.Goes 0
  · obtain ⟨gone, hanswer⟩ := Medium.remove_answer h slot
    rw [remove, attempt_goes _ hgoes, hanswer]
    exact iff_of_true rfl hgoes
  · obtain ⟨e, hcall⟩ := attempt_stops (Backend.remove slot) hgoes
    rw [remove, hcall]
    exact iff_of_false Bool.false_ne_true hgoes

/-- A slot is out of the way after three calls if they all go through, or if the first finds nothing. -/
theorem isOk_moveAside (now : Instant) (slot : Address) (space : String) :
    (moveAside read write remove now slot space b).1.isOk = true ↔
      b.Reads 0 ∧ (b.content slot = none ∨ b.Goes 1 ∧ b.Goes 2) := by
  unfold moveAside
  rcases b.read_answer slot with ⟨hreads, hread⟩ | ⟨hstops, e, hread⟩
  · rw [hread]
    cases hslot : b.content slot with
    | none => exact iff_of_true rfl ⟨hreads, .inl rfl⟩
    | some data =>
      dsimp only
      rcases b.counted.write_answer hreads.1 ⟨space, backupKey slot.key now⟩ data with
        ⟨hwrites, m, hkind, hwrite⟩ | ⟨hstops, e, hwrite⟩
      · rw [hwrite]
        have hsecond : b.Goes 1 := hwrites
        have hthird : ({ b.counted.counted with slots := m } : Brittle Medium).Goes 0 ↔ b.Goes 2 :=
          Iff.rfl
        have hall : b.Reads 0 ∧ (some data = none ∨ b.Goes 1 ∧ b.Goes 2) ↔ b.Goes 2 := by
          simp [hreads, hsecond]
        rw [hall, ← hthird, ← isOk_remove _ (hkind ▸ hreads.1) slot]
        dsimp only [counted]
        generalize remove slot (_ : Brittle Medium) = r
        obtain ⟨answer, after⟩ := r
        cases answer <;> exact Iff.rfl
      · rw [hwrite]
        have hsecond : ¬ b.Goes 1 := hstops
        refine iff_of_false Bool.false_ne_true ?_
        simp [hsecond]
  · rw [hread]
    exact iff_of_false Bool.false_ne_true fun h => hstops h.1

theorem isOk_quarantine (now : Instant) (slot : Address) (space : String) :
    (Backend.quarantine now slot space b).1.isOk = true ↔
      b.Clears 0 slot ⟨space, backupKey slot.key now⟩ := by
  show (quarantine now slot space b).1.isOk = true ↔ _
  unfold quarantine Clears
  split
  · exact b.isOk_moveAside now slot space
  · by_cases hgoes : b.Goes 0
    · rw [attempt_goes _ hgoes, (b.slots.quarantine_answer now slot space).1,
        MediumKind.isOk_moveAnswer]
      simp [Reads, hgoes, content]
    · obtain ⟨e, hcall⟩ := attempt_stops (Backend.quarantine now slot space) hgoes
      rw [hcall]
      exact iff_of_false Bool.false_ne_true fun h => hgoes h.1.2

end Answers

end Brittle

/-! ### Where a load ends -/

namespace Store

variable {σ : Type} [Backend σ] (R : Type) [Record R] (now : Instant) (id : Int64)

/-- A load that goes on to move a slot aside ends by whether the call that moves it gives an error. -/
theorem state_settle (kind : RecordKind) (key reason : String) (s : Store σ) :
    (settle R now id (.error (.corruptSlot kind key reason), s)).1.state =
      if (Backend.quarantine now (address R id) (Record.kind R).backupSpace s.slots).1.isOk then
        .created
      else .readFailed := by
  dsimp only [settle]
  unfold quarantine call
  dsimp only
  generalize Backend.quarantine now (address R id) (Record.kind R).backupSpace s.slots = r
  obtain ⟨answer, slots⟩ := r
  match answer with
  | .ok (some place) => rfl
  | .ok none => rfl
  | .error e => rfl

/-- Where a load ends, by what its first call answered and left. -/
def endOf (read : Except StoreError (Option Octets) × σ) : LoadState :=
  match read.1 with
  | .error _ => .readFailed
  | .ok none => .created
  | .ok (some data) =>
    match (Record.decode now data : Except Fault R) with
    | .ok _ => .found
    | .error _ =>
      if (Backend.quarantine now (address R id) (Record.kind R).backupSpace read.2).1.isOk then
        .created
      else .readFailed

theorem state_getOrCreate [Faithful σ] (s : Store σ) :
    (s.getOrCreate R now id).1.state = endOf R now id (Backend.read (address R id) s.slots) := by
  have herror := @Faithful.read_error σ _ _ (address R id) s.slots
  unfold getOrCreate fetch call endOf
  dsimp only
  generalize Backend.read (address R id) s.slots = r at herror
  obtain ⟨answer, slots⟩ := r
  match answer with
  | .error e =>
    have hplain := herror rfl
    cases e with
    | corruptSlot kind key reason => exact absurd rfl (hplain kind key reason)
    | _ => rfl
  | .ok none => rfl
  | .ok (some data) =>
    dsimp only [decodeSlot]
    cases (Record.decode now data : Except Fault R) with
    | ok record => rfl
    | error f => exact state_settle R now id _ _ _ { s with slots := slots }

/-- What a load of the record of an identifier gives, and how it leaves the slots, in keeping with where
it says that it ended. -/
structure Conserves (settings : RecordSettings) (before after : SlotContents) (loaded : Loaded R) :
    Prop where
  found : loaded.state = .found →
    ∃ data, before (address R id) = some data ∧ Record.decode now data = .ok loaded.record
  blank : loaded.state ≠ .found → loaded.record = Record.blank settings id now
  vacant : loaded.state = .created → after (address R id) = none
  untouched : loaded.state ≠ .created → after (address R id) = before (address R id)
  own : after (address R id) = before (address R id) ∨ after (address R id) = none
  others : ∀ a, a ≠ address R id → a.space ≠ (Record.kind R).backupSpace → after a = before a
  kept : ∀ data, before (address R id) = some data → after (address R id) = some data ∨
    ∃ key, after ⟨(Record.kind R).backupSpace, key⟩ = some data

section Conserves

variable {settings : RecordSettings} {before after : SlotContents} {data : Octets}

theorem conserves_empty (hslot : before (address R id) = none) :
    Conserves R now id settings before before ⟨Record.blank settings id now, .created⟩ where
  found := nofun
  blank _ := rfl
  vacant _ := hslot
  untouched hne := absurd rfl hne
  own := .inl rfl
  others _ _ _ := rfl
  kept _ hdata := .inl hdata

theorem conserves_moved (hslot : before (address R id) = some data) (key : String) :
    Conserves R now id settings before
      (Function.update
        (Function.update before ⟨(Record.kind R).backupSpace, key⟩ (some data)) (address R id) none)
      ⟨Record.blank settings id now, .created⟩ where
  found := nofun
  blank _ := rfl
  vacant _ := Function.update_self ..
  untouched hne := absurd rfl hne
  own := .inr (Function.update_self ..)
  others a hslot hspace := by
    rw [Function.update_of_ne hslot,
      Function.update_of_ne fun heq => hspace (congrArg Address.space heq)]
  kept data' hdata := by
    obtain rfl := Option.some.inj (hslot.symm.trans hdata)
    refine .inr ⟨key, ?_⟩
    rw [Function.update_of_ne fun heq => space_ne_backupSpace _ _ (congrArg Address.space heq).symm,
      Function.update_self]

theorem conserves_failed
    (hsame : ∀ a : Address, a.space ≠ (Record.kind R).backupSpace → after a = before a) :
    Conserves R now id settings before after ⟨Record.blank settings id now, .readFailed⟩ where
  found := nofun
  blank _ := rfl
  vacant := nofun
  untouched _ := hsame _ (space_ne_backupSpace _ _)
  own := .inl (hsame _ (space_ne_backupSpace _ _))
  others a _ hspace := hsame a hspace
  kept _ hdata := .inl ((hsame _ (space_ne_backupSpace _ _)).trans hdata)

variable {R now id}

theorem Loads.conserves {loaded : Loaded R} (h : Loads R settings now id before loaded after) :
    Conserves R now id settings before after loaded := by
  cases h with
  | found hslot hread =>
    exact ⟨fun _ => ⟨_, hslot, hread⟩, fun hne => absurd rfl hne, nofun, fun _ => rfl, .inl rfl,
      fun _ _ _ => rfl, fun _ hdata => .inl hdata⟩
  | empty hslot => exact conserves_empty R now id hslot
  | moved hslot hread => exact conserves_moved R now id hslot _
  | failed hsame => exact conserves_failed R now id hsame

variable (R now id)

/-- A load that goes on to move a slot aside conserves what lies in the slots by then. -/
theorem settle_conserves {σ : Type} [Backend σ] [Faithful σ] (kind : RecordKind) (key reason : String)
    (s : Store σ) :
    let settled := settle R now id (.error (.corruptSlot kind key reason), s)
    Conserves R now id s.settings s.content settled.2.content settled.1 := by
  have hmoved := Faithful.quarantine_moved now (address R id) (Record.kind R).backupSpace s.slots
  dsimp only [settle]
  unfold quarantine call
  dsimp only
  generalize Backend.quarantine now (address R id) (Record.kind R).backupSpace s.slots = r at hmoved
  obtain ⟨answer, slots⟩ := r
  match answer with
  | .ok none =>
    obtain ⟨hslot, hafter⟩ := hmoved
    show Conserves R now id s.settings s.content (Faithful.content slots) _
    rw [hafter]
    exact conserves_empty R now id hslot
  | .ok (some place) =>
    obtain ⟨data, hslot, hafter⟩ := hmoved
    show Conserves R now id s.settings s.content (Faithful.content slots) _
    rw [hafter]
    exact conserves_moved R now id hslot place
  | .error e => exact conserves_failed R now id hmoved

end Conserves

/-- A slot holds octets that are read as a record at a time. -/
def Legible (slot : Option Octets) : Prop :=
  ∃ data record, slot = some data ∧ (Record.decode now data : Except Fault R) = .ok record

def Illegible (slot : Option Octets) : Prop :=
  ∃ data f, slot = some data ∧ (Record.decode now data : Except Fault R) = .error f

variable {R now} in
theorem Illegible.not_legible {slot : Option Octets} (h : Illegible R now slot) :
    slot ≠ none ∧ ¬ Legible R now slot := by
  obtain ⟨data, f, rfl, herror⟩ := h
  refine ⟨nofun, ?_⟩
  rintro ⟨data', record, hdata, hread⟩
  rw [← Option.some.inj hdata, herror] at hread
  exact nomatch hread

/-- Which calls go through and what lies in the slot tell where a load ends. -/
theorem getOrCreate_ends (s : Store (Brittle Medium)) :
    let slot := s.content (address R id)
    let state := (s.getOrCreate R now id).1.state
    let clears := s.slots.Clears 1 (address R id)
      ⟨(Record.kind R).backupSpace, backupKey (address R id).key now⟩
    (¬ s.slots.Reads 0 ∧ state = .readFailed) ∨
    (s.slots.Reads 0 ∧ slot = none ∧ state = .created) ∨
    (s.slots.Reads 0 ∧ Legible R now slot ∧ state = .found) ∨
    (s.slots.Reads 0 ∧ Illegible R now slot ∧
      (clears ∧ state = .created ∨ ¬ clears ∧ state = .readFailed)) := by
  dsimp only
  rw [state_getOrCreate R now id s]
  have hcall : Backend.read (address R id) s.slots = Brittle.read (address R id) s.slots := rfl
  rw [hcall]
  rcases s.slots.read_answer (address R id) with ⟨hreads, hread⟩ | ⟨hstops, e, hread⟩
  · have hcontent : s.slots.content (address R id) = s.content (address R id) := rfl
    rw [hread, hcontent]
    cases hslot : s.content (address R id) with
    | none => exact .inr (.inl ⟨hreads, rfl, rfl⟩)
    | some data =>
      unfold endOf
      dsimp only
      cases hdecode : (Record.decode now data : Except Fault R) with
      | ok record => exact .inr (.inr (.inl ⟨hreads, ⟨data, record, rfl, hdecode⟩, rfl⟩))
      | error f =>
        have hclears := s.slots.counted.isOk_quarantine now (address R id) (Record.kind R).backupSpace
        refine .inr (.inr (.inr ⟨hreads, ⟨data, f, rfl, hdecode⟩, ?_⟩))
        dsimp only
        split
        · next hmoved => exact .inl ⟨hclears.mp hmoved, rfl⟩
        · next hstays => exact .inr ⟨mt hclears.mpr hstays, rfl⟩
  · refine .inl ⟨hstops, ?_⟩
    rw [hread]
    rfl

/-- Loading a record always ends, tells the truth and loses nothing, whatever lies in the slots of
memory or a database and whichever of the calls to it fail. A record is found if its slot is read and
holds it. One is created if the slot is read and is empty, or holds octets that hold no record and all
calls go through that move it aside; its slot is empty then, so that saving it writes over nothing.
Otherwise the load failed. Unless a record is created the slot is as it was. In any case the slot keeps
what it held or is empty, all addresses outside the namespace of backups but the slot are as they were,
and the octets that the slot held are in it or in that namespace. A slot to be moved aside may have
changed since it was read, or be gone: then all this is so of what it holds by then. -/
theorem getOrCreate_conserves (s : Store (Brittle Medium)) :
    let slot := address R id
    let place : Address := ⟨(Record.kind R).backupSpace, backupKey slot.key now⟩
    let loaded := (s.getOrCreate R now id).1
    (loaded.state = .found ↔ s.slots.Reads 0 ∧ Legible R now (s.content slot)) ∧
    (loaded.state = .created ↔ s.slots.Reads 0 ∧ (s.content slot = none ∨
      Illegible R now (s.content slot) ∧ s.slots.Clears 1 slot place)) ∧
    Conserves R now id s.settings s.content (s.getOrCreate R now id).2.content loaded ∧
    ∀ (t : Store (Brittle Medium)) (kind : RecordKind) (key reason : String),
      let settled := settle R now id (.error (.corruptSlot kind key reason), t)
      (settled.1.state = .created ↔ t.slots.Clears 0 slot place) ∧
      Conserves R now id t.settings t.content settled.2.content settled.1 := by
  dsimp only
  rw [← and_assoc]
  refine ⟨?_, (getOrCreate_loads R now id s).1.conserves, ?_⟩
  · rcases getOrCreate_ends R now id s with
      ⟨hstops, hend⟩ | ⟨hreads, hslot, hend⟩ | ⟨hreads, hslot, hend⟩ | ⟨hreads, hslot, hend⟩
    · simp [hend, hstops]
    · simp [hend, hreads, hslot, Legible]
    · have hnot : ¬ Illegible R now (s.content (address R id)) := fun h => h.not_legible.2 hslot
      have hheld : s.content (address R id) ≠ none := by
        obtain ⟨data, _, hdata, _⟩ := hslot
        rw [hdata]
        exact nofun
      simp [hend, hreads, hslot, hnot, hheld]
    · obtain ⟨hheld, hnot⟩ := hslot.not_legible
      rcases hend with ⟨hclears, hend⟩ | ⟨hstays, hend⟩
      · simp [hend, hreads, hslot, hnot, hclears]
      · simp [hend, hnot, hheld, hstays]
  · intro t kind key reason
    refine ⟨?_, settle_conserves R now id kind key reason t⟩
    rw [state_settle R now id kind key reason t, ← t.slots.isOk_quarantine now]
    split
    · next hmoved => exact iff_of_true rfl hmoved
    · next hstays => exact iff_of_false nofun hstays

/-- Where only the removal fails the octets are in both places, and the load does not call them gone. -/
example :
    let start : Instant := ⟨epoch, 0, 0, isMoment_zero⟩
    let key : LockKey := ⟨.user, 1⟩
    let s : Store (Brittle Medium) := { slots :=
      { slots := .memory (Table.empty.insert key.slot [120]), stepwise := true,
        mishap? := fun n => if n = 3 then some .database else none } }
    let (loaded, t) := s.getOrCreate UserRecord start 1
    loaded.state = .readFailed ∧ t.content key.slot = some [120] ∧
      t.content (key.backup start) = some [120] := by
  exact ⟨rfl, rfl, rfl⟩

end Store

end Companion
