import Companion.Proofs.Durability

/-!
Loads call by call. A load of a record is one call to the backend after another: it fetches the slot,
and where that holds no record it reads the slot again, writes what it read to the backups and removes
the slot. Between the calls others may do anything to the slot. Without a break the calls come to what
loading does.
-/

namespace Companion

open Number Text Time Json

/-- Reading a slot in memory answers what lies there. -/
theorem Store.read_memory (slot : Address) (s : Store Memory) :
    s.call (Backend.read slot) = (.ok (s.content slot), s) := rfl

/-! ### One load -/

/-- The next call of a load, or what it loaded. -/
inductive Progress (R : Type)
  | fetching
  | rereading
  | copying (data : Octets)
  | removing
  | loaded (found : Loaded R)

namespace Progress

variable {R : Type}

/-- The load found that the slot holds no record, and is about to move it aside. -/
def isLate : Progress R → Bool
  | .rereading => true
  | .copying _ => true
  | .removing => true
  | _ => false

section Calls

variable {σ : Type} [Backend σ] [Record R] (now : Instant) (id : Int64)

/-- A load ends with a new record for a slot that is out of the way, or with one that stands in for
what may still be in the slot. -/
def ended (cleared : Bool) (s : Store σ) : Progress R × Store σ :=
  if cleared then (.loaded (s.newRecord R now id .created), s.bump .recordsCreated)
  else (.loaded (s.newRecord R now id .readFailed), s.bump .readFailures)

/-- The next call of a load of the record of an identifier, to a backend that moves slots aside by
three calls. -/
def call (s : Store σ) : Progress R → Progress R × Store σ
  | .fetching =>
    match s.fetch R now id with
    | (.error (.corruptSlot _ _ _), s) => (.rereading, s)
    | fetched => (Store.settle R now id fetched).map .loaded (fun s => s)
  | .rereading =>
    match s.call (Backend.read (Store.address R id)) with
    | (.ok (some data), s) => (.copying data, s)
    | (.ok none, s) => ended now id true s
    | (.error _, s) => ended now id false s
  | .copying data =>
    let place : Address := ⟨(Record.kind R).backupSpace, backupKey (writeIdentifier id) now⟩
    match s.call (Backend.write place data) with
    | (.ok (), s) => (.removing, s)
    | (.error _, s) => ended now id false s
  | .removing =>
    match s.call (Backend.remove (Store.address R id)) with
    | (.ok _, s) => ended now id true (s.bump .corruptSlotsRecovered)
    | (.error _, s) => ended now id false s
  | .loaded found => (.loaded found, s)

def calls : Nat → Progress R × Store σ → Progress R × Store σ
  | 0, x => x
  | n + 1, (progress, s) => calls n (progress.call now id s)

theorem calls_loaded (n : Nat) (found : Loaded R) (s : Store σ) :
    calls now id n (.loaded found, s) = (.loaded found, s) := by
  induction n with
  | zero => rfl
  | succ n ih => exact ih

end Calls

/-! ### Loads in memory -/

section Memory

variable [Record R] (now : Instant) (id : Int64)

/-- The calls from the second one on come to moving the slot aside. -/
theorem calls_rereading (s : Store Memory) :
    calls now id 3 ((.rereading : Progress R), s) =
      ended now id (s.quarantine R now id).1 (s.quarantine R now id).2 := by
  have hread : Memory.read (Store.address R id) s.slots =
      (.ok (s.content (Store.address R id)), s.slots) := rfl
  simp only [Store.quarantine, Store.call, Backend.quarantine, Backend.read, moveAside, calls, call,
    hread]
  cases s.content (Store.address R id) with
  | none => simp [ended]
  | some data => rfl

/-- Without a break, a load does what loading a record does. -/
theorem calls_eq_getOrCreate (s : Store Memory) :
    calls now id 4 ((.fetching : Progress R), s) =
      (s.getOrCreate R now id).map .loaded (fun s => s) := by
  show calls now id 3 (call now id s .fetching) = _
  unfold Store.getOrCreate call
  dsimp only
  obtain ⟨answer, t⟩ := s.fetch R now id
  cases answer with
  | ok found => cases found <;> exact calls_loaded now id 3 _ _
  | error e =>
    cases e with
    | corruptSlot kind key reason =>
      refine (calls_rereading now id t).trans ?_
      simp only [Store.settle]
      obtain ⟨_ | _, t'⟩ := t.quarantine R now id <;> rfl
    | _ => exact calls_loaded now id 3 _ _

inductive Advances (before : SlotContents) : Progress R → Progress R → SlotContents → Prop
  | fetches (found : Loaded R) : Advances before .fetching (.loaded found) before
  | balks (hslot : ¬ (Record.kind R).Clear (before (Store.address R id))) :
      Advances before .fetching .rereading before
  | finds {data : Octets} (hslot : before (Store.address R id) = some data) :
      Advances before .rereading (.copying data) before
  | misses (found : Loaded R) : Advances before .rereading (.loaded found) before
  | copies (data : Octets) : Advances before (.copying data) .removing
      (Function.update before ⟨(Record.kind R).backupSpace, backupKey (writeIdentifier id) now⟩
        (some data))
  | removes (found : Loaded R) : Advances before .removing (.loaded found)
      (Function.update before (Store.address R id) none)
  | rests (found : Loaded R) : Advances before (.loaded found) (.loaded found) before

theorem call_advances [Record.Steady R] (s : Store Memory) (progress : Progress R) :
    Advances now id s.content progress (progress.call now id s).1
      (progress.call now id s).2.content := by
  cases progress with
  | fetching =>
    obtain ⟨hfetch, hcontent, -⟩ := Store.fetch_fetches R now id s
    unfold call
    dsimp only
    generalize s.fetch R now id = fetched at hfetch hcontent
    obtain ⟨answer, t⟩ := fetched
    dsimp only at hfetch hcontent
    rw [← hcontent] at hfetch ⊢
    cases hfetch with
    | found hslot hread => exact .fetches _
    | empty hslot => exact .fetches _
    | corrupt hslot hread => exact .balks fun hclear => Record.not_holds_of_error hread (hclear _ hslot)
    | @failed e hplain =>
      cases e with
      | corruptSlot kind key reason => exact absurd rfl (hplain kind key reason)
      | _ => exact .fetches _
  | rereading =>
    simp only [call, Store.read_memory]
    cases hslot : s.content (Store.address R id) with
    | none => exact .misses _
    | some data => exact .finds hslot
  | copying data =>
    have hput : ((Progress.copying data : Progress R).call now id s).2.content = _ :=
      Memory.content_insert s.slots ⟨_, backupKey (writeIdentifier id) now⟩ data
    rw [hput]
    exact .copies data
  | removing =>
    have hgone : ((Progress.removing : Progress R).call now id s).2.content = _ :=
      Memory.content_erase s.slots (Store.address R id)
    rw [hgone]
    exact .removes _
  | loaded found => exact .rests found

end Memory

end Progress

/-! ### Loads of either kind -/

abbrev RecordKind.Of : RecordKind → Type
  | .user => UserRecord
  | .group => GroupRecord

instance : (kind : RecordKind) → Record kind.Of
  | .user => inferInstanceAs (Record UserRecord)
  | .group => inferInstanceAs (Record GroupRecord)

instance : (kind : RecordKind) → Record.Steady kind.Of
  | .user => inferInstanceAs (Record.Steady UserRecord)
  | .group => inferInstanceAs (Record.Steady GroupRecord)

theorem RecordKind.kind_of (kind : RecordKind) : Record.kind kind.Of = kind := by
  cases kind <;> rfl

theorem LockKey.address_of (key : LockKey) : Store.address key.kind.Of key.id = key.slot := by
  unfold Store.address
  rw [key.kind.kind_of]
  rfl

structure Load where
  key : LockKey
  progress : Progress key.kind.Of := .fetching

def Load.call (now : Instant) (s : Store Memory) (l : Load) : Load × Store Memory :=
  (l.progress.call now l.key.id s).map (fun progress => { l with progress }) (fun s => s)

/-! ### Jobs that have loaded -/

/-- A job that has loaded its record, carried out up to where it saves or asks. -/
def Job.proceed {σ : Type} [Backend σ] (now : Instant) (ticket : Nat) (a : Agent σ) :
    (job : Job) → Loaded job.key.kind.Of → Stage × Agent σ
  | .editUser _ change, loaded =>
    (.changed ticket (.ofUser ⟨change now loaded.record, loaded.state⟩), a)
  | .editGroup _ change, loaded =>
    (.changed ticket (.ofGroup ⟨change now loaded.record, loaded.state⟩), a)
  | .syncName event, loaded => (.changed ticket (nameTold event .ofUser loaded), a)
  | .reply event, loaded =>
    let loaded := named event loaded
    let (other, a) := a.mentioned now event
    (.asking ticket ⟨event, loaded, a.contextOf event loaded.record other⟩, a)

/-- A job loads its record and goes on with it. -/
theorem Errand.start_eq {σ : Type} [Backend σ] (now : Instant) (ticket : Nat) (job : Job)
    (a : Agent σ) : Errand.start now ticket job a =
      job.proceed now ticket { a with store := (a.store.getOrCreate job.key.kind.Of now job.key.id).2 }
        (a.store.getOrCreate job.key.kind.Of now job.key.id).1 := by
  cases job with
  | editUser id change => rfl
  | editGroup id change => rfl
  | syncName event => rfl
  | reply event => rfl

end Companion
