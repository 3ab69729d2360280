import Companion.Proofs.Loading
import Companion.Proofs.Mirrors

/-!
Stores over either backend. Whatever a store is asked, one over a database answers as one over memory
does, as long as the two hold the same and every slot that is moved aside finds its place free. So
nobody can tell from the answers of a store, from its counters or from what lies in its slots where it
keeps them.
-/

namespace Companion

open Number Text Time Json

/-! ### Inquiries -/

inductive RecordCall (R : Type)
  | getOrCreate (id : Int64)
  | load (id : Int64)
  | fetch (id : Int64)
  | update (id : Int64) (change : Instant → R → R)
  | save (record : R)
  | trySave (record : R)
  | listAll

inductive RecordAnswer (R : Type)
  | loaded (loaded : Loaded R)
  | record (record : R)
  | fetched (found : Except StoreError (Option R))
  | saved
  | tried (result : Except StoreError Unit)
  | listed (records : List R)

/-- All that a store can be asked, and calls to its backend past it. -/
inductive Inquiry
  | users (call : RecordCall UserRecord)
  | groups (call : RecordCall GroupRecord)
  | find (name : String)
  | findOther (asker : Int64) (name : String)
  | slots (call : SlotCall)

inductive InquiryAnswer
  | users (answer : RecordAnswer UserRecord)
  | groups (answer : RecordAnswer GroupRecord)
  | found (record : Option UserRecord)
  | slots (answer : SlotAnswer)

section Answers

variable {σ : Type} [Backend σ] (now : Instant)

def RecordCall.run {R : Type} [Record R] (s : Store σ) : RecordCall R → RecordAnswer R × Store σ
  | .getOrCreate i => (s.getOrCreate R now i).map .loaded id
  | .load i => (s.load R now i).map .record id
  | .fetch i => (s.fetch R now i).map .fetched id
  | .update i change => (s.update R now i fun r => (change now r, ())).map (.record ·.1) id
  | .save record => (.saved, s.save record)
  | .trySave record => (s.trySave record).map .tried id
  | .listAll => (s.listAll R now).map .listed id

def Inquiry.run (s : Store σ) : Inquiry → InquiryAnswer × Store σ
  | .users call => (call.run now s).map .users id
  | .groups call => (call.run now s).map .groups id
  | .find name => (Names.find now name s).map .found id
  | .findOther asker name => (Names.findOther asker now name s).map .found id
  | .slots call => (s.call (call.run now)).map .slots id

def Store.answers : List (Instant × Inquiry) → Store σ → List InquiryAnswer × Store σ
  | [], s => ([], s)
  | (now, inquiry) :: rest, s =>
    let (answer, s) := inquiry.run now s
    (Store.answers rest s).map (answer :: ·) id

end Answers

/-! ### Room for what is moved aside -/

/-- If the slot of a record holds none, the place that it is moved to is free. -/
def Store.HasRoom (R : Type) [Record R] (now : Instant) (id : Int64) (m : Memory) : Prop :=
  ∀ data f, m.get? (Store.address R id) = some data →
    (Record.decode now data : Except Fault R) = .error f →
    m.HasRoom now (Store.address R id) (Record.kind R).backupSpace

def RecordCall.HasRoom {R : Type} [Record R] (now : Instant) (m : Memory) : RecordCall R → Prop
  | .getOrCreate id => Store.HasRoom R now id m
  | .load id => Store.HasRoom R now id m
  | .update id _ => Store.HasRoom R now id m
  | _ => True

def Inquiry.HasRoom (now : Instant) (m : Memory) : Inquiry → Prop
  | .users call => call.HasRoom now m
  | .groups call => call.HasRoom now m
  | .slots call => call.HasRoom now m
  | _ => True

def Store.AlwaysHasRoom : List (Instant × Inquiry) → Store Memory → Prop
  | [], _ => True
  | (now, inquiry) :: rest, s =>
    inquiry.HasRoom now s.slots ∧ Store.AlwaysHasRoom rest (inquiry.run now s).2

/-! ### Stores that are alike -/

namespace Store

/-- A store over a database and one over memory that hold the same and have counted the same. -/
structure Alike (s : Store Database) (t : Store Memory) : Prop where
  slots : s.slots.Mirrors t.slots
  settings : s.settings = t.settings
  counters : s.counters = t.counters

def Agree {α : Type} (x : α × Store Database) (y : α × Store Memory) : Prop :=
  x.1 = y.1 ∧ x.2.Alike y.2

variable {s : Store Database} {t : Store Memory}

theorem Agree.map {α β : Type} {x : α × Store Database} {y : α × Store Memory} (h : Agree x y)
    (f : α → β) : Agree (x.map f id) (y.map f id) :=
  ⟨congrArg f h.1, h.2⟩

theorem Alike.bump (h : s.Alike t) (k : Counter) : (s.bump k).Alike (t.bump k) :=
  ⟨h.slots, h.settings, congrArg (·.bump k) h.counters⟩

theorem Alike.call (h : s.Alike t) {α : Type} {onDatabase : Database → α × Database}
    {onMemory : Memory → α × Memory} (hcall : Database.Echoes (onDatabase s.slots) (onMemory t.slots)) :
    Agree (s.call onDatabase) (t.call onMemory) :=
  ⟨hcall.1, hcall.2, h.settings, h.counters⟩

section Records

variable (R : Type) [Record R] {now : Instant} {id : Int64}

theorem Alike.fetch (h : s.Alike t) (now : Instant) (id : Int64) :
    Agree (s.fetch R now id) (t.fetch R now id) := by
  obtain ⟨hanswer, halike⟩ := h.call (h.slots.read (address R id))
  unfold Store.fetch
  dsimp only
  generalize s.call (Backend.read (address R id)) = x at hanswer halike
  generalize t.call (Backend.read (address R id)) = y at hanswer halike
  obtain ⟨answer, s⟩ := x
  obtain ⟨_, t⟩ := y
  obtain rfl := hanswer
  cases answer with
  | error e => exact ⟨rfl, halike⟩
  | ok found =>
    cases found with
    | none => exact ⟨rfl, halike⟩
    | some data => exact ⟨rfl, halike⟩

theorem Alike.quarantine (h : s.Alike t)
    (hroom : t.slots.HasRoom now (address R id) (Record.kind R).backupSpace) :
    Agree (s.quarantine R now id) (t.quarantine R now id) := by
  obtain ⟨hanswer, halike⟩ := h.call (h.slots.quarantine hroom)
  unfold Store.quarantine
  generalize s.call (Backend.quarantine now _ _) = x at hanswer halike
  generalize t.call (Backend.quarantine now _ _) = y at hanswer halike
  obtain ⟨answer, s⟩ := x
  obtain ⟨_, t⟩ := y
  obtain rfl := hanswer
  cases answer with
  | error e => exact ⟨rfl, halike⟩
  | ok place =>
    cases place with
    | none => exact ⟨rfl, halike⟩
    | some key => exact ⟨rfl, halike.bump _⟩

theorem Alike.newRecord (h : s.Alike t) (now : Instant) (id : Int64) (state : LoadState) :
    s.newRecord R now id state = t.newRecord R now id state := by
  rw [Store.newRecord, Store.newRecord, h.settings]

/-- A slot that fetching calls corrupt holds octets that are no record. -/
theorem fetch_corrupt {t : Store Memory} {kind : RecordKind} {key reason : String}
    (h : (t.fetch R now id).1 = .error (.corruptSlot kind key reason)) :
    ∃ data f, t.slots.get? (address R id) = some data ∧
      (Record.decode now data : Except Fault R) = .error f := by
  obtain ⟨hfetch, -, -⟩ := fetch_fetches R now id t
  rw [h] at hfetch
  cases hfetch with
  | corrupt hslot hread => exact ⟨_, _, hslot, hread⟩
  | failed hplain => exact absurd rfl (hplain kind key reason)

theorem fetch_memory (now : Instant) (id : Int64) (t : Store Memory) : (t.fetch R now id).2 = t := by
  cases hslot : t.slots.get? (address R id) <;>
    simp [Store.fetch, Store.call, Backend.read, Memory.read, hslot]

theorem Alike.getOrCreate (h : s.Alike t) (hroom : HasRoom R now id t.slots) :
    Agree (s.getOrCreate R now id) (t.getOrCreate R now id) := by
  obtain ⟨hanswer, halike⟩ := h.fetch R now id
  have hcorrupt := @fetch_corrupt R _ now id t
  have hsame := fetch_memory R now id t
  unfold Store.getOrCreate
  generalize s.fetch R now id = x at hanswer halike
  generalize t.fetch R now id = y at hanswer halike hcorrupt hsame
  obtain ⟨answer, s⟩ := x
  obtain ⟨_, t'⟩ := y
  obtain rfl := hanswer
  obtain rfl := hsame
  cases answer with
  | ok found =>
    cases found with
    | none => exact ⟨halike.newRecord R now id .created, halike.bump _⟩
    | some record => exact ⟨rfl, halike.bump _⟩
  | error e =>
    cases e with
    | corruptSlot kind key reason =>
      obtain ⟨data, f, hslot, hread⟩ := hcorrupt rfl
      obtain ⟨hmoved, hleft⟩ := halike.quarantine R (hroom data f hslot hread)
      unfold Store.settle
      dsimp only
      generalize s.quarantine R now id = x at hmoved hleft
      generalize t'.quarantine R now id = y at hmoved hleft
      obtain ⟨moved, s⟩ := x
      obtain ⟨_, t⟩ := y
      obtain rfl := hmoved
      cases moved with
      | true => exact ⟨hleft.newRecord R now id .created, hleft.bump _⟩
      | false => exact ⟨hleft.newRecord R now id .readFailed, hleft.bump _⟩
    | _ => exact ⟨halike.newRecord R now id .readFailed, halike.bump _⟩

theorem Alike.trySave (h : s.Alike t) (r : R) : Agree (s.trySave r) (t.trySave r) := by
  obtain ⟨hanswer, halike⟩ := h.call (h.slots.write (address R (Record.id r)) (Record.encode r))
  unfold Store.trySave
  generalize s.call (Backend.write _ _) = x at hanswer halike
  generalize t.call (Backend.write _ _) = y at hanswer halike
  obtain ⟨answer, s⟩ := x
  obtain ⟨_, t⟩ := y
  obtain rfl := hanswer
  cases answer with
  | ok _ => exact ⟨rfl, halike.bump _⟩
  | error e => exact ⟨rfl, halike⟩

theorem Alike.save (h : s.Alike t) (r : R) : (s.save r).Alike (t.save r) := by
  obtain ⟨hanswer, halike⟩ := h.trySave R r
  unfold Store.save
  generalize s.trySave r = x at hanswer halike
  generalize t.trySave r = y at hanswer halike
  obtain ⟨answer, s⟩ := x
  obtain ⟨_, t⟩ := y
  obtain rfl := hanswer
  cases answer with
  | ok _ => exact halike
  | error e => exact halike.bump _

theorem Alike.keep (h : s.Alike t) (loaded : Loaded R) : (s.keep loaded).Alike (t.keep loaded) := by
  unfold Store.keep
  split
  · exact h.save R loaded.record
  · exact h

theorem Alike.update (h : s.Alike t) (hroom : HasRoom R now id t.slots) {α : Type} (change : R → R × α) :
    Agree (s.update R now id change) (t.update R now id change) := by
  obtain ⟨hloaded, halike⟩ := h.getOrCreate R hroom
  unfold Store.update
  generalize s.getOrCreate R now id = x at hloaded halike
  generalize t.getOrCreate R now id = y at hloaded halike
  obtain ⟨loaded, s⟩ := x
  obtain ⟨_, t⟩ := y
  obtain rfl := hloaded
  exact ⟨rfl, halike.keep R _⟩

theorem Alike.listAll (h : s.Alike t) (now : Instant) : Agree (s.listAll R now) (t.listAll R now) := by
  obtain ⟨hanswer, halike⟩ := h.call (h.slots.list (Record.kind R).space)
  unfold Store.listAll
  generalize s.call (Backend.list _) = x at hanswer halike
  generalize t.call (Backend.list _) = y at hanswer halike
  obtain ⟨answer, s⟩ := x
  obtain ⟨_, t⟩ := y
  obtain rfl := hanswer
  cases answer with
  | ok slots => exact ⟨rfl, halike⟩
  | error e => exact ⟨rfl, halike⟩

/-- A call is answered alike if it finds room. -/
theorem Alike.recordCall (h : s.Alike t) {call : RecordCall R} (hroom : call.HasRoom now t.slots) :
    Agree (call.run now s) (call.run now t) := by
  cases call with
  | getOrCreate id => exact (h.getOrCreate R hroom).map _
  | load id =>
    obtain ⟨hloaded, halike⟩ := h.getOrCreate R hroom
    exact ⟨congrArg (fun loaded : Loaded R => RecordAnswer.record loaded.record) hloaded, halike⟩
  | fetch id => exact (h.fetch R now id).map _
  | update id change => exact (h.update R hroom _).map _
  | save record => exact ⟨rfl, h.save R record⟩
  | trySave record => exact (h.trySave R record).map _
  | listAll => exact (h.listAll R now).map _

end Records

theorem Alike.findWhere (h : s.Alike t) (passes : UserRecord → Bool) (now : Instant) (name : String) :
    Agree (Names.findWhere passes now name s) (Names.findWhere passes now name t) := by
  obtain ⟨hlisted, halike⟩ := h.listAll UserRecord now
  unfold Names.findWhere
  dsimp only
  split
  · exact ⟨rfl, h⟩
  · rw [hlisted]
    exact ⟨rfl, halike⟩

/-- An inquiry is answered alike if it finds room. -/
theorem Alike.inquiry (h : s.Alike t) {now : Instant} {inquiry : Inquiry}
    (hroom : inquiry.HasRoom now t.slots) : Agree (inquiry.run now s) (inquiry.run now t) := by
  cases inquiry with
  | users call => exact (h.recordCall UserRecord hroom).map InquiryAnswer.users
  | groups call => exact (h.recordCall GroupRecord hroom).map InquiryAnswer.groups
  | find name =>
    have hfound := h.findWhere (fun _ => true) now name
    exact hfound.map InquiryAnswer.found
  | findOther asker name =>
    have hfound := h.findWhere (fun r => r.id != asker) now name
    exact hfound.map InquiryAnswer.found
  | slots call => exact (h.call (h.slots.run hroom)).map InquiryAnswer.slots

/-- Every run of inquiries is answered alike if it finds room. -/
theorem Alike.answers (h : s.Alike t) {run : List (Instant × Inquiry)} (hroom : AlwaysHasRoom run t) :
    Agree (Store.answers run s) (Store.answers run t) := by
  induction run generalizing s t with
  | nil => exact ⟨rfl, h⟩
  | cons x rest ih =>
    obtain ⟨now, inquiry⟩ := x
    obtain ⟨hanswer, halike⟩ := h.inquiry hroom.1
    obtain ⟨hrest, hleft⟩ := ih halike hroom.2
    exact ⟨congr (congrArg List.cons hanswer) hrest, hleft⟩

/-- Calls to a store and to its backend, in any order and as many as one likes, have the same
answers whether the slots lie in a database or in memory, and leave the same counts and the same octets
at the same addresses, as long as no slot is moved aside to a place that is taken. -/
theorem interchangeable (run : List (Instant × Inquiry)) (settings : RecordSettings)
    (counters : Counters) {d : Database} {m : Memory} (h : d.Mirrors m)
    (hroom : AlwaysHasRoom run ⟨m, settings, counters⟩) :
    let onDatabase := Store.answers run ⟨d, settings, counters⟩
    let onMemory := Store.answers run ⟨m, settings, counters⟩
    onDatabase.1 = onMemory.1 ∧ onDatabase.2.counters = onMemory.2.counters ∧
      onDatabase.2.slots.contents.map Database.bare = some onMemory.2.slots ∧
      ∀ space, (Backend.list space onDatabase.2.slots).1 = .ok (onMemory.2.slots.slotsOf space) := by
  have halike : Alike ⟨d, settings, counters⟩ ⟨m, settings, counters⟩ := ⟨h, rfl, rfl⟩
  obtain ⟨hanswers, hleft⟩ := halike.answers hroom
  exact ⟨hanswers, hleft.counters, hleft.slots, fun space => (hleft.slots.list space).1⟩

/-- An octet that is no record comes into the slot of a user at the first moment of the epoch, and the
record of the user is then asked for, saved and looked up. -/
def recovery : List (Instant × Inquiry) :=
  let now : Instant := ⟨epoch, 0, 0, isMoment_zero⟩
  [(now, .slots (.write ⟨"user", "1"⟩ [120])), (now, .users (.getOrCreate 1)),
    (now, .users (.save (UserRecord.blank {} 1 now))), (now, .find "Ada"), (now, .users .listAll)]

/-- The octet is moved aside in a database with checksums as it is in memory. -/
theorem interchangeable_recovery :
    let onDatabase := Store.answers recovery { slots := Database.opened true none }
    onDatabase.1 = (Store.answers recovery { slots := (.empty : Memory) }).1 ∧
      (Backend.list "user_backup" onDatabase.2.slots).1 =
        .ok [(backupKey "1" ⟨epoch, 0, 0, isMoment_zero⟩, [120])] := by
  have hroom : AlwaysHasRoom recovery ⟨.empty, {}, {}⟩ :=
    ⟨trivial, fun _ _ _ _ _ => rfl, trivial, trivial, trivial, trivial⟩
  obtain ⟨hanswers, _, _, hlists⟩ := interchangeable recovery {} {}
    (Database.mirrors_opened true) hroom
  exact ⟨hanswers, (hlists "user_backup").trans (congrArg Except.ok (by rfl))⟩

end Store

end Companion
