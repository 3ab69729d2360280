import Companion.Proofs.RecordText
import Companion.Proofs.Slots
import Companion.LockTable
import Companion.Names

/-!
What loading and saving a record do to the slots of a store. Loading takes a record from its slot,
makes one for a slot that is empty by then, or makes one up and leaves the slot alone; saving puts
the record into its slot or fails and leaves all slots alone.
-/

namespace Companion

open Number Text Time Json

/-! ### Reading at another time -/

/-- A reader that finishes what another one read gives what a whole text gave that one. -/
theorem readAll_finish {σ α : Type} (read : Reader σ) (build : σ → Option α) (s : List Symbol)
    (x : α) : readAll (finish read build) s = .ok x ↔
      ∃ state, readAll read s = .ok state ∧ build state = some x := by
  unfold readAll finish
  cases hread : read s with
  | error f => simp [bind, Except.bind]
  | ok r =>
    obtain ⟨state, rest⟩ := r
    cases hend : readEnd rest with
    | error f =>
      cases hbuild : build state <;> simp [bind, Except.bind, hbuild, hend]
    | ok u =>
      cases hbuild : build state <;> simp [bind, Except.bind, hbuild, hend]

theorem UserRecord.decode_ok_iff (data : Octets) (now : Instant) (r : UserRecord) :
    Record.decode now data = .ok r ↔
      ∃ d, readAll (decodeRecord "UserRecord" fields {}) (symbolsOfOctets data) = .ok d ∧
        (d.id.map fun id => (⟨id, d.username.getD none,
          d.language.getD ({} : RecordSettings).defaultLanguage, d.facts.getD .empty,
          d.history.getD [], d.lastInteraction.getD now⟩ : UserRecord)) = some r := by
  simp only [Record.decode, Record.read, UserRecord.read, readAll_finish]

/-- Octets hold a user record at any time or at none, and its identifier and facts stay. -/
theorem UserRecord.decode_later {data : Octets} {now : Instant} {r : UserRecord} (later : Instant)
    (h : Record.decode now data = .ok r) :
    ∃ r' : UserRecord, Record.decode later data = .ok r' ∧ r'.id = r.id ∧ r'.facts = r.facts := by
  obtain ⟨d, hread, hbuild⟩ := (decode_ok_iff data now r).mp h
  obtain ⟨id, hid, rfl⟩ := Option.map_eq_some_iff.mp hbuild
  refine ⟨⟨id, d.username.getD none, d.language.getD ({} : RecordSettings).defaultLanguage,
    d.facts.getD .empty, d.history.getD [], d.lastInteraction.getD later⟩,
    (decode_ok_iff data later _).mpr ⟨d, hread, ?_⟩, rfl, rfl⟩
  rw [hid, Option.map_some]

theorem GroupRecord.decode_ok_iff (data : Octets) (now : Instant) (r : GroupRecord) :
    Record.decode now data = .ok r ↔
      ∃ d, readAll (decodeRecord "GroupRecord" fields {}) (symbolsOfOctets data) = .ok d ∧
        (d.id.map fun id => (⟨id, d.title.getD "", d.membersCount.getD 0,
          d.recentMessages.getD [], d.addedAt.getD now⟩ : GroupRecord)) = some r := by
  simp only [Record.decode, Record.read, GroupRecord.read, readAll_finish]

/-- Octets hold a group record at any time or at none, and its identifier stays. -/
theorem GroupRecord.decode_later {data : Octets} {now : Instant} {r : GroupRecord} (later : Instant)
    (h : Record.decode now data = .ok r) :
    ∃ r' : GroupRecord, Record.decode later data = .ok r' ∧ r'.id = r.id := by
  obtain ⟨d, hread, hbuild⟩ := (decode_ok_iff data now r).mp h
  obtain ⟨id, hid, rfl⟩ := Option.map_eq_some_iff.mp hbuild
  refine ⟨⟨id, d.title.getD "", d.membersCount.getD 0, d.recentMessages.getD [],
    d.addedAt.getD later⟩, (decode_ok_iff data later _).mpr ⟨d, hread, ?_⟩, rfl⟩
  rw [hid, Option.map_some]

def RecordKind.Holds : RecordKind → Octets → Prop
  | .user, data => ∃ (now : Instant) (r : UserRecord), Record.decode now data = .ok r
  | .group, data => ∃ (now : Instant) (r : GroupRecord), Record.decode now data = .ok r

/-- What lies in a slot is nothing or a record of a kind. -/
def RecordKind.Clear (kind : RecordKind) (slot : Option Octets) : Prop :=
  ∀ data, slot = some data → kind.Holds data

/-- Records that octets hold at any time or at none, with one identifier, which a new record has
from the start. -/
class Record.Steady (R : Type) [Record R] : Prop where
  id_blank (settings : RecordSettings) (id : Int64) (now : Instant) :
    Record.id (Record.blank settings id now : R) = id
  holds_iff (data : Octets) :
    (Record.kind R).Holds data ↔ ∃ (now : Instant) (r : R), Record.decode now data = .ok r
  decode_later (later : Instant) {now : Instant} {data : Octets} {r : R} :
    Record.decode now data = .ok r →
      ∃ r' : R, Record.decode later data = .ok r' ∧ Record.id r' = Record.id r

instance : Record.Steady UserRecord where
  id_blank _ _ _ := rfl
  holds_iff _ := Iff.rfl
  decode_later later _ _ _ h :=
    let ⟨r', hread, hid, _⟩ := UserRecord.decode_later later h
    ⟨r', hread, hid⟩

instance : Record.Steady GroupRecord where
  id_blank _ _ _ := rfl
  holds_iff _ := Iff.rfl
  decode_later later _ _ _ h := GroupRecord.decode_later later h

section Steady

variable {R : Type} [Record R] [Record.Steady R] {data : Octets}

/-- Octets that hold a record are read at any time. -/
theorem Record.decode_of_holds (h : (Record.kind R).Holds data) (now : Instant) :
    ∃ r : R, Record.decode now data = .ok r := by
  obtain ⟨_, _, hread⟩ := (Record.Steady.holds_iff data).mp h
  obtain ⟨r, hlater, _⟩ := Record.Steady.decode_later now hread
  exact ⟨r, hlater⟩

theorem Record.holds_of_decode {now : Instant} {r : R} (h : Record.decode now data = .ok r) :
    (Record.kind R).Holds data :=
  (Record.Steady.holds_iff data).mpr ⟨now, r, h⟩

theorem Record.holds_encode [Record.Stable R] (r : R) : (Record.kind R).Holds (Record.encode r) :=
  Record.holds_of_decode (Record.decode_encode ⟨epoch, 0, 0, isMoment_zero⟩ r)

/-- Octets that cannot be read at one time hold no record. -/
theorem Record.not_holds_of_error {now : Instant} {f : Fault}
    (h : (Record.decode now data : Except Fault R) = .error f) : ¬ (Record.kind R).Holds data := by
  intro hholds
  obtain ⟨r, hread⟩ := Record.decode_of_holds (R := R) hholds now
  simp [hread] at h

end Steady

/-! ### Slots of records -/

/-- Live slots and backups lie in different namespaces. -/
theorem space_ne_backupSpace (j k : RecordKind) : j.space ≠ k.backupSpace := by
  cases j <;> cases k <;> decide

namespace LockKey

def slot (key : LockKey) : Address := ⟨key.kind.space, writeIdentifier key.id⟩

/-- Different records have different slots. -/
theorem slot_injective {j k : LockKey} (h : j.slot = k.slot) : j = k := by
  obtain ⟨jkind, jid⟩ := j
  obtain ⟨kkind, kid⟩ := k
  have hspace : jkind.space = kkind.space := congrArg Address.space h
  have hkind : jkind = kkind := by
    cases jkind <;> cases kkind <;> first | rfl | exact absurd hspace (by decide)
  have hkey : writeIdentifier jid = writeIdentifier kid := congrArg Address.key h
  have htext : writeInt jid.toInt = writeInt kid.toInt := String.ofList_injective hkey
  have hread := reads_id jid [] endsNumber_nil
  rw [htext, reads_id kid [] endsNumber_nil] at hread
  have hid : kid = jid := congrArg Prod.fst (Except.ok.inj hread)
  rw [hkind, hid]

/-- The slot held octets that hold no record, and they were moved to the backups. -/
def Aside (key : LockKey) (before after : SlotContents) : Prop :=
  ∃ data backup, before key.slot = some data ∧ ¬ key.kind.Holds data ∧ after key.slot = none ∧
    after ⟨key.kind.backupSpace, backup⟩ = some data

/-- No live slot changed, except that octets that hold no record may have been moved aside. -/
structure Visited (key : LockKey) (before after : SlotContents) : Prop where
  others : ∀ k, k ≠ key → after k.slot = before k.slot
  own : after key.slot = before key.slot ∨ key.Aside before after

end LockKey

/-! ### Loading -/

namespace Store

variable {σ : Type} [Backend σ] [Faithful σ] (R : Type) [Record R]

def content (s : Store σ) : SlotContents := Faithful.content s.slots

/-- The record of an identifier taken from what lies in its slot, where octets that hold no record
are as good as none. -/
def recordIn (settings : RecordSettings) (now : Instant) (id : Int64) : Option Octets → Loaded R
  | some data =>
    match Record.decode now data with
    | .ok record => ⟨record, .found⟩
    | .error _ => ⟨Record.blank settings id now, .created⟩
  | none => ⟨Record.blank settings id now, .created⟩

/-- What loading the record of an identifier does to all slots, by where the record came from. -/
inductive Loads (settings : RecordSettings) (now : Instant) (id : Int64) (before : SlotContents) :
    Loaded R → SlotContents → Prop
  | found {data : Octets} {record : R} (hslot : before (address R id) = some data)
      (hread : Record.decode now data = .ok record) :
      Loads settings now id before ⟨record, .found⟩ before
  | empty (hslot : before (address R id) = none) :
      Loads settings now id before ⟨Record.blank settings id now, .created⟩ before
  | moved {data : Octets} {f : Fault} {key : String} (hslot : before (address R id) = some data)
      (hread : (Record.decode now data : Except Fault R) = .error f) :
      Loads settings now id before ⟨Record.blank settings id now, .created⟩
        (Function.update
          (Function.update before ⟨(Record.kind R).backupSpace, key⟩ (some data)) (address R id) none)
  | failed {after : SlotContents}
      (hsame : ∀ a : Address, a.space ≠ (Record.kind R).backupSpace → after a = before a) :
      Loads settings now id before ⟨Record.blank settings id now, .readFailed⟩ after

/-- What fetching the record of an identifier finds, by what lies in the slot. It changes nothing. -/
inductive Fetches (now : Instant) (id : Int64) (slot : Option Octets) :
    Except StoreError (Option R) → Prop
  | found {data : Octets} {record : R} (hslot : slot = some data)
      (hread : Record.decode now data = .ok record) : Fetches now id slot (.ok (some record))
  | empty (hslot : slot = none) : Fetches now id slot (.ok none)
  | corrupt {data : Octets} {f : Fault} {kind : RecordKind} {key reason : String}
      (hslot : slot = some data) (hread : (Record.decode now data : Except Fault R) = .error f) :
      Fetches now id slot (.error (.corruptSlot kind key reason))
  | failed {e : StoreError} (hplain : ∀ kind key reason, e ≠ .corruptSlot kind key reason) :
      Fetches now id slot (.error e)

theorem fetch_fetches (now : Instant) (id : Int64) (s : Store σ) :
    Fetches R now id (s.content (address R id)) (s.fetch R now id).1 ∧
      (s.fetch R now id).2.content = s.content ∧ (s.fetch R now id).2.settings = s.settings := by
  have hcontent := Faithful.read_content (address R id) s.slots
  have hok := @Faithful.read_ok σ _ _ (address R id) s.slots
  have herror := @Faithful.read_error σ _ _ (address R id) s.slots
  unfold fetch call
  dsimp only
  generalize Backend.read (address R id) s.slots = r at hcontent hok herror
  obtain ⟨answer, slots⟩ := r
  cases answer with
  | error e => exact ⟨.failed (herror rfl), hcontent, rfl⟩
  | ok found =>
    have hslot : found = s.content (address R id) := hok rfl
    cases found with
    | none => exact ⟨.empty hslot.symm, hcontent, rfl⟩
    | some data =>
      refine ⟨?_, hcontent, rfl⟩
      dsimp only [decodeSlot]
      cases hread : (Record.decode now data : Except Fault R) with
      | ok record => exact .found hslot.symm hread
      | error f => exact .corrupt hslot.symm hread

/-- Moving a slot aside that is not empty either does so or leaves all slots but backups alone. -/
theorem quarantine_cases (now : Instant) (id : Int64) (s : Store σ) {data : Octets}
    (hslot : s.content (address R id) = some data) :
    (s.quarantine R now id).2.settings = s.settings ∧
    (((s.quarantine R now id).1 = true ∧ ∃ key, (s.quarantine R now id).2.content =
      Function.update (Function.update s.content ⟨(Record.kind R).backupSpace, key⟩ (some data))
        (address R id) none) ∨
    ((s.quarantine R now id).1 = false ∧ ∀ a : Address, a.space ≠ (Record.kind R).backupSpace →
      (s.quarantine R now id).2.content a = s.content a)) := by
  have hmoved := Faithful.quarantine_moved now (address R id) (Record.kind R).backupSpace s.slots
  unfold quarantine call
  dsimp only
  generalize Backend.quarantine now (address R id) (Record.kind R).backupSpace s.slots = r at hmoved
  obtain ⟨answer, slots⟩ := r
  cases answer with
  | error e => exact ⟨rfl, .inr ⟨rfl, hmoved⟩⟩
  | ok place =>
    cases place with
    | none => exact nomatch hslot.symm.trans hmoved.1
    | some key =>
      obtain ⟨data', hdata, hafter⟩ := hmoved
      obtain rfl : data' = data := Option.some.inj (hdata.symm.trans hslot)
      exact ⟨rfl, .inl ⟨rfl, key, hafter⟩⟩

/-- Loading does one of the four things. -/
theorem getOrCreate_loads (now : Instant) (id : Int64) (s : Store σ) :
    Loads R s.settings now id s.content (s.getOrCreate R now id).1
      (s.getOrCreate R now id).2.content ∧
      (s.getOrCreate R now id).2.settings = s.settings := by
  obtain ⟨hfetch, hcontent, hsettings⟩ := fetch_fetches R now id s
  unfold getOrCreate
  generalize s.fetch R now id = r at hfetch hcontent hsettings
  obtain ⟨answer, t⟩ := r
  dsimp only at hfetch hcontent hsettings
  rw [← hcontent] at hfetch
  rw [← hcontent, ← hsettings]
  cases hfetch with
  | found hslot hread => exact ⟨.found hslot hread, rfl⟩
  | empty hslot => exact ⟨.empty hslot, rfl⟩
  | failed hplain =>
    rename_i e
    cases e with
    | corruptSlot kind key reason => exact absurd rfl (hplain kind key reason)
    | _ => exact ⟨.failed fun _ _ => rfl, rfl⟩
  | corrupt hslot hread =>
    obtain ⟨hkept, hcases⟩ := quarantine_cases R now id t hslot
    dsimp only [settle]
    generalize t.quarantine R now id = q at hkept hcases
    obtain ⟨moved, u⟩ := q
    dsimp only at hkept hcases
    rcases hcases with ⟨rfl, key, hafter⟩ | ⟨rfl, hsame⟩
    · refine ⟨?_, hkept⟩
      have hload : Loads R t.settings now id t.content ⟨Record.blank u.settings id now, .created⟩
          u.content := by
        rw [hafter, hkept]
        exact .moved hslot hread
      exact hload
    · refine ⟨?_, hkept⟩
      rw [← hkept]
      exact .failed hsame

variable {R}

omit [Faithful σ] in
/-- A record is found where its slot is read as octets that hold it. -/
theorem getOrCreate_found {now : Instant} {id : Int64} {s : Store σ} {data : Octets} {r : R}
    (hread : (Backend.read (address R id) s.slots).1 = .ok (some data))
    (hdata : Record.decode now data = .ok r) : (s.getOrCreate R now id).1 = ⟨r, .found⟩ := by
  have hcall : s.call (Backend.read (address R id)) =
      (.ok (some data), (s.call (Backend.read (address R id))).2) := by
    rw [← hread]
    rfl
  rw [getOrCreate, fetch, hcall]
  simp only [decodeSlot, hdata, Except.mapError, Except.map, settle]

section Loads

variable {settings : RecordSettings} {now : Instant} {id : Int64} {before after : SlotContents}
  {loaded : Loaded R}

/-- A record that may be saved is the one in its slot, both before and after it was loaded. -/
theorem Loads.eq_recordIn (h : Loads R settings now id before loaded after)
    (hsave : loaded.state.canSave = true) :
    loaded = recordIn R settings now id (before (address R id)) ∧
      loaded = recordIn R settings now id (after (address R id)) := by
  cases h with
  | found hslot hread => simp [recordIn, hslot, hread]
  | empty hslot => simp [recordIn, hslot]
  | moved hslot hread => simp [recordIn, hslot, hread]
  | failed hsame => simp [LoadState.canSave] at hsave

/-- Loading leaves every other live slot alone. -/
theorem Loads.frame (h : Loads R settings now id before loaded after) {a : Address}
    (hslot : a ≠ address R id) (hspace : a.space ≠ (Record.kind R).backupSpace) :
    after a = before a := by
  cases h with
  | found _ _ => rfl
  | empty _ => rfl
  | moved _ _ =>
    rw [Function.update_of_ne hslot, Function.update_of_ne]
    exact fun heq => hspace (congrArg Address.space heq)
  | failed hsame => exact hsame a hspace

/-- Loading visits the slot of its record. -/
theorem Loads.visited [Record.Steady R] (h : Loads R settings now id before loaded after) :
    LockKey.Visited ⟨Record.kind R, id⟩ before after where
  others k hk := h.frame (fun heq => hk (LockKey.slot_injective heq)) (space_ne_backupSpace _ _)
  own := by
    cases h with
    | found _ _ => exact .inl rfl
    | empty _ => exact .inl rfl
    | failed hsame => exact .inl (hsame _ (space_ne_backupSpace _ _))
    | @moved data f key hslot hread =>
      refine .inr ⟨data, key, hslot, Record.not_holds_of_error hread, Function.update_self .., ?_⟩
      rw [Function.update_of_ne, Function.update_self]
      exact fun heq => space_ne_backupSpace _ _ (congrArg Address.space heq).symm

/-- After a record was loaded that may be saved, its slot holds nothing or a record. -/
theorem Loads.clear [Record.Steady R] (h : Loads R settings now id before loaded after)
    (hsave : loaded.state.canSave = true) : (Record.kind R).Clear (after (address R id)) := by
  intro data hdata
  cases h with
  | found hslot hread =>
    obtain rfl := Option.some.inj (hslot.symm.trans hdata)
    exact Record.holds_of_decode hread
  | empty hslot => exact nomatch hslot.symm.trans hdata
  | moved _ _ => simp at hdata
  | failed _ => simp [LoadState.canSave] at hsave

end Loads

/-! ### Saving -/

omit [Faithful σ] in
/-- Saving a record is writing its octets to its slot, as far as the backend can tell. -/
theorem trySave_write (s : Store σ) (r : R) :
    let written := Backend.write (address R (Record.id r)) (Record.encode r) s.slots
    (s.trySave r).1 = written.1 ∧ (s.trySave r).2.slots = written.2 := by
  unfold trySave call
  dsimp only
  generalize Backend.write (address R (Record.id r)) (Record.encode r) s.slots = w
  obtain ⟨answer, slots⟩ := w
  cases answer <;> exact ⟨rfl, rfl⟩

/-- The backend writes the record to its slot, and does not fail at it. -/
def Writes (r : R) (s : Store σ) : Prop :=
  (Backend.write (address R (Record.id r)) (Record.encode r) s.slots).1 = .ok ()

instance (r : R) (s : Store σ) : Decidable (s.Writes r) :=
  inferInstanceAs (Decidable (_ = Except.ok ()))

theorem trySave_content (r : R) (s : Store σ) :
    (s.Writes r ∧ (s.trySave r).2.content =
      Function.update s.content (address R (Record.id r)) (some (Record.encode r))) ∨
    (¬ s.Writes r ∧ (s.trySave r).2.content = s.content) := by
  have hok := @Faithful.write_ok σ _ _ (address R (Record.id r)) (Record.encode r) s.slots
  have herror := @Faithful.write_error σ _ _ (address R (Record.id r)) (Record.encode r) s.slots
  have hcontent : (s.trySave r).2.content = Faithful.content _ :=
    congrArg Faithful.content (trySave_write s r).2
  rw [hcontent, Writes]
  generalize Backend.write (address R (Record.id r)) (Record.encode r) s.slots = w at hok herror
  obtain ⟨answer, slots⟩ := w
  cases answer with
  | ok _ => exact .inl ⟨rfl, hok rfl⟩
  | error e => exact .inr ⟨nofun, herror rfl⟩

theorem writes_memory (r : R) (s : Store Memory) : s.Writes r := rfl

omit [Faithful σ] in
/-- Saving does to the slots what the write does, whose answer is only counted. -/
theorem slots_save (r : R) (s : Store σ) : (s.save r).slots = (s.trySave r).2.slots := by
  unfold save
  split
  · next s heq => rw [heq]
  · next e s heq => rw [heq]; rfl

/-- Saving writes the slot of the record if the write goes through, and nothing if it fails. -/
theorem save_cases (r : R) (s : Store σ) :
    (s.Writes r ∧ (s.save r).content =
      Function.update s.content (address R (Record.id r)) (some (Record.encode r))) ∨
    (¬ s.Writes r ∧ (s.save r).content = s.content) := by
  have hslots : (s.save r).content = (s.trySave r).2.content :=
    congrArg Faithful.content (slots_save r s)
  rw [hslots]
  exact trySave_content r s

/-- Saving writes the slot of the record or nothing, and nothing only if the write failed. -/
theorem save_content (r : R) (s : Store σ) :
    (s.save r).content =
      Function.update s.content (address R (Record.id r)) (some (Record.encode r)) ∨
    (¬ s.Writes r ∧ (s.save r).content = s.content) :=
  (save_cases r s).imp And.right id

omit [Faithful σ] in
theorem settings_save (r : R) (s : Store σ) : (s.save r).settings = s.settings := by
  unfold save trySave call
  dsimp only
  generalize Backend.write (address R (Record.id r)) (Record.encode r) s.slots = w
  obtain ⟨answer, slots⟩ := w
  cases answer <;> rfl

variable (R)

/-- Listing records changes no slot. -/
theorem listAll_content (now : Instant) (s : Store σ) :
    (s.listAll R now).2.content = s.content ∧ (s.listAll R now).2.settings = s.settings := by
  have hcontent := Faithful.list_content (Record.kind R).space s.slots
  unfold listAll call
  dsimp only
  generalize Backend.list (Record.kind R).space s.slots = l at hcontent
  obtain ⟨answer, slots⟩ := l
  cases answer <;> exact ⟨hcontent, rfl⟩

/-! ### Identifiers -/

/-- Every record in a live slot has the identifier that the slot is for. -/
def Keyed (c : SlotContents) : Prop :=
  ∀ (id : Int64) (now : Instant) (data : Octets) (r : R),
    c (address R id) = some data → Record.decode now data = .ok r → Record.id r = id

variable {R}

theorem Keyed.of_slots {before after : SlotContents} (h : Keyed R before)
    (hslots : ∀ id, after (address R id) = before (address R id) ∨ after (address R id) = none) :
    Keyed R after := by
  intro id now data r hdata hread
  rcases hslots id with hsame | hnone
  · exact h id now data r (hsame ▸ hdata) hread
  · exact nomatch hnone.symm.trans hdata

theorem Keyed.of_visited {key : LockKey} {before after : SlotContents} (h : Keyed R before)
    (hvisit : key.Visited before after) : Keyed R after := by
  refine h.of_slots fun id => ?_
  by_cases hk : (⟨Record.kind R, id⟩ : LockKey) = key
  · rcases hvisit.own with hsame | ⟨_, _, _, _, hnone, _⟩
    · exact .inl (by rw [← hk] at hsame; exact hsame)
    · exact .inr (by rw [← hk] at hnone; exact hnone)
  · exact .inl (hvisit.others _ hk)

/-- The record of an identifier, as loading takes it from its slot, has that identifier. -/
theorem Keyed.id_recordIn [Record.Steady R] {c : SlotContents} (h : Keyed R c)
    (settings : RecordSettings) (now : Instant) (id : Int64) :
    Record.id (recordIn R settings now id (c (address R id))).record = id := by
  unfold recordIn
  split
  · next data hdata =>
    split
    · next record hread => exact h id now data record hdata hread
    · exact Record.Steady.id_blank settings id now
  · exact Record.Steady.id_blank settings id now

/-- A saved record has the identifier of its slot. -/
theorem Keyed.saved [Record.Stable R] {c : SlotContents} (h : Keyed R c) (r : R) :
    Keyed R (Function.update c (address R (Record.id r)) (some (Record.encode r))) := by
  intro id now data r' hdata hread
  by_cases hid : id = Record.id r
  · subst hid
    rw [Function.update_self] at hdata
    rw [← Option.some.inj hdata, Record.decode_encode] at hread
    rw [← Except.ok.inj hread, Record.Stable.id_settled]
  · have hslot : address R id ≠ address R (Record.id r) := fun heq =>
      hid (congrArg LockKey.id
        (LockKey.slot_injective (j := ⟨Record.kind R, id⟩) (k := ⟨Record.kind R, Record.id r⟩) heq))
    rw [Function.update_of_ne hslot] at hdata
    exact h id now data r' hdata hread

theorem Keyed.of_other {c : SlotContents} (h : Keyed R c) {key : LockKey}
    (hkind : key.kind ≠ Record.kind R) (x : Option Octets) :
    Keyed R (Function.update c key.slot x) := by
  refine h.of_slots fun id => .inl (Function.update_of_ne (fun heq => hkind ?_) _ _)
  exact (congrArg LockKey.kind
    (LockKey.slot_injective (j := ⟨Record.kind R, id⟩) (k := key) heq)).symm

end Store

namespace Names

variable {σ : Type} [Backend σ] [Faithful σ]

/-- Looking up names changes no slot. -/
theorem resolve_content (asker : Int64) (now : Instant) (names : List String) (s : Store σ) :
    (resolve asker now names s).2.content = s.content ∧
      (resolve asker now names s).2.settings = s.settings := by
  induction names generalizing s with
  | nil => exact ⟨rfl, rfl⟩
  | cons name rest ih =>
    have hlist := Store.listAll_content UserRecord now s
    have hfind : (findOther asker now name s).2.content = s.content ∧
        (findOther asker now name s).2.settings = s.settings := by
      unfold findOther findWhere
      dsimp only
      split
      · exact ⟨rfl, rfl⟩
      · exact hlist
    unfold resolve
    generalize findOther asker now name s = found at hfind
    obtain ⟨_ | record, t⟩ := found
    · exact ⟨(ih t).1.trans hfind.1, (ih t).2.trans hfind.2⟩
    · exact hfind

end Names

end Companion
