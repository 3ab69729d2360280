import Companion.Proofs.Backups
import Companion.Proofs.Interchange
import Companion.Proofs.Listings

/-!
Slots that only the store writes. What lies in them is what was saved: in the slot of an identifier the
record that was saved last under it, and nothing anywhere else. So every slot holds a record, loading
never moves one aside, and a listing gives each record that was saved last. Calls that fail change none
of this.
-/

namespace Companion

open Number Text Time Json

/-! ### Records that were saved -/

section Saved

variable {R : Type} [Record R]

def lastSaved (id : Int64) (saved : List R) : Option R :=
  (saved.filter fun r => Record.id r = id).getLast?

theorem lastSaved_append (id : Int64) (saved : List R) (r : R) :
    lastSaved id (saved ++ [r]) = if Record.id r = id then some r else lastSaved id saved := by
  unfold lastSaved
  by_cases hid : Record.id r = id <;> simp [List.filter_append, hid]

theorem id_of_lastSaved {id : Int64} {saved : List R} {r : R} (h : lastSaved id saved = some r) :
    Record.id r = id := by
  have hmem := List.mem_filter.mp (List.mem_of_getLast? h)
  simpa using hmem.2

variable (R)

theorem Store.address_injective {i j : Int64} (h : address R i = address R j) : i = j :=
  congrArg LockKey.id
    (LockKey.slot_injective (j := ⟨Record.kind R, i⟩) (k := ⟨Record.kind R, j⟩) h)

/-- The slots of a kind hold what was saved: each the record that was saved last under its identifier.
-/
structure Files (c : SlotContents) (saved : List R) : Prop where
  filed : ∀ id, c (Store.address R id) = (lastSaved id saved).map Record.encode
  named : ∀ key, c ⟨(Record.kind R).space, key⟩ ≠ none → ∃ id, key = writeIdentifier id

variable {R} {c : SlotContents} {saved : List R}

theorem files_empty (h : ∀ a, c a = none) : Files R c [] where
  filed := fun _ => h _
  named := fun _ hkey => absurd (h _) hkey

theorem Files.of_space {c' : SlotContents} (h : Files R c saved)
    (hsame : ∀ key, c' ⟨(Record.kind R).space, key⟩ = c ⟨(Record.kind R).space, key⟩) :
    Files R c' saved where
  filed := fun id => (hsame _).trans (h.filed id)
  named := fun key hkey => h.named key (hsame key ▸ hkey)

/-- A record that is saved is the last one under its identifier. -/
theorem Files.save (h : Files R c saved) (r : R) :
    Files R (Function.update c (Store.address R (Record.id r)) (some (Record.encode r)))
      (saved ++ [r]) where
  filed := by
    intro id
    rw [lastSaved_append]
    by_cases hid : Record.id r = id
    · subst hid
      rw [Function.update_self, if_pos rfl, Option.map_some]
    · have hne : Store.address R id ≠ Store.address R (Record.id r) := fun heq =>
        hid (Store.address_injective R heq).symm
      rw [Function.update_of_ne hne, if_neg hid, h.filed]
  named := by
    intro key hkey
    by_cases hslot : (⟨(Record.kind R).space, key⟩ : Address) = Store.address R (Record.id r)
    · exact ⟨Record.id r, congrArg Address.key hslot⟩
    · rw [Function.update_of_ne hslot] at hkey
      exact h.named key hkey

/-- What lies in a slot of the kind is a record that was saved last. -/
theorem Files.holds (h : Files R c saved) {key : String} {data : Octets}
    (hslot : c ⟨(Record.kind R).space, key⟩ = some data) : ∃ r, lastSaved (Record.id r) saved = some r ∧
      writeIdentifier (Record.id r) = key ∧ data = Record.encode r := by
  obtain ⟨id, rfl⟩ := h.named key (by rw [hslot]; exact Option.some_ne_none data)
  have hfiled := h.filed id
  rw [show c (Store.address R id) = some data from hslot] at hfiled
  obtain ⟨r, hlast, hdata⟩ := Option.map_eq_some_iff.mp hfiled.symm
  obtain rfl := id_of_lastSaved hlast
  exact ⟨r, hlast, rfl, hdata.symm⟩

theorem Files.clear [Record.Stable R] [Record.Steady R] (h : Files R c saved) (id : Int64) :
    (Record.kind R).Clear (c (Store.address R id)) := by
  intro data hdata
  obtain ⟨r, -, -, rfl⟩ := h.holds hdata
  exact Record.holds_encode r

end Saved

/-! ### Calls -/

namespace Store

variable {σ : Type} [Backend σ]

def recovered (s : Store σ) : UInt64 := s.counters.get .corruptSlotsRecovered

variable [Faithful σ]

/-- Nothing was written, and nothing moved aside. -/
structure Quiet (s t : Store σ) : Prop where
  content : t.content = s.content
  recovered : t.recovered = s.recovered

variable {s t u : Store σ}

theorem Quiet.refl (s : Store σ) : s.Quiet s := ⟨rfl, rfl⟩

theorem Quiet.trans (h : s.Quiet t) (h' : t.Quiet u) : s.Quiet u :=
  ⟨h'.content.trans h.content, h'.recovered.trans h.recovered⟩

omit [Backend σ] [Faithful σ] in
theorem recovered_bump (s : Store σ) {k : Counter} (hk : k ≠ .corruptSlotsRecovered) :
    (s.bump k).recovered = s.recovered :=
  (Counters.get_add s.counters 1 .corruptSlotsRecovered k).trans (if_neg hk.symm)

theorem Quiet.bump (h : s.Quiet t) {k : Counter} (hk : k ≠ .corruptSlotsRecovered) :
    s.Quiet (t.bump k) :=
  ⟨h.content, (recovered_bump t hk).trans h.recovered⟩

section Records

variable (R : Type) [Record R] (now : Instant)

omit [Faithful σ] in
theorem recovered_fetch (id : Int64) (s : Store σ) : (s.fetch R now id).2.recovered = s.recovered := by
  unfold Store.fetch Store.call
  dsimp only
  generalize Backend.read (address R id) s.slots = r
  obtain ⟨answer, slots⟩ := r
  cases answer with
  | error e => rfl
  | ok found =>
    cases found with
    | none => rfl
    | some data => rfl

/-- Loading a record from a slot that holds one, or from an empty one, moves nothing aside. -/
theorem quiet_getOrCreate [Record.Steady R] (id : Int64) (s : Store σ)
    (hclear : (Record.kind R).Clear (s.content (address R id))) :
    s.Quiet (s.getOrCreate R now id).2 := by
  obtain ⟨hfetch, hcontent, -⟩ := fetch_fetches R now id s
  have hfetched : s.Quiet (s.fetch R now id).2 := ⟨hcontent, recovered_fetch R now id s⟩
  unfold Store.getOrCreate
  generalize s.fetch R now id = r at hfetch hfetched
  obtain ⟨answer, t⟩ := r
  dsimp only at hfetch hfetched
  cases hfetch with
  | found hslot hread => exact hfetched.bump nofun
  | empty hslot => exact hfetched.bump nofun
  | corrupt hslot hread => exact absurd (hclear _ hslot) (Record.not_holds_of_error hread)
  | @failed e hplain =>
    cases e with
    | corruptSlot kind key reason => exact absurd rfl (hplain kind key reason)
    | _ => exact hfetched.bump nofun

theorem quiet_listAll (s : Store σ) : s.Quiet (s.listAll R now).2 := by
  refine ⟨(listAll_content R now s).1, ?_⟩
  unfold Store.listAll Store.call
  dsimp only
  generalize Backend.list (Record.kind R).space s.slots = l
  obtain ⟨answer, slots⟩ := l
  cases answer <;> rfl

variable {R}

/-- The record, if the backend writes it. -/
def saved (r : R) (s : Store σ) : List R := if s.Writes r then [r] else []

/-- The records of a type that were saved on the way from one store to another, where nothing was
moved aside and no slot of another kind was written. -/
structure Adds (s t : Store σ) (made : List R) : Prop where
  files : ∀ {saved}, Files R s.content saved → Files R t.content (saved ++ made)
  elsewhere : ∀ a : Address, a.space ≠ (Record.kind R).space → t.content a = s.content a
  recovered : t.recovered = s.recovered

theorem Quiet.adds (h : s.Quiet t) : Adds s t ([] : List R) where
  files := by
    intro saved hfiles
    rw [List.append_nil, h.content]
    exact hfiles
  elsewhere := fun a _ => congrFun h.content a
  recovered := h.recovered

theorem Quiet.trans_adds (h : s.Quiet t) {made : List R} (h' : Adds t u made) : Adds s u made where
  files := fun hfiles => h'.files (h.content ▸ hfiles)
  elsewhere := fun a ha => (h'.elsewhere a ha).trans (congrFun h.content a)
  recovered := h'.recovered.trans h.recovered

theorem adds_trySave (r : R) (s : Store σ) : Adds s (s.trySave r).2 (s.saved r) := by
  have hrecovered : (s.trySave r).2.recovered = s.recovered := by
    unfold Store.trySave Store.call
    dsimp only
    generalize Backend.write (address R (Record.id r)) (Record.encode r) s.slots = w
    obtain ⟨answer, slots⟩ := w
    cases answer with
    | ok _ => exact recovered_bump _ nofun
    | error e => rfl
  rcases trySave_content r s with ⟨hwrites, hcontent⟩ | ⟨hfails, hcontent⟩
  · have hsaved : s.saved r = [r] := if_pos hwrites
    refine ⟨fun hfiles => ?_, fun a ha => ?_, hrecovered⟩
    · rw [hcontent, hsaved]
      exact hfiles.save r
    · rw [hcontent]
      exact Function.update_of_ne (fun heq => ha (congrArg Address.space heq)) _ _
  · have hsaved : s.saved r = [] := if_neg hfails
    rw [hsaved]
    exact Quiet.adds ⟨hcontent, hrecovered⟩

theorem adds_save (r : R) (s : Store σ) : Adds s (s.save r) (s.saved r) := by
  have hadds := adds_trySave r s
  have hslots : (s.save r).content = (s.trySave r).2.content :=
    congrArg Faithful.content (slots_save r s)
  have hrecovered : (s.save r).recovered = (s.trySave r).2.recovered := by
    unfold Store.save
    split
    · next heq => rw [heq]
    · next heq =>
      rw [heq]
      exact recovered_bump _ nofun
  refine ⟨fun hfiles => ?_, fun a ha => ?_, hrecovered.trans hadds.recovered⟩
  · rw [hslots]
    exact hadds.files hfiles
  · rw [hslots]
    exact hadds.elsewhere a ha

end Records

end Store

namespace RecordCall

variable {R : Type} [Record R] {σ : Type} [Backend σ] (now : Instant) (s : Store σ)

def saved : RecordCall R → List R
  | .update i change =>
    let (loaded, t) := s.getOrCreate R now i
    if loaded.state.canSave then t.saved (change now loaded.record) else []
  | .save record => s.saved record
  | .trySave record => s.saved record
  | _ => []

variable [Faithful σ] [Record.Stable R] [Record.Steady R]

/-- A call to a store whose slots hold what was saved adds what it saves. -/
theorem adds (call : RecordCall R) {filed : List R} (h : Files R s.content filed) :
    Store.Adds s (call.run now s).2 (call.saved now s) := by
  cases call with
  | getOrCreate i => exact (Store.quiet_getOrCreate R now i s (h.clear i)).adds
  | load i => exact (Store.quiet_getOrCreate R now i s (h.clear i)).adds
  | fetch i =>
    obtain ⟨-, hcontent, -⟩ := Store.fetch_fetches R now i s
    exact Store.Quiet.adds ⟨hcontent, Store.recovered_fetch R now i s⟩
  | update i change =>
    have hload := Store.quiet_getOrCreate R now i s (h.clear i)
    change Store.Adds s (s.update R now i fun r => (change now r, ())).2 _
    unfold Store.update RecordCall.saved
    dsimp only
    generalize s.getOrCreate R now i = loading at hload
    obtain ⟨loaded, t⟩ := loading
    dsimp only [Store.keep]
    split
    · exact hload.trans_adds (Store.adds_save _ t)
    · exact hload.adds
  | save record => exact Store.adds_save record s
  | trySave record => exact Store.adds_trySave record s
  | listAll => exact (Store.quiet_listAll R now s).adds

end RecordCall

/-! ### Listings -/

section Listing

variable {R : Type} [Record R] [Record.Stable R] {σ : Type} [Backend σ] [Faithful σ] [Lists σ]

/-- What is in the slots of a kind was saved: each slot holds a record with the identifier that its
key tells, no two hold records with one identifier, and a listing gives for each identifier the record
that was saved last under it, as it is read, and no other. A record with settled times is read as it is.
-/
structure Store.Reflects (s : Store σ) (saved : List R) : Prop where
  decodes : ∀ key data now, s.content ⟨(Record.kind R).space, key⟩ = some data →
    ∃ r : R, Record.decode now data = .ok r ∧ writeIdentifier (Record.id r) = key
  apart : ∀ j k x y now later (r r' : R), s.content ⟨(Record.kind R).space, j⟩ = some x →
    s.content ⟨(Record.kind R).space, k⟩ = some y → Record.decode now x = .ok r →
    Record.decode later y = .ok r' → Record.id r = Record.id r' → j = k
  lists : ∀ now slots id, (Backend.list (Record.kind R).space s.slots).1 = .ok slots →
    ((s.listAll R now).1.filter fun r => Record.id r = id) =
      ((lastSaved id saved).map Record.Stable.settled).toList
  kept : ∀ now slots r, (Backend.list (Record.kind R).space s.slots).1 = .ok slots →
    lastSaved (Record.id r) saved = some r → Record.Stable.IsSettled r →
    ((s.listAll R now).1.filter fun r' => Record.id r' = Record.id r) = [r]

theorem Files.decodes {c : SlotContents} {saved : List R} (h : Files R c saved) {key : String}
    {data : Octets} (now : Instant) (hslot : c ⟨(Record.kind R).space, key⟩ = some data) :
    ∃ r : R, Record.decode now data = .ok r ∧ writeIdentifier (Record.id r) = key := by
  obtain ⟨r, -, hkey, rfl⟩ := h.holds hslot
  exact ⟨_, Record.decode_encode now r, by rw [Record.Stable.id_settled, hkey]⟩

theorem Files.decodes_key {c : SlotContents} {saved : List R} (h : Files R c saved) {key : String}
    {data : Octets} {now : Instant} {r : R} (hslot : c ⟨(Record.kind R).space, key⟩ = some data)
    (hread : Record.decode now data = .ok r) : writeIdentifier (Record.id r) = key := by
  obtain ⟨r', hread', hkey⟩ := h.decodes now hslot
  obtain rfl := Except.ok.inj (hread.symm.trans hread')
  exact hkey

/-- What is listed under an identifier is what is read of the record that was saved last under it. -/
theorem Files.filter_readable {c : SlotContents} {saved : List R} (h : Files R c saved)
    {slots : List (String × Octets)} (hkeys : (slots.map Prod.fst).Nodup)
    (hslots : ∀ key data, (key, data) ∈ slots ↔ c ⟨(Record.kind R).space, key⟩ = some data)
    (now : Instant) (id : Int64) :
    ((Store.readable R now slots).filter fun r => Record.id r = id) =
      ((lastSaved id saved).map Record.Stable.settled).toList := by
  have hread : ∀ e ∈ slots, ∃ r : R, (Store.decodeSlot R now e.1 e.2).toOption = some r ∧
      (Record.id r = id ↔ e.1 = writeIdentifier id) := by
    rintro ⟨key, data⟩ he
    obtain ⟨r, hdata, rfl⟩ := h.decodes now ((hslots key data).mp he)
    refine ⟨r, by rw [Store.decodeSlot, hdata]; rfl, fun hid => hid ▸ rfl, fun hkey => ?_⟩
    exact Store.address_injective R (congrArg (Address.mk (Record.kind R).space) hkey)
  have hvalue : valueOf? (writeIdentifier id) slots = (lastSaved id saved).map Record.encode := by
    rw [← h.filed id]
    exact Option.ext fun data => (valueOf?_eq_some hkeys).trans (hslots _ data)
  calc ((Store.readable R now slots).filter fun r => Record.id r = id)
      = (slots.filter fun e => e.1 = writeIdentifier id).filterMap fun e =>
          (Store.decodeSlot R now e.1 e.2).toOption := by
        rw [Store.readable, List.filter_filterMap, List.filterMap_filter]
        refine List.filterMap_congr fun e he => ?_
        obtain ⟨r, hdata, hid⟩ := hread e he
        simp only [hdata, Option.filter, hid, decide_eq_true_eq]
    _ = ((lastSaved id saved).map Record.Stable.settled).toList := by
        rw [filter_key hkeys, hvalue]
        cases lastSaved id saved with
        | none => rfl
        | some r =>
          simp [Store.decodeSlot, Record.decode_encode, Except.mapError, Except.toOption]

theorem Files.filter_listAll {s : Store σ} {saved : List R} (h : Files R s.content saved)
    {slots : List (String × Octets)} (hlist : (Backend.list (Record.kind R).space s.slots).1 = .ok slots)
    (now : Instant) (id : Int64) : ((s.listAll R now).1.filter fun r => Record.id r = id) =
      ((lastSaved id saved).map Record.Stable.settled).toList := by
  have hlisted : (s.listAll R now).1 = Store.readable R now slots := by
    unfold Store.listAll Store.call
    dsimp only
    rw [hlist]
  rw [hlisted]
  exact h.filter_readable (Lists.nodup_list hlist) (Lists.mem_list hlist) now id

theorem Files.reflects {s : Store σ} {saved : List R} (h : Files R s.content saved) :
    s.Reflects saved where
  decodes := fun key data now hslot => h.decodes now hslot
  apart := by
    intro j k x y now later r r' hx hy hread hread' hid
    rw [← h.decodes_key hx hread, ← h.decodes_key hy hread', hid]
  lists := fun now _ id hlist => h.filter_listAll hlist now id
  kept := by
    intro now slots r hlist hlast hsettled
    rw [h.filter_listAll hlist, hlast, Option.map_some,
      (Record.Stable.settled_eq_self_iff r).mpr hsettled, Option.toList_some]

end Listing

end Companion
