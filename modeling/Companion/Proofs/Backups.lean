import Companion.Proofs.Loading

/-!
Backups. A slot that holds no record is moved aside, to a key that tells its identifier and the time in
milliseconds. Nothing else touches the namespaces of backups, so all depends on whether that key is
free. A database refuses to move a slot to a key that is taken, and the slot stays where it is. Memory
writes over what lies there: two slots of one identifier that are moved in one millisecond leave one
backup.
-/

namespace Companion

open Number Text Time Json

/-! ### Keys of backups -/

theorem notMem_toDigits {c : Char} (hc : c.isDigit = false) (n : Nat) : c ∉ Nat.toDigits 10 n := by
  intro hmem
  rw [toDigits_isDigit hmem] at hc
  cases hc

theorem minus_mem_writeInt (n : Int) : '-' ∈ writeInt n ↔ n < 0 := by
  have hdigits := notMem_toDigits (c := '-') rfl n.natAbs
  by_cases hn : n < 0 <;> simp [writeInt, hn, hdigits]

/-- An integer has one decimal form only. -/
theorem writeInt_injective {m n : Int} (h : writeInt m = writeInt n) : m = n := by
  have hdigits : ∀ k : Int, (writeInt k).filter Char.isDigit = Nat.toDigits 10 k.natAbs := by
    intro k
    have hkept : (Nat.toDigits 10 k.natAbs).filter Char.isDigit = Nat.toDigits 10 k.natAbs :=
      List.filter_eq_self.mpr fun c hc => toDigits_isDigit hc
    rw [writeInt, List.filter_append, hkept]
    split <;> rfl
  have habs : m.natAbs = n.natAbs := by
    have hsame := hdigits m
    rw [h, hdigits n] at hsame
    rw [← ofDigits_toDigits m.natAbs, ← ofDigits_toDigits n.natAbs, hsame]
  have hsign : m < 0 ↔ n < 0 := by
    rw [← minus_mem_writeInt m, ← minus_mem_writeInt n, h]
  omega

/-- What stands in front of the first separator, and what stands behind it, is told by the whole. -/
theorem append_cons_inj {c : Char} {a b x y : List Char} (ha : c ∉ a) (hb : c ∉ b)
    (h : a ++ c :: x = b ++ c :: y) : a = b ∧ x = y := by
  induction a generalizing b with
  | nil =>
    cases b with
    | nil => exact ⟨rfl, (List.cons.inj h).2⟩
    | cons d b => exact absurd ((List.cons.inj h).1 ▸ List.mem_cons_self) hb
  | cons e a ih =>
    cases b with
    | nil => exact absurd ((List.cons.inj h).1 ▸ List.mem_cons_self) ha
    | cons d b =>
      obtain ⟨rfl, htail⟩ := List.cons.inj h
      obtain ⟨rfl, hrest⟩ := ih (List.not_mem_of_not_mem_cons ha) (List.not_mem_of_not_mem_cons hb) htail
      exact ⟨rfl, hrest⟩

def Address.IsBackup (a : Address) : Prop := ∃ kind : RecordKind, a.space = kind.backupSpace

/-- Where the slot of a record is moved to at a time. -/
def LockKey.backup (key : LockKey) (now : Instant) : Address :=
  ⟨key.kind.backupSpace, backupKey (writeIdentifier key.id) now⟩

theorem LockKey.isBackup_backup (key : LockKey) (now : Instant) : (key.backup now).IsBackup :=
  ⟨key.kind, rfl⟩

theorem LockKey.slot_ne_of_isBackup (key : LockKey) {a : Address} (ha : a.IsBackup) :
    a ≠ key.slot := by
  obtain ⟨kind, hspace⟩ := ha
  intro heq
  exact space_ne_backupSpace key.kind kind ((congrArg Address.space heq).symm.trans hspace)

/-- Two slots are moved to one place if they are the slot of one record and are moved in one
millisecond. -/
theorem LockKey.backup_eq_iff {j k : LockKey} {t u : Instant} :
    j.backup t = k.backup u ↔ j = k ∧ t.millis = u.millis := by
  constructor
  · intro h
    have hspace : j.kind.backupSpace = k.kind.backupSpace := congrArg Address.space h
    have hkey : backupKey (writeIdentifier j.id) t = backupKey (writeIdentifier k.id) u :=
      congrArg Address.key h
    have hkind : j.kind = k.kind := by
      cases hj : j.kind <;> cases hk : k.kind <;> rw [hj, hk] at hspace <;>
        first | rfl | exact absurd hspace (by decide)
    have htext : ∀ (id : Int64) (now : Instant), (backupKey (writeIdentifier id) now).toList =
        writeInt id.toInt ++ '.' :: ("corrupt.".toList ++ writeInt now.millis) := by
      intro id now
      simp [backupKey, writeIdentifier, String.toList_append]
    have hdot : ∀ n : Int, '.' ∉ writeInt n := by
      intro n
      have hdigits := notMem_toDigits (c := '.') rfl n.natAbs
      by_cases hn : n < 0 <;> simp [writeInt, hn, hdigits]
    have hlists := congrArg String.toList hkey
    rw [htext, htext] at hlists
    obtain ⟨hid, hmillis⟩ := append_cons_inj (hdot _) (hdot _) hlists
    refine ⟨?_, writeInt_injective (List.append_cancel_left hmillis)⟩
    obtain ⟨jkind, jid⟩ := j
    obtain ⟨kkind, kid⟩ := k
    have hsame : jid = kid := Int64.toInt_inj.mp (writeInt_injective hid)
    exact congr (congrArg LockKey.mk hkind) hsame
  · rintro ⟨rfl, hmillis⟩
    simp only [backup, backupKey, hmillis]

/-! ### Moving aside -/

/-- A backend moves a slot to the key of the time as a whole or leaves everything as it is. `fresh`
tells whether it does so only where that key is free. -/
structure MovesWhole (σ : Type) [Backend σ] [Faithful σ] (fresh : Prop) : Prop where
  moved : ∀ {now slot space} {s : σ} {key}, (Backend.quarantine now slot space s).1 = .ok (some key) →
    key = backupKey slot.key now ∧ (fresh → Faithful.content s ⟨space, key⟩ = none)
  unmoved : ∀ {now slot space} {s : σ} {e}, (Backend.quarantine now slot space s).1 = .error e →
    Faithful.content (Backend.quarantine now slot space s).2 = Faithful.content s

/-- Memory moves a slot that is not empty, whatever lies in its new place. -/
theorem Memory.quarantine_cases (now : Instant) (slot : Address) (space : String) (m : Memory) :
    (Backend.quarantine now slot space m).1 = .ok none ∨
      (Backend.quarantine now slot space m).1 = .ok (some (backupKey slot.key now)) := by
  show (moveAside read write remove now slot space m).1 = .ok none ∨
    (moveAside read write remove now slot space m).1 = .ok (some (backupKey slot.key now))
  unfold moveAside read
  cases m.get? slot with
  | none => exact .inl rfl
  | some data => exact .inr rfl

theorem movesWhole_memory : MovesWhole Memory False where
  moved := by
    intro now slot space m key h
    rcases Memory.quarantine_cases now slot space m with hnone | hsome
    · rw [hnone] at h
      cases h
    · rw [hsome] at h
      exact ⟨(Option.some.inj (Except.ok.inj h)).symm, False.elim⟩
  unmoved := by
    intro now slot space m e h
    rcases Memory.quarantine_cases now slot space m with hnone | hsome
    · rw [hnone] at h
      cases h
    · rw [hsome] at h
      cases h

theorem movesWhole_database : MovesWhole Database True where
  moved := by
    intro now slot space d key h
    obtain ⟨rows, hrows, hanswer, _⟩ := Database.onRows_ok h
    rw [show Faithful.content d = Database.octetsOf rows from hrows]
    cases hrow : rows.get? slot with
    | none => simp [hrow] at hanswer
    | some row =>
      simp only [hrow] at hanswer
      split at hanswer
      · cases hanswer
      · next hfree =>
        obtain rfl := Option.some.inj (Except.ok.inj hanswer)
        refine ⟨rfl, fun _ => ?_⟩
        simpa [Table.contains, Database.octetsOf] using hfree
  unmoved := by
    intro now slot space d e h
    show Database.content (Database.quarantine now slot space d).2 = Database.content d
    replace h : (Database.quarantine now slot space d).1 = .error e := h
    unfold Database.quarantine at h ⊢
    rcases Database.onRows_cases _ d with hmissing | ⟨rows, hrows, hanswer, hafter⟩
    · rw [hmissing]
    · rw [hafter, hrows]
      have herror := hanswer.symm.trans h
      cases hrow : rows.get? slot with
      | none => simp [hrow] at herror
      | some row =>
        simp only [hrow] at herror ⊢
        split at herror
        · next htaken => rw [if_pos htaken]
        · cases herror

/-! ### Calls of a store -/

inductive StoreCall (R : Type)
  | getOrCreate (id : Int64)
  | load (id : Int64)
  | fetch (id : Int64)
  | update (id : Int64) (change : R → R)
  | save (record : R)
  | listAll

namespace StoreCall

variable {R : Type} [Record R] {σ : Type} [Backend σ]

def done (now : Instant) (s : Store σ) : StoreCall R → Store σ
  | getOrCreate id => (s.getOrCreate R now id).2
  | load id => (s.load R now id).2
  | fetch id => (s.fetch R now id).2
  | update id change => (s.update R now id fun r => (change r, ())).2
  | save record => s.save record
  | listAll => (s.listAll R now).2

def loads? : StoreCall R → Option LockKey
  | getOrCreate id => some ⟨Record.kind R, id⟩
  | load id => some ⟨Record.kind R, id⟩
  | update id _ => some ⟨Record.kind R, id⟩
  | _ => none

end StoreCall

/-- What lay in the slot of a record held no record and was moved aside: it lies in the backup of the
time now and no longer in the slot, and every other backup is as it was. -/
structure SetAside (key : LockKey) (now : Instant) (data : Octets) (before after : SlotContents) :
    Prop where
  held : before key.slot = some data
  unreadable : ¬ key.kind.Holds data
  gone : after key.slot ≠ some data
  backup : after (key.backup now) = some data
  others : ∀ a : Address, a.IsBackup → a ≠ key.backup now → after a = before a

/-- All that a store does to backups at a time: it leaves them alone, and octets that it loads and that
hold no record stay where they are; or it moves such octets aside, to a place that was free if `fresh`
holds. -/
inductive Tends (fresh : Prop) (now : Instant) (loads? : Option LockKey) (before after : SlotContents) :
    Prop
  | same (hbackups : ∀ a : Address, a.IsBackup → after a = before a)
      (hstays : ∀ key data, loads? = some key → before key.slot = some data →
        ¬ key.kind.Holds data → after key.slot = some data)
  | aside (key : LockKey) (data : Octets) (hloads : loads? = some key)
      (hmoved : SetAside key now data before after)
      (hfresh : fresh → before (key.backup now) = none)

section Tends

variable {R : Type} [Record R] [Record.Steady R] {σ : Type} [Backend σ] [Faithful σ] {fresh : Prop}
  {now : Instant}

theorem Tends.of_same {loads? : Option LockKey} {before after : SlotContents} (h : after = before) :
    Tends fresh now loads? before after := by
  subst h
  exact .same (fun _ _ => rfl) fun _ _ _ hdata _ => hdata

variable (R now)

omit [Record.Steady R] in
theorem MovesWhole.quarantine (h : MovesWhole σ fresh) (id : Int64) (s : Store σ) {data : Octets}
    (hslot : s.content (LockKey.slot ⟨Record.kind R, id⟩) = some data) :
    let key : LockKey := ⟨Record.kind R, id⟩
    ((s.quarantine R now id).1 = true ∧ (fresh → s.content (key.backup now) = none) ∧
      (s.quarantine R now id).2.content =
        Function.update (Function.update s.content (key.backup now) (some data)) key.slot none) ∨
    ((s.quarantine R now id).1 = false ∧ (s.quarantine R now id).2.content = s.content) := by
  dsimp only
  have haside := Faithful.quarantine_moved now (Store.address R id) (Record.kind R).backupSpace s.slots
  have hmoved := @h.moved now (Store.address R id) (Record.kind R).backupSpace s.slots
  have hunmoved := @h.unmoved now (Store.address R id) (Record.kind R).backupSpace s.slots
  unfold Store.quarantine Store.call
  dsimp only
  generalize Backend.quarantine now (Store.address R id) (Record.kind R).backupSpace s.slots = r
    at haside hmoved hunmoved
  obtain ⟨answer, slots⟩ := r
  cases answer with
  | error e => exact .inr ⟨rfl, hunmoved rfl⟩
  | ok place =>
    cases place with
    | none =>
      have hnone : s.content (LockKey.slot ⟨Record.kind R, id⟩) = none := haside.1
      rw [hnone] at hslot
      cases hslot
    | some backup =>
      obtain ⟨rfl, hfree⟩ := hmoved rfl
      obtain ⟨data', hdata, hafter⟩ := haside
      obtain rfl : data' = data := Option.some.inj (hdata.symm.trans hslot)
      exact .inl ⟨rfl, hfree, hafter⟩

/-- Loading a record moves a slot that holds none aside, or changes nothing. -/
theorem MovesWhole.getOrCreate (h : MovesWhole σ fresh) (id : Int64) (s : Store σ) :
    let key : LockKey := ⟨Record.kind R, id⟩
    let after := (s.getOrCreate R now id).2.content
    (after = s.content ∧ ∀ data, s.content key.slot = some data → ¬ key.kind.Holds data →
        (s.getOrCreate R now id).1.state = .readFailed) ∨
      ∃ data, s.content key.slot = some data ∧ ¬ key.kind.Holds data ∧
        (fresh → s.content (key.backup now) = none) ∧
        after = Function.update (Function.update s.content (key.backup now) (some data)) key.slot none := by
  dsimp only
  obtain ⟨hfetch, hcontent, -⟩ := Store.fetch_fetches R now id s
  unfold Store.getOrCreate
  generalize s.fetch R now id = r at hfetch hcontent
  obtain ⟨answer, t⟩ := r
  dsimp only at hfetch hcontent
  rw [← hcontent] at hfetch ⊢
  cases hfetch with
  | @found data record hslot hread =>
    refine .inl ⟨rfl, fun data' hdata hunread => absurd ?_ hunread⟩
    obtain rfl : data = data' := Option.some.inj (hslot.symm.trans hdata)
    exact Record.holds_of_decode hread
  | empty hslot =>
    refine .inl ⟨rfl, fun data hdata _ => ?_⟩
    rw [show t.content (LockKey.slot ⟨Record.kind R, id⟩) = none from hslot] at hdata
    cases hdata
  | @failed e hplain =>
    refine .inl ?_
    cases e with
    | corruptSlot kind key reason => exact absurd rfl (hplain kind key reason)
    | _ => exact ⟨rfl, fun _ _ _ => rfl⟩
  | @corrupt data f kind key reason hslot hread =>
    have hmoves := h.quarantine R now id t hslot
    dsimp only [Store.settle] at hmoves ⊢
    generalize t.quarantine R now id = q at hmoves
    obtain ⟨moved, u⟩ := q
    rcases hmoves with ⟨rfl, hfree, hafter⟩ | ⟨rfl, hsame⟩
    · exact .inr ⟨data, hslot, Record.not_holds_of_error hread, hfree, hafter⟩
    · exact .inl ⟨hsame, fun _ _ _ => rfl⟩

/-- What a call loads and may save is gone from its slot if it held no record. -/
theorem MovesWhole.tends_getOrCreate (h : MovesWhole σ fresh) (id : Int64) (s : Store σ) :
    let key : LockKey := ⟨Record.kind R, id⟩
    let after := (s.getOrCreate R now id).2.content
    Tends fresh now (some key) s.content after ∧
      ((s.getOrCreate R now id).1.state.canSave = true → ∀ data, s.content key.slot = some data →
        ¬ key.kind.Holds data → after key.slot ≠ some data) := by
  dsimp only
  rcases h.getOrCreate R now id s with
    ⟨hsame, hfailed⟩ | ⟨data, hslot, hunread, hfree, hafter⟩
  · refine ⟨.of_same hsame, fun hsave data hdata hunread => ?_⟩
    rw [hfailed data hdata hunread] at hsave
    cases hsave
  · have hgone : (s.getOrCreate R now id).2.content (LockKey.slot ⟨Record.kind R, id⟩) = none := by
      rw [hafter]
      exact Function.update_self ..
    refine ⟨.aside ⟨Record.kind R, id⟩ data rfl ⟨hslot, hunread, by simp [hgone], ?_, ?_⟩ hfree,
      fun _ _ _ _ => by simp [hgone]⟩
    · rw [hafter, Function.update_of_ne (LockKey.slot_ne_of_isBackup _ (LockKey.isBackup_backup _ _)),
        Function.update_self]
    · intro a ha hne
      rw [hafter, Function.update_of_ne (LockKey.slot_ne_of_isBackup _ ha),
        Function.update_of_ne hne]

variable {R now}

/-- Saving a record changes no backup. -/
theorem Tends.saved [Record.Stable R] {loads? : Option LockKey} {before after : SlotContents}
    (h : Tends fresh now loads? before after)
    (hgone : ∀ key data, loads? = some key → before key.slot = some data → ¬ key.kind.Holds data →
      after key.slot ≠ some data) (r : R) :
    Tends fresh now loads? before
      (Function.update after (Store.address R (Record.id r)) (some (Record.encode r))) := by
  have hlive : ∀ a : Address, a.IsBackup → a ≠ Store.address R (Record.id r) := fun a ha =>
    LockKey.slot_ne_of_isBackup ⟨Record.kind R, Record.id r⟩ ha
  cases h with
  | same hbackups hstays =>
    refine .same (fun a ha => ?_) fun key data hloads hdata hunread => ?_
    · rw [Function.update_of_ne (hlive a ha), hbackups a ha]
    · exact absurd (hstays key data hloads hdata hunread) (hgone key data hloads hdata hunread)
  | aside key data hloads hmoved hfresh =>
    refine .aside key data hloads ⟨hmoved.held, hmoved.unreadable, ?_, ?_, fun a ha hne => ?_⟩ hfresh
    · by_cases hslot : key.slot = Store.address R (Record.id r)
      · obtain rfl := LockKey.slot_injective (k := ⟨Record.kind R, Record.id r⟩) hslot
        intro hdata
        rw [hslot, Function.update_self] at hdata
        apply hmoved.unreadable
        rw [← Option.some.inj hdata]
        exact Record.holds_encode r
      · rw [Function.update_of_ne hslot]
        exact hmoved.gone
    · rw [Function.update_of_ne (hlive _ (key.isBackup_backup now)), hmoved.backup]
    · rw [Function.update_of_ne (hlive a ha), hmoved.others a ha hne]

/-- A call of a store tends its backups. -/
theorem StoreCall.tends [Record.Stable R] (h : MovesWhole σ fresh) (r : StoreCall R) (s : Store σ) :
    Tends fresh now r.loads? s.content (r.done now s).content := by
  cases r with
  | getOrCreate id => exact (h.tends_getOrCreate R now id s).1
  | load id => exact (h.tends_getOrCreate R now id s).1
  | fetch id => exact .of_same (Store.fetch_fetches R now id s).2.1
  | listAll => exact .of_same (Store.listAll_content R now s).1
  | save record =>
    rcases Store.save_content record s with hsaved | ⟨_, hsame⟩
    · have hsave : Tends fresh now none s.content _ :=
        (Tends.of_same rfl).saved (fun key data hloads => by cases hloads) record
      rw [← hsaved] at hsave
      exact hsave
    · exact .of_same hsame
  | update id change =>
    obtain ⟨htends, hgone⟩ := h.tends_getOrCreate R now id s
    have hdone : (done now s (update id change)) = (s.getOrCreate R now id).2.keep
        ⟨change (s.getOrCreate R now id).1.record, (s.getOrCreate R now id).1.state⟩ := rfl
    rw [hdone, Store.keep]
    split
    · next hsave =>
      rcases Store.save_content (change (s.getOrCreate R now id).1.record)
        (s.getOrCreate R now id).2 with hsaved | ⟨_, hsame⟩
      · rw [hsaved]
        refine htends.saved (fun key data hloads hdata hunread => ?_) _
        obtain rfl := Option.some.inj hloads
        exact hgone hsave data hdata hunread
      · rw [hsame]
        exact htends
    · exact htends

end Tends

/-! ### Runs -/

/-- What happens to a store: it is asked for something, or octets come into a live slot by some other
way. -/
inductive Deed
  | user (r : StoreCall UserRecord)
  | group (r : StoreCall GroupRecord)
  | appear (key : LockKey) (data : Octets)

namespace Deed

variable {σ : Type} [Backend σ]

def done (now : Instant) (s : Store σ) : Deed → Store σ
  | user r => r.done now s
  | group r => r.done now s
  | appear key data => (s.call (Backend.write key.slot data)).2

def loads? : Deed → Option LockKey
  | user r => r.loads?
  | group r => r.loads?
  | appear _ _ => none

def run (deeds : List (Instant × Deed)) (s : Store σ) : Store σ :=
  deeds.foldl (fun s x => x.2.done x.1 s) s

variable [Faithful σ] {fresh : Prop} {now : Instant}

/-- A deed tends the backups of a store. -/
theorem tends (h : MovesWhole σ fresh) (d : Deed) (s : Store σ) :
    Tends fresh now d.loads? s.content (d.done now s).content := by
  cases d with
  | user r => exact r.tends h s
  | group r => exact r.tends h s
  | appear key data =>
    refine .same (fun a ha => ?_) fun k x hloads => by cases hloads
    have hne := key.slot_ne_of_isBackup ha
    have hok := @Faithful.write_ok σ _ _ key.slot data s.slots
    have herror := @Faithful.write_error σ _ _ key.slot data s.slots
    unfold done Store.call
    dsimp only
    generalize Backend.write key.slot data s.slots = w at hok herror
    obtain ⟨answer, slots⟩ := w
    cases answer with
    | ok _ => exact (congrFun (hok rfl) a).trans (Function.update_of_ne hne _ _)
    | error e => exact congrFun (herror rfl) a

/-- A backup stays through a run, where places are only taken that are free, or where no slot is moved
to its place. -/
theorem run_keeps (h : MovesWhole σ fresh) {deeds : List (Instant × Deed)} {s : Store σ} {a : Address}
    {data : Octets} (ha : a.IsBackup) (hdata : s.content a = some data)
    (hapart : fresh ∨ ∀ x ∈ deeds, ∀ key, x.2.loads? = some key → key.backup x.1 ≠ a) :
    (run deeds s).content a = some data := by
  induction deeds generalizing s with
  | nil => exact hdata
  | cons x deeds ih =>
    apply ih
    · have htends : Tends fresh x.1 x.2.loads? s.content (x.2.done x.1 s).content := x.2.tends h s
      cases htends with
      | same hbackups _ => rw [hbackups a ha, hdata]
      | aside key moved hloads hmoved hfresh =>
        have hne : a ≠ key.backup x.1 := by
          rintro rfl
          rcases hapart with hyes | hapart
          · rw [hfresh hyes] at hdata
            cases hdata
          · exact hapart x List.mem_cons_self key hloads rfl
        rw [hmoved.others a ha hne, hdata]
    · exact hapart.imp id fun hapart y hy => hapart y (List.mem_cons_of_mem x hy)

end Deed

/-! ### What becomes of backups -/

/-- What becomes of backups in a run of a store, whatever the clock reads. In a database every backup
stays as it is, and a slot that is moved aside adds one backup, which holds what lay in the slot. In
memory the same is so as long as no slot is moved to a place that is taken, which is the place of the
same record in the same millisecond; there the later backup replaces the earlier one. -/
theorem backups_stay (deeds : List (Instant × Deed)) {a : Address} (ha : a.IsBackup) (data : Octets) :
    (∀ s : Store Database, s.content a = some data → (Deed.run deeds s).content a = some data) ∧
    (∀ s : Store Memory, s.content a = some data →
      (∀ x ∈ deeds, ∀ key, x.2.loads? = some key → key.backup x.1 ≠ a) →
      (Deed.run deeds s).content a = some data) ∧
    (∀ (s : Store Database) (now : Instant) (d : Deed),
      Tends True now d.loads? s.content (d.done now s).content) ∧
    (∀ (s : Store Memory) (now : Instant) (d : Deed),
      Tends False now d.loads? s.content (d.done now s).content) ∧
    ∀ (j k : LockKey) (t u : Instant), j.backup t = k.backup u ↔ j = k ∧ t.millis = u.millis := by
  refine ⟨?_, ?_, ?_, ?_, fun _ _ _ _ => LockKey.backup_eq_iff⟩
  · exact fun s hdata => Deed.run_keeps movesWhole_database ha hdata (.inl trivial)
  · exact fun s hdata hapart => Deed.run_keeps movesWhole_memory ha hdata (.inr hapart)
  · exact fun s now d => d.tends movesWhole_database s
  · exact fun s now d => d.tends movesWhole_memory s

/-- Octets that hold no record come into a slot and are moved aside by a load, at the first moment of
the epoch. -/
def spoiled (octet : UInt8) : List (Instant × Deed) :=
  [(⟨epoch, 0, 0, isMoment_zero⟩, .appear ⟨.user, 1⟩ [octet]),
    (⟨epoch, 0, 0, isMoment_zero⟩, .user (.getOrCreate 1))]

/-- A second slot that is moved in the same millisecond is refused by a database, and the first backup
stays. -/
theorem backups_stay_refused :
    (Deed.run (spoiled 121) (Deed.run (spoiled 120) { slots := Database.opened true none })).content
      (LockKey.backup ⟨.user, 1⟩ ⟨epoch, 0, 0, isMoment_zero⟩) = some [120] := by
  obtain ⟨hstays, _⟩ := backups_stay (spoiled 121)
    (LockKey.isBackup_backup ⟨.user, 1⟩ ⟨epoch, 0, 0, isMoment_zero⟩) [120]
  exact hstays _ rfl

/-- In memory a backup does not always stay: the second of two that are made of one record in one
millisecond replaces the first. -/
theorem backup_replaced :
    ¬ ∀ (s : Store Memory) (deeds : List (Instant × Deed)) (a : Address) (data : Octets),
      a.IsBackup → s.content a = some data → (Deed.run deeds s).content a = some data := by
  intro hstays
  have hfirst : (Deed.run (spoiled 120) ({ slots := .empty } : Store Memory)).content
      (LockKey.backup ⟨.user, 1⟩ ⟨epoch, 0, 0, isMoment_zero⟩) = some [120] := by
    rfl
  have hsecond : (Deed.run (spoiled 121)
      (Deed.run (spoiled 120) ({ slots := .empty } : Store Memory))).content
      (LockKey.backup ⟨.user, 1⟩ ⟨epoch, 0, 0, isMoment_zero⟩) = some [121] := by
    rfl
  have hkept := hstays _ (spoiled 121) _ _ (LockKey.isBackup_backup _ _) hfirst
  rw [hsecond] at hkept
  cases hkept

end Companion
