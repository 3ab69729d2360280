import Companion.Proofs.Resemblance

/-!
Stores over media that look the same to one user. Loading and saving the record of that user goes the
same way in both and leaves them looking the same, and so does looking up names; whatever is done with
records of groups does not show.
-/

namespace Companion

open Number Text Time Json

namespace Store

/-! ### What a store over a medium answers -/

section Answers

variable (s : Store Medium)

theorem call_read (slot : Address) :
    s.call (Backend.read slot) = (s.slots.kind.answer (s.content slot), s) := by
  rw [call, Medium.read_eq]
  rfl

theorem call_list (space : String) :
    s.call (Backend.list space) = (s.slots.kind.answer (s.slots.table.slotsOf space), s) := by
  rw [call, Medium.list_eq]

/-- Fetching a record reads its slot and changes nothing. -/
theorem fetch_eq (R : Type) [Record R] (now : Instant) (id : Int64) :
    s.fetch R now id = ((s.slots.kind.answer (s.content (address R id))).bind fun slot =>
      slot.elim (.ok none) fun data => (decodeSlot R now (address R id).key data).map some, s) := by
  rw [fetch, call_read]
  generalize s.slots.kind.answer (s.content (address R id)) = answer
  obtain e | _ | data := answer <;> rfl

theorem writes_iff {R : Type} [Record R] (r : R) :
    s.Writes r ↔ s.slots.kind.answer () = .ok () := by
  obtain ⟨hanswer, -⟩ := Medium.write_answer s.slots (address R (Record.id r)) (Record.encode r)
  rw [Writes, hanswer]

/-- A medium stays of its kind when a record is saved. -/
theorem kind_save {R : Type} [Record R] (r : R) : (s.save r).slots.kind = s.slots.kind := by
  obtain ⟨-, hkind⟩ := Medium.write_answer s.slots (address R (Record.id r)) (Record.encode r)
  rw [slots_save, (trySave_write s r).2, hkind]

/-- A medium stays of its kind when a record is loaded. -/
theorem kind_getOrCreate (R : Type) [Record R] (now : Instant) (id : Int64) :
    (s.getOrCreate R now id).2.slots.kind = s.slots.kind := by
  have hquarantine : (s.quarantine R now id).2.slots.kind = s.slots.kind := by
    obtain ⟨-, hkind⟩ := Medium.quarantine_answer s.slots now (address R id) (Record.kind R).backupSpace
    unfold quarantine call
    dsimp only
    generalize Backend.quarantine now (address R id) (Record.kind R).backupSpace s.slots = q at hkind
    obtain ⟨_ | _ | _, slots⟩ := q <;> exact hkind
  rw [getOrCreate, fetch_eq]
  generalize Except.bind _ _ = answer
  obtain ⟨_ | _ | _ | _ | _⟩ | _ | r := answer
  case error.corruptSlot =>
    dsimp only [settle]
    generalize s.quarantine R now id = q at hquarantine
    obtain ⟨_ | _, t⟩ := q <;> exact hquarantine
  all_goals rfl

end Answers

/-! ### Names -/

def users (s : Store Medium) : List (String × Octets) := s.slots.table.slotsOf RecordKind.user.space

theorem listAll_users (now : Instant) (s : Store Medium) :
    s.listAll UserRecord now = ((Names.holders now s.users).map Prod.snd, s) := by
  have hcall : s.call (Backend.list (Record.kind UserRecord).space) =
      (s.slots.kind.answer s.users, s) := s.call_list _
  rw [listAll, hcall, ← Names.readable_eq]
  cases hkind : s.slots.kind with
  | memory => rfl
  | database => rfl
  | broken =>
    have hnone : s.users = [] := by
      unfold users
      obtain ⟨slots, _, _⟩ := s
      obtain m | ⟨checksums, _ | rows⟩ := slots
      · cases hkind
      · rfl
      · cases hkind
    rw [hnone]
    rfl

end Store

namespace Names

/-- Names are looked up among the slots of users as they are listed. -/
theorem resolve_eq (asker : Int64) (now : Instant) (names : List String) (s : Store Medium) :
    resolve asker now names s = ((firstHolder asker now s.users names).map Prod.snd, s) := by
  have hfind : ∀ name, findOther asker now name s =
      ((holder asker now s.users name).map Prod.snd, s) := by
    intro name
    unfold findOther findWhere holder
    dsimp only
    by_cases hname : normalize name = ""
    · rw [if_pos hname, if_pos hname]
      rfl
    · rw [if_neg hname, if_neg hname, Store.listAll_users]
      dsimp only
      rw [List.find?_map]
      rfl
  induction names with
  | nil => rfl
  | cons name rest ih =>
    rw [resolve, hfind name, firstHolder, List.findSome?_cons]
    cases holder asker now s.users name with
    | none => exact ih
    | some e => rfl

end Names

/-! ### Stores that look the same -/

/-- Two loaded records that differ in nothing but their times, and come from the same place. -/
structure Loaded.Alike (l l' : Loaded UserRecord) : Prop where
  record : l.record.Alike l'.record
  state : l.state = l'.state

namespace Store

/-- The place of octets that are moved out of the slot of a user at a time is taken. -/
def PlaceTaken (user : Int64) (now : Instant) (s : Store Medium) : Prop :=
  (s.content ⟨RecordKind.user.backupSpace, backupKey (writeIdentifier user) now⟩).isSome = true

/-- Stores of one kind, with one set of settings, whose slots look the same to one user, at times of the
one that are paired with times of the other. A database tells the time where it moves octets out of the
slot of the user, if they hold no record; at paired times it finds their places taken in both stores or
in none. -/
structure Resembles (asker : Int64) (hidden : String → Prop) (paired : Instant → Instant → Prop)
    (s s' : Store Medium) : Prop where
  kind : s'.slots.kind = s.slots.kind
  settings : s'.settings = s.settings
  slots : ResemblingSlots asker hidden s.content s'.content
  places : RecordKind.user.Clear (s.content (address UserRecord asker)) ∨ s.slots.kind = .memory ∨
    ∀ now now', paired now now' → (s.PlaceTaken asker now ↔ s'.PlaceTaken asker now')

/-- What is done with records of groups leaves all else as it is. -/
structure SameUsers (s t : Store Medium) : Prop where
  kind : t.slots.kind = s.slots.kind
  settings : t.settings = s.settings
  slots : KeepsUsers s.content t.content

variable {asker : Int64} {hidden : String → Prop} {paired : Instant → Instant → Prop}
  {s s' t t' : Store Medium}

theorem placeTaken_congr {user : Int64} {now : Instant}
    (h : ∀ key, t.content ⟨RecordKind.user.backupSpace, key⟩ =
      s.content ⟨RecordKind.user.backupSpace, key⟩) :
    t.PlaceTaken user now ↔ s.PlaceTaken user now := by
  rw [PlaceTaken, PlaceTaken, h]

/-- Slots of users that are kept, and others that are done with as one likes. -/
theorem Resembles.of_same (h : s.Resembles asker hidden paired s') (hleft : s.SameUsers t)
    (hright : s'.SameUsers t') : t.Resembles asker hidden paired t' where
  kind := hright.kind.trans (h.kind.trans hleft.kind.symm)
  settings := hright.settings.trans (h.settings.trans hleft.settings.symm)
  slots := h.slots.of_kept hleft.slots hright.slots
  places := by
    rw [hleft.slots _ (.inl rfl), hleft.kind]
    refine h.places.imp_right (Or.imp_right fun hplaces now now' hpaired => ?_)
    rw [placeTaken_congr fun key => hleft.slots ⟨_, key⟩ (.inr rfl),
      placeTaken_congr fun key => hright.slots ⟨_, key⟩ (.inr rfl)]
    exact hplaces now now' hpaired

theorem not_users {id : Int64} (h : (address GroupRecord id).space = RecordKind.user.space ∨
    (address GroupRecord id).space = RecordKind.user.backupSpace) : False := by
  have hspace : (address GroupRecord id).space = RecordKind.group.space := rfl
  rw [hspace] at h
  revert h
  decide

theorem sameUsers_getOrCreate (now : Instant) (id : Int64) (s : Store Medium) :
    s.SameUsers (s.getOrCreate GroupRecord now id).2 := by
  obtain ⟨hloads, hsettings⟩ := getOrCreate_loads GroupRecord now id s
  refine ⟨s.kind_getOrCreate GroupRecord now id, hsettings, fun a ha => hloads.frame ?_ ?_⟩
  · rintro rfl
    exact not_users ha
  · intro hspace
    rw [hspace] at ha
    revert ha
    decide

theorem sameUsers_save (g : GroupRecord) (s : Store Medium) : s.SameUsers (s.save g) := by
  refine ⟨s.kind_save g, settings_save g s, fun a ha => ?_⟩
  rcases save_content g s with hsaved | ⟨_, hsame⟩
  · rw [hsaved, Function.update_of_ne]
    rintro rfl
    exact not_users ha
  · rw [hsame]

/-- Saving a record of a user leaves backups alone, and puts a record into a slot or leaves it alone. -/
theorem slots_save_user (r : UserRecord) (s : Store Medium) :
    (∀ key, (s.save r).content ⟨RecordKind.user.backupSpace, key⟩ =
        s.content ⟨RecordKind.user.backupSpace, key⟩) ∧
      ∀ a, RecordKind.user.Clear ((s.save r).content a) ∨ (s.save r).content a = s.content a := by
  rcases save_content r s with hsaved | ⟨_, hsame⟩
  · rw [hsaved]
    refine ⟨fun key => Function.update_of_ne ?_ _ _, fun a => ?_⟩
    · exact fun heq => space_ne_backupSpace .user .user (congrArg Address.space heq).symm
    · by_cases ha : a = address UserRecord (Record.id r)
      · subst ha
        rw [Function.update_self]
        refine .inl fun data hdata => ?_
        rw [← Option.some.inj hdata]
        exact Record.holds_encode r
      · exact .inr (Function.update_of_ne ha _ _)
  · rw [hsame]
    exact ⟨fun _ => rfl, fun _ => .inr rfl⟩

namespace Resembles

/-- A record that is saved is saved on both sides or on none. -/
theorem save (h : s.Resembles asker hidden paired s') {r r' : UserRecord} (hr : r.Alike r') :
    (s.save r).Resembles asker hidden paired (s'.save r') where
  kind := by rw [kind_save, kind_save, h.kind]
  settings := by rw [settings_save, settings_save, h.settings]
  slots := by
    have hsame : s'.Writes r' ↔ s.Writes r := by rw [writes_iff, writes_iff, h.kind]
    rcases save_cases r s with ⟨hwrites, hafter⟩ | ⟨hfails, hafter⟩
    · rcases save_cases r' s' with ⟨_, hafter'⟩ | ⟨hfails, _⟩
      · rw [hafter, hafter']
        exact h.slots.saved hr
      · exact absurd (hsame.mpr hwrites) hfails
    · rcases save_cases r' s' with ⟨hwrites, _⟩ | ⟨_, hafter'⟩
      · exact absurd (hsame.mp hwrites) hfails
      · rw [hafter, hafter']
        exact h.slots
  places := by
    obtain ⟨hbackups, hslots⟩ := slots_save_user r s
    obtain ⟨hbackups', -⟩ := slots_save_user r' s'
    rcases hslots (address UserRecord asker) with hclear | hsame
    · exact .inl hclear
    · rw [hsame, kind_save]
      refine h.places.imp_right (Or.imp_right fun hplaces now now' hpaired => ?_)
      rw [placeTaken_congr hbackups, placeTaken_congr hbackups']
      exact hplaces now now' hpaired

/-- Octets in the slot of the user that hold no record are moved aside on both sides or on none. -/
theorem quarantine (h : s.Resembles asker hidden paired s') {now now' : Instant}
    (htaken : s.slots.kind = .memory ∨ (s.PlaceTaken asker now ↔ s'.PlaceTaken asker now')) :
    (s.quarantine UserRecord now asker).1 = (s'.quarantine UserRecord now' asker).1 ∧
      (s.quarantine UserRecord now asker).2.Resembles asker hidden paired
        (s'.quarantine UserRecord now' asker).2 := by
  obtain ⟨hanswer, hkind⟩ :=
    Medium.quarantine_answer s.slots now (address UserRecord asker) RecordKind.user.backupSpace
  obtain ⟨hanswer', hkind'⟩ :=
    Medium.quarantine_answer s'.slots now' (address UserRecord asker) RecordKind.user.backupSpace
  have hcontent := Medium.quarantine_content s.slots now (address UserRecord asker)
    RecordKind.user.backupSpace
  have hcontent' := Medium.quarantine_content s'.slots now' (address UserRecord asker)
    RecordKind.user.backupSpace
  have hheld : (Faithful.content s'.slots (address UserRecord asker)).isSome =
      (Faithful.content s.slots (address UserRecord asker)).isSome := h.slots.isSome_own.symm
  have hcases := MediumKind.moveAnswer_cases (htaken.imp_right Bool.eq_iff_iff.mpr)
    (s.content (address UserRecord asker)).isSome (backupKey (writeIdentifier asker) now)
    (backupKey (writeIdentifier asker) now')
  rw [h.kind, hheld] at hanswer'
  unfold Store.quarantine call
  dsimp only [Record.kind]
  generalize Backend.quarantine now _ _ s.slots = q at hkind hanswer hcontent
  generalize Backend.quarantine now' _ _ s'.slots = q' at hkind' hanswer' hcontent'
  obtain ⟨answer, slots⟩ := q
  obtain ⟨answer', slots'⟩ := q'
  rcases hcases with ⟨e, he, he'⟩ | ⟨he, he'⟩ | ⟨he, he'⟩
  · obtain rfl : answer = .error e := hanswer.trans he
    obtain rfl : answer' = .error e := hanswer'.trans he'
    exact ⟨rfl, h.of_same ⟨hkind, rfl, fun a _ => congrFun hcontent a⟩
      ⟨hkind', rfl, fun a _ => congrFun hcontent' a⟩⟩
  · obtain rfl : answer = .ok none := hanswer.trans he
    obtain rfl : answer' = .ok none := hanswer'.trans he'
    exact ⟨rfl, h.of_same ⟨hkind, rfl, fun a _ => congrFun hcontent a⟩
      ⟨hkind', rfl, fun a _ => congrFun hcontent' a⟩⟩
  · obtain rfl : answer = .ok (some _) := hanswer.trans he
    obtain rfl : answer' = .ok (some _) := hanswer'.trans he'
    have hslots := h.slots.movedAside (backupKey (writeIdentifier asker) now)
      (backupKey (writeIdentifier asker) now')
    have hempty : Faithful.content slots (address UserRecord asker) = none := by
      rw [hcontent]
      exact Function.update_self ..
    refine ⟨rfl, hkind'.trans (h.kind.trans hkind.symm), h.settings, ?_, .inl fun data hdata => ?_⟩
    · change ResemblingSlots asker hidden (Faithful.content slots) (Faithful.content slots')
      rw [hcontent, hcontent']
      exact hslots
    · cases hempty.symm.trans hdata

theorem newRecord (h : s.Resembles asker hidden paired s') (now now' : Instant) (state : LoadState) :
    (s.newRecord UserRecord now asker state).Alike (s'.newRecord UserRecord now' asker state) := by
  refine ⟨?_, rfl⟩
  unfold Store.newRecord
  rw [h.settings]
  exact .blank s.settings asker now now'

/-- The record of the user is loaded from the same place on both sides. -/
theorem getOrCreate (h : s.Resembles asker hidden paired s') {now now' : Instant}
    (hpaired : paired now now') :
    (s.getOrCreate UserRecord now asker).1.Alike (s'.getOrCreate UserRecord now' asker).1 ∧
      (s.getOrCreate UserRecord now asker).2.Resembles asker hidden paired
        (s'.getOrCreate UserRecord now' asker).2 := by
  have hown := h.slots.own
  have hplaces := h.places
  rw [Store.getOrCreate, Store.getOrCreate, fetch_eq, fetch_eq, h.kind]
  generalize s.content (address UserRecord asker) = x at hown hplaces ⊢
  generalize s'.content (address UserRecord asker) = x' at hown ⊢
  obtain hbroken | hwhole : s.slots.kind.answer x = .error .database ∧
      s.slots.kind.answer x' = .error .database ∨
      s.slots.kind.answer x = .ok x ∧ s.slots.kind.answer x' = .ok x' := by
    cases s.slots.kind with
    | broken => exact .inl ⟨rfl, rfl⟩
    | _ => exact .inr ⟨rfl, rfl⟩
  · rw [hbroken.1, hbroken.2]
    exact ⟨h.newRecord now now' .readFailed, h.kind, h.settings, h.slots, h.places⟩
  · rw [hwhole.1, hwhole.2]
    cases hown with
    | none => exact ⟨h.newRecord now now' .created, h.kind, h.settings, h.slots, h.places⟩
    | @some data data' hholds =>
      dsimp only [Except.bind, Option.elim, decodeSlot]
      rcases hholds.decode_cases now now' with ⟨r, r', hdata, hdata', hr⟩ | ⟨f, f', hdata, hdata'⟩
      · rw [hdata, hdata']
        exact ⟨⟨hr, rfl⟩, h.kind, h.settings, h.slots, h.places⟩
      · -- only octets that hold no record are moved aside, to a place that tells the time
        have htaken := hplaces.resolve_left fun hclear =>
          Record.not_holds_of_error hdata (hclear data rfl)
        obtain ⟨hmoved, hafter⟩ :=
          h.quarantine (htaken.imp_right fun hplaces => hplaces now now' hpaired)
        rw [hdata, hdata']
        dsimp only [Except.mapError, Except.map, settle]
        generalize s.quarantine UserRecord now asker = q at hmoved hafter
        generalize s'.quarantine UserRecord now' asker = q' at hmoved hafter
        obtain ⟨moved, t⟩ := q
        obtain ⟨moved', t'⟩ := q'
        obtain rfl : moved = moved' := hmoved
        have hbumped : ∀ k k', (t.bump k).Resembles asker hidden paired (t'.bump k') := fun _ _ =>
          ⟨hafter.kind, hafter.settings, hafter.slots, hafter.places⟩
        cases moved with
        | true => exact ⟨hafter.newRecord now now' .created, hbumped _ _⟩
        | false => exact ⟨hafter.newRecord now now' .readFailed, hbumped _ _⟩

/-- Names lead to the same slot. -/
theorem firstHolder (h : s.Resembles asker hidden paired s') (now now' : Instant)
    (names : List String) : Option.Rel (Names.Resembling hidden)
      (Names.firstHolder asker now s.users names) (Names.firstHolder asker now' s'.users names) :=
  Names.firstHolder_resembles asker names (Names.holders_resemble now now' h.slots.listed)

end Resembles

end Store

end Companion
