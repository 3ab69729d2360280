import Companion.Proofs.Media
import Companion.Prompt.Context

/-!
Slots that look the same to one user. That user has the same record in both, but for its times. In the
slots of others may lie records with other histories, languages and times, and where they are hidden
also with other facts, as long as they are of the same users with the same names. A name that is looked
up then leads to the same slot, and what is said about its user is the same unless the slot is hidden.
-/

namespace Companion

open Number Text Time Json

/-! ### Records -/

namespace UserRecord

/-- Two records are of one user with one name. Unless they are hidden, they hold the same facts. -/
structure Resembles (hidden : Prop) (r r' : UserRecord) : Prop where
  id : r.id = r'.id
  username : r.username = r'.username
  facts : ¬ hidden → r.facts = r'.facts

/-- Two records differ in nothing but their times. -/
structure Alike (r r' : UserRecord) : Prop where
  id : r.id = r'.id
  username : r.username = r'.username
  language : r.language = r'.language
  facts : r.facts = r'.facts
  lines : r.history.map HistoryEntry.line = r'.history.map HistoryEntry.line

/-- What is said about a user is the same for records that are not hidden. -/
theorem Resembles.otherUser {hidden : Prop} {r r' : UserRecord} (h : r.Resembles hidden r')
    (hopen : ¬ hidden) : OtherUser.ofRecord r = OtherUser.ofRecord r' := by
  rw [OtherUser.ofRecord, OtherUser.ofRecord, h.id, h.username, h.facts hopen]

theorem Alike.resembles {hidden : Prop} {r r' : UserRecord} (h : r.Alike r') : r.Resembles hidden r' :=
  ⟨h.id, h.username, fun _ => h.facts⟩

theorem Resembles.settled {hidden : Prop} {r r' : UserRecord} (h : r.Resembles hidden r') :
    r.settled.Resembles hidden r'.settled := ⟨h.id, h.username, h.facts⟩

theorem Alike.settled {r r' : UserRecord} (h : r.Alike r') : r.settled.Alike r'.settled where
  id := h.id
  username := h.username
  language := h.language
  facts := h.facts
  lines := by
    have hline : HistoryEntry.line ∘ HistoryEntry.settled = HistoryEntry.line := rfl
    rw [UserRecord.settled, UserRecord.settled, List.map_map, List.map_map, hline]
    exact h.lines

theorem Alike.blank (settings : RecordSettings) (id : Int64) (now now' : Instant) :
    (UserRecord.blank settings id now).Alike (UserRecord.blank settings id now') :=
  ⟨rfl, rfl, rfl, rfl, rfl⟩

end UserRecord

def userHeld? (now : Instant) (data : Octets) : Option UserRecord := (Record.decode now data).toOption

/-- Octets that hold no user record, or hold records that are related, whenever they are read. -/
def HoldRelated (related : UserRecord → UserRecord → Prop) (x y : Octets) : Prop :=
  ∀ now now', Option.Rel related (userHeld? now x) (userHeld? now' y)

namespace HoldRelated

variable {related more : UserRecord → UserRecord → Prop} {x y : Octets}

theorem mono (h : HoldRelated related x y) (himp : ∀ r r', related r r' → more r r') :
    HoldRelated more x y := by
  intro now now'
  have hread := h now now'
  generalize userHeld? now x = a at hread ⊢
  generalize userHeld? now' y = b at hread ⊢
  cases hread with
  | none => exact .none
  | some hr => exact .some (himp _ _ hr)

/-- Octets are read on both sides or on none. -/
theorem decode_cases (h : HoldRelated related x y) (now now' : Instant) :
    (∃ r r', Record.decode now x = .ok r ∧ Record.decode now' y = .ok r' ∧ related r r') ∨
      ∃ f f', (Record.decode now x : Except Fault UserRecord) = .error f ∧
        (Record.decode now' y : Except Fault UserRecord) = .error f' := by
  have hread := h now now'
  unfold userHeld? at hread
  cases hx : (Record.decode now x : Except Fault UserRecord) with
  | ok r =>
    cases hy : (Record.decode now' y : Except Fault UserRecord) with
    | ok r' =>
      rw [hx, hy] at hread
      cases hread with
      | some hr => exact .inl ⟨r, r', rfl, rfl, hr⟩
    | error f' =>
      rw [hx, hy] at hread
      cases hread
  | error f =>
    cases hy : (Record.decode now' y : Except Fault UserRecord) with
    | ok r' =>
      rw [hx, hy] at hread
      cases hread
    | error f' => exact .inr ⟨f, f', rfl, rfl⟩

/-- Octets hold the same record at any time, but for a time that is missing in them. -/
theorem refl (x : Octets) : HoldRelated UserRecord.Alike x x := by
  intro now now'
  unfold userHeld?
  cases hread : (Record.decode now x : Except Fault UserRecord) with
  | ok r =>
    obtain ⟨d, hd, hbuild⟩ := (UserRecord.decode_ok_iff x now r).mp hread
    obtain ⟨id, hid, rfl⟩ := Option.map_eq_some_iff.mp hbuild
    have hlater := (UserRecord.decode_ok_iff x now' _).mpr ⟨d, hd, by rw [hid, Option.map_some]⟩
    rw [hlater]
    exact .some ⟨rfl, rfl, rfl, rfl, rfl⟩
  | error f =>
    cases hlater : (Record.decode now' x : Except Fault UserRecord) with
    | ok r =>
      obtain ⟨r', hr', -⟩ := UserRecord.decode_later now hlater
      rw [hread] at hr'
      cases hr'
    | error f' => exact .none

theorem encode {r r' : UserRecord} (h : related r.settled r'.settled) :
    HoldRelated related (Record.encode r) (Record.encode r') := by
  intro now now'
  rw [userHeld?, userHeld?, Record.decode_encode, Record.decode_encode]
  exact .some h

end HoldRelated

/-! ### Slots -/

/-- Slots that look the same to one user: the same record but for its times in the slot of that user,
and records that resemble each other in the slots of others. -/
structure ResemblingSlots (asker : Int64) (hidden : String → Prop) (c c' : SlotContents) : Prop where
  own : Option.Rel (HoldRelated UserRecord.Alike) (c (Store.address UserRecord asker))
    (c' (Store.address UserRecord asker))
  users : ∀ key, Option.Rel (HoldRelated (UserRecord.Resembles (hidden key)))
    (c ⟨RecordKind.user.space, key⟩) (c' ⟨RecordKind.user.space, key⟩)

def KeepsUsers (c c' : SlotContents) : Prop :=
  ∀ a : Address, a.space = RecordKind.user.space ∨ a.space = RecordKind.user.backupSpace → c' a = c a

namespace ResemblingSlots

variable {asker : Int64} {hidden : String → Prop} {c c' d d' : SlotContents}

/-- Slots look the same as themselves, to anyone. -/
theorem refl (asker : Int64) (hidden : String → Prop) (c : SlotContents) :
    ResemblingSlots asker hidden c c where
  own := by
    cases c (Store.address UserRecord asker) with
    | none => exact .none
    | some data => exact .some (.refl data)
  users := by
    intro key
    cases c ⟨RecordKind.user.space, key⟩ with
    | none => exact .none
    | some data => exact .some ((HoldRelated.refl data).mono fun _ _ => UserRecord.Alike.resembles)

theorem of_kept (h : ResemblingSlots asker hidden c c') (hleft : KeepsUsers c d)
    (hright : KeepsUsers c' d') : ResemblingSlots asker hidden d d' where
  own := by
    rw [hleft _ (.inl rfl), hright _ (.inl rfl)]
    exact h.own
  users := by
    intro key
    rw [hleft _ (.inl rfl), hright _ (.inl rfl)]
    exact h.users key

/-- What lies in a slot is replaced by records that resemble each other, or by nothing. In the slot of
the one user the records differ in nothing but their times. -/
theorem update_user (h : ResemblingSlots asker hidden c c') (key : String) {x x' : Option Octets}
    (hx : Option.Rel (HoldRelated (UserRecord.Resembles (hidden key))) x x')
    (hown : Store.address UserRecord asker = ⟨RecordKind.user.space, key⟩ →
      Option.Rel (HoldRelated UserRecord.Alike) x x') :
    ResemblingSlots asker hidden (Function.update c ⟨RecordKind.user.space, key⟩ x)
      (Function.update c' ⟨RecordKind.user.space, key⟩ x') where
  own := by
    by_cases hkey : Store.address UserRecord asker = ⟨RecordKind.user.space, key⟩
    · rw [hkey, Function.update_self, Function.update_self]
      exact hown hkey
    · rw [Function.update_of_ne hkey, Function.update_of_ne hkey]
      exact h.own
  users := by
    intro k
    by_cases hkey : (⟨RecordKind.user.space, k⟩ : Address) = ⟨RecordKind.user.space, key⟩
    · obtain rfl := congrArg Address.key hkey
      rw [Function.update_self, Function.update_self]
      exact hx
    · rw [Function.update_of_ne hkey, Function.update_of_ne hkey]
      exact h.users k

theorem isSome_own (h : ResemblingSlots asker hidden c c') :
    (c (Store.address UserRecord asker)).isSome = (c' (Store.address UserRecord asker)).isSome := by
  have hown := h.own
  generalize c (Store.address UserRecord asker) = x at hown ⊢
  generalize c' (Store.address UserRecord asker) = x' at hown ⊢
  cases hown <;> rfl

theorem update_backup (h : ResemblingSlots asker hidden c c') (key key' : String)
    (x x' : Option Octets) : ResemblingSlots asker hidden
      (Function.update c ⟨RecordKind.user.backupSpace, key⟩ x)
      (Function.update c' ⟨RecordKind.user.backupSpace, key'⟩ x') := by
  have hlive : ∀ j k, (⟨RecordKind.user.space, j⟩ : Address) ≠ ⟨RecordKind.user.backupSpace, k⟩ :=
    fun _ _ heq => space_ne_backupSpace .user .user (congrArg Address.space heq)
  have hown : ∀ k, Store.address UserRecord asker ≠ ⟨RecordKind.user.backupSpace, k⟩ := hlive _
  refine ⟨?_, fun k => ?_⟩
  · rw [Function.update_of_ne (hown key), Function.update_of_ne (hown key')]
    exact h.own
  · rw [Function.update_of_ne (hlive k key), Function.update_of_ne (hlive k key')]
    exact h.users k

/-- The slot of the one user is moved aside on both sides, to whatever places. -/
theorem movedAside (h : ResemblingSlots asker hidden c c') (key key' : String) :
    let slot := Store.address UserRecord asker
    ResemblingSlots asker hidden
      (c.movedAside slot RecordKind.user.backupSpace (.ok (some key)))
      (c'.movedAside slot RecordKind.user.backupSpace (.ok (some key'))) :=
  (h.update_backup key key' _ _).update_user (writeIdentifier asker) .none fun _ => .none

/-- A record that is saved is saved on both sides. -/
theorem saved (h : ResemblingSlots asker hidden c c') {r r' : UserRecord} (hr : r.Alike r') :
    ResemblingSlots asker hidden
      (Function.update c (Store.address UserRecord r.id) (some (Record.encode r)))
      (Function.update c' (Store.address UserRecord r'.id) (some (Record.encode r'))) := by
  rw [← hr.id]
  exact h.update_user (writeIdentifier r.id) (.some (.encode hr.settled.resembles)) fun _ =>
    .some (.encode hr.settled)

/-- Slots of media that look the same are listed in the same order. -/
theorem listed {m m' : Medium}
    (h : ResemblingSlots asker hidden (Faithful.content m) (Faithful.content m')) :
    List.Forall₂ (fun e e' => e.1 = e'.1 ∧ HoldRelated (UserRecord.Resembles (hidden e.1)) e.2 e'.2)
      (m.table.slotsOf RecordKind.user.space) (m'.table.slotsOf RecordKind.user.space) := by
  refine forall₂_of_valueOf? (R := fun key => HoldRelated (UserRecord.Resembles (hidden key)))
    (Memory.sorted_slotsOf _ _) (Memory.sorted_slotsOf _ _) fun key => ?_
  rw [Memory.valueOf?_slotsOf, Memory.valueOf?_slotsOf]
  have hkey := h.users key
  rw [Medium.content_table, Medium.content_table] at hkey
  exact hkey

end ResemblingSlots

/-! ### Names -/

theorem toOption_decodeSlot (now : Instant) (key : String) (data : Octets) :
    (Store.decodeSlot UserRecord now key data).toOption = userHeld? now data := by
  unfold Store.decodeSlot userHeld?
  cases (Record.decode now data : Except Fault UserRecord) <;> rfl

theorem find?_related {α β : Type} {P : α → β → Prop} {p : α → Bool} {q : β → Bool}
    (hpq : ∀ x y, P x y → p x = q y) {xs : List α} {ys : List β} (h : List.Forall₂ P xs ys) :
    Option.Rel P (xs.find? p) (ys.find? q) := by
  induction h with
  | nil => exact .none
  | @cons x y xs ys hfirst _ ih =>
    rw [List.find?_cons, List.find?_cons, hpq x y hfirst]
    split
    · exact .some hfirst
    · exact ih

namespace Names

def holders (now : Instant) (slots : List (String × Octets)) : List (String × UserRecord) :=
  slots.filterMap fun e => (userHeld? now e.2).map fun r => (e.1, r)

/-- The first slot whose record goes by a name and belongs to another user than the one who asks. -/
def holder (asker : Int64) (now : Instant) (slots : List (String × Octets)) (name : String) :
    Option (String × UserRecord) :=
  if normalize name = "" then none
  else (holders now slots).find? fun e => e.2.id != asker && answersTo (normalize name) e.2

def firstHolder (asker : Int64) (now : Instant) (slots : List (String × Octets)) (names : List String) :
    Option (String × UserRecord) :=
  names.findSome? (holder asker now slots)

theorem readable_eq (now : Instant) (slots : List (String × Octets)) :
    Store.readable UserRecord now slots = (holders now slots).map Prod.snd := by
  rw [Store.readable, holders, List.map_filterMap]
  refine List.filterMap_congr fun e _ => ?_
  dsimp only
  rw [toOption_decodeSlot]
  cases userHeld? now e.2 <;> rfl

def Resembling (hidden : String → Prop) (e e' : String × UserRecord) : Prop :=
  e.1 = e'.1 ∧ e.2.Resembles (hidden e.1) e'.2

variable {hidden : String → Prop} {slots slots' : List (String × Octets)} {now now' : Instant}

theorem holders_resemble (now now' : Instant) (h : List.Forall₂ (fun e e' =>
    e.1 = e'.1 ∧ HoldRelated (UserRecord.Resembles (hidden e.1)) e.2 e'.2) slots slots') :
    List.Forall₂ (Resembling hidden) (holders now slots) (holders now' slots') := by
  refine List.rel_filterMap (fun e e' he => ?_) h
  obtain ⟨hkey, hholds⟩ := he
  have hread := hholds now now'
  generalize userHeld? now e.2 = x at hread ⊢
  generalize userHeld? now' e'.2 = y at hread ⊢
  cases hread with
  | none => exact .none
  | some hr => exact .some ⟨hkey, hr⟩

theorem holder_resembles (asker : Int64) (name : String)
    (h : List.Forall₂ (Resembling hidden) (holders now slots) (holders now' slots')) :
    Option.Rel (Resembling hidden) (holder asker now slots name) (holder asker now' slots' name) := by
  by_cases hname : normalize name = ""
  · rw [holder, holder, if_pos hname, if_pos hname]
    exact .none
  · rw [holder, holder, if_neg hname, if_neg hname]
    refine find?_related (fun e e' he => ?_) h
    rw [he.2.id, answersTo, answersTo, he.2.username]

/-- Names lead to the same slot. -/
theorem firstHolder_resembles (asker : Int64) (names : List String)
    (h : List.Forall₂ (Resembling hidden) (holders now slots) (holders now' slots')) :
    Option.Rel (Resembling hidden) (firstHolder asker now slots names)
      (firstHolder asker now' slots' names) := by
  unfold firstHolder
  induction names with
  | nil => exact .none
  | cons name rest ih =>
    have hname := holder_resembles asker name h
    rw [List.findSome?_cons, List.findSome?_cons]
    generalize holder asker now slots name = x at hname ⊢
    generalize holder asker now' slots' name = y at hname ⊢
    cases hname with
    | none => exact ih
    | some he => exact .some he

end Names

end Companion
