import Companion.Proofs.Blanks
import Companion.Proofs.SavedOver

/-!
Names lead to users by what was saved. Looking up a name goes through the records that a listing gives,
and these are the records that were saved last, by rising key. So a name leads to the first user by key
whose last saved name is compared in the same form, and to nobody if there is none, whatever octets lie
beside the records and whatever failed on the way.
-/

namespace Companion

open Number Text Time Json

/-! ### Forms of names -/

namespace Text

theorem AllBlank.append {gap gap' : List Char} (h : AllBlank gap) (h' : AllBlank gap') :
    AllBlank (gap ++ gap') := fun c hc => (List.mem_append.mp hc).elim (h c) (h' c)

/-- Blanks around a text make no difference to what trimming leaves of it. -/
theorem trim_padded {gap gap' : List Char} (hgap : AllBlank gap) (hgap' : AllBlank gap')
    (cs : List Char) : trim (gap ++ (cs ++ gap')) = trim cs := by
  obtain ⟨front, back, hfront, hback, hsplit⟩ := trim_eq cs
  calc trim (gap ++ (cs ++ gap')) = trim ((gap ++ front) ++ (trim cs ++ (back ++ gap'))) := by
        conv_lhs => rw [hsplit]
        simp only [List.append_assoc]
    _ = trim cs := trim_between (hgap.append hfront) (hback.append hgap') (trimStart_trim cs)
        (trimEnd_trim cs)

end Text

namespace Names

theorem normalize_padded {gap gap' : List Char} (hgap : AllBlank gap) (hgap' : AllBlank gap')
    (name : String) : normalize (String.ofList (gap ++ (name.toList ++ gap'))) = normalize name := by
  unfold normalize
  rw [String.toList_ofList, trim_padded hgap hgap']

theorem normalize_marked {name : String} (h : (trim name.toList).head? ≠ some marker) :
    normalize (String.ofList (marker :: name.toList)) = normalize name := by
  have hmarker : isBlank marker = false := by decide
  have hfront : trim (marker :: name.toList) = marker :: trimEnd name.toList := by
    rw [trim, trimStart_cons hmarker]
    exact trimEnd_append_of_ends (trimEnd_concat hmarker [])
  have hback : trim (trimEnd name.toList) = trim name.toList := by
    obtain ⟨gap, hgap, hsplit⟩ := trimEnd_eq name.toList
    have hnone : AllBlank [] := List.forall_mem_nil _
    conv_rhs => rw [hsplit]
    exact (trim_padded hnone hgap (trimEnd name.toList)).symm
  have hplain : unmarked (trim name.toList) = trim name.toList := by
    cases hcs : trim name.toList with
    | nil => rfl
    | cons c cs =>
      rw [hcs] at h
      exact if_neg fun heq => h (congrArg some heq)
  unfold normalize
  rw [String.toList_ofList, hfront, unmarked, if_pos rfl, hback, hplain, trim_trim]

/-- One name is the other between blanks, or the other with the marker in front of it, if it does not
begin with one itself once the blanks around it are gone. -/
inductive Rephrases : String → String → Prop
  | padded {before after : List Char} (name : String) (hbefore : AllBlank before)
      (hafter : AllBlank after) : Rephrases (String.ofList (before ++ (name.toList ++ after))) name
  | marked (name : String) (hname : (trim name.toList).head? ≠ some marker) :
      Rephrases (String.ofList (marker :: name.toList)) name

theorem Rephrases.normalize_eq {name other : String} (h : Rephrases other name) :
    normalize other = normalize name := by
  cases h with
  | padded name hbefore hafter => exact normalize_padded hbefore hafter name
  | marked name hname => exact normalize_marked hname

/-- A look-up goes by the form of the name. -/
theorem Rephrases.findWhere_eq {σ : Type} [Backend σ] {name other : String} (h : Rephrases other name)
    (passes : UserRecord → Bool) (now : Instant) (s : Store σ) :
    findWhere passes now other s = findWhere passes now name s := by
  unfold findWhere
  rw [h.normalize_eq]

end Names

/-! ### What is listed -/

section Listed

variable {R : Type} [Record R] {c : SlotContents} {saved : List R} {slots : List (String × Octets)}

theorem decodeSlot_toOption_eq_some {now : Instant} {key : String} {data : Octets} {r : R} :
    (Store.decodeSlot R now key data).toOption = some r ↔ Record.decode now data = .ok r := by
  unfold Store.decodeSlot
  cases (Record.decode now data : Except Fault R) <;> simp [Except.mapError, Except.toOption]

variable [Record.Stable R] [Record.Steady R]

/-- A record that is read from a slot is what is read of the one that was saved last, and the slot is that
of its identifier. -/
theorem Retained.key_of_decode (h : Retained R c saved) {now : Instant} {key : String} {data : Octets}
    {r : R} (hslot : c ⟨(Record.kind R).space, key⟩ = some data)
    (hread : Record.decode now data = .ok r) :
    (lastSaved (Record.id r) saved).map Record.Stable.settled = some r ∧
      writeIdentifier (Record.id r) = key := by
  obtain ⟨last, hlast, hkey, rfl⟩ := h.saved key data hslot (Record.holds_of_decode hread)
  obtain rfl := Except.ok.inj ((Record.decode_encode now last).symm.trans hread)
  rw [Record.Stable.id_settled, hlast]
  exact ⟨rfl, hkey⟩

/-- The records that are listed are what is read of those that were saved last. -/
theorem Retained.mem_readable_iff (h : Retained R c saved)
    (hslots : ∀ key data, (key, data) ∈ slots ↔ c ⟨(Record.kind R).space, key⟩ = some data)
    (now : Instant) (r : R) :
    r ∈ Store.readable R now slots ↔
      (lastSaved (Record.id r) saved).map Record.Stable.settled = some r := by
  rw [Store.readable, List.mem_filterMap]
  constructor
  · rintro ⟨⟨key, data⟩, he, hread⟩
    exact (h.key_of_decode ((hslots key data).mp he) (decodeSlot_toOption_eq_some.mp hread)).1
  · intro hlast
    obtain ⟨last, hlast, rfl⟩ := Option.map_eq_some_iff.mp hlast
    have hfiled := h.filed _ last hlast
    exact ⟨_, (hslots _ _).mpr hfiled, decodeSlot_toOption_eq_some.mpr (Record.decode_encode now last)⟩

/-- Records are listed in the order of their keys. -/
theorem Retained.sorted_readable (h : Retained R c saved)
    (hslots : ∀ key data, (key, data) ∈ slots ↔ c ⟨(Record.kind R).space, key⟩ = some data)
    (hsorted : IsSorted slots) (now : Instant) :
    (Store.readable R now slots).Pairwise fun r r' =>
      writeIdentifier (Record.id r) < writeIdentifier (Record.id r') := by
  have hkey : ∀ e ∈ slots, ∀ r : R, (Store.decodeSlot R now e.1 e.2).toOption = some r →
      writeIdentifier (Record.id r) = e.1 := by
    rintro ⟨key, data⟩ he r hr
    exact (h.key_of_decode ((hslots key data).mp he) (decodeSlot_toOption_eq_some.mp hr)).2
  refine List.pairwise_filterMap.mpr (hsorted.imp_of_mem fun {e e'} he he' hlt r hr r' hr' => ?_)
  rw [hkey e he r hr, hkey e' he' r' hr']
  exact hlt

end Listed

/-- The first of several in order that passes a test is the one that comes before all others that do. -/
theorem find?_eq_some_of_pairwise {α : Type} {before : α → α → Prop} {xs : List α} {p : α → Bool} {x : α}
    (h : xs.Pairwise before) (hfind : xs.find? p = some x) :
    x ∈ xs ∧ p x = true ∧ ∀ y ∈ xs, p y = true → y = x ∨ before x y := by
  obtain ⟨hx, front, back, rfl, hfront⟩ := List.find?_eq_some_iff_append.mp hfind
  refine ⟨List.mem_append_right _ List.mem_cons_self, hx, fun y hy hpass => ?_⟩
  rcases List.mem_append.mp hy with hy | hy
  · have hfails := hfront y hy
    rw [hpass] at hfails
    exact absurd hfails (by decide)
  · rcases List.mem_cons.mp hy with rfl | hy
    · exact .inl rfl
    · exact .inr (List.rel_of_pairwise_cons (List.pairwise_append.mp h).2.1 hy)

/-! ### Where names lead -/

namespace Names

/-- A user goes by a name: the record that was saved last under the identifier has a name that is
compared in the same form. -/
def GoesBy (saved : List UserRecord) (name : String) (id : Int64) : Prop :=
  ∃ r known, lastSaved id saved = some r ∧ r.username = some known ∧ normalize known = normalize name

/-- A name leads to the first user by key among some who goes by it, and to nobody exactly if none of
them does. The answer is the record that was saved last, as it is read, and that is the very record if
its times are settled. -/
structure LeadsTo (saved : List UserRecord) (among : Int64 → Prop) (name : String)
    (answer : Option UserRecord) : Prop where
  found : ∀ r, answer = some r → (lastSaved r.id saved).map UserRecord.settled = some r ∧
    among r.id ∧ GoesBy saved name r.id ∧
    ∀ id, among id → GoesBy saved name id → id = r.id ∨ writeIdentifier r.id < writeIdentifier id
  kept : ∀ r last, answer = some r → lastSaved r.id saved = some last → last.IsSettled → r = last
  nobody : answer = none ↔ ∀ id, among id → ¬ GoesBy saved name id

theorem answersTo_iff {wanted : String} {r : UserRecord} :
    answersTo wanted r = true ↔ ∃ known, r.username = some known ∧ normalize known = wanted := by
  unfold answersTo
  cases r.username <;> simp

theorem goesBy_iff {saved : List UserRecord} {name : String} {r : UserRecord}
    (hlast : (lastSaved r.id saved).map UserRecord.settled = some r) :
    GoesBy saved name r.id ↔ answersTo (normalize name) r = true := by
  obtain ⟨last, hlast, rfl⟩ := Option.map_eq_some_iff.mp hlast
  rw [answersTo_iff]
  constructor
  · rintro ⟨r', known, hlast', hname⟩
    obtain rfl := Option.some.inj (hlast.symm.trans hlast')
    exact ⟨known, hname⟩
  · rintro ⟨known, hname⟩
    exact ⟨last, known, hlast, hname⟩

section One

variable {r : UserRecord} {among : Int64 → Prop} {name : String} {answer : Option UserRecord}

theorem goesBy_single {id : Int64} :
    GoesBy [r] name id ↔ id = r.id ∧ answersTo (normalize name) r = true := by
  have hlast : ∀ id, lastSaved id [r] = if r.id = id then some r else none := fun id =>
    lastSaved_append id [] r
  constructor
  · rintro ⟨r', known, hsaved, hname⟩
    rw [hlast] at hsaved
    split_ifs at hsaved with hid
    obtain rfl := Option.some.inj hsaved
    exact ⟨hid.symm, answersTo_iff.mpr ⟨known, hname⟩⟩
  · rintro ⟨rfl, hname⟩
    obtain ⟨known, hknown, hname⟩ := answersTo_iff.mp hname
    exact ⟨r, known, (hlast r.id).trans (if_pos rfl), hknown, hname⟩

/-- Where one record was saved, a name leads to its user if the user goes by it. -/
theorem LeadsTo.single (h : LeadsTo [r] among name answer) (hid : among r.id)
    (hname : answersTo (normalize name) r = true) : answer = some r.settled := by
  cases answer with
  | none => exact absurd (goesBy_single.mpr ⟨rfl, hname⟩) (h.nobody.mp rfl r.id hid)
  | some r' =>
    obtain ⟨last, hlast, rfl⟩ := Option.map_eq_some_iff.mp (h.found r' rfl).1
    have hmem := List.mem_of_getLast? hlast
    rw [List.mem_singleton.mp (List.mem_of_mem_filter hmem)]

theorem LeadsTo.single_none (h : LeadsTo [r] among name answer)
    (hnot : among r.id → answersTo (normalize name) r = false) : answer = none := by
  refine h.nobody.mpr fun id hid hgoes => ?_
  obtain ⟨rfl, hname⟩ := goesBy_single.mp hgoes
  exact absurd hname (Bool.eq_false_iff.mp (hnot hid))

end One

variable {σ : Type} [Backend σ] [Faithful σ] [Lists σ] [ListsByKey σ]

/-- Looking up a name in slots that hold what was saved follows what was saved. -/
theorem findWhere_leads {s : Store σ} {saved : List UserRecord}
    (h : Retained UserRecord s.content saved) {name : String} (hname : normalize name ≠ "")
    {slots : List (String × Octets)} (hlist : (Backend.list RecordKind.user.space s.slots).1 = .ok slots)
    {passes : UserRecord → Bool} {among : Int64 → Prop} (hpasses : ∀ r, passes r = true ↔ among r.id)
    (now : Instant) : LeadsTo saved among name (findWhere passes now name s).1 := by
  have hlisted : (s.listAll UserRecord now).1 = Store.readable UserRecord now slots := by
    unfold Store.listAll Store.call
    dsimp only
    rw [show Backend.list (Record.kind UserRecord).space s.slots =
      Backend.list RecordKind.user.space s.slots from rfl, hlist]
  have hanswer : (findWhere passes now name s).1 = (Store.readable UserRecord now slots).find?
      fun r => passes r && answersTo (normalize name) r := by
    unfold findWhere
    rw [if_neg hname, ← hlisted]
  have hslots := Lists.mem_list hlist
  have hlast := h.mem_readable_iff hslots now
  have hsorted := h.sorted_readable hslots (ListsByKey.sorted_list hlist) now
  have htest : ∀ r ∈ Store.readable UserRecord now slots,
      ((passes r && answersTo (normalize name) r) = true ↔ among r.id ∧ GoesBy saved name r.id) :=
    fun r hr => by rw [Bool.and_eq_true, hpasses, goesBy_iff ((hlast r).mp hr)]
  have hholder : ∀ id, GoesBy saved name id →
      ∃ r ∈ Store.readable UserRecord now slots, r.id = id := by
    rintro id ⟨r, _, hsaved, _⟩
    obtain rfl := id_of_lastSaved hsaved
    exact ⟨r.settled, (hlast r.settled).mpr (congrArg (Option.map UserRecord.settled) hsaved), rfl⟩
  rw [hanswer]
  refine ⟨fun r hfind => ?_, fun r last hfind hsaved hsettled => ?_, ?_⟩
  · obtain ⟨hr, hpass, hfirst⟩ := find?_eq_some_of_pairwise hsorted hfind
    obtain ⟨hamong, hgoes⟩ := (htest r hr).mp hpass
    refine ⟨(hlast r).mp hr, hamong, hgoes, fun id hid hother => ?_⟩
    obtain ⟨r', hr', rfl⟩ := hholder id hother
    exact (hfirst r' hr' ((htest r' hr').mpr ⟨hid, hother⟩)).imp_left (congrArg UserRecord.id)
  · have hread : (lastSaved r.id saved).map UserRecord.settled = some r :=
      (hlast r).mp (List.mem_of_find?_eq_some hfind)
    rw [hsaved, Option.map_some, last.settled_eq_self_iff.mpr hsettled] at hread
    exact (Option.some.inj hread).symm
  · rw [List.find?_eq_none]
    constructor
    · intro hnone id hid hgoes
      obtain ⟨r, hr, rfl⟩ := hholder id hgoes
      exact hnone r hr ((htest r hr).mpr ⟨hid, hgoes⟩)
    · intro hnobody r hr hpass
      obtain ⟨hid, hgoes⟩ := (htest r hr).mp hpass
      exact hnobody r.id hid hgoes

end Names

namespace World

/-- From slots that hold no user records on, whatever turns and calls to the store do, in any order and
with any failures of the backend, names lead to users by what was saved last, if the records can be
listed at all; among users other than the one who asks they never lead to that one. Names lead to the
same users between blanks, or with the marker in front if they do not begin with it themselves once the
blanks around them are gone. -/
theorem names_lead_to_saved {σ : Type} [Backend σ] [Faithful σ] [Lists σ] [ListsByKey σ]
    (agent : Agent σ) (calls : List Call)
    (hunread : ∀ key data, agent.content ⟨RecordKind.user.space, key⟩ = some data →
      ¬ RecordKind.user.Holds data) (run : List (Instant × Happening)) (now : Instant) :
    let saved := ((start agent calls).lived run).1.users
    let store := ((start agent calls).lived run).2.agent.store
    (∀ name slots, Names.normalize name ≠ "" →
      (Backend.list RecordKind.user.space store.slots).1 = .ok slots →
      Names.LeadsTo saved (fun _ => True) name (Names.find now name store).1 ∧
        ∀ asker, Names.LeadsTo saved (· ≠ asker) name (Names.findOther asker now name store).1 ∧
          ∀ r, (Names.findOther asker now name store).1 = some r → r.id ≠ asker) ∧
    ∀ name other, Names.Rephrases other name →
      Names.find now other store = Names.find now name store ∧
        ∀ asker, Names.findOther asker now other store = Names.findOther asker now name store := by
  intro saved store
  have hretained : Retained UserRecord store.content saved :=
    retained_lived (w := start agent calls) (retained_nil hunread) run
  constructor
  · intro name slots hname hlist
    refine ⟨Names.findWhere_leads hretained hname hlist (fun _ => by simp) now, fun asker => ?_⟩
    have hother : Names.LeadsTo saved (· ≠ asker) name (Names.findOther asker now name store).1 :=
      Names.findWhere_leads hretained hname hlist (fun r => bne_iff_ne) now
    exact ⟨hother, fun r hr => (hother.found r hr).2.1⟩
  · intro name other h
    exact ⟨h.findWhere_eq _ now store, fun asker => h.findWhere_eq _ now store⟩

def ada : UserRecord := { sampleUser with username := some "Ada" }

/-- An agent with two slots that hold no records, whose second write fails. -/
def clutteredAgent : Agent (Unreliable Memory) where
  store := { slots := {
    slots := (Table.empty.insert ⟨RecordKind.user.space, "7"⟩ []).insert
      ⟨RecordKind.user.space, "ada"⟩ []
    stepwise := true
    fails := fun n kind => n == 1 && kind == .write } }

/-- A record is saved over one of these slots, and then again with another name, which fails. -/
def renameTwice : List (Instant × Happening) :=
  [(ada.lastInteraction, .users (.save ada)),
    (ada.lastInteraction, .users (.save { ada with username := some "Bea" }))]

theorem clutteredAgent_unread (key : String) (data : Octets)
    (hdata : clutteredAgent.content ⟨RecordKind.user.space, key⟩ = some data) :
    ¬ RecordKind.user.Holds data := by
  let before : SlotContents := fun _ => none
  have hcontent : clutteredAgent.content = Function.update (Function.update before
      ⟨RecordKind.user.space, "7"⟩ (some [])) ⟨RecordKind.user.space, "ada"⟩ (some []) := by
    refine (Memory.content_insert _ _ _).trans ?_
    rw [Memory.content_insert]
    rfl
  have hnone : data = [] := by
    rw [hcontent, Function.update_apply, Function.update_apply] at hdata
    split_ifs at hdata <;> exact (Option.some.inj hdata).symm
  have hread : ∃ f, (Record.decode ada.lastInteraction [] : Except Fault UserRecord) = .error f :=
    ⟨_, rfl⟩
  obtain ⟨f, hread⟩ := hread
  rw [hnone]
  exact Record.not_holds_of_error hread

def renamed : Store (Unreliable Memory) := ((start clutteredAgent []).lived renameTwice).2.agent.store

theorem list_renamed : (Backend.list RecordKind.user.space renamed.slots).1 =
    .ok (renamed.slots.slots.slotsOf RecordKind.user.space) := rfl

/-- The name that was saved leads to the record, since saving the other one failed. -/
theorem names_lead_to_saved_failing :
    (Names.find ada.lastInteraction " @ADA" renamed).1 = some ada ∧
      (Names.findOther 7 ada.lastInteraction " @ADA" renamed).1 = none ∧
      Names.find ada.lastInteraction "@ ADA" renamed =
        Names.find ada.lastInteraction " ADA" renamed := by
  obtain ⟨hleads, hforms⟩ := names_lead_to_saved clutteredAgent [] clutteredAgent_unread renameTwice
    ada.lastInteraction
  have hname : Names.normalize " @ADA" ≠ "" := by decide +kernel
  obtain ⟨hfind, hother⟩ := hleads " @ADA" _ hname list_renamed
  have hsaved : ((start clutteredAgent []).lived renameTwice).1.users = [ada] := rfl
  have hasker := (hother 7).1
  have hmarked : Names.Rephrases "@ ADA" " ADA" := .marked " ADA" (by decide)
  rw [hsaved] at hfind hasker
  exact ⟨hfind.single trivial (by decide +kernel), hasker.single_none (absurd rfl),
    (hforms " ADA" "@ ADA" hmarked).1⟩

/-- The marker does make a difference in front of a blank and another marker. -/
theorem marker_before_blank :
    (∀ key data, clutteredAgent.content ⟨RecordKind.user.space, key⟩ = some data →
      ¬ RecordKind.user.Holds data) ∧
      (Backend.list RecordKind.user.space renamed.slots).1.isOk = true ∧
      " @ada".toList.head? ≠ some marker ∧ Names.normalize " @ada" ≠ "" ∧
      (Names.find ada.lastInteraction " @ada" renamed).1 = some ada ∧
      (Names.find ada.lastInteraction "@ @ada" renamed).1 = none := by
  have hretained : Retained UserRecord renamed.content [ada] :=
    retained_lived (w := start clutteredAgent []) (retained_nil clutteredAgent_unread) renameTwice
  have hleads : ∀ name, Names.normalize name ≠ "" → Names.LeadsTo [ada] (fun _ => True) name
      (Names.find ada.lastInteraction name renamed).1 := fun name hname =>
    Names.findWhere_leads hretained hname list_renamed (fun _ => by simp) ada.lastInteraction
  have hname : Names.normalize " @ada" ≠ "" := by decide +kernel
  have hmarked : Names.normalize "@ @ada" ≠ "" := by decide +kernel
  refine ⟨clutteredAgent_unread, rfl, by decide, hname, ?_, ?_⟩
  · exact (hleads _ hname).single trivial (by decide +kernel)
  · exact (hleads _ hmarked).single_none fun _ => by decide +kernel

end World

end Companion
