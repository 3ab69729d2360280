import Companion.Proofs.SavedRuns
import Companion.Proofs.Strays

/-!
Runs over slots that hold no records. Octets that hold none may lie in slots from the start, under keys
of identifiers or others; loading moves them aside or leaves them where they are, and saving writes over
them. So what is saved in a run lies in its slot from then on, and no slot holds a record that was not
saved.
-/

namespace Companion

open Number Text Time Json

/-! ### Octets that hold no record -/

/-- No live slot changed, except that octets that hold no record may be gone. -/
def Tidied (before after : SlotContents) : Prop :=
  ∀ (kind : RecordKind) (key : String), after ⟨kind.space, key⟩ = before ⟨kind.space, key⟩ ∨
    after ⟨kind.space, key⟩ = none ∧
      ∀ data, before ⟨kind.space, key⟩ = some data → ¬ kind.Holds data

theorem Tidied.of_eq {before after : SlotContents} (h : after = before) : Tidied before after :=
  fun _ _ => .inl (h ▸ rfl)

/-- Visiting the slot of a record moves nothing but octets that hold none. -/
theorem LockKey.Visited.tidied {visited : LockKey} {before after : SlotContents}
    (hvisit : visited.Visited before after)
    (hframe : ∀ slot : Address, slot ≠ visited.slot →
      (∀ kind : RecordKind, slot.space ≠ kind.backupSpace) → after slot = before slot) :
    Tidied before after := by
  intro kind key
  by_cases hslot : (⟨kind.space, key⟩ : Address) = visited.slot
  · have hspace : kind.space = visited.kind.space := congrArg Address.space hslot
    have hkind : kind = visited.kind := by
      cases kind <;> cases hvisited : visited.kind <;> rw [hvisited] at hspace <;>
        first | rfl | exact absurd hspace (by decide)
    rw [hslot, hkind]
    refine hvisit.own.imp_right ?_
    rintro ⟨data, backup, hdata, hholds, hnone, -⟩
    exact ⟨hnone, fun other hother => Option.some.inj (hdata.symm.trans hother) ▸ hholds⟩
  · exact .inl (hframe _ hslot fun other => space_ne_backupSpace kind other)

theorem Store.tidied_getOrCreate {σ : Type} [Backend σ] [Faithful σ] (R : Type) [Record R]
    [Record.Steady R] (now : Instant) (id : Int64) (s : Store σ) :
    Tidied s.content (s.getOrCreate R now id).2.content := by
  have hloads := (Store.getOrCreate_loads R now id s).1
  exact hloads.visited.tidied fun slot hslot hlive => hloads.frame hslot (hlive _)

theorem tidied_start {σ : Type} [Backend σ] [Faithful σ] (now : Instant) (ticket : Nat) (job : Job)
    (a : Agent σ) : Tidied a.content (Errand.start now ticket job a).2.content :=
  have hstarted : Errand.Started now ticket job True a (Errand.start now ticket job a).1
      (Errand.start now ticket job a).2 := started_start job (.inl trivial)
  hstarted.visited.tidied fun _ hslot hlive => start_frame ticket job hslot hlive

/-! ### Saved records among such octets -/

section Retained

variable (R : Type) [Record R]

/-- Every record that was saved last under its identifier lies in its slot, and the slots hold no other
record. -/
structure Retained (c : SlotContents) (saved : List R) : Prop where
  filed : ∀ id r, lastSaved id saved = some r → c (Store.address R id) = some (Record.encode r)
  saved : ∀ key data, c ⟨(Record.kind R).space, key⟩ = some data → (Record.kind R).Holds data →
    ∃ r, lastSaved (Record.id r) saved = some r ∧ writeIdentifier (Record.id r) = key ∧
      data = Record.encode r

variable {R} {c c' : SlotContents} {saved : List R}

/-- In slots that hold no records nothing was saved. -/
theorem retained_nil (h : ∀ key data, c ⟨(Record.kind R).space, key⟩ = some data →
    ¬ (Record.kind R).Holds data) : Retained R c [] where
  filed := nofun
  saved := fun key data hdata hholds => absurd hholds (h key data hdata)

theorem Retained.of_space (h : Retained R c saved)
    (hsame : ∀ key, c' ⟨(Record.kind R).space, key⟩ = c ⟨(Record.kind R).space, key⟩) :
    Retained R c' saved where
  filed := fun id r hlast => (hsame _).trans (h.filed id r hlast)
  saved := fun key data hdata => h.saved key data (hsame key ▸ hdata)

theorem Retained.tidied [Record.Stable R] [Record.Steady R] (h : Retained R c saved)
    (htidied : Tidied c c') : Retained R c' saved where
  filed := by
    intro id r hlast
    have hfiled := h.filed id r hlast
    rcases htidied (Record.kind R) (writeIdentifier id) with hsame | ⟨_, hunread⟩
    · exact hsame.trans hfiled
    · exact absurd (Record.holds_encode r) (hunread _ hfiled)
  saved := by
    intro key data hdata hholds
    rcases htidied (Record.kind R) key with hsame | ⟨hnone, _⟩
    · exact h.saved key data (hsame ▸ hdata) hholds
    · exact nomatch hnone.symm.trans hdata

/-- A record that is saved is the last one under its identifier. -/
theorem Retained.save (h : Retained R c saved) (r : R) :
    Retained R (Function.update c (Store.address R (Record.id r)) (some (Record.encode r)))
      (saved ++ [r]) where
  filed := by
    intro id last hlast
    rw [lastSaved_append] at hlast
    by_cases hid : Record.id r = id
    · rw [if_pos hid] at hlast
      rw [← hid, Function.update_self, Option.some.inj hlast]
    · rw [if_neg hid] at hlast
      have hslot : Store.address R id ≠ Store.address R (Record.id r) := fun heq =>
        hid (Store.address_injective R heq).symm
      rw [Function.update_of_ne hslot, h.filed id last hlast]
  saved := by
    intro key data hdata hholds
    by_cases hslot : (⟨(Record.kind R).space, key⟩ : Address) = Store.address R (Record.id r)
    · rw [hslot, Function.update_self] at hdata
      refine ⟨r, ?_, (congrArg Address.key hslot).symm, (Option.some.inj hdata).symm⟩
      rw [lastSaved_append, if_pos rfl]
    · rw [Function.update_of_ne hslot] at hdata
      obtain ⟨last, hlast, hkey, hencode⟩ := h.saved key data hdata hholds
      have hid : Record.id r ≠ Record.id last := fun hid =>
        hslot (congrArg (Address.mk _) (hkey.symm.trans (congrArg writeIdentifier hid.symm)))
      exact ⟨last, by rw [lastSaved_append, if_neg hid, hlast], hkey, hencode⟩

end Retained

/-! ### Calls -/

section Calls

variable {R : Type} [Record R] {σ : Type} [Backend σ] [Faithful σ] {s : Store σ} {saved : List R}

theorem Retained.trySave (h : Retained R s.content saved) (r : R) :
    Retained R (s.trySave r).2.content (saved ++ s.saved r) := by
  rcases Store.trySave_content r s with ⟨hwrites, hcontent⟩ | ⟨hfails, hcontent⟩
  · rw [hcontent, Store.saved, if_pos hwrites]
    exact h.save r
  · rw [hcontent, Store.saved, if_neg hfails, List.append_nil]
    exact h

theorem Retained.saveCounted (h : Retained R s.content saved) (r : R) :
    Retained R (s.save r).content (saved ++ s.saved r) := by
  have hslots : (s.save r).content = (s.trySave r).2.content :=
    congrArg Faithful.content (Store.slots_save r s)
  rw [hslots]
  exact h.trySave r

/-- A call adds what it saves. -/
theorem RecordCall.retained [Record.Stable R] [Record.Steady R] (now : Instant) (call : RecordCall R)
    (h : Retained R s.content saved) :
    Retained R (call.run now s).2.content (saved ++ call.saved now s) := by
  have hquiet : ∀ {t : Store σ}, Tidied s.content t.content → Retained R t.content (saved ++ []) :=
    fun ht => (List.append_nil saved).symm ▸ h.tidied ht
  cases call with
  | getOrCreate i => exact hquiet (Store.tidied_getOrCreate R now i s)
  | load i => exact hquiet (Store.tidied_getOrCreate R now i s)
  | fetch i => exact hquiet (.of_eq (Store.fetch_fetches R now i s).2.1)
  | update i change =>
    have hload := Store.tidied_getOrCreate R now i s
    change Retained R (s.update R now i fun r => (change now r, ())).2.content _
    unfold Store.update RecordCall.saved
    dsimp only
    generalize s.getOrCreate R now i = loading at hload
    obtain ⟨loaded, t⟩ := loading
    dsimp only [Store.keep]
    split
    · exact (h.tidied hload).saveCounted _
    · exact hquiet hload
  | save record => exact h.saveCounted record
  | trySave record => exact h.trySave record
  | listAll => exact hquiet (.of_eq (Store.listAll_content R now s).1)

/-- A call changes slots of its kind and backups only. -/
theorem RecordCall.content_elsewhere (now : Instant) (call : RecordCall R) (s : Store σ) {a : Address}
    (hspace : a.space ≠ (Record.kind R).space) (hbackup : a.space ≠ (Record.kind R).backupSpace) :
    (call.run now s).2.content a = s.content a := by
  have hload : ∀ i, (s.getOrCreate R now i).2.content a = s.content a := fun i =>
    (Store.getOrCreate_loads R now i s).1.frame (fun heq => hspace (congrArg Address.space heq)) hbackup
  cases call with
  | getOrCreate i => exact hload i
  | load i => exact hload i
  | fetch i => exact congrFun (Store.fetch_fetches R now i s).2.1 a
  | update i change =>
    specialize hload i
    change (s.update R now i fun r => (change now r, ())).2.content a = _
    unfold Store.update
    generalize s.getOrCreate R now i = loading at hload
    obtain ⟨loaded, t⟩ := loading
    dsimp only [Store.keep]
    split
    · exact ((Store.adds_save _ t).elsewhere a hspace).trans hload
    · exact hload
  | save record => exact (Store.adds_save record s).elsewhere a hspace
  | trySave record => exact (Store.adds_trySave record s).elsewhere a hspace
  | listAll => exact congrFun (Store.listAll_content R now s).1 a

end Calls

/-! ### Runs -/

namespace World

variable {σ : Type} [Backend σ] [Faithful σ] {w : World σ} {users : List UserRecord} (now : Instant)

theorem retained_save {a : Agent σ} (h : Retained UserRecord a.store.content users)
    (unsaved : Unsaved) : Retained UserRecord (Errand.save unsaved a).store.content
      (users ++ (unsaved.saved a.store).users) := by
  have hquiet : ∀ {c : SlotContents}, Retained UserRecord c users →
      Retained UserRecord c (users ++ []) := fun hc => (List.append_nil users).symm ▸ hc
  cases unsaved with
  | nothing => exact hquiet h
  | user record => exact h.saveCounted record
  | group record =>
    have hapart : RecordKind.user.space ≠ RecordKind.group.space := by decide
    exact hquiet (h.of_space fun key => (Store.adds_save record a.store).elsewhere ⟨_, key⟩ hapart)

/-- Every record that was saved last lies in its slot, whatever act happens. -/
theorem retained_act (h : Retained UserRecord w.agent.store.content users) (x : Act) :
    Retained UserRecord (w.act now x).agent.store.content (users ++ (w.saved now (.act x)).users) := by
  have hquiet : ∀ {v : World σ}, Tidied w.agent.store.content v.agent.store.content →
      Retained UserRecord v.agent.store.content (users ++ []) :=
    fun hv => (List.append_nil users).symm ▸ h.tidied hv
  cases x with
  | work m =>
    cases m with
    | step i =>
      change Retained UserRecord (w.step now i).agent.store.content
        (users ++ ((w.leaves i).saved w.agent.store).users)
      rcases store_step_cases now i w with ⟨hsame, hnothing⟩ | ⟨ticket, job, hstart, hnothing⟩ | hsave
      · rw [hnothing]
        exact hquiet (.of_eq (congrArg Store.content hsame))
      · rw [hnothing, hstart]
        exact (List.append_nil users).symm ▸ h.tidied (tidied_start now ticket job w.agent)
      · rw [hsave]
        exact retained_save h (w.leaves i)
    | answer i generated => exact hquiet (.of_eq (quiet_answer now i generated w).content)
    | pass time => exact hquiet (.of_eq (quiet_pass now time w).content)
  | look kind id =>
    cases kind with
    | user => exact hquiet (Store.tidied_getOrCreate UserRecord now id w.agent.store)
    | group => exact hquiet (Store.tidied_getOrCreate GroupRecord now id w.agent.store)
  | leave chat =>
    exact hquiet (v := w.act now (.leave chat))
      (.of_eq (Store.fetch_fetches GroupRecord now chat w.agent.store).2.1)

theorem retained_happen (h : Retained UserRecord w.agent.store.content users) (x : Happening) :
    Retained UserRecord (w.happen now x).agent.store.content (users ++ (w.saved now x).users) := by
  cases x with
  | act x => exact retained_act now h x
  | users call => exact call.retained now h
  | groups call =>
    have hspace : RecordKind.user.space ≠ RecordKind.group.space := by decide
    have hbackup : RecordKind.user.space ≠ RecordKind.group.backupSpace := space_ne_backupSpace _ _
    have hkept := h.of_space fun key =>
      call.content_elsewhere now w.agent.store (a := ⟨_, key⟩) hspace hbackup
    exact (List.append_nil users).symm ▸ hkept

/-- Every record that was saved last lies in its slot, whatever happens, and the slots hold no other. -/
theorem retained_lived (h : Retained UserRecord w.agent.store.content users)
    (run : List (Instant × Happening)) :
    Retained UserRecord (w.lived run).2.agent.store.content (users ++ (w.lived run).1.users) := by
  induction run generalizing w users with
  | nil => exact (List.append_nil users).symm ▸ h
  | cons x rest ih =>
    obtain ⟨now, x⟩ := x
    have hrest := ih (retained_happen now h x)
    rw [List.append_assoc] at hrest
    exact hrest

end World

end Companion
