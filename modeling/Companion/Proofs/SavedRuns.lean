import Companion.Proofs.CarryingOut
import Companion.Proofs.Durability
import Companion.Proofs.SavedRecords

/-!
Runs in which nobody but the program writes slots. Turns and calls to the store happen in any order and
side by side, and any of their backend calls may fail. Whatever happens, the slots hold what was saved,
so nothing is ever moved aside.
-/

namespace Companion

open Number Text Time Json

/-! ### What is saved in a run -/

/-- Records that were saved, by type, in the order in which they were saved. -/
structure Ledger where
  users : List UserRecord := []
  groups : List GroupRecord := []

instance : Append Ledger := ⟨fun l m => ⟨l.users ++ m.users, l.groups ++ m.groups⟩⟩

theorem Ledger.append_empty (l : Ledger) : l ++ ({} : Ledger) = l := by
  show Ledger.mk (l.users ++ []) (l.groups ++ []) = l
  rw [List.append_nil, List.append_nil]

theorem Ledger.append_assoc (l m n : Ledger) : l ++ m ++ n = l ++ (m ++ n) :=
  congrArg₂ Ledger.mk (List.append_assoc ..) (List.append_assoc ..)

def Caller.leaves (c : Caller) : Unsaved :=
  match c.errand.jobs, c.errand.stage with
  | _ :: _, .changed _ unsaved => unsaved
  | _, _ => .nothing

section Runs

variable {σ : Type} [Backend σ]

def Unsaved.saved (s : Store σ) : Unsaved → Ledger
  | .nothing => {}
  | .user record => { users := s.saved record }
  | .group record => { groups := s.saved record }

namespace World

/-- All that can happen: an act of a run of calls, or a call to the store past all locks. -/
inductive Happening
  | act (x : Act)
  | users (call : RecordCall UserRecord)
  | groups (call : RecordCall GroupRecord)

def happen (now : Instant) (w : World σ) : Happening → World σ
  | .act x => w.act now x
  | .users call => { w with agent := { w.agent with store := (call.run now w.agent.store).2 } }
  | .groups call => { w with agent := { w.agent with store := (call.run now w.agent.store).2 } }

omit [Backend σ] in
def leaves (i : Nat) (w : World σ) : Unsaved := (w.callers[i]?).elim .nothing Caller.leaves

def saved (now : Instant) (w : World σ) : Happening → Ledger
  | .act (.work (.step i)) => (w.leaves i).saved w.agent.store
  | .act _ => {}
  | .users call => { users := call.saved now w.agent.store }
  | .groups call => { groups := call.saved now w.agent.store }

/-- The world after a run, and all that was saved in it. -/
def lived : List (Instant × Happening) → World σ → Ledger × World σ
  | [], w => ({}, w)
  | (now, x) :: rest, w =>
    let (later, last) := lived rest (w.happen now x)
    (w.saved now x ++ later, last)

end World

end Runs

/-! ### What a run keeps -/

/-- The slots of a store hold what was saved, and nothing was moved aside. -/
structure Store.Kept {σ : Type} [Backend σ] [Faithful σ] (s : Store σ) (l : Ledger) : Prop where
  users : Files UserRecord s.content l.users
  groups : Files GroupRecord s.content l.groups
  backups : ∀ a : Address, a.IsBackup → s.content a = none
  recovered : s.recovered = 0

namespace Store

variable {σ : Type} [Backend σ] [Faithful σ] {s t : Store σ} {l : Ledger}

theorem Kept.quiet (h : s.Kept l) (hquiet : s.Quiet t) : t.Kept l where
  users := hquiet.content ▸ h.users
  groups := hquiet.content ▸ h.groups
  backups := hquiet.content ▸ h.backups
  recovered := hquiet.recovered.trans h.recovered

theorem Adds.backups {R : Type} [Record R] {made : List R} (hadds : Adds s t made)
    (h : ∀ a : Address, a.IsBackup → s.content a = none) (a : Address) (ha : a.IsBackup) :
    t.content a = none := by
  obtain ⟨kind, hkind⟩ := ha
  rw [hadds.elsewhere a fun hspace => space_ne_backupSpace _ kind (hspace.symm.trans hkind)]
  exact h a ⟨kind, hkind⟩

theorem Kept.addUsers (h : s.Kept l) {made : List UserRecord} (hadds : Adds s t made) :
    t.Kept (l ++ { users := made }) where
  users := hadds.files h.users
  groups := by
    change Files GroupRecord t.content (l.groups ++ [])
    rw [List.append_nil]
    have hapart : RecordKind.group.space ≠ RecordKind.user.space := by decide
    exact h.groups.of_space fun key => hadds.elsewhere ⟨_, key⟩ hapart
  backups := hadds.backups h.backups
  recovered := hadds.recovered.trans h.recovered

theorem Kept.addGroups (h : s.Kept l) {made : List GroupRecord} (hadds : Adds s t made) :
    t.Kept (l ++ { groups := made }) where
  users := by
    change Files UserRecord t.content (l.users ++ [])
    rw [List.append_nil]
    have hapart : RecordKind.user.space ≠ RecordKind.group.space := by decide
    exact h.users.of_space fun key => hadds.elsewhere ⟨_, key⟩ hapart
  groups := hadds.files h.groups
  backups := hadds.backups h.backups
  recovered := hadds.recovered.trans h.recovered

end Store

/-! ### Turns -/

section Turns

variable {σ : Type} [Backend σ] [Faithful σ] {l : Ledger} (now : Instant)

theorem Names.quiet_resolve (asker : Int64) (names : List String) (s : Store σ) :
    s.Quiet (Names.resolve asker now names s).2 := by
  induction names generalizing s with
  | nil => exact .refl s
  | cons name rest ih =>
    have hfind : s.Quiet (Names.findOther asker now name s).2 := by
      unfold Names.findOther Names.findWhere
      dsimp only
      split
      · exact .refl s
      · exact Store.quiet_listAll UserRecord now s
    unfold Names.resolve
    generalize Names.findOther asker now name s = found at hfind
    obtain ⟨_ | record, t⟩ := found
    · exact hfind.trans (ih t)
    · exact hfind

/-- Starting a job writes nothing. -/
theorem quiet_start (ticket : Nat) (job : Job) {a : Agent σ} (h : a.store.Kept l) :
    a.store.Quiet (Errand.start now ticket job a).2.store := by
  have huser := fun id => Store.quiet_getOrCreate UserRecord now id a.store (h.users.clear id)
  cases job with
  | editUser id change => exact huser id
  | editGroup id change => exact Store.quiet_getOrCreate GroupRecord now id a.store (h.groups.clear id)
  | syncName event => exact huser event.sender
  | reply event => exact (huser event.sender).trans (Names.quiet_resolve now _ _ _)

/-- Carrying out an answer writes nothing. -/
theorem quiet_finishReply (a : Agent σ) (draft : Draft) (generated : Except TurnError String) :
    a.store.Quiet (a.finishReply now draft generated).2.store := by
  refine ⟨(finishReply_keeps a now draft generated).2, ?_⟩
  cases generated with
  | error e => exact Store.recovered_bump a.store nofun
  | ok text =>
    simp only [Agent.finishReply, applyReply, Store.recovered, foldl_carryOut_counters,
      Counters.get_add]
    simp [countOf]

/-- Saving what a job left adds it to what was saved. -/
theorem Store.Kept.save {a : Agent σ} (h : a.store.Kept l) (unsaved : Unsaved) :
    (Errand.save unsaved a).store.Kept (l ++ unsaved.saved a.store) := by
  cases unsaved with
  | nothing => exact (l.append_empty).symm ▸ h
  | user record => exact h.addUsers (Store.adds_save record a.store)
  | group record => exact h.addGroups (Store.adds_save record a.store)

namespace World

omit [Faithful σ] in
/-- What a step of a caller does to the store: nothing, or what starting a job does, or it saves what
the caller leaves. -/
theorem store_step_cases (i : Nat) (w : World σ) :
    ((w.step now i).agent.store = w.agent.store ∧ w.leaves i = .nothing) ∨
      (∃ ticket job, (w.step now i).agent.store = (Errand.start now ticket job w.agent).2.store ∧
        w.leaves i = .nothing) ∨
      (w.step now i).agent.store = (Errand.save (w.leaves i) w.agent).store := by
  unfold leaves
  cases hc : w.callers[i]? with
  | none => exact .inl ⟨by simp only [step, hc], rfl⟩
  | some c =>
    obtain ⟨⟨jobs, stage, outcome⟩, given⟩ := c
    cases jobs with
    | nil => exact .inl ⟨by simp only [step, hc, Errand.step?], rfl⟩
    | cons job rest =>
      cases stage with
      | ready => exact .inl ⟨by simp only [step, hc, Errand.step?, turned], rfl⟩
      | waiting ticket =>
        refine .inl ⟨?_, rfl⟩
        simp only [step, hc, Errand.step?]
        split
        · next heq =>
          split at heq
          · obtain ⟨rfl, rfl⟩ := Prod.mk.inj (Option.some.inj heq)
            rfl
          · cases heq
        · rfl
      | holding ticket =>
        exact .inr (.inl ⟨ticket, job, by simp only [step, hc, Errand.step?, turned], rfl⟩)
      | asking ticket draft => exact .inl ⟨by simp only [step, hc, Errand.step?], rfl⟩
      | changed ticket unsaved =>
        exact .inr (.inr (by simp only [step, hc, Errand.step?, turned]; rfl))
      | saved ticket => exact .inl ⟨by simp only [step, hc, Errand.step?, turned], rfl⟩

/-! ### Whatever happens -/

variable {w : World σ}

theorem kept_step (h : w.agent.store.Kept l) (i : Nat) :
    (w.step now i).agent.store.Kept (l ++ (w.leaves i).saved w.agent.store) := by
  rcases store_step_cases now i w with ⟨hsame, hnothing⟩ | ⟨ticket, job, hstart, hnothing⟩ | hsave
  · rw [hsame, hnothing]
    exact (l.append_empty).symm ▸ h
  · rw [hstart, hnothing]
    exact (l.append_empty).symm ▸ h.quiet (quiet_start now ticket job h)
  · rw [hsave]
    exact h.save (w.leaves i)

theorem quiet_answer (i : Nat) (generated : Except TurnError String) (w : World σ) :
    w.agent.store.Quiet (w.answer now i generated).agent.store := by
  rcases answer_cases now i generated w with hsame | ⟨c, ticket, draft, _, _, hanswer⟩
  · rw [hsame]
    exact .refl _
  · rw [hanswer]
    exact quiet_finishReply now w.agent draft generated

theorem quiet_pass (time : Nat) (w : World σ) :
    w.agent.store.Quiet (w.move now (.pass time)).agent.store :=
  ⟨rfl, (Counters.get_add w.agent.store.counters _ .corruptSlotsRecovered .remindersFired).trans
    (if_neg nofun)⟩

/-- What lies in the slots is what was saved, whatever act happens. -/
theorem kept_act (h : w.agent.store.Kept l) (x : Act) :
    (w.act now x).agent.store.Kept (l ++ w.saved now (.act x)) := by
  have hquiet : ∀ {v : World σ}, w.agent.store.Quiet v.agent.store →
      v.agent.store.Kept (l ++ ({} : Ledger)) := fun hv => (l.append_empty).symm ▸ h.quiet hv
  cases x with
  | work m =>
    cases m with
    | step i => exact kept_step now h i
    | answer i generated => exact hquiet (quiet_answer now i generated w)
    | pass time => exact hquiet (quiet_pass now time w)
  | look kind id =>
    cases kind with
    | user => exact hquiet (Store.quiet_getOrCreate UserRecord now id w.agent.store (h.users.clear id))
    | group => exact hquiet (Store.quiet_getOrCreate GroupRecord now id w.agent.store (h.groups.clear id))
  | leave chat =>
    obtain ⟨-, hcontent, -⟩ := Store.fetch_fetches GroupRecord now chat w.agent.store
    exact hquiet (v := w.act now (.leave chat))
      ⟨hcontent, Store.recovered_fetch GroupRecord now chat w.agent.store⟩

/-- What lies in the slots is what was saved, whatever happens. -/
theorem kept_happen (h : w.agent.store.Kept l) (x : Happening) :
    (w.happen now x).agent.store.Kept (l ++ w.saved now x) := by
  cases x with
  | act x => exact kept_act now h x
  | users call => exact h.addUsers (call.adds now w.agent.store h.users)
  | groups call => exact h.addGroups (call.adds now w.agent.store h.groups)

theorem kept_lived (h : w.agent.store.Kept l) (run : List (Instant × Happening)) :
    (w.lived run).2.agent.store.Kept (l ++ (w.lived run).1) := by
  induction run generalizing w l with
  | nil => exact (l.append_empty).symm ▸ h
  | cons x rest ih =>
    obtain ⟨now, x⟩ := x
    have hrest := ih (kept_happen now h x)
    rw [Ledger.append_assoc] at hrest
    exact hrest

/-- What lies in the slots is what was saved, if they were empty before and nothing was moved aside. -/
theorem kept_start (agent : Agent σ) (calls : List Call) (hempty : ∀ a, agent.content a = none)
    (hrecovered : agent.store.counters.corruptSlotsRecovered = 0) (run : List (Instant × Happening)) :
    ((start agent calls).lived run).2.agent.store.Kept ((start agent calls).lived run).1 := by
  have hstart : (start agent calls).agent.store.Kept {} :=
    ⟨files_empty hempty, files_empty hempty, fun a _ => hempty a, hrecovered⟩
  exact kept_lived hstart run

/-- From empty slots on, whatever turns and calls to the store do, in any order and with any failures
of the backend, every slot of a kind holds a record whose identifier its key tells, no two slots hold
records with one identifier, a listing that does not fail gives each record that was saved last under
its identifier and nothing else, the namespaces of backups are empty, and no slot was ever moved aside.
-/
theorem slots_hold_saved [Lists σ] (agent : Agent σ) (calls : List Call)
    (hempty : ∀ a, agent.content a = none)
    (hrecovered : agent.store.counters.corruptSlotsRecovered = 0) (run : List (Instant × Happening)) :
    let saved := ((start agent calls).lived run).1
    let store := ((start agent calls).lived run).2.agent.store
    store.Reflects saved.users ∧ store.Reflects saved.groups ∧
      (∀ a : Address, a.IsBackup → store.content a = none) ∧
      store.counters.corruptSlotsRecovered = 0 := by
  have hkept := kept_start agent calls hempty hrecovered run
  exact ⟨hkept.users.reflects, hkept.groups.reflects, hkept.backups, hkept.recovered⟩

end World

end Turns

namespace World

/-- An agent with empty slots whose second write fails. -/
def falteringAgent : Agent (Unreliable Memory) where
  store := { slots := {
    slots := .empty
    stepwise := true
    fails := fun n kind => n == 1 && kind == .write } }

/-- A record is saved, then saved again with another name, which fails, and then a message comes in. -/
def saveTwice : List (Instant × Happening) :=
  [(sampleUser.lastInteraction, .users (.save sampleUser)),
    (sampleUser.lastInteraction, .users (.save { sampleUser with username := some "Ada" })),
    (sampleUser.lastInteraction, .act (.work (.step 0)))]

/-- The record that was saved first is listed, since saving the other one failed. -/
theorem slots_hold_saved_failing :
    let store := ((start falteringAgent
      [.message sampleUser.lastInteraction (.ofPrivate 7 "Ada" "hello")]).lived saveTwice).2.agent.store
    (store.listAll UserRecord sampleUser.lastInteraction).1.filter (fun r => Record.id r = 7) =
      [sampleUser] := by
  obtain ⟨husers, -⟩ := slots_hold_saved falteringAgent
    [.message sampleUser.lastInteraction (.ofPrivate 7 "Ada" "hello")] (fun _ => rfl) rfl saveTwice
  exact husers.lists sampleUser.lastInteraction [(writeIdentifier 7, Record.encode sampleUser)] 7 rfl

/-- A user record with a leap second that no minute ends with. -/
def hastySave : UserRecord :=
  { sampleUser with lastInteraction := hastySecond }

def hastyListed : UserRecord :=
  { sampleUser with lastInteraction := nextSecond }

/-- The record that was saved last is not the one that is listed if it has such a leap second. -/
theorem listed_is_displaced :
    let run := [(sampleUser.lastInteraction, .users (.save hastySave))]
    let saved := ((start falteringAgent []).lived run).1.users
    let store := ((start falteringAgent []).lived run).2.agent.store
    (∀ a, falteringAgent.content a = none) ∧ saved = [hastySave] ∧
      (Backend.list RecordKind.user.space store.slots).1.isOk = true ∧
      (store.listAll UserRecord sampleUser.lastInteraction).1.filter (fun r => Record.id r = 7) =
        [hastyListed] ∧ hastyListed ≠ hastySave := by
  intro run saved store
  have hkept := kept_start falteringAgent [] (fun _ => rfl) rfl run
  obtain ⟨slots, hlist⟩ : ∃ slots, (Backend.list RecordKind.user.space store.slots).1 = .ok slots :=
    ⟨_, rfl⟩
  have hlisted : (store.listAll UserRecord sampleUser.lastInteraction).1.filter
      (fun r => Record.id r = 7) = [hastySave.settled] :=
    hkept.users.filter_listAll hlist sampleUser.lastInteraction 7
  have hread : hastySave.settled = hastyListed := by decide +kernel
  exact ⟨fun _ => rfl, rfl, by rw [hlist]; rfl, hread ▸ hlisted, by decide +kernel⟩

end World

end Companion
