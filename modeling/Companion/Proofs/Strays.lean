import Companion.Proofs.Durability

/-!
Where writes go. A job holds the lock of the identifier that was asked for, and a record is written to
the slot of the identifier inside it. These are the same unless a slot holds a record of another
identifier. So calls change no live slots but their own and those that misplaced records in their own
slots lead to; and a misplaced record does overwrite another one, without its lock.
-/

namespace Companion

open Number Text Time

/-! ### Misplaced records -/

def Record.HoldsId (R : Type) [Record R] (data : Octets) (id : Int64) : Prop :=
  ∃ (now : Instant) (r : R), Record.decode now data = .ok r ∧ Record.id r = id

def RecordKind.HoldsId : RecordKind → Octets → Int64 → Prop
  | .user => Record.HoldsId UserRecord
  | .group => Record.HoldsId GroupRecord

/-- A slot leads to itself, and to the slot of the record that it holds. -/
def LockKey.Leads (c : SlotContents) (key k : LockKey) : Prop :=
  k = key ∨ k.kind = key.kind ∧ ∃ data, c key.slot = some data ∧ key.kind.HoldsId data k.id

theorem Record.holdsId_encode {R : Type} [Record R] [Record.Stable R] {r : R} {id : Int64}
    (h : Record.HoldsId R (Record.encode r) id) : id = Record.id r := by
  obtain ⟨now, r', hread, hid⟩ := h
  rw [Record.decode_encode] at hread
  rw [← hid, ← Except.ok.inj hread, Record.Stable.id_settled]

namespace LockKey

variable {before after : SlotContents} {key k : LockKey}

/-- Slots that are as they were, or empty by now, lead nowhere new. -/
theorem Leads.of_slot (h : key.Leads after k)
    (hslot : after key.slot = before key.slot ∨ after key.slot = none) : key.Leads before k := by
  rcases h with hself | ⟨hkind, data, hdata, hholds⟩
  · exact .inl hself
  · rcases hslot with hsame | hnone
    · exact .inr ⟨hkind, data, hsame ▸ hdata, hholds⟩
    · exact nomatch hnone.symm.trans hdata

theorem Leads.of_visited {job : LockKey} (h : key.Leads after k)
    (hvisited : job.Visited before after) : key.Leads before k := by
  by_cases hkey : key = job
  · subst hkey
    rcases hvisited.own with hsame | ⟨_, _, _, _, hnone, _⟩
    · exact h.of_slot (.inl hsame)
    · exact h.of_slot (.inr hnone)
  · exact h.of_slot (.inl (hvisited.others key hkey))

/-- A slot in which a record was saved leads to itself only. -/
theorem Leads.of_saved {saved : LockKey} {data : Octets}
    (h : key.Leads (Function.update before saved.slot (some data)) k)
    (hdata : ∀ id, saved.kind.HoldsId data id → id = saved.id) : key.Leads before k := by
  by_cases hkey : key = saved
  · subst hkey
    rcases h with hself | ⟨hkind, data', hdata', hholds⟩
    · exact .inl hself
    · rw [Function.update_self] at hdata'
      obtain rfl := Option.some.inj hdata'
      have hid := hdata _ hholds
      left
      obtain ⟨kkind, kid⟩ := k
      obtain ⟨keykind, keyid⟩ := key
      dsimp only at hkind hid
      rw [hkind, hid]
  · apply h.of_slot
    left
    exact Function.update_of_ne (fun hslot => hkey (slot_injective hslot)) _ _

/-- Writing a record to its slot, or nothing, changes no other slot and leads nowhere new. -/
theorem saved_within {P : LockKey → Prop} {saved : LockKey} {data : Octets} (hsaved : P saved)
    (hdata : ∀ id, saved.kind.HoldsId data id → id = saved.id)
    (hafter : after = Function.update before saved.slot (some data) ∨ after = before) :
    (∀ slot, (∀ k, P k → slot ≠ k.slot) → after slot = before slot) ∧
      ∀ key k : LockKey, key.Leads after k → key.Leads before k := by
  rcases hafter with rfl | rfl
  · exact ⟨fun slot hslot => Function.update_of_ne (hslot saved hsaved) _ _,
      fun key k hleads => hleads.of_saved hdata⟩
  · exact ⟨fun _ _ => rfl, fun _ _ hleads => hleads⟩

end LockKey

/-- Where each slot holds a record of its own identifier, if any, a slot leads to itself only. -/
theorem Store.Keyed.leads {c : SlotContents} (husers : Store.Keyed UserRecord c)
    (hgroups : Store.Keyed GroupRecord c) {key k : LockKey} (h : key.Leads c k) : k = key := by
  rcases h with hself | ⟨hkind, data, hdata, hholds⟩
  · exact hself
  · obtain ⟨kkind, kid⟩ := k
    obtain ⟨keykind, keyid⟩ := key
    dsimp only at hkind hholds
    subst hkind
    have hid : kid = keyid := by
      cases kkind with
      | user =>
        obtain ⟨now, r, hread, rfl⟩ := hholds
        exact husers keyid now data r hdata hread
      | group =>
        obtain ⟨now, r, hread, rfl⟩ := hholds
        exact hgroups keyid now data r hdata hread
    rw [hid]

section Loads

variable {settings : RecordSettings} {now : Instant} {id : Int64} {before after : SlotContents}

/-- A record that is loaded has the identifier that was asked for, or comes from the slot. -/
theorem Store.Loads.id_cases {R : Type} [Record R] [Record.Steady R] {loaded : Loaded R}
    (h : Store.Loads R settings now id before loaded after) : Record.id loaded.record = id ∨
      ∃ data, before (Store.address R id) = some data ∧
        Record.HoldsId R data (Record.id loaded.record) := by
  cases h with
  | found hslot hread => exact .inr ⟨_, hslot, now, _, hread, rfl⟩
  | empty _ => exact .inl (Record.Steady.id_blank settings id now)
  | moved _ _ => exact .inl (Record.Steady.id_blank settings id now)
  | failed _ => exact .inl (Record.Steady.id_blank settings id now)

theorem leads_user {loaded : Loaded UserRecord}
    (h : Store.Loads UserRecord settings now id before loaded after) :
    LockKey.Leads before ⟨.user, id⟩ ⟨.user, loaded.record.id⟩ :=
  h.id_cases.imp (congrArg (LockKey.mk .user)) fun hslot => ⟨rfl, hslot⟩

theorem leads_group {loaded : Loaded GroupRecord}
    (h : Store.Loads GroupRecord settings now id before loaded after) :
    LockKey.Leads before ⟨.group, id⟩ ⟨.group, loaded.record.id⟩ :=
  h.id_cases.imp (congrArg (LockKey.mk .group)) fun hslot => ⟨rfl, hslot⟩

end Loads

/-! ### What a job carries -/

def Unsaved.Within (P : LockKey → Prop) : Unsaved → Prop
  | .nothing => True
  | .user r => P ⟨.user, r.id⟩
  | .group r => P ⟨.group, r.id⟩

def Stage.Within (P : LockKey → Prop) : Stage → Prop
  | .asking _ draft => P ⟨.user, draft.loaded.record.id⟩
  | .changed _ unsaved => unsaved.Within P
  | _ => True

section Within

variable {P Q : LockKey → Prop}

theorem Unsaved.within_ofUser {loaded : Loaded UserRecord} (h : P ⟨.user, loaded.record.id⟩) :
    (Unsaved.ofUser loaded).Within P := by
  unfold ofUser
  split
  · exact h
  · trivial

theorem Unsaved.within_ofGroup {loaded : Loaded GroupRecord} (h : P ⟨.group, loaded.record.id⟩) :
    (Unsaved.ofGroup loaded).Within P := by
  unfold ofGroup
  split
  · exact h
  · trivial

theorem Unsaved.within_ite {c : Prop} [Decidable c] {unsaved : Unsaved} (h : unsaved.Within P) :
    (if c then unsaved else .nothing).Within P := by
  split
  · exact h
  · trivial

theorem Stage.Within.mono {stage : Stage} (h : stage.Within P) (hPQ : ∀ k, P k → Q k) :
    stage.Within Q := by
  cases stage with
  | asking ticket draft => exact hPQ _ h
  | changed ticket unsaved =>
    cases unsaved with
    | nothing => trivial
    | user r => exact hPQ _ h
    | group r => exact hPQ _ h
  | _ => trivial

end Within

section Jobs

variable {σ : Type} [Backend σ] [Faithful σ] {now : Instant} {a : Agent σ}

/-- A job that loaded its record carries it to where the slot leads. -/
theorem within_start (ticket : Nat) {job : Job} (hkeeps : job.KeepsId) :
    (Errand.start now ticket job a).1.Within (job.key.Leads a.content) := by
  cases job with
  | editUser id change =>
    have hleads := leads_user (Store.getOrCreate_loads UserRecord now id a.store).1
    apply Unsaved.within_ofUser
    rw [hkeeps]
    exact hleads
  | editGroup id change =>
    have hleads := leads_group (Store.getOrCreate_loads GroupRecord now id a.store).1
    apply Unsaved.within_ofGroup
    rw [hkeeps]
    exact hleads
  | syncName event =>
    have hleads := leads_user (Store.getOrCreate_loads UserRecord now event.sender a.store).1
    simp only [Errand.start, Errand.nameSender, Stage.Within]
    apply Unsaved.within_ite
    apply Unsaved.within_ofUser
    rw [id_syncUsername]
    exact hleads
  | reply event =>
    have hleads := leads_user (Store.getOrCreate_loads UserRecord now event.sender a.store).1
    simp only [Errand.start, Stage.Within, Agent.beginReply, Agent.loadSender, id_syncUsername]
    exact hleads

/-- Starting a job changes no live slot but its own. -/
theorem start_frame (ticket : Nat) (job : Job) {slot : Address} (hslot : slot ≠ job.key.slot)
    (hlive : ∀ kind : RecordKind, slot.space ≠ kind.backupSpace) :
    (Errand.start now ticket job a).2.content slot = a.content slot := by
  cases job with
  | editUser id change =>
    exact (Store.getOrCreate_loads UserRecord now id a.store).1.frame hslot (hlive _)
  | editGroup id change =>
    exact (Store.getOrCreate_loads GroupRecord now id a.store).1.frame hslot (hlive _)
  | syncName event =>
    simp only [Errand.start, Errand.nameSender, Agent.content]
    exact (Store.getOrCreate_loads UserRecord now event.sender a.store).1.frame hslot (hlive _)
  | reply event =>
    have hnames := (Names.resolve_content event.sender now (Names.mentions event.text)
      (a.store.getOrCreate UserRecord now event.sender).2).1
    have hframe := (Store.getOrCreate_loads UserRecord now event.sender a.store).1.frame hslot
      (hlive _)
    simp only [Errand.start, Agent.beginReply, Agent.loadSender, Agent.mentioned, Agent.content, hnames]
    exact hframe

/-- Saving changes no slot but the one that the record goes to, which then leads to itself only. -/
theorem save_within {P : LockKey → Prop} {unsaved : Unsaved} (h : unsaved.Within P) :
    (∀ slot, (∀ k, P k → slot ≠ k.slot) → (Errand.save unsaved a).content slot = a.content slot) ∧
      ∀ key k : LockKey, key.Leads (Errand.save unsaved a).content k → key.Leads a.content k := by
  cases unsaved with
  | nothing => exact ⟨fun _ _ => rfl, fun _ _ hleads => hleads⟩
  | user r =>
    apply LockKey.saved_within h fun id hid => Record.holdsId_encode hid
    exact (Store.save_content r a.store).imp_right And.right
  | group r =>
    apply LockKey.saved_within h fun id hid => Record.holdsId_encode hid
    exact (Store.save_content r a.store).imp_right And.right

end Jobs

/-! ### Runs -/

/-- The records that a call is about: a message is about its sender, and in a group about the group
too. -/
def Call.Touches : Call → LockKey → Prop
  | .message _ event, key =>
    key = ⟨.user, event.sender⟩ ∨ event.kind = .group ∧ key = ⟨.group, event.chat⟩
  | .added chat _, key => key = ⟨.group, chat⟩
  | .updateUser id _, key => key = ⟨.user, id⟩
  | .updateGroup id _, key => key = ⟨.group, id⟩

theorem Call.touches_key {settings : RecordSettings} {call : Call} {job : Job}
    (hjob : job ∈ (call.errand settings).jobs) : call.Touches job.key := by
  cases call with
  | message now event =>
    have hgroup : job = .editGroup event.chat (fun _ group =>
        group.pushMessage settings.groupMessageCapacity ⟨event.label, event.text, now⟩) →
        event.kind = .group := by
      intro heq
      subst heq
      by_contra hkind
      simp only [Call.errand, Errand.ofEvent, if_neg hkind, List.nil_append] at hjob
      split at hjob
      · exact nomatch List.mem_singleton.mp hjob
      · exact nomatch hjob
    rcases mem_ofEvent hjob with heq | heq | heq
    · right
      exact ⟨hgroup heq, congrArg Job.key heq⟩
    · left
      exact congrArg Job.key heq
    · left
      exact congrArg Job.key heq
  | added chat title => exact congrArg Job.key (List.mem_singleton.mp hjob)
  | updateUser id mutation => exact congrArg Job.key (List.mem_singleton.mp hjob)
  | updateGroup id mutation => exact congrArg Job.key (List.mem_singleton.mp hjob)

/-- The jobs of a caller lead to slots of which `P` holds, and so does what it carries. -/
structure Caller.Within (P : LockKey → Prop) (before : SlotContents) (c : Caller) : Prop where
  keepsId : ∀ job ∈ c.errand.jobs, job.KeepsId
  leads : ∀ job ∈ c.errand.jobs, ∀ k, job.key.Leads before k → P k
  carries : c.errand.stage.Within P

/-- No live slots changed but those of which `P` holds, no slot leads anywhere new, and what the
callers carry goes to slots of which `P` holds. -/
structure Confined (P : LockKey → Prop) (before after : SlotContents) (callers : List Caller) :
    Prop where
  frame : ∀ slot : Address, (∃ kind : RecordKind, slot.space = kind.space) →
    (∀ k, P k → slot ≠ k.slot) → after slot = before slot
  leads : ∀ key k : LockKey, key.Leads after k → key.Leads before k
  callers : ∀ c ∈ callers, c.Within P before

namespace World

variable {σ : Type} [Backend σ] [Faithful σ] {P : LockKey → Prop} {before : SlotContents}

theorem confined_set {w : World σ} {after : SlotContents} {c : Caller} {i : Nat}
    (h : Confined P before w.agent.content w.callers) (hafter : Confined P before after [c]) :
    Confined P before after (w.callers.set i c) where
  frame := hafter.frame
  leads := hafter.leads
  callers d hd := by
    rcases List.mem_or_eq_of_mem_set hd with hd | rfl
    · exact h.callers d hd
    · exact hafter.callers d List.mem_cons_self

/-- A step of a caller keeps to the slots of which `P` holds. -/
theorem confined_steps {w : World σ} {now : Instant} {i : Nat} {c c' : Caller} {a : Agent σ}
    {entries : List Entry} (h : Confined P before w.agent.content w.callers)
    (hc : c.Within P before) (hstep : c.Steps now i w.agent c' a entries) :
    Confined P before a.content [c'] := by
  have hquiet : ∀ {stage : Stage}, stage.Within P →
      ∀ d ∈ [(⟨{ c.errand with stage := stage }, c.given⟩ : Caller)], d.Within P before := by
    intro stage hstage d hd
    rw [List.mem_singleton.mp hd]
    exact ⟨hc.keepsId, hc.leads, hstage⟩
  cases hstep with
  | requests hjobs hstage => exact ⟨h.frame, h.leads, hquiet trivial⟩
  | notices hjobs hstage hheld => exact ⟨h.frame, h.leads, hquiet trivial⟩
  | @loads job rest ticket hjobs hstage =>
    have hmem : job ∈ c.errand.jobs := hjobs ▸ List.mem_cons_self
    have hstarted : Errand.Started now ticket job True w.agent _ _ := started_start job (.inl trivial)
    have hvisited := hstarted.visited
    have hreach : ∀ k, job.key.Leads w.agent.content k → P k :=
      fun k hk => hc.leads job hmem k (h.leads _ k hk)
    refine ⟨?_, fun key k hleads => h.leads key k (hleads.of_visited hvisited), ?_⟩
    · intro slot hlive hslot
      have hown := hslot job.key (hreach job.key (.inl rfl))
      have hbackup : ∀ kind : RecordKind, slot.space ≠ kind.backupSpace := by
        obtain ⟨kind, hspace⟩ := hlive
        rw [hspace]
        exact space_ne_backupSpace kind
      rw [start_frame ticket job hown hbackup]
      exact h.frame slot hlive hslot
    · intro d hd
      rw [List.mem_singleton.mp hd]
      exact ⟨hc.keepsId, hc.leads, (within_start ticket (hc.keepsId job hmem)).mono hreach⟩
  | @saves job rest ticket unsaved hjobs hstage =>
    have hcarries : unsaved.Within P := by
      have hstagewithin := hc.carries
      rw [hstage] at hstagewithin
      exact hstagewithin
    obtain ⟨hframe, hleads⟩ := save_within (a := w.agent) hcarries
    refine ⟨?_, fun key k hk => h.leads key k (hleads key k hk), hquiet trivial⟩
    intro slot hlive hslot
    rw [hframe slot hslot]
    exact h.frame slot hlive hslot
  | @finishes job rest ticket hjobs hstage =>
    refine ⟨h.frame, h.leads, ?_⟩
    intro d hd
    rw [List.mem_singleton.mp hd]
    have hrest : ∀ x ∈ rest, x ∈ c.errand.jobs := fun x hx => hjobs ▸ List.mem_cons_of_mem job hx
    exact ⟨fun x hx => hc.keepsId x (hrest x hx), fun x hx => hc.leads x (hrest x hx), trivial⟩

/-- Every move keeps to the slots of which `P` holds. -/
theorem confined_move {w : World σ} (h : Confined P before w.agent.content w.callers)
    (now : Instant) (m : Move) :
    Confined P before (w.move now m).agent.content (w.move now m).callers := by
  cases m with
  | step i =>
    show Confined P before (w.step now i).agent.content (w.step now i).callers
    rcases step_cases now i w with hsame | ⟨c, c', a, entries, hc, hstep, hnext⟩
    · rw [hsame]
      exact h
    · rw [hnext]
      exact confined_set h (confined_steps h (h.callers c (List.mem_of_getElem? hc)) hstep)
  | answer i generated =>
    show Confined P before (w.answer now i generated).agent.content
      (w.answer now i generated).callers
    rcases answer_cases now i generated w with hsame | ⟨c, ticket, draft, hc, hstage, hnext⟩
    · rw [hsame]
      exact h
    · have hwithin := h.callers c (List.mem_of_getElem? hc)
      have hdraft : P ⟨.user, draft.loaded.record.id⟩ := by
        have hcarries := hwithin.carries
        rw [hstage] at hcarries
        exact hcarries
      have hcontent := (finishReply_keeps w.agent now draft generated).2
      rw [hnext]
      apply confined_set h
      dsimp only
      rw [hcontent]
      refine ⟨h.frame, h.leads, ?_⟩
      intro d hd
      rw [List.mem_singleton.mp hd]
      refine ⟨hwithin.keepsId, hwithin.leads, Unsaved.within_ofUser ?_⟩
      rw [finishReply_loaded, id_replied]
      exact hdraft
  | pass time => exact ⟨h.frame, h.leads, h.callers⟩

/-- Every run keeps to the slots that its calls are about and those that they lead to. -/
theorem confined_after (agent : Agent σ) (calls : List Call) (run : List (Instant × Move)) :
    let w := (start agent calls).after run
    Confined (fun k => ∃ call ∈ calls, ∃ key, call.Touches key ∧ key.Leads agent.content k)
      agent.content w.agent.content w.callers := by
  intro w
  have hstart : Confined
      (fun k => ∃ call ∈ calls, ∃ key, call.Touches key ∧ key.Leads agent.content k)
      agent.content (start agent calls).agent.content (start agent calls).callers := by
    refine ⟨fun _ _ _ => rfl, fun _ _ hleads => hleads, ?_⟩
    intro c hc
    obtain ⟨call, hcall, rfl⟩ := List.mem_map.mp hc
    refine ⟨call.keepsId_errand _, ?_, ?_⟩
    · intro job hjob k hleads
      exact ⟨call, hcall, job.key, Call.touches_key hjob, hleads⟩
    · show (call.errand agent.store.settings).stage.Within _
      rw [call.stage_errand]
      trivial
  have hrun : ∀ (run : List (Instant × Move)) (v : World σ), Confined
      (fun k => ∃ call ∈ calls, ∃ key, call.Touches key ∧ key.Leads agent.content k)
      agent.content v.agent.content v.callers → Confined
      (fun k => ∃ call ∈ calls, ∃ key, call.Touches key ∧ key.Leads agent.content k)
      agent.content (v.after run).agent.content (v.after run).callers := by
    intro run
    induction run with
    | nil => exact fun _ hv => hv
    | cons m run ih => exact fun v hv => ih (v.move m.1 m.2) (confined_move hv m.1 m.2)
  exact hrun run _ hstart

/-- Where each slot holds a record of its own identifier, if any, calls change no live slot but those of
the records that they are about. -/
theorem own_slots (agent : Agent σ) (calls : List Call) (run : List (Instant × Move))
    (husers : Store.Keyed UserRecord agent.content) (hgroups : Store.Keyed GroupRecord agent.content)
    {slot : Address} (hlive : ∃ kind : RecordKind, slot.space = kind.space)
    (hfree : ∀ call ∈ calls, ∀ key, call.Touches key → slot ≠ key.slot) :
    ((start agent calls).after run).agent.content slot = agent.content slot := by
  apply (confined_after agent calls run).frame slot hlive
  intro k hk
  obtain ⟨call, hcall, key, htouches, hleads⟩ := hk
  rw [husers.leads hgroups hleads]
  exact hfree call hcall key htouches

/-- A write goes to the slot of a record that some call is about, or to where a misplaced record in such
a slot leads. Whatever lies in the slots, and whatever calls happen side by side, no other live slot
changes. -/
theorem writes_stay (agent : Agent σ) (calls : List Call) (run : List (Instant × Move))
    {slot : Address} (hlive : ∃ kind : RecordKind, slot.space = kind.space)
    (hfree : ∀ call ∈ calls, ∀ key k, call.Touches key → key.Leads agent.content k → slot ≠ k.slot) :
    ((start agent calls).after run).agent.content slot = agent.content slot := by
  apply (confined_after agent calls run).frame slot hlive
  intro k hk
  obtain ⟨call, hcall, key, htouches, hleads⟩ := hk
  exact hfree call hcall key k htouches hleads

/-- The record of user 7 in the slot of user 1. -/
def misplaced : Memory :=
  Table.empty.insert (LockKey.slot ⟨.user, 1⟩) (Record.encode sampleUser)

theorem content_misplaced : Faithful.content misplaced = Function.update (fun _ => none)
    (LockKey.slot ⟨.user, 1⟩) (some (Record.encode sampleUser)) :=
  Memory.content_insert Table.empty _ _

/-- A turn of user 1 leaves the slot of user 3 as it was. -/
theorem writes_stay_misplaced :
    ((start (⟨{ slots := misplaced }, {}, {}, {}, {}⟩ : Agent Memory)
      [.message sampleUser.lastInteraction (.ofPrivate 1 "Ada" "hello")]).after
        (List.replicate 5 (sampleUser.lastInteraction, .step 0))).agent.content
          (LockKey.slot ⟨.user, 3⟩) = none := by
  have hother : Faithful.content misplaced (LockKey.slot ⟨.user, 3⟩) = none := by
    rw [content_misplaced]
    exact Function.update_of_ne (by decide) _ _
  rw [← hother]
  apply writes_stay ⟨{ slots := misplaced }, {}, {}, {}, {}⟩ _ _ ⟨.user, rfl⟩
  intro call hcall key k htouches hleads hslot
  obtain rfl := List.mem_singleton.mp hcall
  obtain rfl : key = ⟨.user, 1⟩ := htouches.resolve_right fun h => nomatch h.1
  have hk := LockKey.slot_injective hslot
  subst hk
  rcases hleads with hself | ⟨_, data, hdata, hholds⟩
  · exact nomatch hself
  · have hslot : Faithful.content misplaced (LockKey.slot ⟨.user, 1⟩) = some data := hdata
    rw [content_misplaced, Function.update_self] at hslot
    obtain rfl := Option.some.inj hslot
    have hid := Record.holdsId_encode hholds
    exact absurd hid (by decide)

/-- Updating an identifier whose slot holds the record of another one writes that one's slot. -/
theorem content_update_stray {R : Type} [Record R] [Record.Stable R] {s : Store Memory} {id : Int64}
    {r : R} (h : s.content (Store.address R id) = some (Record.encode r)) (now : Instant) :
    (s.update R now id fun r => (r, ())).2.content (Store.address R (Record.id r)) =
      some (Record.encode r) := by
  have hread : (Backend.read (Store.address R id) s.slots).1 = .ok (some (Record.encode r)) :=
    congrArg Except.ok h
  have hloaded := Store.getOrCreate_found hread (Record.decode_encode now r)
  unfold Store.update
  generalize s.getOrCreate R now id = loading at hloaded
  obtain ⟨loaded, t⟩ := loading
  dsimp only at hloaded
  subst hloaded
  show (t.save (Record.Stable.settled r)).content _ = _
  rcases Store.save_content (Record.Stable.settled r) t with hsaved | ⟨hfails, _⟩
  · rw [hsaved, Record.Stable.id_settled, Record.encode_settled]
    exact Function.update_self ..
  · exact absurd (Store.writes_memory _ t) hfails

/-- Updating the record of user 1, even by a change that changes nothing, writes the record of user 7
that lies there to the slot of user 7. -/
theorem update_escapes :
    ¬ ∀ (s : Store Memory) (now : Instant) (id : Int64) (mutation : Mutation UserRecord)
      (slot : Address), slot.space = RecordKind.user.space → slot ≠ Store.address UserRecord id →
      (s.update UserRecord now id fun r => (mutation.change now r, ())).2.content slot =
        s.content slot := by
  intro hstays
  have hsame := hstays { slots := misplaced } sampleUser.lastInteraction 1
    ⟨fun _ r => r, fun _ _ => rfl⟩ (LockKey.slot ⟨.user, 7⟩) rfl (by decide)
  have hbefore : ({ slots := misplaced } : Store Memory).content (LockKey.slot ⟨.user, 7⟩) =
      none := by
    show Faithful.content misplaced _ = none
    rw [content_misplaced]
    exact Function.update_of_ne (by decide) _ _
  have hslot : ({ slots := misplaced } : Store Memory).content (Store.address UserRecord 1) =
      some (Record.encode sampleUser) := by
    show Faithful.content misplaced (LockKey.slot ⟨.user, 1⟩) = _
    rw [content_misplaced]
    exact Function.update_self ..
  have hafter := content_update_stray hslot sampleUser.lastInteraction
  exact nomatch hafter.symm.trans (hsame.trans hbefore)

end World

end Companion
