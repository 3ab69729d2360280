import Companion.Proofs.Loading
import Companion.Turn.Errand

/-!
What a job makes of its record, told as a function of what lies in the slot. The steps of a job load
the record, change it and save it one at a time; when nobody else touches the slot in between they
come to that function.
-/

namespace Companion

open Number Text Time

/-- The settings that say what becomes of a record. -/
structure Rules where
  records : RecordSettings
  directives : DirectiveSettings
  model : ModelSettings

/-- What a job was given on its way: the time at which it loaded its record, and what the model
said, with the time of that. -/
structure Given where
  opened : Instant
  answer : Option (Instant × Except TurnError String) := none

def learned (directives : List Directive) (user : UserRecord) : UserRecord :=
  directives.foldl (fun user directive =>
    match directive with
    | .update facts => (user.mergeFacts facts).1
    | .remind _ => user) user

def named (event : Event) (loaded : Loaded UserRecord) : Loaded UserRecord :=
  ⟨(loaded.record.syncUsername event.displayName?).1, loaded.state⟩

theorem state_named (event : Event) (loaded : Loaded UserRecord) :
    (named event loaded).state = loaded.state := by
  simp only [named]

/-- What telling a name leaves of a loaded record, where `told` says how a change is left. -/
def nameTold (event : Event) (told : Loaded UserRecord → Unsaved) (loaded : Loaded UserRecord) :
    Unsaved :=
  if (loaded.record.syncUsername event.displayName?).2 || loaded.state.isCreated then
    told (named event loaded)
  else .nothing

namespace Rules

def replied (rules : Rules) (now : Instant) (event : Event) (generated : Except TurnError String)
    (user : UserRecord) : UserRecord :=
  match generated with
  | .ok text =>
    let reply := Reply.parse rules.directives text
    Agent.recordTurn now rules.records.historyCapacity event.text reply.text
      (learned reply.directives user)
  | .error _ =>
    Agent.recordTurn now rules.records.historyCapacity event.text rules.model.fallbackText user

/-- The record of a user as a job loads it from what lies in the slot. -/
def userIn (rules : Rules) (g : Given) (id : Int64) (slot : Option Octets) : Loaded UserRecord :=
  Store.recordIn UserRecord rules.records g.opened id slot

def groupIn (rules : Rules) (g : Given) (id : Int64) (slot : Option Octets) : Loaded GroupRecord :=
  Store.recordIn GroupRecord rules.records g.opened id slot

/-- What a job leaves to be saved, from what lies in the slot of its record. -/
def result (rules : Rules) (g : Given) (slot : Option Octets) : Job → Unsaved
  | .editUser id change => .user (change g.opened (rules.userIn g id slot).record)
  | .editGroup id change => .group (change g.opened (rules.groupIn g id slot).record)
  | .syncName event => nameTold event (fun l => .user l.record) (rules.userIn g event.sender slot)
  | .reply event =>
    match g.answer with
    | some (closed, generated) =>
      .user (rules.replied closed event generated (named event (rules.userIn g event.sender slot)).record)
    | none => .nothing

end Rules

def Unsaved.store (slot : Option Octets) : Unsaved → Option Octets
  | .nothing => slot
  | .user r => some (Record.encode r)
  | .group r => some (Record.encode r)

theorem Unsaved.ofUser_failed (record : UserRecord) {state : LoadState} (h : state = .readFailed) :
    ofUser ⟨record, state⟩ = .nothing := by
  simp [ofUser, h, LoadState.canSave]

theorem Unsaved.ofUser_saved (record : UserRecord) {state : LoadState}
    (h : state.canSave = true) : ofUser ⟨record, state⟩ = .user record := if_pos h

theorem Unsaved.ofGroup_failed (record : GroupRecord) {state : LoadState} (h : state = .readFailed) :
    ofGroup ⟨record, state⟩ = .nothing := by
  simp [ofGroup, h, LoadState.canSave]

theorem Unsaved.ofGroup_saved (record : GroupRecord) {state : LoadState}
    (h : state.canSave = true) : ofGroup ⟨record, state⟩ = .group record := if_pos h

namespace Agent

variable {σ : Type} [Backend σ]

omit [Backend σ] in
def rules (a : Agent σ) : Rules := ⟨a.store.settings, a.directives, a.model⟩

variable [Faithful σ]

def content (a : Agent σ) : SlotContents := a.store.content

structure Keeps (a b : Agent σ) : Prop where
  locks : b.locks = a.locks
  rules : b.rules = a.rules

end Agent

/-! ### Loading -/

section Loading

variable {R : Type} [Record R] [Record.Steady R] {settings : RecordSettings} {now : Instant}
  {id : Int64} {before after : SlotContents} {loaded : Loaded R}

/-- A record stands in for a slot that may hold another one, or it is the one in its slot. -/
theorem Store.Loads.readFailed_or (h : Store.Loads R settings now id before loaded after) :
    loaded.state = .readFailed ∨ loaded.state.canSave = true ∧
      (Record.kind R).Clear (after (Store.address R id)) ∧
      loaded = Store.recordIn R settings now id (after (Store.address R id)) := by
  by_cases hsave : loaded.state.canSave = true
  · exact .inr ⟨hsave, h.clear hsave, (h.eq_recordIn hsave).2⟩
  · cases hstate : loaded.state with
    | readFailed => exact .inl rfl
    | found => simp [hstate, LoadState.canSave] at hsave
    | created => simp [hstate, LoadState.canSave] at hsave

end Loading

/-- What a stage carries was made from what lies in the slot of its job, unless the record could not
be loaded and nothing will be saved. -/
def Stage.Drafted (rules : Rules) (failing : Prop) (slot : Option Octets) (job : Job)
    (given : Option Given) : Stage → Prop
  | .asking _ draft => ∃ event opened, job = .reply event ∧ given = some ⟨opened, none⟩ ∧
      draft.event = event ∧ (failing ∧ draft.loaded.state = .readFailed ∨
        job.key.kind.Clear slot ∧ draft.loaded.state.canSave = true ∧
          draft.loaded = named event (rules.userIn ⟨opened, none⟩ event.sender slot))
  | .changed _ unsaved => ∃ g, given = some g ∧ (∀ event, job = .reply event → g.answer ≠ none) ∧
      (failing ∧ unsaved = .nothing ∨
        job.key.kind.Clear slot ∧ unsaved = rules.result g slot job)
  | _ => True

def Stage.IsOpen (ticket : Nat) : Stage → Prop
  | .asking t _ => t = ticket
  | .changed t _ => t = ticket
  | _ => False

def Job.loadState {σ : Type} [Backend σ] (now : Instant) (a : Agent σ) (job : Job) : LoadState :=
  match job.key.kind with
  | .user => (a.store.getOrCreate UserRecord now job.key.id).1.state
  | .group => (a.store.getOrCreate GroupRecord now job.key.id).1.state

variable {σ : Type} [Backend σ] [Faithful σ]

structure Errand.Started (now : Instant) (ticket : Nat) (job : Job) (failing : Prop) (a : Agent σ)
    (stage : Stage) (b : Agent σ) : Prop where
  keeps : a.Keeps b
  visited : job.key.Visited a.content b.content
  isOpen : stage.IsOpen ticket
  drafted : stage.Drafted a.rules failing (b.content job.key.slot) job (some ⟨now, none⟩)

open Errand

variable {now : Instant} {ticket : Nat} {a : Agent σ} {failing : Prop}

theorem started_editUser {id : Int64} {change : Instant → UserRecord → UserRecord}
    (hload : failing ∨ (Job.editUser id change).loadState now a ≠ .readFailed) :
    Started now ticket (.editUser id change) failing a (start now ticket (.editUser id change) a).1
      (start now ticket (.editUser id change) a).2 := by
  obtain ⟨hloads, hsettings⟩ := Store.getOrCreate_loads UserRecord now id a.store
  have hstart : start now ticket (.editUser id change) a =
      (.changed ticket (.ofUser ⟨change now (a.store.getOrCreate UserRecord now id).1.record,
        (a.store.getOrCreate UserRecord now id).1.state⟩),
        { a with store := (a.store.getOrCreate UserRecord now id).2 }) := rfl
  have hstate : (Job.editUser id change).loadState now a =
    (a.store.getOrCreate UserRecord now id).1.state := rfl
  rw [hstate] at hload
  rw [hstart]
  generalize a.store.getOrCreate UserRecord now id = r at hloads hsettings hload
  obtain ⟨loaded, store⟩ := r
  refine ⟨⟨rfl, congrArg (Rules.mk · a.directives a.model) hsettings⟩, hloads.visited, rfl,
    ⟨now, none⟩, rfl, fun event h => (nomatch h), ?_⟩
  rcases hloads.readFailed_or with hfailed | ⟨hsave, hclear, heq⟩
  · exact .inl ⟨hload.resolve_right (absurd hfailed), Unsaved.ofUser_failed _ hfailed⟩
  · refine .inr ⟨hclear, (Unsaved.ofUser_saved _ hsave).trans ?_⟩
    exact congrArg (fun l => Unsaved.user (change now l.record)) heq

theorem started_editGroup {id : Int64} {change : Instant → GroupRecord → GroupRecord}
    (hload : failing ∨ (Job.editGroup id change).loadState now a ≠ .readFailed) :
    Started now ticket (.editGroup id change) failing a
      (start now ticket (.editGroup id change) a).1
      (start now ticket (.editGroup id change) a).2 := by
  obtain ⟨hloads, hsettings⟩ := Store.getOrCreate_loads GroupRecord now id a.store
  have hstart : start now ticket (.editGroup id change) a =
      (.changed ticket (.ofGroup ⟨change now (a.store.getOrCreate GroupRecord now id).1.record,
        (a.store.getOrCreate GroupRecord now id).1.state⟩),
        { a with store := (a.store.getOrCreate GroupRecord now id).2 }) := rfl
  have hstate : (Job.editGroup id change).loadState now a =
    (a.store.getOrCreate GroupRecord now id).1.state := rfl
  rw [hstate] at hload
  rw [hstart]
  generalize a.store.getOrCreate GroupRecord now id = r at hloads hsettings hload
  obtain ⟨loaded, store⟩ := r
  refine ⟨⟨rfl, congrArg (Rules.mk · a.directives a.model) hsettings⟩, hloads.visited, rfl,
    ⟨now, none⟩, rfl, fun event h => (nomatch h), ?_⟩
  rcases hloads.readFailed_or with hfailed | ⟨hsave, hclear, heq⟩
  · exact .inl ⟨hload.resolve_right (absurd hfailed), Unsaved.ofGroup_failed _ hfailed⟩
  · refine .inr ⟨hclear, (Unsaved.ofGroup_saved _ hsave).trans ?_⟩
    exact congrArg (fun l => Unsaved.group (change now l.record)) heq

theorem started_syncName {event : Event}
    (hload : failing ∨ (Job.syncName event).loadState now a ≠ .readFailed) :
    Started now ticket (.syncName event) failing a (start now ticket (.syncName event) a).1
      (start now ticket (.syncName event) a).2 := by
  obtain ⟨hloads, hsettings⟩ := Store.getOrCreate_loads UserRecord now event.sender a.store
  have hstart : start now ticket (.syncName event) a = (.changed ticket
      (nameTold event .ofUser (a.store.getOrCreate UserRecord now event.sender).1),
        { a with store := (a.store.getOrCreate UserRecord now event.sender).2 }) := by
    simp only [start, nameSender, nameTold, named]
  have hstate : (Job.syncName event).loadState now a =
    (a.store.getOrCreate UserRecord now event.sender).1.state := rfl
  rw [hstate] at hload
  rw [hstart]
  generalize a.store.getOrCreate UserRecord now event.sender = r at hloads hsettings hload
  obtain ⟨loaded, store⟩ := r
  refine ⟨⟨rfl, congrArg (Rules.mk · a.directives a.model) hsettings⟩, hloads.visited, rfl,
    ⟨now, none⟩, rfl, fun event h => (nomatch h), ?_⟩
  rcases hloads.readFailed_or with hfailed | ⟨hsave, hclear, heq⟩
  · refine .inl ⟨hload.resolve_right (absurd hfailed), ?_⟩
    simp only [nameTold, named, Unsaved.ofUser_failed _ hfailed, ite_self]
  · have htold : nameTold event .ofUser loaded =
        nameTold event (fun l => .user l.record) loaded := by
      simp only [nameTold, named, Unsaved.ofUser_saved _ hsave]
    exact .inr ⟨hclear, htold.trans (congrArg (nameTold event fun l => .user l.record) heq)⟩

theorem started_reply {event : Event}
    (hload : failing ∨ (Job.reply event).loadState now a ≠ .readFailed) :
    Started now ticket (.reply event) failing a (start now ticket (.reply event) a).1
      (start now ticket (.reply event) a).2 := by
  obtain ⟨hloads, hsettings⟩ := Store.getOrCreate_loads UserRecord now event.sender a.store
  have hstart : start now ticket (.reply event) a =
      (.asking ticket (a.beginReply now event).1, (a.beginReply now event).2) := by
    simp only [start]
  have hloaded : (a.beginReply now event).1.loaded =
      named event (a.store.getOrCreate UserRecord now event.sender).1 := by
    simp only [Agent.beginReply, Agent.loadSender, named]
  have hafter : (a.beginReply now event).2 = { a with store := (Names.resolve event.sender now
      (Names.mentions event.text) (a.store.getOrCreate UserRecord now event.sender).2).2 } := by
    simp only [Agent.beginReply, Agent.loadSender, Agent.mentioned]
  have hstate : (Job.reply event).loadState now a =
    (a.store.getOrCreate UserRecord now event.sender).1.state := rfl
  obtain ⟨hnames, hkept⟩ := Names.resolve_content event.sender now (Names.mentions event.text)
    (a.store.getOrCreate UserRecord now event.sender).2
  have hevent : (a.beginReply now event).1.event = event := by
    simp only [Agent.beginReply]
  rw [hstate] at hload
  rw [hstart]
  generalize a.beginReply now event = begun at hloaded hafter hevent
  obtain ⟨draft, b⟩ := begun
  dsimp only at hloaded hafter hevent ⊢
  subst hafter
  rw [← hnames] at hloads
  generalize (Names.resolve event.sender now (Names.mentions event.text)
    (a.store.getOrCreate UserRecord now event.sender).2).2 = store at hloads hkept hnames
  generalize a.store.getOrCreate UserRecord now event.sender = r at *
  obtain ⟨loaded, _⟩ := r
  refine ⟨⟨rfl, congrArg (Rules.mk · a.directives a.model) (hkept.trans hsettings)⟩,
    hloads.visited, rfl, event, now, rfl, rfl, hevent, ?_⟩
  rcases hloads.readFailed_or with hfailed | ⟨hsave, hclear, heq⟩
  · refine .inl ⟨hload.resolve_right (absurd hfailed), ?_⟩
    rw [hloaded, state_named]
    exact hfailed
  · refine .inr ⟨hclear, ?_, hloaded.trans (congrArg (named event) heq)⟩
    rw [hloaded, state_named]
    exact hsave

/-- Starting a job visits the slot of its record and drafts from what it finds there. -/
theorem started_start (job : Job) (hload : failing ∨ job.loadState now a ≠ .readFailed) :
    Started now ticket job failing a (start now ticket job a).1 (start now ticket job a).2 := by
  cases job with
  | editUser id change => exact started_editUser hload
  | editGroup id change => exact started_editGroup hload
  | syncName event => exact started_syncName hload
  | reply event => exact started_reply hload

/-! ### Answering -/

omit [Backend σ] [Faithful σ] in
theorem foldl_carryOut_record (settings : DirectiveSettings) (chat : Int64)
    (directives : List Directive) (e : Effects) :
    (directives.foldl (Effects.carryOut settings chat now) e).record =
      learned directives e.record := by
  induction directives generalizing e with
  | nil => rfl
  | cons directive directives ih =>
    rw [List.foldl_cons, ih]
    cases directive <;> rfl

omit [Backend σ] [Faithful σ] in
/-- A turn from the answer of the model on makes of the record what its rules say. -/
theorem finishReply_loaded (draft : Draft) (generated : Except TurnError String) :
    (a.finishReply now draft generated).1.1 =
      ⟨a.rules.replied now draft.event generated draft.loaded.record, draft.loaded.state⟩ := by
  cases generated with
  | error e => simp only [Agent.finishReply, Rules.replied, Agent.rules]
  | ok text =>
    simp only [Agent.finishReply, applyReply, foldl_carryOut_record, Rules.replied, Agent.rules]

/-- What answering the question of a job comes to. -/
theorem finishReply_keeps (a : Agent σ) (now : Instant) (draft : Draft)
    (generated : Except TurnError String) :
    a.Keeps (a.finishReply now draft generated).2 ∧
      (a.finishReply now draft generated).2.content = a.content := by
  cases generated with
  | error e => exact ⟨⟨rfl, rfl⟩, rfl⟩
  | ok text =>
    simp only [Agent.finishReply]
    exact ⟨⟨rfl, rfl⟩, rfl⟩

omit [Backend σ] [Faithful σ] in
theorem Stage.Drafted.answered {rules : Rules} {slot : Option Octets} {job : Job}
    {given : Option Given} {draft : Draft} (h : (Stage.asking ticket draft).Drafted rules failing
      slot job given) (now : Instant) (hrules : a.rules = rules)
    (generated : Except TurnError String) :
    (Stage.changed ticket (.ofUser (a.finishReply now draft generated).1.1)).Drafted rules failing
      slot job (given.map fun g => { g with answer := some (now, generated) }) := by
  obtain ⟨event, opened, rfl, rfl, rfl, hcases⟩ := h
  refine ⟨⟨opened, some (now, generated)⟩, rfl, fun _ _ => nofun, ?_⟩
  rw [finishReply_loaded, hrules]
  rcases hcases with ⟨hfailing, hstate⟩ | ⟨hclear, hsave, hloaded⟩
  · exact .inl ⟨hfailing, Unsaved.ofUser_failed _ hstate⟩
  · refine .inr ⟨hclear, (Unsaved.ofUser_saved _ hsave).trans ?_⟩
    rw [hloaded]
    rfl

/-! ### Saving -/

def Job.KeepsId : Job → Prop
  | .editUser _ change => ∀ now r, (change now r).id = r.id
  | .editGroup _ change => ∀ now r, (change now r).id = r.id
  | .syncName _ => True
  | .reply _ => True

def Unsaved.IsFor (key : LockKey) : Unsaved → Prop
  | .nothing => True
  | .user r => key = ⟨.user, r.id⟩
  | .group r => key = ⟨.group, r.id⟩

theorem id_syncUsername (r : UserRecord) (name : Option String) :
    (r.syncUsername name).1.id = r.id := by
  unfold UserRecord.syncUsername
  split
  · rfl
  · split <;> rfl

theorem id_learned (directives : List Directive) (r : UserRecord) :
    (learned directives r).id = r.id := by
  induction directives generalizing r with
  | nil => rfl
  | cons directive directives ih =>
    have hfold : learned (directive :: directives) r = learned directives
      (match directive with
      | .update facts => (r.mergeFacts facts).1
      | .remind _ => r) := rfl
    rw [hfold, ih]
    cases directive <;> rfl

theorem id_recordTurn (capacity : Nat) (text visible : String) (r : UserRecord) :
    (Agent.recordTurn now capacity text visible r).id = r.id := by
  simp only [Agent.recordTurn, UserRecord.touch]
  split <;> rfl

theorem id_replied (rules : Rules) (event : Event) (generated : Except TurnError String)
    (r : UserRecord) : (rules.replied now event generated r).id = r.id := by
  cases generated with
  | error e => exact id_recordTurn _ _ _ _
  | ok text => exact (id_recordTurn _ _ _ _).trans (id_learned _ _)

/-- What a job leaves to be saved goes to the slot of its record. -/
theorem result_isFor {c : SlotContents} (husers : Store.Keyed UserRecord c)
    (hgroups : Store.Keyed GroupRecord c) (rules : Rules) (g : Given) {job : Job}
    (hkeeps : job.KeepsId) : (rules.result g (c job.key.slot) job).IsFor job.key := by
  cases job with
  | editUser id change =>
    have hid := husers.id_recordIn rules.records g.opened id
    exact congrArg (LockKey.mk .user) ((hkeeps _ _).trans hid).symm
  | editGroup id change =>
    have hid := hgroups.id_recordIn rules.records g.opened id
    exact congrArg (LockKey.mk .group) ((hkeeps _ _).trans hid).symm
  | syncName event =>
    have hid := husers.id_recordIn rules.records g.opened event.sender
    simp only [Rules.result, nameTold]
    split
    · rw [Unsaved.IsFor, named, id_syncUsername]
      exact congrArg (LockKey.mk .user) hid.symm
    · trivial
  | reply event =>
    have hid := husers.id_recordIn rules.records g.opened event.sender
    simp only [Rules.result]
    split
    · rw [Unsaved.IsFor, id_replied, named, id_syncUsername]
      exact congrArg (LockKey.mk .user) hid.symm
    · trivial

def Unsaved.Saves (a : Agent σ) : Unsaved → Prop
  | .nothing => True
  | .user r => a.store.Writes r
  | .group r => a.store.Writes r

omit [Faithful σ] in
theorem save_keeps (unsaved : Unsaved) : a.Keeps (Errand.save unsaved a) := by
  cases unsaved with
  | nothing => exact ⟨rfl, rfl⟩
  | user r =>
    exact ⟨rfl, congrArg (Rules.mk · a.directives a.model) (Store.settings_save r a.store)⟩
  | group r =>
    exact ⟨rfl, congrArg (Rules.mk · a.directives a.model) (Store.settings_save r a.store)⟩

/-- Saving what a job left stores it in the slot of the record, or a write failed and nothing
happened. -/
theorem save_cases {key : LockKey} {unsaved : Unsaved} (hfor : unsaved.IsFor key) :
    unsaved.Saves a ∧ (Errand.save unsaved a).content =
      Function.update a.content key.slot (unsaved.store (a.content key.slot)) ∨
    ¬ unsaved.Saves a ∧ (Errand.save unsaved a).content = a.content := by
  cases unsaved with
  | nothing => exact .inl ⟨trivial, (Function.update_eq_self _ _).symm⟩
  | user r =>
    subst hfor
    exact Store.save_cases r a.store
  | group r =>
    subst hfor
    exact Store.save_cases r a.store

theorem save_content {key : LockKey} {unsaved : Unsaved} (hfor : unsaved.IsFor key) :
    (Errand.save unsaved a).content =
      Function.update a.content key.slot (unsaved.store (a.content key.slot)) ∨
    ¬ unsaved.Saves a ∧ (Errand.save unsaved a).content = a.content :=
  (save_cases hfor).imp And.right id

/-- Saved records have the identifiers of their slots. -/
theorem keyed_saved {c : SlotContents} (husers : Store.Keyed UserRecord c)
    (hgroups : Store.Keyed GroupRecord c) {key : LockKey} {unsaved : Unsaved}
    (hfor : unsaved.IsFor key) :
    Store.Keyed UserRecord (Function.update c key.slot (unsaved.store (c key.slot))) ∧
      Store.Keyed GroupRecord (Function.update c key.slot (unsaved.store (c key.slot))) := by
  cases unsaved with
  | nothing =>
    rw [Unsaved.store, Function.update_eq_self]
    exact ⟨husers, hgroups⟩
  | user r =>
    subst hfor
    exact ⟨husers.saved r, hgroups.of_other (by nofun) _⟩
  | group r =>
    subst hfor
    exact ⟨husers.of_other (by nofun) _, hgroups.saved r⟩

end Companion
