import Companion.Proofs.ResemblingStores
import Companion.Proofs.WholeTurns

/-!
Turns of agents that look the same to one user. Each thing that a turn of that user does goes the same
way on both sides, but for times: it tells the model the same, takes the same from what the model says,
and leaves the same record to be saved. Of the records of others it tells what is known about the one
who is mentioned, and nothing else.
-/

namespace Companion

open Number Text Time Json

/-! ### Records -/

/-- The newest of some items show the same if the items do. -/
theorem Rolling.map_newest {α β : Type} (f : α → β) (n : Nat) {xs ys : List α}
    (h : xs.map f = ys.map f) : (newest n xs).map f = (newest n ys).map f := by
  have hlength : xs.length = ys.length := by
    simpa only [List.length_map] using congrArg List.length h
  rw [newest, newest, List.map_drop, List.map_drop, h, hlength]

namespace UserRecord.Alike

variable {r r' : UserRecord}

theorem syncUsername (h : r.Alike r') (name : Option String) :
    (r.syncUsername name).1.Alike (r'.syncUsername name).1 ∧
      (r.syncUsername name).2 = (r'.syncUsername name).2 := by
  unfold UserRecord.syncUsername
  rw [h.username]
  split
  · exact ⟨h, rfl⟩
  · split
    · exact ⟨h, rfl⟩
    · exact ⟨⟨h.id, rfl, h.language, h.facts, h.lines⟩, rfl⟩

theorem learned (h : r.Alike r') (directives : List Directive) :
    (Companion.learned directives r).Alike (Companion.learned directives r') := by
  rw [learned_eq, learned_eq, h.facts]
  exact ⟨h.id, h.username, h.language, rfl, h.lines⟩

theorem recordTurn (h : r.Alike r') (now now' : Instant) (capacity : Nat) (text shown : String) :
    (Agent.recordTurn now capacity text shown r).Alike
      (Agent.recordTurn now' capacity text shown r') := by
  have hexchange : (exchange now text shown).map HistoryEntry.line =
      (exchange now' text shown).map HistoryEntry.line := by
    unfold exchange
    split <;> rfl
  have hlines : (r.history ++ exchange now text shown).map HistoryEntry.line =
      (r'.history ++ exchange now' text shown).map HistoryEntry.line := by
    rw [List.map_append, List.map_append, h.lines, hexchange]
  rw [recordTurn_eq, recordTurn_eq]
  exact ⟨h.id, h.username, h.language, h.facts, Rolling.map_newest _ capacity hlines⟩

theorem replied (h : r.Alike r') (rules : Rules) (now now' : Instant) (event : Event)
    (generated : Except TurnError String) :
    (rules.replied now event generated r).Alike (rules.replied now' event generated r') := by
  cases generated with
  | ok text => exact (h.learned _).recordTurn now now' _ _ _
  | error e => exact h.recordTurn now now' _ _ _

end UserRecord.Alike

/-- A loaded record takes on the name that an event tells. -/
theorem Loaded.Alike.named {l l' : Loaded UserRecord} (h : l.Alike l') (event : Event) :
    (Companion.named event l).Alike (Companion.named event l') := by
  obtain ⟨hrecord, -⟩ := h.record.syncUsername event.displayName?
  refine ⟨hrecord, ?_⟩
  rw [state_named, state_named, h.state]

/-! ### What a turn carries -/

/-- What a reminder is about, its number and its delay: all of it but the time of day. -/
def ScheduledReminder.untimed (s : ScheduledReminder) : Reminder × UInt64 × Nat :=
  (s.reminder, s.receipt.id, s.receipt.delay)

/-- Outcomes that differ in nothing but times of day. -/
structure Outcome.Alike (o o' : Outcome) : Prop where
  reply : o.reply = o'.reply
  reminders : o.reminders.map ScheduledReminder.untimed = o'.reminders.map ScheduledReminder.untimed
  dropped : o.dropped = o'.dropped
  fallback : o.fallback = o'.fallback

/-- Turns that wait for the model with the same question. -/
structure Draft.Alike (d d' : Draft) : Prop where
  event : d.event = d'.event
  loaded : d.loaded.Alike d'.loaded
  context : d.context = d'.context

def Unsaved.user? : Unsaved → Option UserRecord
  | .user record => some record
  | _ => none

theorem Unsaved.eq_user {u : Unsaved} {r : UserRecord} (h : u.user? = some r) : u = .user r := by
  cases u with
  | user s => rw [Option.some.inj h]
  | nothing => cases h
  | group g => cases h

/-- What is to be saved of users differs in nothing but times. -/
def Unsaved.Alike (u u' : Unsaved) : Prop := Option.Rel UserRecord.Alike u.user? u'.user?

/-- How far jobs have come that do the same. -/
inductive Stage.Alike : Stage → Stage → Prop
  | ready : Alike .ready .ready
  | waiting (ticket : Nat) : Alike (.waiting ticket) (.waiting ticket)
  | holding (ticket : Nat) : Alike (.holding ticket) (.holding ticket)
  | asking (ticket : Nat) {d d' : Draft} (hdraft : d.Alike d') :
      Alike (.asking ticket d) (.asking ticket d')
  | changed (ticket : Nat) {u u' : Unsaved} (hunsaved : u.Alike u') :
      Alike (.changed ticket u) (.changed ticket u')
  | saved (ticket : Nat) : Alike (.saved ticket) (.saved ticket)

/-- Jobs of one event that do the same to users. -/
inductive Job.Alike (event : Event) : Job → Job → Prop
  | group (id : Int64) (change change' : Instant → GroupRecord → GroupRecord) :
      Alike event (.editGroup id change) (.editGroup id change')
  | syncName : Alike event (.syncName event) (.syncName event)
  | reply : Alike event (.reply event) (.reply event)

theorem Job.Alike.key {event : Event} {job job' : Job} (h : job.Alike event job') :
    job.key = job'.key := by
  cases h <;> rfl

structure Errand.Alike (event : Event) (t t' : Errand) : Prop where
  jobs : List.Forall₂ (Job.Alike event) t.jobs t'.jobs
  stage : t.stage.Alike t'.stage
  outcome : t.outcome.Alike t'.outcome

theorem Unsaved.Alike.ofUser {l l' : Loaded UserRecord} (h : l.Alike l') :
    (Unsaved.ofUser l).Alike (Unsaved.ofUser l') := by
  unfold Unsaved.ofUser
  rw [← h.state]
  split
  · exact .some h.record
  · exact .none

theorem Unsaved.user?_ofGroup (l : Loaded GroupRecord) : (Unsaved.ofGroup l).user? = none := by
  unfold Unsaved.ofGroup
  split <;> rfl

/-! ### Agents -/

/-- Agents that look the same to one user, to whom their stores look the same. -/
structure Agent.Resembles (asker : Int64) (hidden : String → Prop) (paired : Instant → Instant → Prop)
    (a b : Agent Medium) : Prop where
  store : a.store.Resembles asker hidden paired b.store
  locks : b.locks = a.locks
  schedule : b.schedule = a.schedule
  directives : b.directives = a.directives
  model : b.model = a.model

namespace Agent

/-- The slot of the first user other than the sender whom an event mentions, with its record. -/
def consults? (now : Instant) (event : Event) (a : Agent Medium) : Option (String × UserRecord) :=
  Names.firstHolder event.sender now (a.store.getOrCreate UserRecord now event.sender).2.users
    (Names.mentions event.text)

theorem mentioned_eq (now : Instant) (event : Event) (a : Agent Medium) :
    a.mentioned now event =
      ((Names.firstHolder event.sender now a.store.users (Names.mentions event.text)).map Prod.snd,
        a) := by
  rw [mentioned, Names.resolve_eq]

/-- A turn tells what it knows about the user in that slot, and about no one else. -/
theorem beginReply_eq (now : Instant) (event : Event) (a : Agent Medium) :
    a.beginReply now event =
      (⟨event, (a.loadSender now event).1, (a.loadSender now event).2.contextOf event
        (a.loadSender now event).1.record ((a.consults? now event).map Prod.snd)⟩,
        (a.loadSender now event).2) := by
  simp only [beginReply, mentioned_eq]
  rfl

namespace Resembles

variable {event : Event} {hidden : String → Prop} {paired : Instant → Instant → Prop}
  {a b : Agent Medium} {now now' : Instant}

/-- An agent looks like itself at the same times, to anyone. -/
theorem refl (asker : Int64) (hidden : String → Prop) (a : Agent Medium) :
    a.Resembles asker hidden Eq a where
  store := by
    refine ⟨rfl, rfl, .refl asker hidden a.store.content, .inr (.inr ?_)⟩
    rintro now _ rfl
    exact Iff.rfl
  locks := rfl
  schedule := rfl
  directives := rfl
  model := rfl

theorem rules (h : a.Resembles event.sender hidden paired b) : b.rules = a.rules := by
  rw [Agent.rules, Agent.rules, h.store.settings, h.directives, h.model]

theorem of_store (h : a.Resembles event.sender hidden paired b) {s t : Store Medium}
    (hstore : s.Resembles event.sender hidden paired t) :
    ({ a with store := s } : Agent Medium).Resembles event.sender hidden paired { b with store := t } :=
  ⟨hstore, h.locks, h.schedule, h.directives, h.model⟩

/-- Counters do not show. -/
theorem counted (h : a.Resembles event.sender hidden paired b) (k k' : Counters) :
    ({ a.store with counters := k } : Store Medium).Resembles event.sender hidden paired
      { b.store with counters := k' } :=
  ⟨h.store.kind, h.store.settings, h.store.slots, h.store.places⟩

theorem loadSender (h : a.Resembles event.sender hidden paired b) (hpaired : paired now now') :
    (a.loadSender now event).1.Alike (b.loadSender now' event).1 ∧
      (a.loadSender now event).2.Resembles event.sender hidden paired (b.loadSender now' event).2 := by
  obtain ⟨hloaded, hstore⟩ := h.store.getOrCreate hpaired
  exact ⟨hloaded.named event, h.of_store hstore⟩

/-- The model is told the same where the slot of the user who is mentioned is not hidden. -/
theorem beginReply (h : a.Resembles event.sender hidden paired b) (hpaired : paired now now')
    (hopen : ∀ e, a.consults? now event = some e → ¬ hidden e.1) :
    (a.beginReply now event).1.Alike (b.beginReply now' event).1 ∧
      (a.beginReply now event).2.Resembles event.sender hidden paired (b.beginReply now' event).2 := by
  obtain ⟨hloaded, hafter⟩ := h.loadSender hpaired
  have hother : Option.Rel (Names.Resembling hidden) (a.consults? now event) (b.consults? now' event) :=
    hafter.store.firstHolder now now' (Names.mentions event.text)
  rw [beginReply_eq, beginReply_eq]
  generalize a.consults? now event = other at hopen hother ⊢
  generalize b.consults? now' event = other' at hother ⊢
  have htold : (other.map Prod.snd).map OtherUser.ofRecord =
      (other'.map Prod.snd).map OtherUser.ofRecord := by
    cases hother with
    | none => rfl
    | @some e e' he => exact congrArg some (he.2.otherUser (hopen e rfl))
  refine ⟨⟨rfl, hloaded, ?_⟩, hafter⟩
  have hlines := Rolling.map_newest HistoryEntry.line
    (a.loadSender now event).2.store.settings.promptHistory hloaded.record.lines
  dsimp only [contextOf, Context.ofRecords, UserRecord.recentHistory]
  rw [hafter.store.settings, hafter.model, hlines, htold, hloaded.record.username,
    hloaded.record.language, hloaded.record.facts]

/-- What waits in a schedule does not depend on the time of day. -/
theorem add_alike (s : Schedule Delivery) (now now' : Instant) (delay : Nat) (action : Delivery) :
    (s.add now delay action).2 = (s.add now' delay action).2 ∧
      (s.add now delay action).1.id = (s.add now' delay action).1.id ∧
      (s.add now delay action).1.delay = (s.add now' delay action).1.delay := by
  simp only [Schedule.add, and_self]

/-- What carrying out directives schedules does not depend on the time of day, or on the record. -/
theorem foldl_carryOut_alike (settings : DirectiveSettings) (chat : Int64) (now now' : Instant)
    (directives : List Directive) (e e' : Effects) (hschedule : e'.schedule = e.schedule)
    (hreminders : e.reminders.map ScheduledReminder.untimed =
      e'.reminders.map ScheduledReminder.untimed) :
    (directives.foldl (Effects.carryOut settings chat now') e').schedule =
        (directives.foldl (Effects.carryOut settings chat now) e).schedule ∧
      (directives.foldl (Effects.carryOut settings chat now) e).reminders.map
          ScheduledReminder.untimed =
        (directives.foldl (Effects.carryOut settings chat now') e').reminders.map
          ScheduledReminder.untimed := by
  induction directives generalizing e e' with
  | nil => exact ⟨hschedule, hreminders⟩
  | cons directive directives ih =>
    rw [List.foldl_cons, List.foldl_cons]
    cases directive with
    | update facts => exact ih _ _ hschedule hreminders
    | remind reminder =>
      obtain ⟨hafter, hid, hdelay⟩ := add_alike e.schedule now now' reminder.delay
        ⟨chat, settings.reminderStart ++ reminder.text⟩
      apply ih
      · simp only [Effects.carryOut, hschedule, hafter]
      · simp only [Effects.carryOut, List.map_append, hreminders, hschedule, List.map_cons,
          List.map_nil, ScheduledReminder.untimed, hid, hdelay]

/-- What comes of an answer is the same. -/
theorem finishReply (h : a.Resembles event.sender hidden paired b) {draft draft' : Draft}
    (hdraft : draft.Alike draft') (now now' : Instant) (generated : Except TurnError String) :
    (a.finishReply now draft generated).1.1.Alike (b.finishReply now' draft' generated).1.1 ∧
      (a.finishReply now draft generated).1.2.Alike (b.finishReply now' draft' generated).1.2 ∧
      (a.finishReply now draft generated).2.Resembles event.sender hidden paired
        (b.finishReply now' draft' generated).2 := by
  refine ⟨?_, ?_⟩
  · rw [finishReply_loaded, finishReply_loaded, h.rules, ← hdraft.event]
    exact ⟨hdraft.loaded.record.replied a.rules now now' draft.event generated, hdraft.loaded.state⟩
  · cases generated with
    | error e =>
      dsimp only [Agent.finishReply]
      rw [h.model]
      exact ⟨⟨rfl, rfl, rfl, rfl⟩, h.counted _ _, h.locks, h.schedule, h.directives, rfl⟩
    | ok text =>
      obtain ⟨hschedule, hreminders⟩ := foldl_carryOut_alike a.directives draft.event.chat now now'
        (Reply.parse a.directives text).directives
        ⟨draft.loaded.record, a.schedule, a.store.counters.add
          (.ofNat (Reply.parse a.directives text).dropped.length) .directivesDropped, 0, []⟩
        ⟨draft'.loaded.record, b.schedule, b.store.counters.add
          (.ofNat (Reply.parse a.directives text).dropped.length) .directivesDropped, 0, []⟩
        h.schedule rfl
      dsimp only [Agent.finishReply, applyReply]
      rw [← hdraft.event, h.directives]
      exact ⟨⟨rfl, hreminders, rfl, rfl⟩, h.counted _ _, h.locks, hschedule, rfl, h.model⟩

/-- A record that is not of a user is saved, and nothing of it shows. -/
theorem save_other (h : a.Resembles event.sender hidden paired b) {u u' : Unsaved} (hu : u.user? = none)
    (hu' : u'.user? = none) :
    (Errand.save u a).Resembles event.sender hidden paired (Errand.save u' b) := by
  have hsame : ∀ (v : Unsaved) (c : Agent Medium), v.user? = none →
      ∃ store, Errand.save v c = { c with store } ∧ c.store.SameUsers store := by
    intro v c hv
    cases v with
    | nothing => exact ⟨c.store, rfl, rfl, rfl, fun _ _ => rfl⟩
    | user r => cases hv
    | group g => exact ⟨c.store.save g, rfl, Store.sameUsers_save g c.store⟩
  obtain ⟨s, hs, hleft⟩ := hsame u a hu
  obtain ⟨t, ht, hright⟩ := hsame u' b hu'
  rw [hs, ht]
  exact h.of_store (h.store.of_same hleft hright)

theorem save (h : a.Resembles event.sender hidden paired b) {u u' : Unsaved} (hunsaved : u.Alike u') :
    (Errand.save u a).Resembles event.sender hidden paired (Errand.save u' b) := by
  unfold Unsaved.Alike at hunsaved
  cases hu : u.user? with
  | none =>
    cases hu' : u'.user? with
    | none => exact h.save_other hu hu'
    | some r' =>
      rw [hu, hu'] at hunsaved
      cases hunsaved
  | some r =>
    cases hu' : u'.user? with
    | none =>
      rw [hu, hu'] at hunsaved
      cases hunsaved
    | some r' =>
      rw [hu, hu'] at hunsaved
      obtain rfl := Unsaved.eq_user hu
      obtain rfl := Unsaved.eq_user hu'
      cases hunsaved with
      | some hr => exact h.of_store (h.store.save hr)

/-- The name that an event tells is taken on, or not, on both sides. -/
theorem nameSender (h : a.Resembles event.sender hidden paired b) (hpaired : paired now now') :
    (Errand.nameSender now event a).1.Alike (Errand.nameSender now' event b).1 ∧
      (Errand.nameSender now event a).2.Resembles event.sender hidden paired
        (Errand.nameSender now' event b).2 := by
  obtain ⟨hloaded, hstore⟩ := h.store.getOrCreate hpaired
  obtain ⟨hrecord, hchanged⟩ := hloaded.record.syncUsername event.displayName?
  simp only [Errand.nameSender]
  rw [← hchanged, ← hloaded.state]
  refine ⟨?_, h.of_store hstore⟩
  split
  · exact .ofUser ⟨hrecord, rfl⟩
  · exact .none

/-- A job that holds its lock does the same on both sides. -/
theorem start (h : a.Resembles event.sender hidden paired b) (hpaired : paired now now')
    {job job' : Job} (hjob : job.Alike event job') (ticket : Nat)
    (hopen : job = .reply event → ∀ e, a.consults? now event = some e → ¬ hidden e.1) :
    (Errand.start now ticket job a).1.Alike (Errand.start now' ticket job' b).1 ∧
      (Errand.start now ticket job a).2.Resembles event.sender hidden paired
        (Errand.start now' ticket job' b).2 := by
  cases hjob with
  | group id change change' =>
    have hstore := h.store.of_same (Store.sameUsers_getOrCreate now id a.store)
      (Store.sameUsers_getOrCreate now' id b.store)
    simp only [Errand.start]
    refine ⟨.changed ticket ?_, h.of_store hstore⟩
    unfold Unsaved.Alike
    rw [Unsaved.user?_ofGroup, Unsaved.user?_ofGroup]
    exact .none
  | syncName =>
    obtain ⟨hunsaved, hafter⟩ := h.nameSender hpaired
    simp only [Errand.start]
    exact ⟨.changed ticket hunsaved, hafter⟩
  | reply =>
    obtain ⟨hdraft, hafter⟩ := h.beginReply hpaired (hopen rfl)
    simp only [Errand.start]
    exact ⟨.asking ticket hdraft, hafter⟩

end Resembles

end Agent

end Companion
