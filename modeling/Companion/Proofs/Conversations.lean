import Companion.Proofs.Arrivals
import Companion.Proofs.WholeTurns

/-!
Stored conversations. Whatever runs side by side and whatever fails, what lies in the slot of a user is
a record whose history is the end of what was said in the turns of that user that were kept, and what
lies in the slot of a group is a record whose messages are the end of those of that group that were
kept.
-/

namespace Companion

open Number Text Time Json

/-! ### What is said and told -/

/-- What a kept turn adds to a history: the text of the user, and the reply that was shown, if there is
one. -/
def Kept.said (k : Kept) : List HistoryEntry :=
  match k.arrival.job, k.given.answer with
  | .reply event, some (closed, _) =>
    ⟨.user, event.text, closed⟩ :: (k.reply.map fun text => ⟨.assistant, text, closed⟩).toList
  | _, _ => []

def Call.message? (chat : Int64) : Call → Option GroupMessage
  | .message now event =>
    if event.kind = .group ∧ event.chat = chat then some ⟨event.label, event.text, now⟩ else none
  | _ => none

def Kept.message? (calls : List Call) (chat : Int64) (k : Kept) : Option GroupMessage :=
  (calls[k.arrival.caller]?).bind (·.message? chat)

def Call.IsFromChat : Call → Prop
  | .message _ _ => True
  | .added _ _ => True
  | _ => False

/-- All that a call from a chat can have to do: to put its message into the record of its group, to
bring the record of a group up to date, or to change the record of the sender. -/
theorem Call.IsFromChat.job_cases {call : Call} (h : call.IsFromChat) {settings : RecordSettings}
    {job : Job} (hjob : job ∈ (call.errand settings).jobs) :
    (∃ now event, call = .message now event ∧ event.kind = .group ∧ job = .editGroup event.chat
      (fun _ group =>
        group.pushMessage settings.groupMessageCapacity ⟨event.label, event.text, now⟩)) ∨
    (∃ chat title, call = .added chat title ∧ job = .editGroup chat (Agent.retitled title)) ∨
    ∃ now event, call = .message now event ∧ (job = .syncName event ∨ job = .reply event) := by
  cases call with
  | message now event =>
    rcases List.mem_append.mp hjob with hjob | hjob
    · split at hjob
      · next hgroup =>
        rcases List.mem_cons.mp hjob with rfl | hjob
        · exact .inl ⟨now, event, rfl, hgroup, rfl⟩
        · split at hjob
          · exact .inr (.inr ⟨now, event, rfl, .inl (List.mem_singleton.mp hjob)⟩)
          · cases hjob
      · cases hjob
    · split at hjob
      · exact .inr (.inr ⟨now, event, rfl, .inr (List.mem_singleton.mp hjob)⟩)
      · cases hjob
  | added chat title => exact .inr (.inl ⟨chat, title, rfl, List.mem_singleton.mp hjob⟩)
  | updateUser id mutation => exact h.elim
  | updateGroup id mutation => exact h.elim

/-! ### What is stored -/

/-- A slot stores entries: those of the record that lies in it, or none if nothing lies in it. -/
def Stores {R α : Type} [Record R] (entries : R → List α) (slot : Option Octets) (items : List α) :
    Prop :=
  ∃ r? : Option R, slot = r?.map Record.encode ∧ r?.elim [] entries = items

section Stores

variable {R α : Type} [Record R] [Record.Stable R] [Record.Steady R] {entries : R → List α}
  {slot : Option Octets} {items : List α}

theorem Stores.clear (h : Stores entries slot items) : (Record.kind R).Clear slot := by
  obtain ⟨r?, rfl, _⟩ := h
  intro data hdata
  obtain ⟨r, _, rfl⟩ := Option.map_eq_some_iff.mp hdata
  exact Record.holds_encode r

omit [Record.Steady R] in
/-- The record that is loaded from a slot has the entries that the slot stores, as they are read. -/
theorem Stores.loaded (h : Stores entries slot items) {settled : α → α}
    (hsettled : ∀ r, entries (Record.Stable.settled r) = (entries r).map settled)
    {settings : RecordSettings} {now : Instant} {id : Int64}
    (hblank : entries (Record.blank settings id now) = []) :
    entries (Store.recordIn R settings now id slot).record = items.map settled := by
  obtain ⟨r?, rfl, rfl⟩ := h
  cases r? with
  | none => exact hblank
  | some r => simp [Store.recordIn, Record.decode_encode, hsettled]

end Stores

/-- A record stores every history that is written like its own. -/
theorem stores_history {r : UserRecord} {items : List HistoryEntry}
    (h : r.history.map HistoryEntry.settled = items.map HistoryEntry.settled) :
    Stores UserRecord.history (some (Record.encode r)) items := by
  have hsame : r.settled = { r with history := items }.settled := by
    rw [UserRecord.settled, UserRecord.settled, h]
  exact ⟨some { r with history := items }, congrArg some (Record.encode_congr hsame), rfl⟩

/-- A record stores all messages that are written like its own. -/
theorem stores_messages {r : GroupRecord} {items : List GroupMessage}
    (h : r.recentMessages.map GroupMessage.settled = items.map GroupMessage.settled) :
    Stores GroupRecord.recentMessages (some (Record.encode r)) items := by
  have hsame : r.settled = { r with recentMessages := items }.settled := by
    rw [GroupRecord.settled, GroupRecord.settled, h]
  exact ⟨some { r with recentMessages := items }, congrArg some (Record.encode_congr hsame), rfl⟩

/-- Items that were read once are read like those that never were. -/
theorem map_map_self {α : Type} {f : α → α} (hf : ∀ x, f (f x) = f x) (items : List α) :
    (items.map f).map f = items.map f := by
  rw [List.map_map]
  exact List.map_congr_left fun x _ => hf x

/-- The newest of the items that were read and of later ones are read like the newest of all. -/
theorem newest_reread {α : Type} {f : α → α} (hf : ∀ x, f (f x) = f x) (n : Nat)
    (older later : List α) :
    (Rolling.newest n ((Rolling.newest n older).map f ++ later)).map f =
      (Rolling.newest n (older ++ later)).map f := by
  rw [← Rolling.newest_map, List.map_append, map_map_self hf, ← List.map_append, Rolling.newest_map,
    Rolling.newest_append]

/-- What lies in the slot of a record stores the end of what the changes kept in it add. -/
def Remembers (rules : Rules) (calls : List Call) (key : LockKey) (kept : List Kept)
    (slot : Option Octets) : Prop :=
  match key.kind with
  | .user => Stores UserRecord.history slot
      (Rolling.newest rules.records.historyCapacity (kept.flatMap Kept.said))
  | .group => Stores GroupRecord.recentMessages slot
      (Rolling.newest rules.records.groupMessageCapacity (kept.filterMap (·.message? calls key.id)))

section Remembers

variable {rules : Rules} {calls : List Call} {key : LockKey} {kept : List Kept}
  {slot : Option Octets} {g : Given}

theorem remembers_nil : Remembers rules calls key [] none := by
  obtain ⟨kind, id⟩ := key
  cases kind with
  | user => exact ⟨none, rfl, List.drop_nil.symm⟩
  | group => exact ⟨none, rfl, List.drop_nil.symm⟩

theorem Remembers.clear (h : Remembers rules calls key kept slot) : key.kind.Clear slot := by
  obtain ⟨kind, id⟩ := key
  cases kind with
  | user => exact Stores.clear (R := UserRecord) h
  | group => exact Stores.clear (R := GroupRecord) h

/-- A user whose name is told says nothing by that. -/
theorem Remembers.told {event : Event} {k : Kept} (hjob : k.arrival.job = .syncName event)
    {unsaved : Unsaved} (hunsaved : unsaved = .nothing ∨ unsaved = rules.result g slot (.syncName event))
    (h : Remembers rules calls ⟨.user, event.sender⟩ kept slot) :
    Remembers rules calls ⟨.user, event.sender⟩ (kept ++ [k]) (unsaved.store slot) := by
  have hsaid : (kept ++ [k]).flatMap Kept.said = kept.flatMap Kept.said := by
    simp [Kept.said, hjob]
  have hslot : Stores UserRecord.history slot
      (Rolling.newest rules.records.historyCapacity (kept.flatMap Kept.said)) := h
  have hgoal : Stores UserRecord.history (unsaved.store slot)
      (Rolling.newest rules.records.historyCapacity (kept.flatMap Kept.said)) := by
    rcases hunsaved with rfl | rfl
    · exact hslot
    · simp only [Rules.result, nameTold]
      split
      · have hnamed : (named event (rules.userIn g event.sender slot)).record.history =
            (rules.userIn g event.sender slot).record.history := by
          rw [named, syncUsername_displayName]
        have hloaded := hnamed.trans (hslot.loaded (fun _ => rfl) rfl)
        refine stores_history ?_
        rw [hloaded, map_map_self HistoryEntry.settled_settled]
      · exact hslot
  rw [← hsaid] at hgoal
  exact hgoal

/-- A turn that is kept adds what was said in it. -/
theorem Remembers.replied {event : Event} {k : Kept} {closed : Instant}
    {generated : Except TurnError String} {outcome : Outcome} (hjob : k.arrival.job = .reply event)
    (hgiven : k.given = g) (hanswer : g.answer = some (closed, generated))
    (hreply : k.reply = outcome.reply) (htells : outcome.Tells rules generated)
    (h : Remembers rules calls ⟨.user, event.sender⟩ kept slot) :
    Remembers rules calls ⟨.user, event.sender⟩ (kept ++ [k])
      ((rules.result g slot (.reply event)).store slot) := by
  have hsaid : k.said = exchange closed event.text (rules.shown generated) := by
    simp only [Kept.said, hjob, hgiven, hanswer, hreply, htells.reply, exchange]
    split <;> rfl
  have hslot : Stores UserRecord.history slot
      (Rolling.newest rules.records.historyCapacity (kept.flatMap Kept.said)) := h
  have hhistory : (rules.userIn g event.sender slot).record.history =
      (Rolling.newest rules.records.historyCapacity (kept.flatMap Kept.said)).map
        HistoryEntry.settled := hslot.loaded (fun _ => rfl) rfl
  have hgoal : Stores UserRecord.history ((rules.result g slot (.reply event)).store slot)
      (Rolling.newest rules.records.historyCapacity ((kept ++ [k]).flatMap Kept.said)) := by
    simp only [Rules.result, hanswer, replied_named]
    refine stores_history ?_
    simp only [Rules.turned, hhistory, newest_reread HistoryEntry.settled_settled,
      List.flatMap_append, List.flatMap_cons, List.flatMap_nil, List.append_nil, hsaid]
  exact hgoal

/-- A change of the record of a group adds the message that its call tells, if it tells one. -/
theorem Remembers.grouped {id : Int64} {change : Instant → GroupRecord → GroupRecord} {k : Kept}
    (hchange : (∃ m, k.message? calls id = some m ∧ ∀ now group,
        change now group = group.pushMessage rules.records.groupMessageCapacity m) ∨
      k.message? calls id = none ∧ ∀ now group, (change now group).recentMessages =
        group.recentMessages)
    (h : Remembers rules calls ⟨.group, id⟩ kept slot) :
    Remembers rules calls ⟨.group, id⟩ (kept ++ [k])
      ((rules.result g slot (.editGroup id change)).store slot) := by
  have hslot : Stores GroupRecord.recentMessages slot
      (Rolling.newest rules.records.groupMessageCapacity (kept.filterMap (·.message? calls id))) := h
  have hbefore : (rules.groupIn g id slot).record.recentMessages =
      (Rolling.newest rules.records.groupMessageCapacity
        (kept.filterMap (·.message? calls id))).map GroupMessage.settled :=
    hslot.loaded (fun _ => rfl) rfl
  have hpush : ∀ (group : GroupRecord) (capacity : Nat) (m : GroupMessage),
      (group.pushMessage capacity m).recentMessages =
        Rolling.newest capacity (group.recentMessages ++ [m]) := fun _ _ _ => rfl
  have hgoal : Stores GroupRecord.recentMessages
      ((rules.result g slot (.editGroup id change)).store slot)
      (Rolling.newest rules.records.groupMessageCapacity
        ((kept ++ [k]).filterMap (·.message? calls id))) := by
    refine stores_messages ?_
    rcases hchange with ⟨m, hmessage, hchange⟩ | ⟨hmessage, hchange⟩
    · rw [hchange, hpush, hbefore, newest_reread GroupMessage.settled_settled]
      simp [hmessage]
    · rw [hchange, hbefore, map_map_self GroupMessage.settled_settled]
      simp [hmessage]
  exact hgoal

/-- A change that is kept adds to its record what it says or tells. -/
theorem Remembers.keeps {k : Kept} {call : Call} {unsaved : Unsaved} {outcome : Outcome}
    (hcall : calls[k.arrival.caller]? = some call) (hchat : call.IsFromChat)
    (hjob : k.arrival.job ∈ (call.errand rules.records).jobs) (hreply : k.reply = outcome.reply)
    (hanswer : ∀ event, k.arrival.job = .reply event → ∃ closed generated,
      k.given.answer = some (closed, generated) ∧ outcome.Tells rules generated)
    (hunsaved : (unsaved = .nothing ∧ ∃ event, k.arrival.job = .syncName event) ∨
      unsaved = rules.result k.given slot k.arrival.job)
    (h : Remembers rules calls k.arrival.job.key kept slot) :
    Remembers rules calls k.arrival.job.key (kept ++ [k]) (unsaved.store slot) := by
  have hmade : (∀ event, k.arrival.job ≠ .syncName event) →
      unsaved = rules.result k.given slot k.arrival.job := by
    intro hother
    rcases hunsaved with ⟨_, event, heq⟩ | hmade
    · exact absurd heq (hother event)
    · exact hmade
  rcases hchat.job_cases hjob with
    ⟨now, event, rfl, hgroup, heq⟩ | ⟨chat, title, rfl, heq⟩ | ⟨_, event, _, heq | heq⟩
  · rw [hmade (by simp [heq]), heq]
    rw [heq] at h
    refine Remembers.grouped (.inl ⟨⟨event.label, event.text, now⟩, ?_, fun _ _ => rfl⟩) h
    simp [Kept.message?, hcall, Call.message?, hgroup]
  · rw [hmade (by simp [heq]), heq]
    rw [heq] at h
    refine Remembers.grouped (.inr ⟨?_, fun _ _ => rfl⟩) h
    simp [Kept.message?, hcall, Call.message?]
  · rw [heq] at h hunsaved ⊢
    exact Remembers.told heq (hunsaved.imp And.left id) h
  · obtain ⟨closed, generated, hgiven, htells⟩ := hanswer event heq
    rw [hmade (by simp [heq]), heq]
    rw [heq] at h
    exact Remembers.replied heq rfl hgiven hreply htells h

end Remembers

/-! ### What is written down of a caller -/

theorem Unsaved.ofUser_eq_nothing (record : UserRecord) (state : LoadState) :
    ofUser ⟨record, state⟩ = .nothing ↔ state = .readFailed := by
  cases state <;> simp [ofUser, LoadState.canSave]

theorem Unsaved.ofGroup_eq_nothing (record : GroupRecord) (state : LoadState) :
    ofGroup ⟨record, state⟩ = .nothing ↔ state = .readFailed := by
  cases state <;> simp [ofGroup, LoadState.canSave]

/-- What was written down fits a stage: a ticket is among those whose record could not be read if the
record at hand stands in for one. Then nothing is saved, and else something is, except where the name
that is told is no news. The reply that a caller has to send is the one that its turn shows. -/
def Stage.Recorded (rules : Rules) (unread : List Nat) (job : Job) (given : Option Given)
    (outcome : Outcome) : Stage → Prop
  | .ready => True
  | .waiting t => t ∉ unread
  | .holding t => t ∉ unread
  | .asking t draft => t ∈ unread ↔ draft.loaded.state = .readFailed
  | .changed t unsaved => (t ∈ unread → unsaved = .nothing) ∧
      (t ∉ unread → unsaved = .nothing → ∃ event, job = .syncName event) ∧
      ∀ event g closed generated, job = .reply event → given = some g →
        g.answer = some (closed, generated) → outcome.Tells rules generated
  | .saved _ => True

theorem Stage.Recorded.mono {rules : Rules} {unread unread' : List Nat} {job : Job}
    {given : Option Given} {outcome : Outcome} {stage : Stage}
    (h : stage.Recorded rules unread job given outcome)
    (hsame : ∀ t, stage.ticket? = some t → (t ∈ unread' ↔ t ∈ unread)) :
    stage.Recorded rules unread' job given outcome := by
  cases stage with
  | ready => trivial
  | waiting t => exact fun ht => h ((hsame t rfl).mp ht)
  | holding t => exact fun ht => h ((hsame t rfl).mp ht)
  | asking t draft => exact (hsame t rfl).trans h
  | changed t unsaved =>
    obtain ⟨hfailed, hread, htells⟩ := h
    exact ⟨fun ht => hfailed ((hsame t rfl).mp ht),
      fun ht => hread fun hin => ht ((hsame t rfl).mpr hin), htells⟩
  | saved t => trivial

section Start

variable {σ : Type} [Backend σ] {rules : Rules} {unread : List Nat} {now : Instant} {ticket : Nat}
  {a : Agent σ} {outcome : Outcome} {given : Option Given} {job : Job} {unsaved : Unsaved}

theorem Stage.recorded_changed (hunread : ticket ∈ unread ↔ unsaved = .nothing)
    (hjob : ∀ event, job ≠ .reply event) :
    (Stage.changed ticket unsaved).Recorded rules unread job given outcome :=
  ⟨hunread.mp, fun ht hnothing => absurd (hunread.mpr hnothing) ht,
    fun event _ _ _ heq => absurd heq (hjob event)⟩

/-- What is written down when a job loads its record fits what it carries from then on. -/
theorem recorded_start (job : Job)
    (hunread : ticket ∈ unread ↔ job.loadState now a = .readFailed) :
    (Errand.start now ticket job a).1.Recorded rules unread job given outcome := by
  cases job with
  | editUser id change =>
    have hstart : (Errand.start now ticket (.editUser id change) a).1 =
        .changed ticket (.ofUser ⟨change now (a.store.getOrCreate UserRecord now id).1.record,
          (a.store.getOrCreate UserRecord now id).1.state⟩) := rfl
    rw [hstart]
    exact Stage.recorded_changed (hunread.trans (Unsaved.ofUser_eq_nothing _ _).symm) (by simp)
  | editGroup id change =>
    have hstart : (Errand.start now ticket (.editGroup id change) a).1 =
        .changed ticket (.ofGroup ⟨change now (a.store.getOrCreate GroupRecord now id).1.record,
          (a.store.getOrCreate GroupRecord now id).1.state⟩) := rfl
    rw [hstart]
    exact Stage.recorded_changed (hunread.trans (Unsaved.ofGroup_eq_nothing _ _).symm) (by simp)
  | syncName event =>
    have hstart : (Errand.start now ticket (.syncName event) a).1 = .changed ticket
        (nameTold event .ofUser (a.store.getOrCreate UserRecord now event.sender).1) := by
      simp only [Errand.start, Errand.nameSender, nameTold, named]
    have hload : (Job.syncName event).loadState now a =
        (a.store.getOrCreate UserRecord now event.sender).1.state := rfl
    rw [hload] at hunread
    rw [hstart]
    generalize (a.store.getOrCreate UserRecord now event.sender).1 = loaded at hunread
    refine ⟨fun ht => ?_, fun _ _ => ⟨event, rfl⟩, fun _ _ _ _ heq => by cases heq⟩
    simp only [nameTold, named, Unsaved.ofUser_failed _ (hunread.mp ht), ite_self]
  | reply event =>
    have hstart : (Errand.start now ticket (.reply event) a).1 =
        .asking ticket (a.beginReply now event).1 := by
      simp only [Errand.start]
    have hload : (Job.reply event).loadState now a =
        (a.store.getOrCreate UserRecord now event.sender).1.state := rfl
    have hloaded : (a.beginReply now event).1.loaded.state =
        (a.store.getOrCreate UserRecord now event.sender).1.state := by
      simp only [Agent.beginReply, Agent.loadSender]
    rw [hload, ← hloaded] at hunread
    rw [hstart]
    exact hunread

end Start

def Caller.Recorded (rules : Rules) (unread : List Nat) (c : Caller) : Prop :=
  ∀ {job : Job} {rest : List Job}, c.errand.jobs = job :: rest →
    c.errand.stage.Recorded rules unread job c.given c.errand.outcome

namespace World

variable {σ : Type} [Backend σ] [Faithful σ] {rules : Rules} {calls : List Call}

/-- What every act keeps: what was written down fits all callers, and the slot of a record remembers the
changes kept in it. -/
structure Conversed (rules : Rules) (calls : List Call) (log : Chronicle) (w : World σ) : Prop where
  recorded : ∀ {i : Nat} {c : Caller}, w.callers[i]? = some c → c.Recorded rules log.unread
  unread_old : ∀ t ∈ log.unread, t < w.agent.locks.nextTicket
  remembered : ∀ key, Remembers rules calls key (log.keptAt key) (w.slot key)

/-- A slot that holds nothing or a record stays as it is where nothing is saved. -/
theorem Changes.kept {w w' : World σ} {key : LockKey} (h : Changes rules key w w')
    (hjournal : w'.journal = w.journal) (hclear : key.kind.Clear (w.slot key)) :
    w'.slot key = w.slot key := by
  cases h with
  | same hslot _ => exact hslot
  | aside haside _ =>
    obtain ⟨data, _, hdata, hunread, _⟩ := haside
    exact absurd (hclear data hdata) hunread
  | saved i c e hc hjob hkey hclear' hslot hgrown =>
    rw [hjournal] at hgrown
    exact absurd hgrown.symm (by simp)

section Step

variable {w w' : World σ} {log log' : Chronicle} {i ticket : Nat} {c c' : Caller} {job : Job}
  {rest : List Job}

/-- A step of a caller at which nothing is saved. -/
theorem Conversed.quiet (h : w.Conversed rules calls log) (hsound : w.Sound rules True)
    (hc : w.callers[i]? = some c) (hcallers : w'.callers = w.callers.set i c')
    (hjournal : w'.journal = w.journal) (hchanges : ∀ key, Changes rules key w w')
    (hkept : log'.kept = log.kept) (hown : c'.Recorded rules log'.unread)
    (hunread : ∀ t, c.errand.stage.ticket? ≠ some t → (t ∈ log'.unread ↔ t ∈ log.unread))
    (hold : ∀ t ∈ log'.unread, t < w'.agent.locks.nextTicket) : w'.Conversed rules calls log' := by
  refine ⟨fun {j d} hd => ?_, hold, fun key => ?_⟩
  · rcases caller_cases hc hcallers hd with ⟨rfl, rfl⟩ | ⟨hji, hd⟩
    · exact hown
    · intro job rest hjobs
      refine (h.recorded hd hjobs).mono fun t ht => hunread t fun hmine => ?_
      exact hji (hsound.apart hd hc ht hmine)
  · have hsame := (hchanges key).kept hjournal (h.remembered key).clear
    have hat : log'.keptAt key = log.keptAt key := congrArg (List.filter _) hkept
    rw [hsame, hat]
    exact h.remembered key

/-- A step at which a caller saves what its job left: it is kept if the record could be read and the
write goes through. -/
theorem Conversed.saves (h : w.Conversed rules calls log) (hsound : w.Sound rules True)
    (horder : w.InOrder (jobsOf rules.records calls) log) (hchat : ∀ call ∈ calls, call.IsFromChat)
    {now : Instant} {unsaved : Unsaved} (hc : w.callers[i]? = some c)
    (hjobs : c.errand.jobs = job :: rest) (hstage : c.errand.stage = .changed ticket unsaved)
    (hcallers : w'.callers = w.callers.set i c') (hagent : w'.agent = Errand.save unsaved w.agent)
    (hstage' : c'.errand.stage = .saved ticket) :
    w'.Conversed rules calls (c.chronicled now i w.agent log) := by
  have hticket : c.errand.stage.ticket? = some ticket := by rw [hstage]; rfl
  obtain ⟨hfor, g, hgiven, hanswer, hcases⟩ := hsound.unsaved_cases hc hjobs hstage
  have hrecorded := h.recorded hc hjobs
  rw [hstage] at hrecorded
  obtain ⟨hfailed, hread, htells⟩ := hrecorded
  have hunread : (c.chronicled now i w.agent log).unread = log.unread := by
    rw [Caller.chronicled_changed hjobs hstage hgiven]
    split <;> rfl
  refine ⟨fun {j d} hd => ?_, fun t ht => ?_, fun key => ?_⟩
  · rw [hunread]
    rcases caller_cases hc hcallers hd with ⟨rfl, rfl⟩ | ⟨_, hd⟩
    · intro job rest _
      rw [hstage']
      trivial
    · exact h.recorded hd
  · rw [hunread] at ht
    rw [hagent, (save_keeps unsaved).locks]
    exact h.unread_old t ht
  · have hslot : w'.slot key = (Errand.save unsaved w.agent).content key.slot :=
      congrArg (fun a : Agent σ => a.content key.slot) hagent
    rw [hslot, Caller.chronicled_changed hjobs hstage hgiven]
    rcases save_cases (a := w.agent) hfor with ⟨hsaves, hput⟩ | ⟨hfails, hsame⟩
    · by_cases hin : ticket ∈ log.unread
      · rw [if_neg fun hkept => hkept.1 hin, hfailed hin]
        exact h.remembered key
      · rw [if_pos ⟨hin, hsaves⟩, hput, Chronicle.keptAt_append]
        by_cases hkey : job.key = key
        · subst hkey
          obtain ⟨call, hcall, hjob⟩ :=
            horder.call_of (horder.came hc (Caller.arrival?_of hjobs hticket))
          rw [if_pos rfl, Function.update_self]
          refine Remembers.keeps (k := ⟨⟨i, job, ticket⟩, g, c.errand.outcome.reply⟩) hcall
            (hchat call (List.mem_of_getElem? hcall)) hjob rfl ?_ ?_ (h.remembered job.key)
          · intro event heq
            cases hg : g.answer with
            | none => exact absurd hg (hanswer event heq)
            | some answer => exact ⟨_, _, rfl, htells event g _ _ heq hgiven hg⟩
          · exact hcases.imp (fun hnothing => ⟨hnothing.2, hread hin hnothing.2⟩) And.right
        · have hother : key.slot ≠ job.key.slot := fun heq => hkey (LockKey.slot_injective heq).symm
          rw [if_neg hkey, Function.update_of_ne hother]
          exact h.remembered key
    · rw [if_neg fun hkept => hfails hkept.2, hsame]
      exact h.remembered key

/-- A step of a caller of which nothing is written down and at which nothing is saved. -/
theorem Conversed.still (h : w.Conversed rules calls log) (hsound : w.Sound rules True)
    (hc : w.callers[i]? = some c) (hcallers : w'.callers = w.callers.set i c')
    (hjournal : w'.journal = w.journal) (hchanges : ∀ key, Changes rules key w w')
    (hkept : log'.kept = log.kept) (hunread : log'.unread = log.unread)
    (hown : c'.Recorded rules log.unread)
    (hnext : w.agent.locks.nextTicket ≤ w'.agent.locks.nextTicket) : w'.Conversed rules calls log' := by
  refine h.quiet hsound hc hcallers hjournal hchanges hkept (hunread ▸ hown) (fun t _ => ?_) ?_
  · rw [hunread]
  · rw [hunread]
    exact fun t ht => Nat.lt_of_lt_of_le (h.unread_old t ht) hnext

/-- A step at which a caller loads its record. -/
theorem Conversed.loads (h : w.Conversed rules calls log) (hsound : w.Sound rules True) {now : Instant}
    (hc : w.callers[i]? = some c) (hjobs : c.errand.jobs = job :: rest)
    (hstage : c.errand.stage = .holding ticket) (hcallers : w'.callers = w.callers.set i c')
    (hjournal : w'.journal = w.journal) (hchanges : ∀ key, Changes rules key w w')
    (hlocks : w'.agent.locks = w.agent.locks) (hjobs' : c'.errand.jobs = c.errand.jobs)
    (hstage' : c'.errand.stage = (Errand.start now ticket job w.agent).1) :
    w'.Conversed rules calls (c.chronicled now i w.agent log) := by
  have hticket : c.errand.stage.ticket? = some ticket := by rw [hstage]; rfl
  have hclaim := (hsound.fits hc).claimed hjobs
  have hread := h.recorded hc hjobs
  rw [hstage] at hclaim hread
  have hunread : ∀ t, t ∈ (c.chronicled now i w.agent log).unread ↔
      t ∈ log.unread ∨ t = ticket ∧ job.loadState now w.agent = .readFailed := by
    intro t
    rw [Caller.chronicled_holding hjobs hstage]
    split
    · next hfailed => simp [hfailed]
    · next hfailed => simp [hfailed]
  refine h.quiet hsound hc hcallers hjournal hchanges ?_ (fun {job' rest'} hcons => ?_)
    (fun t ht => ?_) fun t ht => ?_
  · rw [Caller.chronicled_holding hjobs hstage]
    split <;> rfl
  · obtain ⟨rfl, rfl⟩ := List.cons.inj ((hjobs'.trans hjobs).symm.trans hcons)
    rw [hstage']
    refine recorded_start job ((hunread ticket).trans ⟨fun hin => ?_, fun hfailed => ?_⟩)
    · exact (hin.resolve_left hread).2
    · exact .inr ⟨rfl, hfailed⟩
  · refine (hunread t).trans ⟨fun hin => hin.resolve_right fun hmine => ?_, .inl⟩
    exact ht (hmine.1 ▸ hticket)
  · rw [hlocks]
    rcases (hunread t).mp ht with hin | ⟨rfl, _⟩
    · exact h.unread_old t hin
    · exact hsound.locked.holds_old hclaim

/-- What was written down fits a caller whose question was answered. -/
theorem Conversed.recorded_answered (h : w.Conversed rules calls log) (hsound : w.Sound rules True)
    {now : Instant} {draft : Draft} (generated : Except TurnError String)
    (hc : w.callers[i]? = some c) (hstage : c.errand.stage = .asking ticket draft) :
    Caller.Recorded rules log.unread
      ⟨{ c.errand with
          stage := .changed ticket (.ofUser (w.agent.finishReply now draft generated).1.1)
          outcome := (w.agent.finishReply now draft generated).1.2 },
        c.given.map fun g => { g with answer := some (now, generated) }⟩ := by
  intro job rest hjobs
  have hasked := h.recorded hc hjobs
  rw [hstage] at hasked
  have hloaded : (w.agent.finishReply now draft generated).1.1 =
      ⟨w.agent.rules.replied now draft.event generated draft.loaded.record, draft.loaded.state⟩ :=
    finishReply_loaded draft generated
  have htells := finishReply_tells w.agent now draft generated
  rw [hsound.ruled] at htells
  dsimp only
  rw [hloaded]
  refine ⟨fun ht => Unsaved.ofUser_failed _ (hasked.mp ht), fun ht hnothing => ?_, ?_⟩
  · exact absurd (hasked.mpr ((Unsaved.ofUser_eq_nothing _ _).mp hnothing)) ht
  · intro event g closed generated' _ hgiven hanswer
    obtain ⟨g', _, rfl⟩ := Option.map_eq_some_iff.mp hgiven
    obtain ⟨rfl, rfl⟩ := Prod.mk.inj (Option.some.inj hanswer)
    exact htells

/-- Whatever the step of a caller is, slots remember what was kept. -/
theorem Conversed.step (h : w.Conversed rules calls log) (hsound : w.Sound rules True)
    (horder : w.InOrder (jobsOf rules.records calls) log) (hchat : ∀ call ∈ calls, call.IsFromChat)
    {now : Instant} {a : Agent σ} {entries : List Entry} (hc : w.callers[i]? = some c)
    (hstep : c.Steps now i w.agent c' a entries)
    (hchanges : ∀ key, Changes rules key w (w.turned i c' a entries)) :
    (w.turned i c' a entries).Conversed rules calls (c.chronicled now i w.agent log) := by
  cases hstep with
  | @requests job rest hjobs hstage =>
    have hnext := LockTable.nextTicket_acquired w.agent.locks job.key
    rw [Caller.chronicled_ready hjobs hstage]
    refine h.still hsound hc rfl (List.append_nil _) hchanges rfl rfl (fun {job rest} _ => ?_)
      (hnext ▸ Nat.le_succ _)
    exact fun ht => Nat.lt_irrefl _ (h.unread_old _ ht)
  | @notices job rest ticket hjobs hstage hheld =>
    have hnext := LockTable.nextTicket_poll w.agent.locks ticket
    have hwaited := h.recorded hc hjobs
    rw [hstage] at hwaited
    rw [Caller.chronicled_waiting hstage]
    exact h.still hsound hc rfl (List.append_nil _) hchanges rfl rfl (fun {job rest} _ => hwaited)
      hnext.ge
  | @loads job rest ticket hjobs hstage =>
    have hstart : Errand.Started now ticket job True w.agent _ _ :=
      started_start job (.inl trivial)
    exact h.loads hsound hc hjobs hstage rfl (List.append_nil _) hchanges hstart.keeps.locks rfl rfl
  | saves hjobs hstage => exact h.saves hsound horder hchat hc hjobs hstage rfl rfl rfl
  | @finishes job rest ticket hjobs hstage =>
    have hnext := LockTable.nextTicket_unlock w.agent.locks ticket
    rw [Caller.chronicled_saved hstage]
    exact h.still hsound hc rfl (List.append_nil _) hchanges rfl rfl (fun {job rest} _ => trivial)
      hnext.ge

/-- Whatever the act is, slots remember what was kept. -/
theorem Conversed.act (h : w.Conversed rules calls log) (hsound : w.Sound rules True)
    (horder : w.InOrder (jobsOf rules.records calls) log) (hchat : ∀ call ∈ calls, call.IsFromChat)
    (now : Instant) (x : Act) : (w.act now x).Conversed rules calls (w.noted now x log) := by
  have hchanges : ∀ key, Changes rules key w (w.act now x) := fun key => hsound.act_changes now x key
  have hacts := acts now x w log
  generalize w.act now x = w' at hchanges hacts
  generalize w.noted now x log = log' at hacts
  cases hacts with
  | idle hcallers hlocks hjournal =>
    refine ⟨hcallers ▸ h.recorded, hlocks ▸ h.unread_old, fun key => ?_⟩
    rw [(hchanges key).kept hjournal (h.remembered key).clear]
    exact h.remembered key
  | @answer i ticket c draft generated hc hstage =>
    have hlocks := (finishReply_keeps w.agent now draft generated).1.locks
    exact h.still hsound hc rfl rfl hchanges rfl rfl (h.recorded_answered hsound generated hc hstage)
      (congrArg LockTable.nextTicket hlocks).ge
  | step hc hstep => exact h.step hsound horder hchat hc hstep hchanges

/-- After every run callers came in order and slots remember what was kept. -/
theorem Conversed.acted (h : w.Conversed rules calls log) (hsound : w.Sound rules True)
    (horder : w.InOrder (jobsOf rules.records calls) log) (hchat : ∀ call ∈ calls, call.IsFromChat)
    (run : List (Instant × Act)) :
    (w.acted run).InOrder (jobsOf rules.records calls) (chronicle run w log) ∧
      (w.acted run).Conversed rules calls (chronicle run w log) := by
  induction run generalizing w log with
  | nil => exact ⟨horder, h⟩
  | cons x run ih =>
    exact ih (h.act hsound horder hchat x.1 x.2) (hsound.act x.2)
      (horder.acts hsound (acts x.1 x.2 w log))

end Step

theorem conversed_start {agent : Agent σ} (hempty : ∀ key : LockKey, agent.content key.slot = none) :
    (start agent calls).Conversed agent.rules calls {} where
  recorded := by
    intro i c hc job rest _
    obtain ⟨call, _, rfl⟩ := List.mem_map.mp (List.mem_of_getElem? hc)
    rw [call.stage_errand]
    trivial
  unread_old t ht := absurd ht List.not_mem_nil
  remembered key := by
    have hslot : (start agent calls).slot key = none := hempty key
    rw [hslot]
    exact remembers_nil

omit [Backend σ] [Faithful σ] in
/-- What is kept in the record of a user comes from messages of that user. -/
theorem InOrder.sender {settings : RecordSettings} {log : Chronicle} {w : World σ}
    (h : w.InOrder (jobsOf settings calls) log) (hchat : ∀ call ∈ calls, call.IsFromChat) {id : Int64}
    {k : Kept} (hk : k ∈ log.keptAt ⟨.user, id⟩) : ∃ now event,
      calls[k.arrival.caller]? = some (.message now event) ∧ event.sender = id ∧
        (k.arrival.job = .syncName event ∨ k.arrival.job = .reply event) := by
  obtain ⟨hk, hkey⟩ := List.mem_filter.mp hk
  replace hkey : k.arrival.job.key = ⟨.user, id⟩ := of_decide_eq_true hkey
  obtain ⟨call, hcall, hjob⟩ := h.call_of (h.kept_came k hk)
  rcases (hchat call (List.mem_of_getElem? hcall)).job_cases hjob with
    ⟨_, _, _, _, heq⟩ | ⟨_, _, _, heq⟩ | ⟨now, event, rfl, heq⟩
  · rw [heq] at hkey
    cases hkey
  · rw [heq] at hkey
    cases hkey
  · refine ⟨now, event, hcall, ?_, heq⟩
    rcases heq with heq | heq <;> rw [heq] at hkey <;> exact congrArg LockKey.id hkey

/-- Whatever runs side by side, starting with empty slots, and whatever fails: the slot of a user stores
the last entries of what was said in the turns of that user that were kept, where a turn is kept if its
record could be read and its write went through; and the slot of a group stores the last of the messages
of that group that were kept. The changes kept in a record stand in the order in which those who made
them came for its lock, and every call comes for its own jobs only, each once and in their order. -/
theorem conversations_stored (agent : Agent σ) (calls : List Call) (hlocks : agent.locks = {})
    (hempty : ∀ key : LockKey, agent.content key.slot = none)
    (hchat : ∀ call ∈ calls, call.IsFromChat) (run : List (Instant × Act)) :
    let w := (start agent calls).acted run
    let log := chronicle run (start agent calls) {}
    let settings := agent.store.settings
    (∀ id, Stores UserRecord.history (w.slot ⟨.user, id⟩)
      (Rolling.newest settings.historyCapacity ((log.keptAt ⟨.user, id⟩).flatMap Kept.said))) ∧
    (∀ id, Stores GroupRecord.recentMessages (w.slot ⟨.group, id⟩)
      (Rolling.newest settings.groupMessageCapacity
        ((log.keptAt ⟨.group, id⟩).filterMap (·.message? calls id)))) ∧
    (∀ id, ∀ k ∈ log.keptAt ⟨.user, id⟩, ∃ now event,
      calls[k.arrival.caller]? = some (.message now event) ∧ event.sender = id ∧
        (k.arrival.job = .syncName event ∨ k.arrival.job = .reply event)) ∧
    (∀ key, ((log.keptAt key).map Kept.arrival).Sublist (log.arrivalsAt key)) ∧
    ∀ i, log.jobsOf i <+: jobsOf settings calls i := by
  have hnone : ∀ (R : Type) [Record R], Store.Keyed R agent.content := by
    intro R _ id now data r hdata _
    have hslot : agent.content (Store.address R id) = none := hempty ⟨Record.kind R, id⟩
    rw [hslot] at hdata
    cases hdata
  have hsound : (start agent calls).Sound agent.rules True :=
    sound_start hlocks (hnone UserRecord) (hnone GroupRecord)
  obtain ⟨horder, hconversed⟩ := (conversed_start hempty).acted hsound (inOrder_start hlocks) hchat run
  refine ⟨fun id => hconversed.remembered ⟨.user, id⟩, fun id => hconversed.remembered ⟨.group, id⟩,
    fun id k hk => horder.sender hchat hk, horder.sublist, fun i => ?_⟩
  exact ⟨_, (horder.accounted i).symm⟩

/-- A message to be answered in a group. -/
def addressed : List Call := [.message dawn (.ofGroup 5 7 "Ada" "hello" true)]

/-- An agent that keeps one entry of the history of a user. -/
def forgetfulAgent : Agent Memory where
  store := { slots := Table.empty, settings := { historyCapacity := 1 } }

/-- The run of a call with three jobs, the last of which asks the model. -/
def exchangeRun : List (Instant × Act) :=
  List.replicate 13 (dawn, .work (.step 0)) ++
    [(dawn, .work (.answer 0 (.ok "hi"))), (dawn, .work (.step 0)), (dawn, .work (.step 0))]

/-- Of a message in a group and the reply to it the group stores the message and the sender, who has
room for one entry, the reply. -/
theorem conversations_stored_exchange :
    let w := (start forgetfulAgent addressed).acted exchangeRun
    Stores UserRecord.history (w.slot ⟨.user, 7⟩) [⟨.assistant, "hi", dawn⟩] ∧
      Stores GroupRecord.recentMessages (w.slot ⟨.group, 5⟩) [⟨"Ada", "hello", dawn⟩] := by
  have hempty : ∀ slot, forgetfulAgent.content slot = none := Table.get?_empty
  obtain ⟨husers, hgroups, _⟩ := conversations_stored forgetfulAgent addressed rfl
    (fun key => hempty key.slot) (by simp [addressed, Call.IsFromChat]) exchangeRun
  have hsaid : Rolling.newest 1 (((chronicle exchangeRun (start forgetfulAgent addressed) {}).keptAt
      ⟨.user, 7⟩).flatMap Kept.said) = [⟨.assistant, "hi", dawn⟩] := by decide +kernel
  have hmessages : Rolling.newest 50 (((chronicle exchangeRun (start forgetfulAgent addressed)
      {}).keptAt ⟨.group, 5⟩).filterMap (·.message? addressed 5)) = [⟨"Ada", "hello", dawn⟩] := by
    decide +kernel
  have huser := husers 7
  have hgroup := hgroups 5
  exact ⟨hsaid ▸ huser, hmessages ▸ hgroup⟩

end World

end Companion
