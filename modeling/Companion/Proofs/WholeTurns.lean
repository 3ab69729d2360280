import Companion.Proofs.Blanks
import Companion.Proofs.CarryingOut
import Companion.Proofs.Removal

/-!
Whole turns. A turn loads the record of the sender, asks the model, and saves what it made of the
record. What it makes of it is one record, told here in full; either all of it gets into the slot of
the sender or none of it does. Between the steps of a turn others may go on, who leave that slot alone
because the turn holds its lock.
-/

namespace Companion

open Number Text Time

/-! ### What a turn makes of a record -/

/-- What is visible of a text: what lies between its directives, without blank pieces between two of
them and without the blanks around the whole. -/
def visible (text : List Char) : List Char :=
  trim (lasting (piecesBetween text 0 ((scan text).map (·.span)))).flatten

/-- The text that a turn shows: what is visible of the generated one, or what stands in for it. -/
def Rules.shown (rules : Rules) : Except TurnError String → String
  | .ok text => String.ofList (visible text.toList)
  | .error _ => rules.model.fallbackText

theorem text_parse (settings : DirectiveSettings) (generated : String) :
    (Reply.parse settings generated).text = String.ofList (visible generated.toList) :=
  congrArg String.ofList (strip_eq_lasting _ _)

def toldBy : Except TurnError String → List (String × String)
  | .ok text => (accepted text.toList).flatMap Tagged.told
  | .error _ => []

/-- What a turn adds to a history: what was asked, and what was said unless it was nothing. -/
def exchange (now : Instant) (asked shown : String) : List HistoryEntry :=
  ⟨.user, asked, now⟩ :: if shown = "" then [] else [⟨.assistant, shown, now⟩]

def Rules.turned (rules : Rules) (now : Instant) (event : Event)
    (generated : Except TurnError String) (user : UserRecord) : UserRecord :=
  { user with
    username := event.displayName?.or user.username
    facts := (user.facts.merge (toldBy generated)).1
    history := Rolling.newest rules.records.historyCapacity
      (user.history ++ exchange now event.text (rules.shown generated))
    lastInteraction := now }

theorem trimmed_displayName {event : Event} {name : String} (h : event.displayName? = some name) :
    trimmed name = name ∧ name ≠ "" := by
  unfold Event.displayName? at h
  dsimp only at h
  split at h
  · cases h
  · next hne =>
    obtain rfl := Option.some.inj h
    refine ⟨?_, hne⟩
    rw [trimmed, trimmed, String.toList_ofList, trim_trim]

/-- A record takes on the name that an event tells, and no other field of it changes. -/
theorem syncUsername_displayName (event : Event) (r : UserRecord) :
    (r.syncUsername event.displayName?).1 =
      { r with username := event.displayName?.or r.username } := by
  cases hname : event.displayName? with
  | none => rfl
  | some name =>
    obtain ⟨htrim, hne⟩ := trimmed_displayName hname
    simp only [UserRecord.syncUsername, Option.map_some, htrim, hne, false_or, Option.some_or]
    split
    · next hsame => rw [hsame]
    · rfl

/-- What was said in a turn gets into the history, which keeps its newest entries. -/
theorem recordTurn_eq (now : Instant) (capacity : Nat) (text shown : String) (r : UserRecord) :
    Agent.recordTurn now capacity text shown r = { r with
      history := Rolling.newest capacity (r.history ++ exchange now text shown)
      lastInteraction := now } := by
  have hpush : ∀ (r : UserRecord) (entry : HistoryEntry), r.pushHistory capacity entry =
      { r with history := Rolling.newest capacity (r.history ++ [entry]) } := fun _ _ => rfl
  unfold Agent.recordTurn exchange
  split
  · rfl
  · simp only [hpush, UserRecord.touch, Rolling.newest_append, List.append_assoc,
      List.singleton_append]

/-- The record that a turn makes of a loaded one, step by step, is the one told in full. -/
theorem replied_named (rules : Rules) (now : Instant) (event : Event)
    (generated : Except TurnError String) (loaded : Loaded UserRecord) :
    rules.replied now event generated (named event loaded).record =
      rules.turned now event generated loaded.record := by
  cases generated with
  | error e =>
    simp only [Rules.replied, named, syncUsername_displayName, recordTurn_eq]
    rfl
  | ok text =>
    simp only [Rules.replied, named, syncUsername_displayName, recordTurn_eq, learned_eq,
      factsIn_parse, ← flatMap_told, text_parse]
    rfl

/-! ### What comes of a turn -/

/-- What a turn tells the one who asked: the text that is shown, if there is one, and whether it stands
in for a reply. A turn without a generated text schedules no reminder and drops no directive. -/
structure Outcome.Tells (rules : Rules) (generated : Except TurnError String) (o : Outcome) : Prop where
  reply : o.reply = if rules.shown generated = "" then none else some (rules.shown generated)
  fallback : o.fallback = true ↔ ∃ e, generated = .error e
  quiet : ∀ e, generated = .error e → o.reminders = [] ∧ o.dropped = []

section Answered

variable {σ : Type} (a : Agent σ) (now : Instant) (draft : Draft)

theorem finishReply_tells (generated : Except TurnError String) :
    (a.finishReply now draft generated).1.2.Tells a.rules generated := by
  cases generated with
  | error e => exact ⟨rfl, by simp [Agent.finishReply], fun _ _ => ⟨rfl, rfl⟩⟩
  | ok text =>
    have hreply : (a.finishReply now draft (.ok text)).1.2.reply =
        Agent.visible? (Reply.parse a.directives text).text := rfl
    rw [text_parse] at hreply
    exact ⟨hreply, by simp [Agent.finishReply], fun e h => by cases h⟩

theorem finishReply_schedule (e : TurnError) :
    (a.finishReply now draft (.error e)).2.schedule = a.schedule := rfl

end Answered

/-! ### Turns -/

variable {σ : Type} [Backend σ] [Faithful σ]

/-- Others went on and left the settings of the agent and the slot of a record as they were. -/
structure Agent.Leaves (key : LockKey) (a b : Agent σ) : Prop where
  rules : b.rules = a.rules
  slot : b.content key.slot = a.content key.slot

/-- The record that is loaded for an identifier has it, if the one in its slot has it. -/
theorem id_loaded {R : Type} [Record R] [Record.Steady R] {settings : RecordSettings} {now : Instant}
    {id : Int64} {before after : SlotContents} {loaded : Loaded R}
    (h : Store.Loads R settings now id before loaded after)
    (hid : ∀ data (r : R), before (Store.address R id) = some data → Record.decode now data = .ok r →
      Record.id r = id) : Record.id loaded.record = id := by
  cases h with
  | found hslot hread => exact hid _ _ hslot hread
  | empty _ => exact Record.Steady.id_blank settings id now
  | moved _ _ => exact Record.Steady.id_blank settings id now
  | failed _ => exact Record.Steady.id_blank settings id now

/-- Saving a user record puts all of it into its slot, or nothing if the write failed. -/
theorem save_user_slot (r : UserRecord) (a : Agent σ) :
    (Errand.save (.user r) a).content (Store.address UserRecord r.id) =
      if a.store.Writes r then some (Record.encode r)
      else a.content (Store.address UserRecord r.id) := by
  rcases Store.save_cases r a.store with ⟨hwrites, hafter⟩ | ⟨hfails, hsame⟩
  · rw [if_pos hwrites]
    exact (congrFun hafter _).trans (Function.update_self ..)
  · rw [if_neg hfails]
    exact congrFun hsame _

open Errand

/-- A turn is all or nothing. After it the slot of the sender holds what lay there once the record was
loaded, or the whole record that the turn made of the loaded one; the latter exactly if the load did
not fail and the write went through. What others do between its steps makes no difference to it. -/
theorem turn_all_or_nothing (a : Agent σ) (event : Event) (opened closed written : Instant)
    (generated : Except TurnError String) (ticket : Nat) (rest : List Job) (outcome : Outcome)
    (hid : ∀ data (r : UserRecord), a.content (Store.address UserRecord event.sender) = some data →
      Record.decode opened data = .ok r → r.id = event.sender) :
    let key : LockKey := ⟨.user, event.sender⟩
    let load := a.store.getOrCreate UserRecord opened event.sender
    let user := a.rules.turned closed event generated load.1.record
    ∃ asking b, (⟨.reply event :: rest, .holding ticket, outcome⟩ : Errand).step? opened a =
        some (asking, b) ∧ b.content key.slot = load.2.content key.slot ∧
      ∀ b', b.Leaves key b' → ∃ answered c, asking.answered closed generated b' = (answered, c) ∧
        answered.outcome.Tells a.rules generated ∧
        (∀ e, generated = .error e → c.schedule = b'.schedule) ∧
        ∀ c', c.Leaves key c' → ∃ done d, answered.step? written c' = some (done, d) ∧
          done.outcome = answered.outcome ∧
          d.content key.slot =
            if load.1.state ≠ .readFailed ∧ c'.store.Writes user then
              some (Record.encode user)
            else load.2.content key.slot := by
  dsimp only
  obtain ⟨hloads, hsettings⟩ := Store.getOrCreate_loads UserRecord opened event.sender a.store
  have hownid : (a.store.getOrCreate UserRecord opened event.sender).1.record.id = event.sender :=
    id_loaded hloads hid
  obtain ⟨hnames, hkept⟩ := Names.resolve_content event.sender opened (Names.mentions event.text)
    (a.store.getOrCreate UserRecord opened event.sender).2
  -- the draft holds the loaded record with the name that the event tells
  have hloaded : (a.beginReply opened event).1.loaded =
      named event (a.store.getOrCreate UserRecord opened event.sender).1 := by
    simp only [Agent.beginReply, Agent.loadSender, named]
  have hevent : (a.beginReply opened event).1.event = event := by
    simp only [Agent.beginReply]
  have hrules : (a.beginReply opened event).2.rules = a.rules :=
    congrArg (Rules.mk · a.directives a.model) (hkept.trans hsettings)
  have hcontent : (a.beginReply opened event).2.content =
      (a.store.getOrCreate UserRecord opened event.sender).2.content := hnames
  have hopen : (⟨.reply event :: rest, .holding ticket, outcome⟩ : Errand).step? opened a =
      some (⟨.reply event :: rest, .asking ticket (a.beginReply opened event).1, outcome⟩,
        (a.beginReply opened event).2) := rfl
  generalize a.beginReply opened event = begun at hloaded hevent hrules hcontent hopen
  generalize a.store.getOrCreate UserRecord opened event.sender = load at *
  obtain ⟨draft, b⟩ := begun
  dsimp only at hloaded hevent hrules hcontent hopen
  refine ⟨_, b, hopen, congrFun hcontent _, fun b' hb => ?_⟩
  have hmade : (b'.finishReply closed draft generated).1.1 =
      ⟨a.rules.turned closed event generated load.1.record, load.1.state⟩ := by
    rw [finishReply_loaded, hb.rules, hrules, hevent, hloaded, replied_named, state_named]
  have htells := finishReply_tells b' closed draft generated
  rw [hb.rules, hrules] at htells
  obtain ⟨_, hsame⟩ := finishReply_keeps b' closed draft generated
  refine ⟨⟨.reply event :: rest, .changed ticket (.ofUser
    (b'.finishReply closed draft generated).1.1), (b'.finishReply closed draft generated).1.2⟩,
    (b'.finishReply closed draft generated).2, rfl, htells,
    fun e he => he ▸ finishReply_schedule b' closed draft e, fun c' hc => ?_⟩
  refine ⟨_, _, rfl, rfl, ?_⟩
  have hbefore : c'.content (LockKey.slot ⟨.user, event.sender⟩) =
      load.2.content (LockKey.slot ⟨.user, event.sender⟩) := by
    rw [hc.slot, hsame, hb.slot, hcontent]
  rw [hmade]
  by_cases hsave : load.1.state = .readFailed
  · rw [if_neg fun h => h.1 hsave, Unsaved.ofUser_failed _ hsave]
    exact hbefore
  · have hcan : load.1.state.canSave = true := by
      cases hstate : load.1.state with
      | readFailed => exact absurd hstate hsave
      | _ => rfl
    have hslot : LockKey.slot ⟨.user, event.sender⟩ = Store.address UserRecord
        (a.rules.turned closed event generated load.1.record).id := by
      rw [← hownid]
      rfl
    rw [Unsaved.ofUser_saved _ hcan]
    rw [hslot] at hbefore ⊢
    rw [save_user_slot, ← hbefore]
    simp only [ne_eq, hsave, not_false_eq_true, true_and]

/-- A user with a fact and two entries of history, and room for one more. -/
def acquaintance : UserRecord where
  id := 7
  username := some "Ada L."
  language := "fr"
  facts := (Table.empty.insert "city" "Paris").insert "pet" "cat"
  history := [⟨.user, "hello", ⟨epoch, 0, 0, isMoment_zero⟩⟩,
    ⟨.assistant, "hi", ⟨epoch, 0, 0, isMoment_zero⟩⟩]
  lastInteraction := ⟨epoch, 0, 0, isMoment_zero⟩

def acquaintedAgent : Agent Memory where
  store := {
    slots := Table.empty.insert (Store.address UserRecord 7) (Record.encode acquaintance)
    settings := { historyCapacity := 3 } }

def moving : String :=
  "Noted! [UPDATE: \x7b\"city\": \"Rome\"\x7d]\n" ++
    "Safe travels. [REMIND: \x7b\"minutes\": 5, \"text\": \"pack\"\x7d]"

def movedAcquaintance (closed : Instant) : UserRecord where
  id := 7
  username := some "Ada"
  language := "fr"
  facts := (Table.empty.insert "city" "Rome").insert "pet" "cat"
  history := [⟨.assistant, "hi", ⟨epoch, 0, 0, isMoment_zero⟩⟩, ⟨.user, "I move to Rome", closed⟩,
    ⟨.assistant, "Noted! \nSafe travels.", closed⟩]
  lastInteraction := closed

/-- A turn of a known user whose name changed. Of the generated text the prose is shown and the fact is
learned, and for what was said the oldest entry of the history goes. -/
theorem turn_all_or_nothing_update :
    let opened : Instant := ⟨epoch, 60, 0, by decide⟩
    let closed : Instant := ⟨epoch, 62, 0, by decide⟩
    let event := Event.ofPrivate 7 "Ada" "I move to Rome"
    ∃ asking b answered c done d,
      (⟨[.reply event], .holding 0, {}⟩ : Errand).step? opened acquaintedAgent = some (asking, b) ∧
      asking.answered closed (.ok moving) b = (answered, c) ∧
      answered.step? closed c = some (done, d) ∧ done.outcome.fallback = false ∧
      done.outcome.reply = some "Noted! \nSafe travels." ∧
      d.content (LockKey.slot ⟨.user, 7⟩) = some (Record.encode (movedAcquaintance closed)) := by
  intro opened closed event
  have hread : ∀ now, Record.decode now (Record.encode acquaintance) = .ok acquaintance := fun now =>
    (Record.decode_encode now acquaintance).trans
      (congrArg _ (acquaintance.settled_eq_self_iff.mpr ⟨by decide, by decide⟩))
  have hslot : acquaintedAgent.content (Store.address UserRecord 7) =
      some (Record.encode acquaintance) := (Table.get?_insert ..).trans (if_pos rfl)
  have hid : ∀ data (r : UserRecord),
      acquaintedAgent.content (Store.address UserRecord 7) = some data →
        Record.decode opened data = .ok r → r.id = 7 := by
    intro data r hdata hr
    rw [hslot, Option.some.injEq] at hdata
    rw [← hdata, hread, Except.ok.injEq] at hr
    exact hr ▸ rfl
  have hloaded : (acquaintedAgent.store.getOrCreate UserRecord opened 7).1 = ⟨acquaintance, .found⟩ :=
    Store.getOrCreate_found (congrArg Except.ok hslot) (hread opened)
  have hturned : acquaintedAgent.rules.turned closed event (.ok moving) acquaintance =
      movedAcquaintance closed := by decide +kernel
  have hshown : acquaintedAgent.rules.shown (.ok moving) = "Noted! \nSafe travels." := by
    decide +kernel
  have hfound : LoadState.found ≠ .readFailed := by decide
  obtain ⟨asking, b, hopen, _, hnext⟩ := turn_all_or_nothing acquaintedAgent event opened closed closed
    (.ok moving) 0 [] {} hid
  obtain ⟨answered, c, hanswer, htells, _, hlast⟩ := hnext b ⟨rfl, rfl⟩
  obtain ⟨done, d, hsave, houtcome, hsaved⟩ := hlast c ⟨rfl, rfl⟩
  rw [show event.sender = 7 from rfl, hloaded, hturned,
    if_pos ⟨hfound, Store.writes_memory _ _⟩] at hsaved
  refine ⟨asking, b, answered, c, done, d, hopen, hanswer, hsave, ?_, ?_, hsaved⟩
  · rw [houtcome, ← Bool.not_eq_true, htells.fallback]
    rintro ⟨e, he⟩
    cases he
  · rw [houtcome, htells.reply, hshown, if_neg (by decide)]

end Companion
