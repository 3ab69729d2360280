import Companion.Directive.Apply
import Companion.LockTable
import Companion.Names
import Companion.Prompt.Context
import Companion.Turn.Event
import Companion.Turn.Failure

/-!
Reply turns. Under the lock of the sender a turn first loads the record and builds the context for
the model. Once the model has answered, or failed to, it carries out the reply, appends to the
history and leaves the record to be saved. A record that stands in for an unreadable slot is never
saved.
-/

namespace Companion

open Number Time

structure Agent (σ : Type) where
  store : Store σ
  locks : LockTable := {}
  schedule : Schedule Delivery := {}
  directives : DirectiveSettings := {}
  model : ModelSettings := {}

/-- What came of a turn: the text to send, if there is one, the reminders that were scheduled, the
directives that were dropped, and whether the text stands in for a reply. -/
structure Outcome where
  reply : Option String := none
  reminders : List ScheduledReminder := []
  dropped : List Dropped := []
  fallback : Bool := false
  deriving DecidableEq, Repr

structure Draft where
  event : Event
  loaded : Loaded UserRecord
  context : Context

namespace Agent

variable {σ : Type} [Backend σ]

def loadSender (now : Instant) (event : Event) (a : Agent σ) : Loaded UserRecord × Agent σ :=
  let (loaded, store) := a.store.getOrCreate UserRecord now event.sender
  (⟨(loaded.record.syncUsername event.displayName?).1, loaded.state⟩, { a with store })

def mentioned (now : Instant) (event : Event) (a : Agent σ) : Option UserRecord × Agent σ :=
  let (other, store) := Names.resolve event.sender now (Names.mentions event.text) a.store
  (other, { a with store })

def contextOf (event : Event) (user : UserRecord) (other : Option UserRecord) (a : Agent σ) :
    Context :=
  .ofRecords a.model.persona user (user.username.getD (writeIdentifier event.sender)) other
    event.text a.store.settings.promptHistory

def beginReply (now : Instant) (event : Event) (a : Agent σ) : Draft × Agent σ :=
  let (loaded, a) := a.loadSender now event
  let (other, a) := a.mentioned now event
  (⟨event, loaded, a.contextOf event loaded.record other⟩, a)

/-- The history of a record with what was said in a turn; a silent reply leaves no entry. -/
def recordTurn (now : Instant) (capacity : Nat) (text visible : String) (record : UserRecord) :
    UserRecord :=
  let asked := record.pushHistory capacity ⟨.user, text, now⟩
  let answered :=
    if visible = "" then asked else asked.pushHistory capacity ⟨.assistant, visible, now⟩
  answered.touch now

def visible? (text : String) : Option String := if text = "" then none else some text

def finishReply (now : Instant) (draft : Draft) (generated : Except TurnError String)
    (a : Agent σ) : (Loaded UserRecord × Outcome) × Agent σ :=
  let user := draft.loaded.record
  let capacity := a.store.settings.historyCapacity
  let done (text : String) (record : UserRecord) : Loaded UserRecord :=
    ⟨recordTurn now capacity draft.event.text text record, draft.loaded.state⟩
  match generated with
  | .ok text =>
    let applied :=
      applyReply a.directives text draft.event.chat now user a.schedule a.store.counters
    let e := applied.effects
    ((done applied.text e.record, ⟨visible? applied.text, e.reminders, applied.dropped, false⟩),
      { a with schedule := e.schedule, store := { a.store with counters := e.counters } })
  | .error _ =>
    let text := a.model.fallbackText
    ((done text user, ⟨visible? text, [], [], true⟩),
      { a with store := a.store.bump .generationFallbacks })

def retitled (title : String) (now : Instant) (group : GroupRecord) : GroupRecord :=
  { group with title := Text.trimmed title, addedAt := now }

def added (now : Instant) (chat : Int64) (title : String) (a : Agent σ) : GroupRecord × Agent σ :=
  let ((group, _), store) :=
    a.store.update GroupRecord now chat fun g => (retitled title now g, ())
  (group, { a with store })

def groupLabel : Except StoreError (Option GroupRecord) → String
  | .ok (some group) => if group.title = "" then "an unknown group" else group.title
  | _ => "an unknown group"

/-- The agent was removed from a group: nothing changes, and the operator gets a notice. -/
def removed (now : Instant) (chat : Int64) (a : Agent σ) : String × Agent σ :=
  let (found, store) := a.store.fetch GroupRecord now chat
  ("Removed from " ++ groupLabel found ++ " (" ++ writeIdentifier chat ++ "). Its history is kept.",
    { a with store })

def counting (result : List (Pending Delivery) × Schedule Delivery) (a : Agent σ) :
    List (Pending Delivery) × Agent σ :=
  let (fired, schedule) := result
  let counters := a.store.counters.add (.ofNat fired.length) .remindersFired
  (fired, { a with schedule, store := { a.store with counters } })

def advanceTo (time : Nat) (a : Agent σ) : List (Pending Delivery) × Agent σ :=
  a.counting (a.schedule.advanceTo time)

def advance (millis : Nat) (a : Agent σ) : List (Pending Delivery) × Agent σ :=
  a.counting (a.schedule.advance millis)

/-- The time moved on to a moment that something else comes first at, and the reminders that fired
before it. -/
def reach (time : Nat) (a : Agent σ) : List (Pending Delivery) × Agent σ :=
  a.counting (a.schedule.reach time)

end Agent

end Companion
