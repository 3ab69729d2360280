import Companion.Counters
import Companion.Directive.Reply
import Companion.Record.User
import Companion.Schedule

/-!
Carrying out a reply: its facts go into the record of the user, its reminders into the schedule, and
all of it is counted. Nothing is saved here.
-/

namespace Companion

open Time

structure Delivery where
  chat : Int64
  text : String
  deriving DecidableEq, Repr

/-- Deliveries of one time go by chat and then by text. -/
def Delivery.before (a b : Delivery) : Bool :=
  if a.chat = b.chat then a.text ≤ b.text else a.chat ≤ b.chat

structure ScheduledReminder where
  reminder : Reminder
  receipt : Receipt
  deriving DecidableEq, Repr

structure Effects where
  record : UserRecord
  schedule : Schedule Delivery
  counters : Counters
  factsChanged : Nat := 0
  reminders : List ScheduledReminder := []

def Effects.carryOut (settings : DirectiveSettings) (chat : Int64) (now : Instant) (e : Effects) :
    Directive → Effects
  | .update facts =>
    let (record, changed) := e.record.mergeFacts facts
    { e with
      record
      counters := e.counters.bump .directivesApplied
      factsChanged := e.factsChanged + changed }
  | .remind reminder =>
    let (receipt, schedule) :=
      e.schedule.add now reminder.delay ⟨chat, settings.reminderStart ++ reminder.text⟩
    { e with
      schedule
      counters := (e.counters.bump .directivesApplied).bump .remindersScheduled
      reminders := e.reminders ++ [⟨reminder, receipt⟩] }

structure Applied where
  text : String
  dropped : List Dropped
  effects : Effects

def Applied.visible? (a : Applied) : Option String := if a.text = "" then none else some a.text

/-- A generated text carried out for the user of a record in a chat. -/
def applyReply (settings : DirectiveSettings) (generated : String) (chat : Int64) (now : Instant)
    (record : UserRecord) (schedule : Schedule Delivery) (counters : Counters) : Applied :=
  let reply := Reply.parse settings generated
  let start : Effects :=
    ⟨record, schedule, counters.add (.ofNat reply.dropped.length) .directivesDropped, 0, []⟩
  ⟨reply.text, reply.dropped, reply.directives.foldl (Effects.carryOut settings chat now) start⟩

end Companion
