import Companion.Turn.Setup

/-!
The console: one user talks to the assistant line by line. A line with a slash in front may be a
command; every other line that is not blank is something to say.
-/

namespace Companion

open Number Text Time

inductive Command
  | empty
  | quit
  | rename (name : String)
  | renameUsage
  | facts
  | stats
  | say (text : String)
  deriving DecidableEq, Repr

/-- What a line asks for: its first word tells, and what follows that word is its argument. -/
def Command.parse (line : String) : Command :=
  let line := trim line.toList
  let word := line.takeWhile fun c => !isBlank c
  let argument := String.ofList (trim (line.drop word.length))
  match String.ofList word with
  | "" => .empty
  | "/quit" => .quit
  | "/name" => if argument = "" then .renameUsage else .rename argument
  | "/facts" => .facts
  | "/stats" => .stats
  | _ => .say (String.ofList line)

/-- The lines of a text: each ends with a line feed, which the last one need not have. -/
def linesOf : List Char → List (List Char)
  | [] => []
  | c :: rest =>
    if c = '\n' then [] :: linesOf rest
    else
      match linesOf rest with
      | [] => [[c]]
      | line :: lines => (c :: line) :: lines

def consoleUser : Int64 := 1

def defaultName : String := "friend"

def promptMark : String := "> "

def greeting : String := "Type a message, or /quit.\n" ++ promptMark

structure Console (τ : Type) where
  assistant : Assistant
  name : String
  network : τ

def reminderLine (s : ScheduledReminder) : String :=
  "(reminder set for " ++ s.receipt.due.clockFace ++ ")\n"

def outcomeText (o : Outcome) : String :=
  (o.reply.map (· ++ "\n")).getD "" ++ String.join (o.reminders.map reminderLine)

def factsText (facts : Facts) : String :=
  match facts.entries with
  | [] => "Nothing remembered yet.\n"
  | entries => String.join (entries.map fun (name, value) => "  " ++ name ++ ": " ++ value ++ "\n")

def deliveryText (d : Delivery) : String :=
  "\n[" ++ writeIdentifier d.chat ++ "] " ++ d.text ++ "\n" ++ promptMark

namespace Console

variable {τ : Type}

def withAgent (c : Console τ) (agent : Agent Medium) : Console τ :=
  { c with assistant := { c.assistant with agent } }

def advanceTo (time : Nat) (c : Console τ) : String × Console τ :=
  let (fired, agent) := c.assistant.agent.advanceTo time
  (String.join (fired.map fun p => deliveryText p.action), c.withAgent agent)

def say (network : Assistant.Network τ) (now : Instant) (text : String) (c : Console τ) :
    String × Console τ :=
  let p := c.assistant.handle network now [.ofPrivate consoleUser c.name text] c.network
  (String.join (p.fired.map fun d => deliveryText d.action) ++
      String.join (p.outcomes.map outcomeText),
    { c.withAgent p.agent with network := p.model })

def run (network : Assistant.Network τ) (now : Instant) (c : Console τ) :
    Command → Option (String × Console τ)
  | .empty => some ("", c)
  | .quit => none
  | .rename name => some ("You are now " ++ name ++ ".\n", { c with name })
  | .renameUsage => some ("Usage: /name <display name>\n", c)
  | .facts =>
    let agent := c.assistant.agent
    let (user, store) := agent.store.load UserRecord now consoleUser
    some (factsText user.facts, c.withAgent { agent with store })
  | .stats => some (c.assistant.agent.store.counters.expose, c)
  | .say text => some (say network now text c)

/-- What a line of input shows, and the console after it; nothing if it ends the session. -/
def line (network : Assistant.Network τ) (now : Instant) (text : String) (c : Console τ) :
    Option (String × Console τ) :=
  (run network now c (Command.parse text)).map fun (shown, c) => (shown ++ promptMark, c)

def session (network : Assistant.Network τ) (now : Instant) :
    List String → Console τ → String × Console τ
  | [], c => ("", c)
  | text :: rest, c =>
    match line network now text c with
    | none => ("", c)
    | some (shown, c) =>
      let (more, c) := session network now rest c
      (shown ++ more, c)

/-- What is shown in a session whose whole input is known, and the console at its end. -/
def transcript (network : Assistant.Network τ) (now : Instant) (input : String) (c : Console τ) :
    String × Console τ :=
  let (shown, c) := session network now ((linesOf input.toList).map String.ofList) c
  (greeting ++ shown, c)

end Console

end Companion
