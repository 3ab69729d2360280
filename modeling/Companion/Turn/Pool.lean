import Companion.Turn.Errand

/-!
Pools: errands side by side on one thread, in a time that moves only while all of them wait. Errands
that can go on stand in line. The first one goes on as far as it can, and an errand that gets a lock
from it goes to the end of the line. When the line is empty the time moves on to the next answer,
and the errands whose answers come then get in line in the order in which they asked. An errand that
asks the model gets the answer after a delay, or an error once it has waited as long as the settings
allow; an answer that comes at that very moment still counts.
-/

namespace Companion

open Number Time

/-- A model: it answers a context after some milliseconds, and may change. -/
abbrev Model (γ : Type) := Context → γ → (Nat × Except ModelError String) × γ

/-- An answer that is on its way to an errand, given by its number, and when it comes. -/
structure Awaited where
  errand : Nat
  time : Nat
  answer : Except TurnError String

/-- Errands side by side: the agent and the model that they share, the errands by number, the line
of those that can go on, the answers on their way in the order of the questions, what the model was
asked so far, and the reminders that fired. -/
structure Pool (σ γ : Type) where
  agent : Agent σ
  model : γ
  errands : List Errand
  line : List Nat
  awaited : List Awaited := []
  asked : List Context := []
  fired : List (Pending Delivery) := []

namespace Pool

variable {σ γ : Type}

/-- The time until an errand has an answer that takes some milliseconds, and what it is: too late is
an error. -/
def bounded (timer : Timer) (limit : UInt64) (delay : Nat) (answer : Except ModelError String) :
    Nat × Except TurnError String :=
  let delay := timer (delay * 1000000)
  let longest := timer (limit.toNat * 1000000)
  if delay ≤ longest then (delay, answer.mapError .generation) else (longest, .error (.timedOut limit))

def question (ask : Model γ) (i : Nat) (draft : Draft) (p : Pool σ γ) : Pool σ γ :=
  let ((delay, answer), model) := ask draft.context p.model
  let (delay, answer) :=
    bounded p.agent.schedule.timer p.agent.model.generationTimeout delay answer
  { p with
    model
    asked := p.asked ++ [draft.context]
    awaited := p.awaited ++ [⟨i, p.agent.schedule.now + delay, answer⟩] }

def wake (p : Pool σ γ) : Pool σ γ :=
  let isWoken (i : Nat) : Bool :=
    !p.line.contains i && p.errands[i]?.any fun errand => errand.isGranted p.agent.locks
  { p with line := p.line ++ (List.range p.errands.length).filter isWoken }

variable [Backend σ]

/-- A step of the first errand in line, which leaves the line if it has to wait or is done. -/
def stepFirst (ask : Model γ) (now : Instant) (i : Nat) (errand : Errand) (rest : List Nat)
    (p : Pool σ γ) : Pool σ γ :=
  match p.awaited.find? (·.errand == i) with
  | some awaited =>
    if awaited.time ≤ p.agent.schedule.now then
      let (errand, agent) := errand.answered now awaited.answer p.agent
      { p with
        agent
        errands := p.errands.set i errand
        awaited := p.awaited.filter (·.errand != i) }
    else { p with line := rest }
  | none =>
    match errand.question? with
    | some draft => p.question ask i draft
    | none =>
      match errand.step? now p.agent with
      | some (errand, agent) => wake { p with agent, errands := p.errands.set i errand }
      | none => { p with line := rest }

def moveOn? (p : Pool σ γ) : Option (Pool σ γ) :=
  (p.awaited.map (·.time)).min?.map fun time =>
    let (fired, agent) := p.agent.reach time
    { p with
      agent
      line := (p.awaited.filter (·.time ≤ time)).map (·.errand)
      fired := p.fired ++ fired }

def next? (ask : Model γ) (now : Instant) (p : Pool σ γ) : Option (Pool σ γ) :=
  match p.line with
  | [] => p.moveOn?
  | i :: rest =>
    match p.errands[i]? with
    | some errand => some (p.stepFirst ask now i errand rest)
    | none => some { p with line := rest }

def run (ask : Model γ) (now : Instant) : Nat → Pool σ γ → Pool σ γ
  | 0, p => p
  | n + 1, p =>
    match p.next? ask now with
    | some p => run ask now n p
    | none => p

/-- How much can happen for an errand: for each job seven steps, two waits and a move of the time,
and the end. -/
def stepLimit (t : Errand) : Nat := 10 * t.jobs.length + 1

def runAll (ask : Model γ) (now : Instant) (agent : Agent σ) (model : γ) (errands : List Errand) :
    Pool σ γ :=
  run ask now (errands.foldr (fun t n => stepLimit t + n) 0)
    { agent, model, errands, line := List.range errands.length }

/-- The reminders that are due by now fire as well. -/
def settle (p : Pool σ γ) : Pool σ γ :=
  let (fired, agent) := p.agent.advance 0
  { p with agent, fired := p.fired ++ fired }

/-- Errands run to their end on their own, apart from the one who waits for them: before that one
goes on, what is due by then fires. -/
def runApart (ask : Model γ) (now : Instant) (agent : Agent σ) (model : γ)
    (errands : List Errand) : Pool σ γ :=
  let p := runAll ask now agent model errands
  if errands.isEmpty then p else p.settle

def outcomes (p : Pool σ γ) : List Outcome := p.errands.map (·.outcome)

end Pool

end Companion
