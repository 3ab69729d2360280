import Companion.Console
import Std.Time.DateTime.Timestamp

/-!
The console program. `CONFIDANT_CONFIG` names the file of settings, and `USER` the user. What a
database holds lasts as long as the program runs, and there is no network, so that every reply of a
model is replaced by the fallback text. Reminders are shown when they are due, also while a line is
awaited.
-/

namespace Companion.Program

open Number Text Time

def epochStart : Instant := ⟨epoch, 0, 0, by decide⟩

def clock : IO Instant := do
  let t ← Std.Time.Timestamp.now
  return epochStart.later t.toNanosecondsSinceUnixEpoch.val.toNat

def readFile (path : String) : IO (Option Octets) := do
  try
    return some (← IO.FS.readBinFile path).toList
  catch _ =>
    return none

def settings : IO (Except StoreError Settings) := do
  match ← IO.getEnv "CONFIDANT_CONFIG" with
  | some path => return Settings.ofFile (← readFile path)
  | none => return .ok {}

def assistant (settings : Settings) : IO (Except TurnError Assistant) := do
  let key ← IO.getEnv settings.model.apiKeyVariable
  let templates ←
    match settings.model.promptFile with
    | some path => readFile path
    | none => pure none
  return Assistant.ofSettings settings (some none) key
    fun _ => (templates.bind ofUtf8?).map String.ofList

def display (text : String) : IO Unit := do
  let output ← IO.getStdout
  output.putStr text
  output.flush

/-- The next line of input, which is awaited apart from what goes on. -/
def awaitLine : IO (Task (Except IO.Error String)) := do
  let input ← IO.getStdin
  IO.asTask input.getLine .dedicated

/-- The session from the time `start` of the program on. -/
partial def converse (start : Nat) (line : Task (Except IO.Error String)) (c : Console Unit) :
    IO Unit := do
  let elapsed := (← IO.monoMsNow) - start
  let (shown, c) := c.advanceTo (max elapsed c.assistant.agent.schedule.now)
  display shown
  if ← IO.hasFinished line then
    let text ← IO.ofExcept line.get
    if text.isEmpty then return
    match Console.line (.none Request.keyFault?) (← clock) text c with
    | none => return
    | some (shown, c) =>
      IO.sleep (UInt32.ofNat (c.assistant.agent.schedule.now - elapsed))
      display shown
      converse start (← awaitLine) c
  else
    IO.sleep 20
    converse start line c

def serve (a : Assistant) : IO Unit := do
  let name := (← IO.getEnv "USER").getD defaultName
  display greeting
  converse (← IO.monoMsNow) (← awaitLine) ⟨a, name, ()⟩

def fail (message : String) : IO UInt32 := do
  IO.eprintln ("Error: " ++ message)
  return 1

end Companion.Program

open Companion in
def main : IO UInt32 := do
  match ← Program.settings with
  | .error e => Program.fail e.message
  | .ok settings =>
    match ← Program.assistant settings with
    | .error e => Program.fail e.message
    | .ok a =>
      Program.serve a
      return 0
