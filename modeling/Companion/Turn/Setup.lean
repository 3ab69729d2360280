import Companion.Model.Client
import Companion.Prompt.File
import Companion.Storage.Unreliable
import Companion.Turn.Pool

/-!
Setting up an agent: the slots and the client of the model that settings ask for.
-/

namespace Companion

open Number Time

/-- The slots that settings ask for. `file` is what the database file holds, nothing if it cannot be
opened. -/
def Medium.opened (settings : StorageSettings) (file : Option Contents) :
    Except StoreError Medium :=
  match settings.backend with
  | .memory => .ok (.memory .empty)
  | .sqlite =>
    match file with
    | some contents => .ok (.database (.opened settings.checksumEnabled contents))
    | none => .error .database

/-- What is left of slots when the process ends: what the database file holds. -/
def Medium.file? : Medium → Option Contents
  | .memory _ => none
  | .database d => some d.contents

def templatesFor (readFile : String → Option String) : Option String → Except ModelError Templates
  | none => .ok .builtin
  | some path =>
    match readFile path with
    | none => .error (.configuration ("failed to read " ++ path))
    | some text =>
      match Templates.parse text with
      | some templates => .ok templates
      | none => .error (.configuration ("failed to parse " ++ path))

def Client.ofSettings (settings : ModelSettings) (apiKey : Option String)
    (readFile : String → Option String) : Except TurnError Client := do
  let provider ← (Provider.ofName settings.provider settings.baseUrl apiKey).mapError .generation
  let templates ← (templatesFor readFile settings.promptFile).mapError .generation
  if settings.maxTokens = 0 then .error (.configuration "llm.max_tokens must be positive")
  else
    .ok ⟨provider, settings.model, settings.maxRetries,
      ⟨settings.maxTokens, settings.temperature⟩, settings.requestTimeout, templates⟩

structure Assistant where
  agent : Agent Medium
  client : Client

namespace Assistant

/-- The assistant that settings ask for; what is wrong with the slots is told first. -/
def ofSettings (settings : Settings) (file : Option Contents) (apiKey : Option String)
    (readFile : String → Option String) : Except TurnError Assistant := do
  let slots ← (Medium.opened settings.storage file).mapError .storage
  let client ← Client.ofSettings settings.model apiKey readFile
  let store : Store Medium := { slots, settings := settings.records }
  .ok ⟨⟨store, {}, {}, settings.directives, settings.model⟩, client⟩

/-- How long a client waits before its retries in all, when it sends `sent` requests: a quarter of a
second before the first retry, and as much more before each one after that. -/
def backoff (sent : Nat) : Nat := (List.range sent).foldl (fun n retry => n + 250 * retry) 0

/-- The network: what becomes of a request, and how long that takes. Its state counts the requests
of one question. -/
structure Network (τ : Type) where
  send : Request → τ → (Nat × Answer) × τ

/-- No network at all, where `fault?` tells which requests are not even built. -/
def Network.none (fault? : Request → Option String) : Network Unit :=
  ⟨fun request t => ((0, request.unsent fault?), t)⟩

/-- A client as a model. The answer takes as long as its requests and the waits between them. -/
def modelOf {τ : Type} (network : Network τ) (client : Client) : Model τ := fun context t =>
  let send (request : Request) (s : (Nat × Nat) × τ) : Answer × (Nat × Nat) × τ :=
    let ((millis, answer), t) := network.send request s.2
    (answer, (s.1.1 + 1, s.1.2 + millis), t)
  let (answer, (sent, millis), t) := client.generate send context ((0, 0), t)
  ((backoff sent + millis, answer), t)

def handle {τ : Type} (network : Network τ) (now : Instant) (events : List Event) (t : τ)
    (a : Assistant) : Pool Medium τ :=
  Pool.runAll (modelOf network a.client) now a.agent t
    (events.map (Errand.ofEvent now a.agent.store.settings))

end Assistant

end Companion
