import Companion.Json.Printer
import Companion.Json.Reader
import Companion.Model.Provider
import Companion.Model.Status
import Companion.Prompt.Context

/-!
Clients: asking a provider for a reply. A request is sent until it is answered with success, and at
most once more than there are retries. Only what happens on the way to an answer is tried again; an
answer that makes no sense is not.
-/

namespace Companion

open Number Text Json

structure Request where
  url : String
  apiKey : Option String
  body : Value

/-- The body of a response: its octets, and the text that they are in its encoding, where any octets are
some text. -/
structure Body where
  octets : Octets
  text : String
  deriving DecidableEq, Repr

/-- What became of a request. The body of a response can break off. -/
inductive Answer
  | response (status : Nat) (body : Except String Body)
  | failed (reason : String)

/-- The characters that a key may have: all but the controls, of which the tab is allowed. -/
def isKeyChar (c : Char) : Bool := c == '\t' || (' ' ≤ c && c != '\x7f')

/-- What is found wrong with a request whose key no header can carry. -/
def Request.keyFault? (request : Request) : Option String :=
  if request.apiKey.any fun key => !key.toList.all isKeyChar then some "builder error" else none

/-- What becomes of every request where there is no network: it is not sent, or not even built where
`fault?` tells what is wrong with it. -/
def Request.unsent (fault? : Request → Option String) (request : Request) : Answer :=
  .failed ((fault? request).getD ("error sending request for url (" ++ request.url ++ ")"))

structure Sampling where
  maxTokens : UInt32 := 512
  temperature : Double := defaultTemperature
  deriving DecidableEq, Repr

structure Client where
  provider : Provider
  model : String
  maxRetries : UInt32
  sampling : Sampling := {}
  timeout : UInt64 := 30000
  templates : Templates := .builtin

structure Generated where
  text : String
  tokens : UInt32
  model : String
  deriving DecidableEq, Repr

namespace Client

def none : Client := ⟨.none, "", 0, {}, 30000, .builtin⟩

def complaint : Answer → String
  | .response status body =>
    "HTTP " ++ Status.describe status ++ ": " ++ body.toOption.elim "" Body.text
  | .failed reason => reason

def readBody : Except String Body → Except ModelError Value
  | .ok body =>
    (parseOctets body.octets).mapError fun _ => .unexpectedReply "error decoding response body"
  | .error reason => .error (.unexpectedReply reason)

/-- The JSON value of the first successful answer among as many requests as are left, or the
complaint about the last answer. `send` stands for the network, which has a state of its own. -/
def post {τ : Type} (send : Request → τ → Answer × τ) (request : Request) :
    (left : Nat) → (last : String) → τ → Except String (Except ModelError Value) × τ
  | 0, last, t => (.error last, t)
  | n + 1, _, t =>
    match send request t with
    | (.response status body, t) =>
      if Status.isSuccess status then (.ok (readBody body), t)
      else post send request n (complaint (.response status body)) t
    | (.failed reason, t) => post send request n reason t

def postWithRetries {τ : Type} (send : Request → τ → Answer × τ) (maxRetries : UInt32)
    (request : Request) (t : τ) : Except ModelError Value × τ :=
  match post send request (maxRetries.toNat + 1) "" t with
  | (.ok answer, t) => (answer, t)
  | (.error last, t) => (.error (.retriesExhausted (maxRetries + 1) last), t)

def messages (system user : String) : Value :=
  let message (role content : String) : Value :=
    .object [("content", .string content), ("role", .string role)]
  .array [message "system" system, message "user" user]

def count (n : UInt32) : Value := .number (.whole n.toNat)

def request? (c : Client) (system user : String) : Option Request :=
  let temperature : Value := .number (.real c.sampling.temperature)
  match c.provider with
  | .none => .none
  | .ollama baseUrl => some ⟨baseUrl ++ "/api/chat", .none, .object
      [("messages", messages system user), ("model", .string c.model),
        ("options", .object
          [("num_predict", count c.sampling.maxTokens), ("temperature", temperature)]),
        ("stream", .bool false)]⟩
  | .openai baseUrl apiKey => some ⟨baseUrl ++ "/v1/chat/completions", some apiKey, .object
      [("max_tokens", count c.sampling.maxTokens), ("messages", messages system user),
        ("model", .string c.model), ("temperature", temperature)]⟩

/-- A count of tokens; anything that is no such count is zero. -/
def tokenCount : Option Value → UInt32
  | some (.number (.whole n)) => if 0 ≤ n ∧ n < UInt32.size then .ofNat n.toNat else 0
  | _ => 0

/-- The text in the answer of a local server, of either form. -/
def ollamaText? (answer : Value) : Option String :=
  (((answer.get? "message").bind (·.get? "content")).bind Value.text?).or
    ((answer.get? "response").bind Value.text?)

def openaiText? (answer : Value) : Option String :=
  ((((answer.get? "choices").bind (·.at? 0)).bind (·.get? "message")).bind
    (·.get? "content")).bind Value.text?

def readAnswer (c : Client) (answer : Value) : Except ModelError Generated :=
  let generated (place : String) (tokens : Option Value) :
      Option String → Except ModelError Generated
    | some text => .ok ⟨text, tokenCount tokens, c.model⟩
    | .none => .error (.unexpectedReply ("no reply text in " ++ place ++ ": " ++ answer.render))
  match c.provider with
  | .openai _ _ =>
    generated "completion" ((answer.get? "usage").bind (·.get? "completion_tokens"))
      (openaiText? answer)
  | _ => generated "Ollama response" (answer.get? "eval_count") (ollamaText? answer)

def complete {τ : Type} (send : Request → τ → Answer × τ) (c : Client) (system user : String)
    (t : τ) : Except ModelError Generated × τ :=
  match c.request? system user with
  | .none => (.error (.unavailable "No LLM provider configured"), t)
  | some request =>
    let (answer, t) := postWithRetries send c.maxRetries request t
    (answer.bind c.readAnswer, t)

/-- The reply to a context, which must not be blank. -/
def generate {τ : Type} (send : Request → τ → Answer × τ) (c : Client) (context : Context) (t : τ) :
    Except ModelError String × τ :=
  let (system, user) := c.templates.render context
  let (answer, t) := complete send c system user t
  (answer.bind fun g => if trimmed g.text = "" then .error .emptyReply else .ok g.text, t)

end Client

end Companion
