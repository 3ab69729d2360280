import Companion.Text.Blank

/-!
Providers: where replies come from, and what can go wrong there.
-/

namespace Companion

open Text

inductive ModelError
  | requestFailed (reason : String)
  | unexpectedReply (reason : String)
  | emptyReply
  | timeout (millis : UInt64)
  | unavailable (reason : String)
  | retriesExhausted (attempts : UInt32) (last : String)
  | configuration (reason : String)
  deriving DecidableEq, Repr

def ModelError.message : ModelError → String
  | .requestFailed reason => "LLM request failed: " ++ reason
  | .unexpectedReply reason => "Failed to parse LLM response: " ++ reason
  | .emptyReply => "LLM returned an empty reply"
  | .timeout millis => "LLM request timed out after " ++ toString millis ++ "ms"
  | .unavailable reason => "LLM provider unavailable: " ++ reason
  | .retriesExhausted attempts last =>
    "All LLM retry attempts exhausted after " ++ toString attempts ++ " tries: " ++ last
  | .configuration reason => "LLM configuration error: " ++ reason

/-- Where replies come from: a local server, a server that wants a key, or nowhere. -/
inductive Provider
  | ollama (baseUrl : String)
  | openai (baseUrl : String) (apiKey : String)
  | none
  deriving DecidableEq, Repr

namespace Provider

def withoutSlashes (url : String) : String :=
  String.ofList (url.toList.reverse.dropWhile (· == '/')).reverse

/-- The provider with a name, given in any case. -/
def ofName (name baseUrl : String) (apiKey : Option String) : Except ModelError Provider :=
  let url := withoutSlashes baseUrl
  let known := String.ofList ((trim name.toList).map Char.toLower)
  if known = "ollama" then .ok (.ollama url)
  else if known = "openai" ∨ known = "openai_compatible" then
    match apiKey.filter fun key => trimmed key != "" with
    | some key => .ok (.openai url key)
    | .none => .error (.configuration "openai provider needs an API key")
  else if known = "none" ∨ known = "" then .ok .none
  else .error (.configuration ("unknown provider '" ++ known ++ "'"))

def isAvailable : Provider → Bool
  | .none => false
  | _ => true

end Provider

end Companion
