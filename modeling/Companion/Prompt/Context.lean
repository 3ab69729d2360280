import Companion.Prompt.Template
import Companion.Record.User

/-!
Prompts: what the model is told for one turn. A context holds what is known about the speaker, what
was said lately, what is known about another user who is mentioned, and the new message. A pair of
templates makes the two texts of the prompt from it.
-/

namespace Companion

open Number

structure OtherUser where
  name : String
  facts : List (String × String)
  deriving DecidableEq, Repr

structure Context where
  system : String
  displayName : String
  language : String
  facts : List (String × String)
  history : List Line
  other : Option OtherUser
  message : String
  deriving DecidableEq, Repr

/-- Another user from the record. A user without a name is named by number. -/
def OtherUser.ofRecord (record : UserRecord) : OtherUser :=
  ⟨record.username.getD ("user " ++ writeIdentifier record.id), record.facts.entries⟩

def HistoryEntry.line (e : HistoryEntry) : Line := ⟨e.role, e.content⟩

/-- The context of a message, with at most `size` entries of history. -/
def Context.ofRecords (persona : String) (user : UserRecord) (displayName : String)
    (other : Option UserRecord) (message : String) (size : Nat) : Context where
  system := persona
  displayName := displayName
  language := user.language
  facts := user.facts.entries
  history := (user.recentHistory size).map HistoryEntry.line
  other := other.map OtherUser.ofRecord
  message := message

structure Templates where
  version : String
  system : String
  user : String
  deriving DecidableEq, Repr

namespace Templates

def builtinSystem : String :=
  "\x7bpersona\x7d\n\n" ++
  "You are talking with \x7bdisplay_name\x7d. Reply in the language with tag " ++
  "\"\x7blanguage\x7d\" unless they write in another one.\n\n" ++
  "What you remember about \x7bdisplay_name\x7d:\n\x7bfacts\x7d\n\n" ++
  "MEMORY AND REMINDERS:\n" ++
  "- When you learn something lasting about \x7bdisplay_name\x7d (name, city, preferences, " ++
  "plans), add [UPDATE: \x7b\"key\": \"value\"\x7d] to your reply. Use short snake_case keys. " ++
  "Repeating a key replaces the old value.\n" ++
  "- When \x7bdisplay_name\x7d asks to be reminded of something, add " ++
  "[REMIND: \x7b\"minutes\": <number>, \"text\": \"<what to say>\"\x7d].\n" ++
  "- These tags are removed before your reply is shown. Never mention them or explain them.\n" ++
  "- Put the JSON on one line. Use double quotes.\n" ++
  "- Mention remembered facts naturally. Do not list them."

def builtinUser : String :=
  "\x7bother_section\x7dRecent conversation:\n\x7bhistory\x7d\n\n" ++
  "\x7bdisplay_name\x7d: \x7bmessage\x7d"

def builtin : Templates := ⟨"builtin", builtinSystem, builtinUser⟩

def factLines : List (String × String) → String
  | [] => "- nothing yet"
  | facts => "\n".intercalate (facts.map fun (name, value) => "- " ++ name ++ ": " ++ value)

def historyLines (displayName : String) : List Line → String
  | [] => "(this is the first message)"
  | history => "\n".intercalate (history.map fun l =>
      (match l.speaker with
        | .user => displayName
        | .assistant => "You") ++ ": " ++ l.content)

def otherSection : Option OtherUser → String
  | none => ""
  | some other =>
    "What you remember about " ++ other.name ++ " (another user):\n" ++ factLines other.facts ++
      "\n\n"

def values (c : Context) : Template.Values :=
  [("persona", c.system), ("display_name", c.displayName), ("language", c.language),
    ("facts", factLines c.facts), ("history", historyLines c.displayName c.history),
    ("other_section", otherSection c.other), ("message", c.message)]

def render (t : Templates) (c : Context) : String × String :=
  (Template.render (values c) t.system, Template.render (values c) t.user)

end Templates

end Companion
