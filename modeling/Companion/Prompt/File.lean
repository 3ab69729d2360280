import Companion.Prompt.Context
import Companion.Settings.Reader

/-!
Files of templates: a table with a version, which may be missing, and the two templates.
-/

namespace Companion.Templates

open Toml

/-- The version of templates that do not tell theirs. -/
def firstVersion : String := "1"

def required {α : Type} (s : Section) (place : Nat) (name : String) (read : Value → Option α) :
    Option α :=
  (s place name).bind read

def read (v : Value) : Option Templates := do
  let s ← v.section?
  some ⟨← s.get 0 "version" Value.text? firstVersion, ← required s 1 "system" Value.text?,
    ← required s 2 "user" Value.text?⟩

def parse (text : String) : Option Templates := do
  let s ← (← Toml.parse text).section?
  required s 0 "prompt" read

end Companion.Templates
