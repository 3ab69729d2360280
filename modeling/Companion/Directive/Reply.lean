import Companion.Directive.Tag
import Companion.Json.Printer
import Companion.Json.Reader
import Companion.Settings.Basic

/-!
Replies: prose with directives in it. An update gives facts to remember, a reminder something to say
later. A payload that is no JSON object drops its directive, and no other.
-/

namespace Companion

open Number Text Json

inductive PayloadError
  | malformed (fault : Fault)
  | notObject (value : Value)

def PayloadError.message (payload : List Char) : PayloadError → String
  | .malformed f => f.message (symbolsOf payload)
  | .notObject v => "expected a JSON object, got " ++ v.kindName

def parsePayload (payload : List Char) : Except PayloadError (List (String × Value)) :=
  match parse payload with
  | .ok (.object members) => .ok members
  | .ok v => .error (.notObject v)
  | .error f => .error (.malformed f)

/-- What is remembered for a value: nothing for null, a text as it is, anything else in JSON. -/
def factText? : Value → Option String
  | .null => none
  | .string s => some s
  | v => some v.render

def factsOf (members : List (String × Value)) : List (String × String) :=
  members.filterMap fun (name, v) => (factText? v).map (name, ·)

def parseUpdate (payload : List Char) : Except PayloadError (List (String × String)) :=
  (parsePayload payload).map factsOf

structure Reminder where
  minutes : Double
  text : String
  deriving DecidableEq, Repr

/-- A number of seconds that no delay can have. -/
def secondLimit : Nat := UInt64.size

/-- The nanoseconds in a number of seconds, to the nearest one; none if there are too many. -/
def nanosOf : Double → Nat
  | .finite false units =>
    if units < secondLimit * unitsPerOne then halfEven (units * 1000000000) unitsPerOne else 0
  | _ => 0

/-- The delay of a reminder in nanoseconds. -/
def Reminder.delay (r : Reminder) : Nat := nanosOf (r.minutes.mul (.ofNat 60))

/-- The minutes that members ask for: a number, or a text that writes one. -/
def requestedMinutes? (members : List (String × Value)) : Option Double :=
  match valueOf? "minutes" members with
  | some (.number n) => some n.toDouble
  | some (.string s) => Double.read? (trim s.toList)
  | _ => none

/-- The minutes of a reminder: what was asked for if it is a positive number, and never more than
the settings allow. -/
def minutesOf (settings : DirectiveSettings) (members : List (String × Value)) : Double :=
  let requested := (requestedMinutes? members).filter fun m => m.isFinite && m.isPositive
  (requested.getD (.ofNat settings.defaultMinutes.toNat)).min (.ofNat settings.maxMinutes.toNat)

/-- The text of a reminder: what was given unless it is blank. -/
def reminderText (settings : DirectiveSettings) (members : List (String × Value)) : String :=
  match (valueOf? "text" members).bind Value.text? with
  | some s => if trimmed s = "" then settings.placeholder else trimmed s
  | none => settings.placeholder

def parseReminder (settings : DirectiveSettings) (payload : List Char) :
    Except PayloadError Reminder :=
  (parsePayload payload).map fun members =>
    ⟨minutesOf settings members, reminderText settings members⟩

inductive Directive
  | update (facts : List (String × String))
  | remind (reminder : Reminder)
  deriving DecidableEq, Repr

structure Dropped where
  kind : DirectiveKind
  payload : String
  reason : String
  deriving DecidableEq, Repr

/-- A reply taken apart: the prose, and the directives that can be carried out and those that
cannot, both in the order of processing. -/
structure Reply where
  text : String
  directives : List Directive
  dropped : List Dropped
  deriving DecidableEq, Repr

def Tagged.read (settings : DirectiveSettings) (t : Tagged) : Except Dropped Directive :=
  let parsed := match t.kind with
    | .update => (parseUpdate t.payload).map Directive.update
    | .remind => (parseReminder settings t.payload).map Directive.remind
  parsed.mapError fun e => ⟨t.kind, String.ofList t.payload, e.message t.payload⟩

/-- The order of processing: as found, or updates first. -/
def inOrder (order : ScanOrder) (found : List Tagged) : List Tagged :=
  match order with
  | .sourceOrder => found
  | .kindGrouped => found.filter (·.kind == .update) ++ found.filter (·.kind == .remind)

def successes {ε α : Type} (results : List (Except ε α)) : List α := results.filterMap (·.toOption)

def failures {ε α : Type} (results : List (Except ε α)) : List ε :=
  results.filterMap fun
    | .ok _ => none
    | .error e => some e

def Reply.parse (settings : DirectiveSettings) (generated : String) : Reply :=
  let text := generated.toList
  let found := scan text
  let results := (inOrder settings.scanOrder found).map (Tagged.read settings)
  ⟨String.ofList (strip text (found.map (·.span))), successes results, failures results⟩

end Companion
