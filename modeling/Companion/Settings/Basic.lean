import Companion.Number.Decimal

/-!
Settings. Every one has a default, so that no setting at all is a working choice.
-/

namespace Companion

open Number

structure GeneralSettings where
  logLevel : String := "info"
  jsonLogs : Bool := false
  deriving DecidableEq, Repr

structure RecordSettings where
  defaultLanguage : String := "en"
  historyCapacity : Nat := 15
  groupMessageCapacity : Nat := 50
  promptHistory : Nat := 10
  deriving DecidableEq, Repr

inductive BackendKind
  | sqlite
  | memory
  deriving DecidableEq, Repr

def BackendKind.name : BackendKind → String
  | .sqlite => "sqlite"
  | .memory => "memory"

structure StorageSettings where
  backend : BackendKind := .sqlite
  path : String := "confidant.db"
  walMode : Bool := true
  backupCount : UInt32 := 3
  checksumEnabled : Bool := true
  deriving DecidableEq, Repr

/-- The order in which the directives of a reply are processed. -/
inductive ScanOrder
  | kindGrouped
  | sourceOrder
  deriving DecidableEq, Repr

def ScanOrder.name : ScanOrder → String
  | .kindGrouped => "kind_grouped"
  | .sourceOrder => "source_order"

structure DirectiveSettings where
  scanOrder : ScanOrder := .kindGrouped
  defaultMinutes : UInt64 := 1
  maxMinutes : UInt64 := 10080
  placeholder : String := "Reminder!"
  reminderStart : String := "⏰ "
  deriving DecidableEq, Repr

def defaultTemperature : Double := (Double.ofDecimal false 7 (-1)).toSingle

structure ModelSettings where
  provider : String := "ollama"
  baseUrl : String := "http://localhost:11434"
  model : String := "llama3.1:8b"
  apiKeyVariable : String := "CONFIDANT_API_KEY"
  requestTimeout : UInt64 := 30000
  generationTimeout : UInt64 := 90000
  maxRetries : UInt32 := 2
  maxTokens : UInt32 := 512
  temperature : Double := defaultTemperature
  fallbackText : String := "Sorry, I can't think straight right now. Please try again in a moment."
  persona : String := "You are a friendly assistant who remembers the people you talk to."
  promptFile : Option String := none
  deriving DecidableEq, Repr

structure Settings where
  general : GeneralSettings := {}
  records : RecordSettings := {}
  storage : StorageSettings := {}
  directives : DirectiveSettings := {}
  model : ModelSettings := {}
  deriving DecidableEq, Repr

end Companion
