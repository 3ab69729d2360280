import Companion.Record.Conversation
import Companion.Settings.Basic

/-!
Writing settings as JSON.
-/

namespace Companion

open Number Json

def printTruth (b : Bool) : List Char := if b then "true".toList else "false".toList

def printNat (n : Nat) : List Char := Nat.toDigits 10 n

/-- Numbers with 24 binary digits have a range of their own: they are written plainly while the
decimal exponent is between minus six and twelve. -/
def singleLayout : Layout := { layout with leastPlain := -6, greatestPlain := 12 }

def printSingle (x : Double) : List Char := (singleLayout.print? .single x).getD "null".toList

def GeneralSettings.print (s : GeneralSettings) : List Char :=
  printObject [("log_level", printString s.logLevel), ("json_logs", printTruth s.jsonLogs)]

def RecordSettings.print (s : RecordSettings) : List Char :=
  printObject [("default_language", printString s.defaultLanguage),
    ("history_capacity", printNat s.historyCapacity),
    ("group_message_capacity", printNat s.groupMessageCapacity),
    ("prompt_history", printNat s.promptHistory)]

def StorageSettings.print (s : StorageSettings) : List Char :=
  printObject [("backend", printString s.backend.name), ("path", printString s.path),
    ("wal_mode", printTruth s.walMode), ("backup_count", printNat s.backupCount.toNat),
    ("checksum_enabled", printTruth s.checksumEnabled)]

def DirectiveSettings.print (s : DirectiveSettings) : List Char :=
  printObject [("scan_order", printString s.scanOrder.name),
    ("default_reminder_minutes", printNat s.defaultMinutes.toNat),
    ("max_reminder_minutes", printNat s.maxMinutes.toNat),
    ("reminder_placeholder", printString s.placeholder),
    ("reminder_prefix", printString s.reminderStart)]

def ModelSettings.print (s : ModelSettings) : List Char :=
  printObject [("provider", printString s.provider), ("base_url", printString s.baseUrl),
    ("model", printString s.model), ("api_key_env", printString s.apiKeyVariable),
    ("request_timeout_ms", printNat s.requestTimeout.toNat),
    ("generation_timeout_ms", printNat s.generationTimeout.toNat),
    ("max_retries", printNat s.maxRetries.toNat), ("max_tokens", printNat s.maxTokens.toNat),
    ("temperature", printSingle s.temperature), ("fallback_text", printString s.fallbackText),
    ("persona", printString s.persona),
    ("prompt_file", (s.promptFile.map printString).getD "null".toList)]

def Settings.print (s : Settings) : List Char :=
  printObject [("general", s.general.print), ("records", s.records.print),
    ("persistence", s.storage.print), ("directives", s.directives.print), ("llm", s.model.print)]

end Companion
