import Companion.Settings.Basic
import Companion.Storage.Slot
import Companion.Toml.Reader

/-!
Reading settings. A section is a table with some of its settings, or the list of them in order; what
is not given is as without any settings, and names that are not known are passed over.
-/

namespace Companion

open Number Text

namespace Toml

/-- Where the settings of a section are looked up, by place and by name. -/
abbrev Section := Nat → String → Option Value

/-- The settings in a value. A date is a section in which nothing is given. -/
def Value.section? : Value → Option Section
  | .table entries => some fun _ name => entries.lookup name
  | .array items => some fun place _ => items[place]?
  | .date => some fun _ _ => none
  | _ => none

def Section.get {α : Type} (s : Section) (place : Nat) (name : String) (read : Value → Option α)
    (otherwise : α) : Option α :=
  match s place name with
  | some v => read v
  | none => some otherwise

def Value.text? : Value → Option String
  | .string s => some s
  | _ => none

def Value.truth? : Value → Option Bool
  | .boolean b => some b
  | _ => none

def Value.below? (limit : Nat) : Value → Option Nat
  | .integer n => if 0 ≤ n ∧ n < limit then some n.toNat else none
  | _ => none

def Value.long? (v : Value) : Option UInt64 := (v.below? UInt64.size).map .ofNat

def Value.short? (v : Value) : Option UInt32 := (v.below? UInt32.size).map .ofNat

def Value.single? : Value → Option Double
  | .float x => some x.toSingle
  | .integer n => some (Format.single.nearest (n < 0) (n.natAbs * unitsPerOne) 1)
  | _ => none

/-- The variant that a value names: a text, or a table from the name to nothing. -/
def Value.variant? (v : Value) : Option String :=
  match v with
  | .string s => some s
  | .table [(name, .table [])] => some name
  | .table [(name, .array [])] => some name
  | _ => none

end Toml

open Toml

def GeneralSettings.read (v : Toml.Value) : Option GeneralSettings := do
  let s ← v.section?
  let d : GeneralSettings := {}
  some ⟨← s.get 0 "log_level" Value.text? d.logLevel, ← s.get 1 "json_logs" Value.truth? d.jsonLogs⟩

def RecordSettings.read (v : Toml.Value) : Option RecordSettings := do
  let s ← v.section?
  let d : RecordSettings := {}
  some ⟨← s.get 0 "default_language" Value.text? d.defaultLanguage,
    ← s.get 1 "history_capacity" (Value.below? UInt64.size) d.historyCapacity,
    ← s.get 2 "group_message_capacity" (Value.below? UInt64.size) d.groupMessageCapacity,
    ← s.get 3 "prompt_history" (Value.below? UInt64.size) d.promptHistory⟩

def BackendKind.read (v : Toml.Value) : Option BackendKind :=
  v.variant?.bind fun name => [BackendKind.sqlite, .memory].find? (·.name == name)

def StorageSettings.read (v : Toml.Value) : Option StorageSettings := do
  let s ← v.section?
  let d : StorageSettings := {}
  some ⟨← s.get 0 "backend" BackendKind.read d.backend, ← s.get 1 "path" Value.text? d.path,
    ← s.get 2 "wal_mode" Value.truth? d.walMode,
    ← s.get 3 "backup_count" Value.short? d.backupCount,
    ← s.get 4 "checksum_enabled" Value.truth? d.checksumEnabled⟩

def ScanOrder.read (v : Toml.Value) : Option ScanOrder :=
  v.variant?.bind fun name => [ScanOrder.kindGrouped, .sourceOrder].find? (·.name == name)

def DirectiveSettings.read (v : Toml.Value) : Option DirectiveSettings := do
  let s ← v.section?
  let d : DirectiveSettings := {}
  some ⟨← s.get 0 "scan_order" ScanOrder.read d.scanOrder,
    ← s.get 1 "default_reminder_minutes" Value.long? d.defaultMinutes,
    ← s.get 2 "max_reminder_minutes" Value.long? d.maxMinutes,
    ← s.get 3 "reminder_placeholder" Value.text? d.placeholder,
    ← s.get 4 "reminder_prefix" Value.text? d.reminderStart⟩

def ModelSettings.read (v : Toml.Value) : Option ModelSettings := do
  let s ← v.section?
  let d : ModelSettings := {}
  some ⟨← s.get 0 "provider" Value.text? d.provider, ← s.get 1 "base_url" Value.text? d.baseUrl,
    ← s.get 2 "model" Value.text? d.model, ← s.get 3 "api_key_env" Value.text? d.apiKeyVariable,
    ← s.get 4 "request_timeout_ms" Value.long? d.requestTimeout,
    ← s.get 5 "generation_timeout_ms" Value.long? d.generationTimeout,
    ← s.get 6 "max_retries" Value.short? d.maxRetries,
    ← s.get 7 "max_tokens" Value.short? d.maxTokens,
    ← s.get 8 "temperature" Value.single? d.temperature,
    ← s.get 9 "fallback_text" Value.text? d.fallbackText,
    ← s.get 10 "persona" Value.text? d.persona,
    ← s.get 11 "prompt_file" (fun v => v.text?.map some) d.promptFile⟩

namespace Settings

def read (v : Toml.Value) : Option Settings := do
  let s ← v.section?
  some ⟨← s.get 0 "general" GeneralSettings.read {}, ← s.get 1 "records" RecordSettings.read {},
    ← s.get 2 "persistence" StorageSettings.read {},
    ← s.get 3 "directives" DirectiveSettings.read {}, ← s.get 4 "llm" ModelSettings.read {}⟩

def parse (text : String) : Option Settings := (Toml.parse text).bind read

/-- The settings that a file holds, where nothing stands for a file that cannot be read. A file that
is no text is unreadable too. -/
def ofFile (file : Option Octets) : Except StoreError Settings :=
  match file.bind ofUtf8? with
  | none => .error (.io "cannot read the settings")
  | some text =>
    match parse (String.ofList text) with
    | some settings => .ok settings
    | none => .error (.configuration "the settings are no valid TOML")

end Settings

end Companion
