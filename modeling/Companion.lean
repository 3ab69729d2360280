import Companion.Console
import Companion.Counters
import Companion.Directive.Apply
import Companion.Directive.Reply
import Companion.Directive.Tag
import Companion.Fixtures
import Companion.Json.Decode
import Companion.Json.Fault
import Companion.Json.Printer
import Companion.Json.Reader
import Companion.Json.Skip
import Companion.Json.Token
import Companion.Json.Value
import Companion.LockTable
import Companion.Main
import Companion.Model.Client
import Companion.Model.Provider
import Companion.Model.Status
import Companion.Names
import Companion.Number.Decimal
import Companion.Number.Double
import Companion.Number.Identifier
import Companion.Number.Shortest
import Companion.Prompt.Context
import Companion.Prompt.File
import Companion.Prompt.Template
import Companion.Record.Basic
import Companion.Record.Conversation
import Companion.Record.Facts
import Companion.Record.Group
import Companion.Record.User
import Companion.Rolling
import Companion.Schedule
import Companion.Settings.Basic
import Companion.Settings.Printer
import Companion.Settings.Reader
import Companion.Storage.Archive
import Companion.Storage.Checksum
import Companion.Storage.Database
import Companion.Storage.Memory
import Companion.Storage.Slot
import Companion.Storage.Unreliable
import Companion.Store
import Companion.Table
import Companion.Text.Blank
import Companion.Text.Lowercase
import Companion.Text.Octets
import Companion.Text.Quoted
import Companion.Text.Ranges
import Companion.Text.Word
import Companion.Time.Instant
import Companion.Time.Stamp
import Companion.Toml.Reader
import Companion.Toml.Scalar
import Companion.Toml.Value
import Companion.Turn.Errand
import Companion.Turn.Event
import Companion.Turn.Failure
import Companion.Turn.Pool
import Companion.Turn.Reply
import Companion.Turn.Setup
import Companion.Proofs.JsonText
import Companion.Proofs.StampText
import Companion.Proofs.RecordText
import Companion.Proofs.Loading
import Companion.Proofs.Locks
import Companion.Proofs.Turns
import Companion.Proofs.Interleaving
import Companion.Proofs.Exclusion
import Companion.Proofs.Durability
import Companion.Proofs.Serial
import Companion.Proofs.Skipping
import Companion.Proofs.Scanning
import Companion.Proofs.Stripping
import Companion.Proofs.ValueText
import Companion.Proofs.Writing
import Companion.Proofs.TokenEnds
import Companion.Proofs.ValueEnds
import Companion.Proofs.Acceptance
import Companion.Proofs.Leftovers
import Companion.Proofs.Strays
import Companion.Proofs.Codecs
import Companion.Proofs.CarryingOut
import Companion.Proofs.WholeTurns
import Companion.Proofs.Backups
import Companion.Proofs.LockLine
import Companion.Proofs.Arrivals
import Companion.Proofs.Conversations
import Companion.Proofs.LockRuns
import Companion.Proofs.Departures
import Companion.Proofs.Mirrors
import Companion.Proofs.Interchange
import Companion.Proofs.Listings
import Companion.Proofs.SavedRecords
import Companion.Proofs.SavedRuns
import Companion.Proofs.Media
import Companion.Proofs.Resemblance
import Companion.Proofs.ResemblingStores
import Companion.Proofs.AlikeTurns
import Companion.Proofs.Discretion
import Companion.Proofs.Incidents
import Companion.Proofs.Accounts
import Companion.Proofs.AccountRuns
import Companion.Proofs.Reminders
import Companion.Proofs.LoadSteps
import Companion.Proofs.Bustles
import Companion.Proofs.LoadLocks
import Companion.Proofs.LoadRaces
import Companion.Proofs.OctetParts
import Companion.Proofs.Removal
import Companion.Proofs.OctetScan
import Companion.Proofs.ProcessingOrder
import Companion.Proofs.Mishaps
import Companion.Proofs.Rotation
import Companion.Proofs.SavedOver
import Companion.Proofs.Substitution
import Companion.Proofs.NameLookup
import Companion.Proofs.Corruption
import Companion.Proofs.FactChanges
import Companion.Proofs.Retries
import Companion.Proofs.StoredChecksums
import Companion.Proofs.Rounding
import Companion.Proofs.Delays
import Companion.Proofs.Evictions
import Companion.Proofs.Mentions
