/-!
Counters of what happened. They have 64 bits and start again after the greatest number. Everything
that is swallowed on the chat side is counted here.
-/

namespace Companion

inductive Counter
  | recordsLoaded
  | recordsCreated
  | readFailures
  | savesCompleted
  | saveFailures
  | corruptSlotsRecovered
  | directivesApplied
  | directivesDropped
  | remindersScheduled
  | remindersFired
  | generationFallbacks
  deriving DecidableEq, Repr

/-- All counters, in the order in which they are shown. -/
def Counter.all : List Counter :=
  [.recordsLoaded, .recordsCreated, .readFailures, .savesCompleted, .saveFailures,
    .corruptSlotsRecovered, .directivesApplied, .directivesDropped, .remindersScheduled,
    .remindersFired, .generationFallbacks]

def Counter.name : Counter → String
  | .recordsLoaded => "records_loaded"
  | .recordsCreated => "records_created"
  | .readFailures => "read_failures"
  | .savesCompleted => "saves_completed"
  | .saveFailures => "save_failures"
  | .corruptSlotsRecovered => "corrupt_slots_recovered"
  | .directivesApplied => "directives_applied"
  | .directivesDropped => "directives_dropped"
  | .remindersScheduled => "reminders_scheduled"
  | .remindersFired => "reminders_fired"
  | .generationFallbacks => "generation_fallbacks"

def Counter.help : Counter → String
  | .recordsLoaded => "Records loaded from a slot"
  | .recordsCreated => "Default records handed out"
  | .readFailures => "Record loads that hit a backend error"
  | .savesCompleted => "Record saves completed"
  | .saveFailures => "Record saves that failed"
  | .corruptSlotsRecovered => "Unreadable slots quarantined"
  | .directivesApplied => "Directives applied"
  | .directivesDropped => "Malformed directives dropped"
  | .remindersScheduled => "Reminders scheduled"
  | .remindersFired => "Reminders delivered"
  | .generationFallbacks => "Turns answered with fallback text"

structure Counters where
  recordsLoaded : UInt64 := 0
  recordsCreated : UInt64 := 0
  readFailures : UInt64 := 0
  savesCompleted : UInt64 := 0
  saveFailures : UInt64 := 0
  corruptSlotsRecovered : UInt64 := 0
  directivesApplied : UInt64 := 0
  directivesDropped : UInt64 := 0
  remindersScheduled : UInt64 := 0
  remindersFired : UInt64 := 0
  generationFallbacks : UInt64 := 0
  deriving DecidableEq, Repr, Inhabited

namespace Counters

def get (c : Counters) : Counter → UInt64
  | .recordsLoaded => c.recordsLoaded
  | .recordsCreated => c.recordsCreated
  | .readFailures => c.readFailures
  | .savesCompleted => c.savesCompleted
  | .saveFailures => c.saveFailures
  | .corruptSlotsRecovered => c.corruptSlotsRecovered
  | .directivesApplied => c.directivesApplied
  | .directivesDropped => c.directivesDropped
  | .remindersScheduled => c.remindersScheduled
  | .remindersFired => c.remindersFired
  | .generationFallbacks => c.generationFallbacks

def add (c : Counters) (n : UInt64) : Counter → Counters
  | .recordsLoaded => { c with recordsLoaded := c.recordsLoaded + n }
  | .recordsCreated => { c with recordsCreated := c.recordsCreated + n }
  | .readFailures => { c with readFailures := c.readFailures + n }
  | .savesCompleted => { c with savesCompleted := c.savesCompleted + n }
  | .saveFailures => { c with saveFailures := c.saveFailures + n }
  | .corruptSlotsRecovered => { c with corruptSlotsRecovered := c.corruptSlotsRecovered + n }
  | .directivesApplied => { c with directivesApplied := c.directivesApplied + n }
  | .directivesDropped => { c with directivesDropped := c.directivesDropped + n }
  | .remindersScheduled => { c with remindersScheduled := c.remindersScheduled + n }
  | .remindersFired => { c with remindersFired := c.remindersFired + n }
  | .generationFallbacks => { c with generationFallbacks := c.generationFallbacks + n }

def bump (c : Counters) (k : Counter) : Counters := c.add 1 k

/-- Adding to a counter adds to it and to no other. -/
theorem get_add (c : Counters) (n : UInt64) (j k : Counter) :
    (c.add n k).get j = if j = k then c.get j + n else c.get j := by
  cases j <;> cases k <;> rfl

def exposeOne (c : Counters) (k : Counter) : String :=
  let name := "confidant_" ++ k.name ++ "_total"
  "# HELP " ++ name ++ " " ++ k.help ++ "\n# TYPE " ++ name ++ " counter\n" ++ name ++ " " ++
    toString (c.get k).toNat ++ "\n"

/-- All counters in the text format of Prometheus. -/
def expose (c : Counters) : String := String.join (Counter.all.map c.exposeOne)

end Counters

end Companion
