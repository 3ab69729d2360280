import Companion.Proofs.CarryingOut
import Companion.Proofs.Incidents
import Mathlib.Algebra.Group.Pi.Basic

/-!
What the counters account for. Counters come in groups, and what a group is about moves exactly one
counter of it: a record that is asked for was loaded, made or could not be read, and a directive that
was found was applied or dropped. Each function of the store and of a turn is told by the tally of what
it does.
-/

namespace Companion

open Number Text Time Json

/-! ### Tallies -/

/-- What is accounted for: records asked for, records written, saves that failed and were not reported,
slots moved aside, directives found in replies, turns answered with the fallback text, and reminders
that were scheduled and that fired. -/
inductive Account
  | loads
  | writes
  | refusals
  | moves
  | directives
  | fallbacks
  | promises
  | deliveries
  deriving DecidableEq

def Account.isOfStore : Account → Bool
  | .loads => true
  | .writes => true
  | .refusals => true
  | .moves => true
  | _ => false

abbrev Tally := Account → Nat

def Counter.account : Counter → Account
  | .recordsLoaded => .loads
  | .recordsCreated => .loads
  | .readFailures => .loads
  | .savesCompleted => .writes
  | .saveFailures => .refusals
  | .corruptSlotsRecovered => .moves
  | .directivesApplied => .directives
  | .directivesDropped => .directives
  | .remindersScheduled => .promises
  | .remindersFired => .deliveries
  | .generationFallbacks => .fallbacks

def Counters.balance (c : Counters) : Account → UInt64
  | .loads => c.get .recordsLoaded + c.get .recordsCreated + c.get .readFailures
  | .writes => c.get .savesCompleted
  | .refusals => c.get .saveFailures
  | .moves => c.get .corruptSlotsRecovered
  | .directives => c.get .directivesApplied + c.get .directivesDropped
  | .fallbacks => c.get .generationFallbacks
  | .promises => c.get .remindersScheduled
  | .deliveries => c.get .remindersFired

/-- Adding to a counter adds to its account and to no other. -/
theorem Counters.balance_add (c : Counters) (n : UInt64) (k : Counter) (a : Account) :
    (c.add n k).balance a = c.balance a + if k.account = a then n else 0 := by
  cases a <;> cases k <;> simp [balance, get_add, Counter.account] <;> ac_rfl

/-- Counters that moved on by a tally. -/
def Counters.Gain (t : Tally) (c c' : Counters) : Prop :=
  ∀ a, c'.balance a = c.balance a + .ofNat (t a)

namespace Counters.Gain

variable {t u : Tally} {c d e : Counters}

theorem refl (c : Counters) : Gain 0 c c := fun a => (UInt64.add_zero (c.balance a)).symm

theorem of_eq (h : d = c) : Gain 0 c d := h ▸ refl c

theorem trans (h : Gain t c d) (h' : Gain u d e) : Gain (t + u) c e := by
  intro a
  rw [h' a, h a, UInt64.add_assoc, ← UInt64.ofNat_add]
  rfl

/-- Some more of a counter is as much more of its account. -/
theorem add (h : Gain t c d) (n : Nat) (k : Counter)
    (hu : ∀ a, u a = t a + if k.account = a then n else 0) : Gain u c (d.add (.ofNat n) k) := by
  intro a
  rw [balance_add, h a, hu a, UInt64.ofNat_add, UInt64.add_assoc]
  split <;> rfl

end Counters.Gain

open Counters (Gain)

/-! ### The store -/

namespace Store

variable {σ : Type} [Backend σ]

section Records

variable (R : Type) [Record R] (now : Instant)

variable [Faithful σ]

/-- Loading a record empties its slot: it moves what lies there aside. -/
def recovers (id : Int64) (s : Store σ) : Bool :=
  (s.content (address R id)).isSome && ((s.getOrCreate R now id).2.content (address R id)).isNone

/-- A slot that loading empties held octets that hold no record, and they are among the backups. -/
theorem recovers_iff [Record.Steady R] (id : Int64) (s : Store σ) : s.recovers R now id = true ↔
    LockKey.Aside ⟨Record.kind R, id⟩ s.content (s.getOrCreate R now id).2.content := by
  unfold recovers
  constructor
  · intro h
    obtain ⟨hsome, hnone⟩ := Bool.and_eq_true_iff.mp h
    refine ((getOrCreate_loads R now id s).1.visited.own).resolve_left fun hsame => ?_
    have hempty : s.content (address R id) = none := hsame.symm.trans (Option.isNone_iff_eq_none.mp hnone)
    rw [hempty] at hsome
    cases hsome
  · rintro ⟨data, backup, hslot, -, hempty, -⟩
    rw [show s.content (address R id) = some data from hslot,
      show (s.getOrCreate R now id).2.content (address R id) = none from hempty]
    rfl

def loading (id : Int64) (s : Store σ) : Tally
  | .loads => 1
  | .moves => (s.recovers R now id).toNat
  | _ => 0

variable {R}

omit [Faithful σ] in
/-- What writing a record accounts for, where a failure is reported: it counts if the backend wrote it. -/
def writing (r : R) (s : Store σ) : Tally := Pi.single .writes (if s.Writes r then 1 else 0)

omit [Faithful σ] in
/-- What saving a record accounts for: it is written, or its failure is counted. -/
def saving (r : R) (s : Store σ) : Tally
  | .writes => if s.Writes r then 1 else 0
  | .refusals => if s.Writes r then 0 else 1
  | _ => 0

variable (R)

/-- What a change of a record accounts for: loading it, and saving it if it may be. -/
def updating (id : Int64) (change : R → R) (s : Store σ) : Tally :=
  let (loaded, t) := s.getOrCreate R now id
  s.loading R now id + if loaded.state.canSave then t.saving (change loaded.record) else 0

end Records

def loadingOf [Faithful σ] (now : Instant) (key : LockKey) (s : Store σ) : Tally :=
  match key.kind with
  | .user => s.loading UserRecord now key.id
  | .group => s.loading GroupRecord now key.id

end Store

section Calls

variable {σ : Type} [Backend σ] (now : Instant)

variable [Faithful σ]

def RecordCall.tally {R : Type} [Record R] (s : Store σ) : RecordCall R → Tally
  | .getOrCreate id => s.loading R now id
  | .load id => s.loading R now id
  | .fetch _ => 0
  | .update id change => s.updating R now id (change now)
  | .save record => s.saving record
  | .trySave record => s.writing record
  | .listAll => 0

/-- What an inquiry accounts for; what is done to slots past the store is not accounted for. -/
def Inquiry.tally (s : Store σ) : Inquiry → Tally
  | .users call => call.tally now s
  | .groups call => call.tally now s
  | _ => 0

end Calls

/-! ### Turns -/

section Turns

variable {σ : Type} [Backend σ] (now : Instant)

def Unsaved.tally (s : Store σ) : Unsaved → Tally
  | .nothing => 0
  | .user record => s.saving record
  | .group record => s.saving record

/-- What an answer of the model accounts for: the directives in it and the reminders among those that
are accepted, or that it failed. -/
def answerTally : Except TurnError String → Tally
  | .ok text, .directives => (scan text.toList).length
  | .ok text, .promises => ((accepted text.toList).filter (·.kind == .remind)).length
  | .error _, .fallbacks => 1
  | _, _ => 0

end Turns

end Companion
