import Companion.Time.Instant

/-!
Schedules: actions that are due once, some time after they were scheduled. A schedule keeps its own
time in whole milliseconds, and it is up to its timer at which of them a wait ends. An exact timer ends
it at the first one at which the delay is over.
-/

namespace Companion

open Time

structure Pending (α : Type) where
  id : UInt64
  due : Nat
  action : α
  deriving DecidableEq, Repr

/-- How many milliseconds a wait for a delay in nanoseconds takes. -/
abbrev Timer := Nat → Nat

/-- The last millisecond counts as a whole. -/
def Timer.exact : Timer := fun delay => (delay + 999999) / 1000000

structure Schedule (α : Type) where
  now : Nat := 0
  next : UInt64 := 0
  pending : List (Pending α) := []
  timer : Timer := .exact

/-- What the one who schedules an action gets: its number, the delay in nanoseconds, and the time of
day at which it is due, as late as times go. -/
structure Receipt where
  id : UInt64
  delay : Nat
  due : Instant
  deriving DecidableEq, Repr

namespace Schedule

variable {α : Type}

/-- The schedule with one more action, where it is `clock` on the wall. -/
def add (s : Schedule α) (clock : Instant) (delay : Nat) (action : α) : Receipt × Schedule α :=
  (⟨s.next, delay, clock.later delay⟩,
    { s with
      next := s.next + 1
      pending := s.pending ++ [⟨s.next, s.now + s.timer delay, action⟩] })

/-- The actions that are due at a time, the earlier ones first. -/
def dueBy (s : Schedule α) (time : Nat) : List (Pending α) :=
  (s.pending.filter fun p => p.due ≤ time).mergeSort fun p q => p.due ≤ q.due

def advanceTo (s : Schedule α) (time : Nat) : List (Pending α) × Schedule α :=
  (s.dueBy time, { s with now := time, pending := s.pending.filter fun p => time < p.due })

/-- The time moved on to a moment that something else comes first at: what is due before it fires,
and what is due at it is left for the next move. -/
def reach (s : Schedule α) (time : Nat) : List (Pending α) × Schedule α :=
  let (fired, s) := s.advanceTo (time - 1)
  (fired, { s with now := time })

def advance (s : Schedule α) (millis : Nat) : List (Pending α) × Schedule α :=
  s.advanceTo (s.now + millis)

end Schedule

end Companion
