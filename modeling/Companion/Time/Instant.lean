/-!
Instants of universal time. A day is a date of the Gregorian calendar in the years that a calendar
of 32 bits can hold; within it come the second and the nanosecond. Any second may be followed by a leap
second, held as nanoseconds beyond a second, though clocks have none but at the end of a minute.
-/

namespace Companion.Time

def isLeap (year : Int) : Bool := year % 4 == 0 && (year % 100 != 0 || year % 400 == 0)

def daysIn (year : Int) (month : Nat) : Nat :=
  if month = 2 then if isLeap year then 29 else 28
  else if month = 4 ∨ month = 6 ∨ month = 9 ∨ month = 11 then 30
  else 31

def firstYear : Int := -262143

def lastYear : Int := 262142

def IsDate (year : Int) (month day : Nat) : Prop :=
  (firstYear ≤ year ∧ year ≤ lastYear) ∧ (1 ≤ month ∧ month ≤ 12) ∧
    (1 ≤ day ∧ day ≤ daysIn year month)

instance (year : Int) (month day : Nat) : Decidable (IsDate year month day) :=
  inferInstanceAs (Decidable (_ ∧ _ ∧ _))

structure Date where
  year : Int
  month : Nat
  day : Nat
  valid : IsDate year month day
  deriving DecidableEq, Repr

def Date.of? (year : Int) (month day : Nat) : Option Date :=
  if h : IsDate year month day then some ⟨year, month, day, h⟩ else none

def Date.next? (d : Date) : Option Date :=
  if d.day < daysIn d.year d.month then Date.of? d.year d.month (d.day + 1)
  else if d.month < 12 then Date.of? d.year (d.month + 1) 1
  else Date.of? (d.year + 1) 1 1

def Date.previous? (d : Date) : Option Date :=
  if 1 < d.day then Date.of? d.year d.month (d.day - 1)
  else if 1 < d.month then Date.of? d.year (d.month - 1) (daysIn d.year (d.month - 1))
  else Date.of? (d.year - 1) 12 31

/-- How many days lie between the first of January of the year one and the date. -/
def Date.number (d : Date) : Int :=
  let y := d.year - 1
  let months := (List.range (d.month - 1)).foldl (fun n m => n + daysIn d.year (m + 1)) 0
  365 * y + y.fdiv 4 - y.fdiv 100 + y.fdiv 400 + (months + (d.day - 1) : Nat)

/-- The month and the day that follow `n` days after the first of a month, among `months` months. -/
def monthAndDay (year : Int) : (months : Nat) → (month n : Nat) → Nat × Nat
  | 0, month, n => (month, n + 1)
  | months + 1, month, n =>
    if n < daysIn year month then (month, n + 1)
    else monthAndDay year months (month + 1) (n - daysIn year month)

/-- The date with a number, if there is one. Four centuries have 146097 days, the last year of a
century or of four years being the one that may be longer. -/
def Date.ofNumber? (n : Int) : Option Date :=
  let inCycle := (n % 146097).toNat
  let century := min 3 (inCycle / 36524)
  let inCentury := inCycle - century * 36524
  let four := inCentury / 1461
  let inFour := inCentury % 1461
  let single := min 3 (inFour / 365)
  let year := 400 * (n / 146097) + 100 * century + 4 * four + single + 1
  let (month, day) := monthAndDay year 11 1 (inFour - single * 365)
  Date.of? year month day

def epoch : Date := ⟨1970, 1, 1, by decide⟩

def lastDate : Date := ⟨262142, 12, 31, by decide⟩

def secondsPerDay : Nat := 86400

def nanosPerSecond : Nat := 1000000000

def IsMoment (second nano : Nat) : Prop := second < secondsPerDay ∧ nano < 2 * nanosPerSecond

instance (second nano : Nat) : Decidable (IsMoment second nano) :=
  inferInstanceAs (Decidable (_ ∧ _))

structure Instant where
  date : Date
  second : Nat
  nano : Nat
  valid : IsMoment second nano
  deriving DecidableEq, Repr

def Instant.of? (date : Date) (second nano : Nat) : Option Instant :=
  if h : IsMoment second nano then some ⟨date, second, nano, h⟩ else none

def Instant.seconds (t : Instant) : Int :=
  (t.date.number - epoch.number) * secondsPerDay + t.second

def Instant.millis (t : Instant) : Int := t.seconds * 1000 + (t.nano / 1000000 : Nat)

def Instant.nanos (t : Instant) : Int := t.seconds * nanosPerSecond + t.nano

def lastInstant : Instant := ⟨lastDate, 86399, 999999999, by decide⟩

/-- The instant some nanoseconds later, or the last one if there is none so late. It is in the same leap
second, if that lasts long enough, and else counted as if the leap second were the one before it. -/
def Instant.later (t : Instant) (nanos : Nat) : Instant :=
  let moment :=
    if nanosPerSecond ≤ t.nano ∧ t.nano + nanos < 2 * nanosPerSecond then
      Instant.of? t.date t.second (t.nano + nanos)
    else
      let total := t.second * nanosPerSecond + t.nano + nanos -
        if nanosPerSecond ≤ t.nano then nanosPerSecond else 0
      let seconds := total / nanosPerSecond
      let date := Date.ofNumber? (t.date.number + (seconds / secondsPerDay : Nat))
      date.bind fun d => Instant.of? d (seconds % secondsPerDay) (total % nanosPerSecond)
  moment.getD lastInstant

def Instant.clockFace (t : Instant) : String :=
  let two (n : Nat) : List Char := [Char.ofNat (48 + n / 10 % 10), Char.ofNat (48 + n % 10)]
  String.ofList (two (t.second / 3600) ++ ':' :: two (t.second / 60 % 60))

end Companion.Time
