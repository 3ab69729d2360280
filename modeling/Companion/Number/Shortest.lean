import Companion.Number.Double

/-!
The fewest decimal digits that read back. The reals that round to a number form an interval around
it, with both ends when the last binary digit is even. On the grid of the multiples of a power of
ten only the two neighbours of the number can be its nearest points, so the search goes through the
powers of ten from above and stops at the first grid with a neighbour in the interval.
-/

namespace Companion.Number

/-- Decimal digits and the power of ten they are multiplied by. -/
structure Decimal where
  digits : Nat
  exponent : Int
  deriving DecidableEq, Repr

/-- The reals that round to a number of `units`, as distances in quarters of a unit. -/
structure Vicinity where
  units : Nat
  below : Nat
  above : Nat
  closed : Bool
  deriving DecidableEq, Repr

/-- The interval of a number: half a step on both sides, and a quarter below a power of two. -/
def Format.vicinity (f : Format) (units : Nat) : Vicinity :=
  let e := f.exponent units
  let step := Nat.pow 2 e
  let narrow := f.least < e && units == Nat.pow 2 (f.digits - 1) * step
  ⟨units, if narrow then step else 2 * step, 2 * step, (units / step) % 2 == 0⟩

/-- The point of the grid `10 ^ k` that lies in the interval, the nearer one of two. -/
def Vicinity.onGrid? (v : Vicinity) (k : Int) : Option Nat :=
  let scale := Nat.pow 10 (-k).toNat
  let step := unitsPerOne * Nat.pow 10 k.toNat
  let value := v.units * scale
  let low := value / step
  let before := value - low * step
  let after := step - before
  let inside (gap side : Nat) : Bool :=
    if v.closed then 4 * gap ≤ side * scale else 4 * gap < side * scale
  let lowIn := inside before v.below
  let highIn := inside after v.above
  if lowIn && highIn then
    some (if before < after || (before == after && low % 2 == 0) then low else low + 1)
  else if lowIn then some low
  else if highIn then some (low + 1)
  else none

/-- The first grid with a point in the interval, from `10 ^ k` down, through `n` grids. -/
def Vicinity.search (v : Vicinity) : Nat → Int → Option Decimal
  | 0, _ => none
  | n + 1, k =>
    match v.onGrid? k with
    | some d => some ⟨d, k⟩
    | none => v.search n (k - 1)

/-- The grids between the largest double and the last digits of the least one. -/
def gridCount : Nat := 700

/-- The fewest digits that read back as a number of `units`, which is not zero. -/
def Format.shortest (f : Format) (units : Nat) : Decimal :=
  let top := (Nat.toDigits 10 (units / unitsPerOne)).length
  ((f.vicinity units).search gridCount top).getD ⟨0, 0⟩

/-- How a number is laid out: the decimal exponents that are written without an exponent, and the
mark, with a sign or without, in front of a written one. -/
structure Layout where
  leastPlain : Int
  greatestPlain : Int
  mark : Char
  plusSign : Bool

/-- Digits with a point `point` places after the first digit, zeros filling the gaps. -/
def placePoint (digits : List Char) (point : Int) : List Char :=
  if point ≤ 0 then '0' :: '.' :: List.replicate (-point).toNat '0' ++ digits
  else
    let n := point.toNat
    if digits.length ≤ n then digits ++ List.replicate (n - digits.length) '0' ++ ['.', '0']
    else digits.take n ++ '.' :: digits.drop n

def withExponent (layout : Layout) (digits : List Char) (exponent : Int) : List Char :=
  let mantissa := match digits with
    | d :: e :: rest => d :: '.' :: e :: rest
    | ds => ds
  let sign := if exponent < 0 then ['-'] else if layout.plusSign then ['+'] else []
  mantissa ++ layout.mark :: sign ++ Nat.toDigits 10 exponent.natAbs

def Layout.write (layout : Layout) (d : Decimal) : List Char :=
  let digits := Nat.toDigits 10 d.digits
  let point := d.exponent + digits.length
  if layout.leastPlain ≤ point - 1 ∧ point - 1 ≤ layout.greatestPlain then placePoint digits point
  else withExponent layout digits (point - 1)

/-- A finite number of a format with the fewest digits, laid out; nothing for the others. -/
def Layout.print? (layout : Layout) (f : Format) : Double → Option (List Char)
  | .finite s u =>
    let sign := if s then ['-'] else []
    some (sign ++ if u = 0 then ['0', '.', '0'] else layout.write (f.shortest u))
  | _ => none

end Companion.Number
