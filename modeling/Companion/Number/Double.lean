/-!
Binary floating-point numbers in exact arithmetic. Every finite double is a whole number of units of
2⁻¹⁰⁷⁴, the least positive double, so a finite number is held as its sign and its count of units and
comparing magnitudes is comparing naturals. An operation computes the exact quotient and rounds
once, to the nearest number of the format, a half going to the even neighbour.
-/

namespace Companion.Number

/-- A floating-point number; `units` counts 2⁻¹⁰⁷⁴. -/
inductive Double
  | finite (negative : Bool) (units : Nat)
  | infinite (negative : Bool)
  | nan
  deriving DecidableEq, Repr, Inhabited

def unitsPerOne : Nat := Nat.pow 2 1074

/-- A floating-point format: how many binary digits a number has, the least power of two that its
last digit stands for, and the power of two from which on everything is infinite, both counted in
units. -/
structure Format where
  digits : Nat
  least : Nat
  ceiling : Nat
  deriving DecidableEq, Repr

def Format.double : Format := ⟨53, 0, 2098⟩

def Format.single : Format := ⟨24, 925, 1202⟩

/-- The whole number nearest to `num / den`, the even one of two equally near. -/
def halfEven (num den : Nat) : Nat :=
  let q := num / den
  let r := num % den
  if den < 2 * r ∨ (2 * r = den ∧ q % 2 = 1) then q + 1 else q

/-- The power of two that the last digit of a number of `n` units stands for. -/
def Format.exponent (f : Format) (n : Nat) : Nat := max f.least (n.log2 + 1 - f.digits)

/-- The units of the number of the format nearest to `num / den` units. -/
def Format.round (f : Format) (num den : Nat) : Nat :=
  let e := f.exponent (num / den)
  halfEven num (den * Nat.pow 2 e) * Nat.pow 2 e

/-- The number of the format nearest to `num / den` units, infinite where the format ends. -/
def Format.nearest (f : Format) (negative : Bool) (num den : Nat) : Double :=
  let units := f.round num den
  if units < Nat.pow 2 f.ceiling then .finite negative units else .infinite negative

namespace Double

def zero : Double := .finite false 0

def ofNat (n : Nat) : Double := Format.double.nearest false (n * unitsPerOne) 1

def ofInt (n : Int) : Double := Format.double.nearest (n < 0) (n.natAbs * unitsPerOne) 1

def neg : Double → Double
  | .finite s u => .finite (!s) u
  | .infinite s => .infinite (!s)
  | .nan => .nan

/-- A finite number times a power of ten held as a double, rounded. -/
def mul : Double → Double → Double
  | .finite s u, .finite t v => Format.double.nearest (s != t) (u * v) unitsPerOne
  | _, _ => .nan

/-- A finite number over a finite one that is not zero, rounded. -/
def div : Double → Double → Double
  | .finite s u, .finite t v => Format.double.nearest (s != t) (u * unitsPerOne) v
  | _, _ => .nan

def toSingle : Double → Double
  | .finite s u => Format.single.nearest s u 1
  | x => x

def isFinite : Double → Bool
  | .finite _ _ => true
  | _ => false

def isPositive : Double → Bool
  | .finite s u => !s && u != 0
  | .infinite s => !s
  | .nan => false

/-- The lesser of two numbers; a number that is none gives way. -/
def min (x y : Double) : Double :=
  match x, y with
  | .nan, y => y
  | x, .nan => x
  | .infinite true, _ => x
  | _, .infinite true => y
  | .infinite false, y => y
  | x, .infinite false => x
  | .finite true u, .finite true v => if u < v then y else x
  | .finite true _, .finite false _ => x
  | .finite false _, .finite true _ => y
  | .finite false u, .finite false v => if v < u then y else x

end Double

end Companion.Number
