/-!
# Double-precision numbers

A finite double is an integer multiple of `2 ^ -1074`, the least positive double, so a number is
kept as that multiple.  Reading a decimal rounds to the nearest double, ties to even, in exact
arithmetic.
-/

namespace ScopedTemplate

abbrev twoPow (exponent : Nat) : Nat := Nat.pow 2 exponent

abbrev tenPow (exponent : Nat) : Nat := Nat.pow 10 exponent

/-- A double that is not a NaN; a finite one counts units of `2 ^ -1074`. -/
inductive Binary64 where
  | finite (negative : Bool) (units : Nat)
  | infinite (negative : Bool)
  deriving DecidableEq, Repr

namespace Binary64

def unitExponent : Nat := 1074

def unitsOfOne : Nat := twoPow unitExponent

def overflowUnits : Nat := twoPow (1024 + unitExponent)

def gapExponent (units : Nat) : Nat := units.log2 - 52

def roundHalfEven (numerator denominator : Nat) : Nat :=
  let quotient := numerator / denominator
  let twice := 2 * (numerator % denominator)
  if twice < denominator then quotient
  else if denominator < twice then quotient + 1
  else quotient + quotient % 2

def nearest (negative : Bool) (numerator denominator : Nat) : Binary64 :=
  let gap := twoPow (gapExponent (numerator / denominator))
  let units := roundHalfEven numerator (denominator * gap) * gap
  if units < overflowUnits then .finite negative units else .infinite negative

def ofDecimal (negative : Bool) (digits : Nat) (exponent : Int) : Binary64 :=
  let magnitude := exponent + (Nat.toDigits 10 digits).length
  if digits = 0 then .finite negative 0
  else if 400 < magnitude then .infinite negative
  else if magnitude < -400 then .finite negative 0
  else match exponent with
    | .ofNat up => nearest negative (digits * tenPow up * unitsOfOne) 1
    | .negSucc down => nearest negative (digits * unitsOfOne) (tenPow (down + 1))

def zero : Binary64 := .finite false 0

def ofNat (n : Nat) : Binary64 := nearest false (n * unitsOfOne) 1

def negate : Binary64 → Binary64
  | .finite negative units => .finite (!negative) units
  | .infinite negative => .infinite (!negative)

def isZero : Binary64 → Bool
  | .finite _ units => units == 0
  | .infinite _ => false

def units? : Binary64 → Option Int
  | .finite negative units => some (if negative then -(units : Int) else units)
  | .infinite _ => none

/-- The double nearest to a sum; two infinities of different signs have none. -/
def add? (x y : Binary64) : Option Binary64 :=
  match x.units?, y.units? with
  | some first, some second =>
    some (nearest (decide (first + second < 0)) (first + second).natAbs 1)
  | some _, none => some y
  | none, some _ => some x
  | none, none => if x = y then some x else none

def scale? (x weight : Binary64) : Option Binary64 :=
  match x, weight with
  | .finite negative first, .finite _ second =>
    some (nearest negative (first * second) unitsOfOne)
  | .finite negative first, .infinite _ => if first = 0 then none else some (.infinite negative)
  | .infinite negative, _ => if weight.isZero then none else some (.infinite negative)

def toInt? (x : Binary64) : Option Int :=
  x.units?.bind fun units =>
    if units % unitsOfOne = 0 then some (units / unitsOfOne) else none

end Binary64

end ScopedTemplate
