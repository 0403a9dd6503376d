import ScopedTemplate.Number.Binary64

/-!
# Shortest decimals

A double is written with the fewest significant digits that read back as the same double; of two
such decimals with equally many digits the nearer one is written.
-/

namespace ScopedTemplate.Binary64

/-- A positive decimal `digits · 10 ^ (point - digits.length)`, most significant digit first. -/
structure Decimal where
  digits : List Char
  point : Int
  deriving DecidableEq, Repr

/-- The reals that round to a positive double, with four parts to a unit. -/
structure Interval where
  lower : Nat
  upper : Nat
  closed : Bool

def interval (units : Nat) : Interval :=
  let gap := twoPow (gapExponent units)
  let below := if units = twoPow 52 * gap ∧ 1 < gap then gap else 2 * gap
  ⟨4 * units - below, 4 * units + 2 * gap, units / gap % 2 == 0⟩

structure Fraction where
  numerator : Nat
  denominator : Nat

def powerOfTen (exponent : Int) : Fraction :=
  match exponent with
  | .ofNat up => ⟨tenPow up * twoPow (unitExponent + 2), 1⟩
  | .negSucc down => ⟨twoPow (unitExponent + 2), tenPow (down + 1)⟩

def Interval.covers (range : Interval) (step : Fraction) (count : Nat) : Bool :=
  let position := count * step.numerator
  if range.closed then
    range.lower * step.denominator ≤ position && position ≤ range.upper * step.denominator
  else
    range.lower * step.denominator < position && position < range.upper * step.denominator

/-- The least `point` with the value below `10 ^ point`, searched upward from a lower estimate. -/
def pointFrom (quarters : Nat) : Nat → Int → Int
  | 0, point => point
  | fuel + 1, point =>
    let bound := powerOfTen point
    if quarters * bound.denominator < bound.numerator then point
    else pointFrom quarters fuel (point + 1)

/-- The number of digits before the decimal point, zero or negative for a value below one. -/
def decimalPoint (units : Nat) : Int :=
  let exponent : Int := (units.log2 : Int) - unitExponent
  pointFrom (4 * units) 8 (exponent * 30103 / 100000 - 2)

def candidate? (units : Nat) (point : Int) (size : Nat) : Option Nat :=
  let step := powerOfTen (point - size)
  let range := interval units
  let scaled := 4 * units * step.denominator
  let low := scaled / step.numerator
  let nearer := roundHalfEven scaled step.numerator
  let other := if nearer = low then low + 1 else low
  if range.covers step nearer then some nearer
  else if range.covers step other then some other
  else none

def trimZeros (digits : List Char) : List Char :=
  (digits.reverse.dropWhile (· == '0')).reverse

def shortest (units : Nat) : Decimal :=
  let point := decimalPoint units
  match (List.range 17).findSome? fun k => candidate? units point (k + 1) |>.map (k + 1, ·) with
  | some (size, count) =>
    let digits := Nat.toDigits 10 count
    ⟨trimZeros digits, point + ((digits.length : Int) - size)⟩
  | none => ⟨['0'], 1⟩

/-- How a double is laid out: positional while the decimal point is in reach of the digits. -/
structure Layout where
  leastPoint : Int
  greatestPoint : Int
  exponentWidth : Nat

/-- Positional from `0.0001` up to sixteen digits, else an exponent of two digits or more. -/
def layout : Layout := ⟨-3, 16, 2⟩

def positional (decimal : Decimal) : List Char :=
  if decimal.point ≤ 0 then
    '0' :: '.' :: List.replicate (-decimal.point).toNat '0' ++ decimal.digits
  else
    let whole := decimal.point.toNat
    if decimal.digits.length ≤ whole then
      decimal.digits ++ List.replicate (whole - decimal.digits.length) '0' ++ ['.', '0']
    else decimal.digits.take whole ++ '.' :: decimal.digits.drop whole

def scientific (width : Nat) (decimal : Decimal) : List Char :=
  let exponent := decimal.point - 1
  let shown := Nat.toDigits 10 exponent.natAbs
  let padded := List.replicate (width - shown.length) '0' ++ shown
  let mantissa := match decimal.digits with
    | [] => []
    | [lead] => [lead]
    | lead :: rest => lead :: '.' :: rest
  mantissa ++ ['e', if exponent < 0 then '-' else '+'] ++ padded

def write : Binary64 → String
  | .infinite negative => if negative then "-inf" else "inf"
  | .finite negative units =>
    let body :=
      if units = 0 then ['0', '.', '0']
      else
        let decimal := shortest units
        if layout.leastPoint ≤ decimal.point ∧ decimal.point ≤ layout.greatestPoint then
          positional decimal
        else scientific layout.exponentWidth decimal
    String.ofList (if negative then '-' :: body else body)

end ScopedTemplate.Binary64
