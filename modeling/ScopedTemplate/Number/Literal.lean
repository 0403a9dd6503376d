import ScopedTemplate.Number.Binary64

/-!
# Number literals

Decimal literals with an optional sign, fraction and exponent, and integers in a given base.
-/

namespace ScopedTemplate

def digitValue (c : Char) : Nat :=
  if c.isDigit then c.toNat - '0'.toNat
  else if c.isLower then c.toNat - 'a'.toNat + 10
  else if c.isUpper then c.toNat - 'A'.toNat + 10
  else 36

def ofDigits (base : Nat) (digits : List Char) : Nat :=
  digits.foldl (fun total c => total * base + digitValue c) 0

/-- Take an optional sign off the front; `true` is minus. -/
def takeSign : List Char → Bool × List Char
  | '-' :: rest => (true, rest)
  | '+' :: rest => (false, rest)
  | rest => (false, rest)

def withSign (negative : Bool) (magnitude : Nat) : Int :=
  if negative then -(magnitude : Int) else magnitude

structure Literal where
  negative : Bool
  digits : Nat
  exponent : Int
  deriving DecidableEq, Repr

namespace Literal

/-- An exponent part, or nothing; anything else is refused. -/
def readExponent? : List Char → Option Int
  | [] => some 0
  | mark :: rest =>
    let (negative, digits) := takeSign rest
    if (mark == 'e' || mark == 'E') && digits ≠ [] && digits.all Char.isDigit then
      some (withSign negative (ofDigits 10 digits))
    else none

/-- Read a whole decimal literal; it has a digit before or after the point. -/
def read? (text : List Char) : Option Literal :=
  let (negative, unsigned) := takeSign text
  let whole := unsigned.takeWhile Char.isDigit
  let afterWhole := unsigned.dropWhile Char.isDigit
  let (fraction, afterFraction) := match afterWhole with
    | '.' :: rest => (rest.takeWhile Char.isDigit, rest.dropWhile Char.isDigit)
    | rest => ([], rest)
  if whole = [] ∧ fraction = [] then none
  else (readExponent? afterFraction).map fun exponent =>
    ⟨negative, ofDigits 10 (whole ++ fraction), exponent - fraction.length⟩

def toBinary64 (literal : Literal) : Binary64 :=
  .ofDecimal literal.negative literal.digits literal.exponent

end Literal

end ScopedTemplate
