import ScopedTemplate.Number.Literal
import ScopedTemplate.Text.Blank

/-!
# Numerals

Numbers as people write them: blanks around, a sign, digits of any script with single underscores
between them, and a mark of the base in front.  Reading and writing decimal integers is limited in
the number of digits, so that neither takes long.
-/

namespace ScopedTemplate

inductive NumeralFault where
  | malformed
  /-- A decimal integer with this many digits, more than are read. -/
  | tooLong (digits : Nat)
  deriving DecidableEq, Repr

namespace Numeral

def digitLimit : Nat := 4300

def tooLongMessage (digits : Option Nat) : String :=
  "Exceeds the limit (" ++ toString digitLimit ++ " digits) for integer string conversion" ++
    (digits.elim "" fun count => ": value has " ++ toString count ++ " digits") ++
    "; use sys.set_int_max_str_digits() to increase the limit"

def writtenBound : Nat := tenPow digitLimit

def isTooLong (n : Int) : Bool := writtenBound ≤ n.natAbs

def normalize (c : Char) : Char :=
  if c.toNat < 0x7f then c
  else if Text.isBlank c then ' '
  else match Text.decimalValue? c with
    | some digit => Char.ofNat ('0'.toNat + digit)
    | none => '?'

def isBlank (c : Char) : Bool := c == ' ' || (9 ≤ c.toNat && c.toNat ≤ 13)

def trim (text : List Char) : List Char := Text.trimBoth isBlank text

def baseMark? : Nat → Option Char
  | 2 => some 'b'
  | 8 => some 'o'
  | 16 => some 'x'
  | _ => none

def dropMark (base : Nat) (text : List Char) : List Char :=
  match text with
  | '0' :: mark :: rest =>
    if some mark.toLower = baseMark? base then
      match rest with
      | '_' :: digits => digits
      | digits => digits
    else text
  | text => text

/-- Whether underscores stand between other characters only, and one at a time. -/
def separates (text : List Char) : Bool :=
  text.head? != some '_' && text.getLast? != some '_' &&
    (text.zip text.tail).all (· != ('_', '_'))

def readInteger (base : Nat) (s : String) : Except NumeralFault Int :=
  let (negative, unsigned) := takeSign (trim (s.toList.map normalize))
  let text := dropMark base unsigned
  let run := text.takeWhile fun c => c == '_' || digitValue c < base
  let digits := run.filter (· != '_')
  if digits = [] ∨ separates run = false then .error .malformed
  else if (baseMark? base).isNone ∧ digitLimit < digits.length then
    .error (.tooLong digits.length)
  else if run.length < text.length then .error .malformed
  else .ok (withSign negative (ofDigits base digits))

/-- Words for numbers without digits. -/
inductive FloatWord where
  | infinity (negative : Bool)
  | nan

def readWord? (text : List Char) : Option FloatWord :=
  let (negative, unsigned) := takeSign text
  match String.ofList (unsigned.map Char.toLower) with
  | "inf" | "infinity" => some (.infinity negative)
  | "nan" => some .nan
  | _ => none

def readFloat? (s : String) : Option (Binary64 ⊕ FloatWord) :=
  let text := trim (s.toList.map normalize)
  match readWord? text with
  | some word => some (.inr word)
  | none => (Literal.read? text).map fun literal => .inl literal.toBinary64

end Numeral

end ScopedTemplate
