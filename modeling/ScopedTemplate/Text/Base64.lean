/-!
# Bytes in sixty-four characters

Four characters of six bits each stand for three bytes; padding fills up the last four.  Other
characters do not count, and what follows complete padding is not read.
-/

namespace ScopedTemplate.Text.Base64

def digit? (c : Char) : Option Nat :=
  if c.isUpper then some (c.toNat - 'A'.toNat)
  else if c.isLower then some (c.toNat - 'a'.toNat + 26)
  else if c.isDigit then some (c.toNat - '0'.toNat + 52)
  else if c = '+' then some 62
  else if c = '/' then some 63
  else none

/-- The digits of a text, up to complete padding; the last four have to be complete. -/
def digitsFrom (digits : List Nat) (pads : Nat) : List Char → Option (List Nat)
  | [] => if digits.length % 4 = 0 then some digits else none
  | c :: rest =>
    let position := digits.length % 4
    if c = '=' then
      if position < 2 then digitsFrom digits pads rest
      else if 4 ≤ position + pads + 1 then some digits
      else digitsFrom digits (pads + 1) rest
    else match digit? c with
      | some digit => digitsFrom (digits ++ [digit]) 0 rest
      | none => digitsFrom digits pads rest

def bytesOfDigits : List Nat → List UInt8
  | a :: b :: c :: d :: rest =>
    (a * 4 + b / 16).toUInt8 :: (b % 16 * 16 + c / 4).toUInt8 :: (c % 4 * 64 + d).toUInt8 ::
      bytesOfDigits rest
  | [a, b, c] => [(a * 4 + b / 16).toUInt8, (b % 16 * 16 + c / 4).toUInt8]
  | [a, b] => [(a * 4 + b / 16).toUInt8]
  | _ => []

def decode? (text : List Char) : Option (List UInt8) := (digitsFrom [] 0 text).map bytesOfDigits

end ScopedTemplate.Text.Base64
