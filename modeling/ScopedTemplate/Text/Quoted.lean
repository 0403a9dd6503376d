import ScopedTemplate.Number.Literal
import ScopedTemplate.Text.Printable

/-!
# Quoted text

Text and bytes between quotes.  Single quotes are used unless the text holds a single quote and no
double quote; backslashes, the quote in use and hidden characters are written as escapes.
-/

namespace ScopedTemplate.Text

def quoteMark (text : List Char) : Char :=
  if text.contains '\'' && !text.contains '"' then '"' else '\''

def hex (width n : Nat) : List Char :=
  let digits := Nat.toDigits 16 n
  List.replicate (width - digits.length) '0' ++ digits

def numericEscape (n : Nat) : List Char :=
  if n < 0x100 then '\\' :: 'x' :: hex 2 n
  else if n < 0x10000 then '\\' :: 'u' :: hex 4 n
  else '\\' :: 'U' :: hex 8 n

/-- A character as it stands between quotes; `hidden` characters become numeric escapes. -/
def quoteChar (mark : Char) (hidden : Bool) (c : Char) : List Char :=
  if c = mark ∨ c = '\\' then ['\\', c]
  else if c = '\n' then ['\\', 'n']
  else if c = '\r' then ['\\', 'r']
  else if c = '\t' then ['\\', 't']
  else if hidden then numericEscape c.toNat
  else [c]

def quote (s : String) : String :=
  let text := s.toList
  let mark := quoteMark text
  String.ofList (mark :: text.flatMap (fun c => quoteChar mark (!isPrintable c) c) ++ [mark])

/-- Bytes between quotes; only printable ASCII stands for itself. -/
def quoteBytes (bytes : List UInt8) : String :=
  let text := bytes.map fun byte => Char.ofNat byte.toNat
  let mark := quoteMark text
  let shown := text.flatMap fun c => quoteChar mark (c.toNat < 0x20 || 0x7f ≤ c.toNat) c
  String.ofList ('b' :: mark :: shown ++ [mark])

def hexBytes (bytes : List UInt8) : String :=
  String.ofList (bytes.flatMap fun byte => hex 2 byte.toNat)

def bytesOfDigits : List Char → List UInt8
  | high :: low :: rest => (ofDigits 16 [high, low]).toUInt8 :: bytesOfDigits rest
  | _ => []

def bytesOfHex (s : String) : List UInt8 := bytesOfDigits s.toList

/-- A character inside a double-quoted data string: only quotes, backslashes and controls change. -/
def escapeChar (c : Char) : List Char :=
  if c = '"' ∨ c = '\\' then ['\\', c]
  else if c = '\n' then ['\\', 'n']
  else if c = '\r' then ['\\', 'r']
  else if c = '\t' then ['\\', 't']
  else if c.toNat = 8 then ['\\', 'b']
  else if c.toNat = 12 then ['\\', 'f']
  else if c.toNat < 0x20 then '\\' :: 'u' :: hex 4 c.toNat
  else [c]

def escape (s : String) : String :=
  String.ofList ('"' :: s.toList.flatMap escapeChar ++ ['"'])

end ScopedTemplate.Text
