import ScopedTemplate.Config.Setting
import ScopedTemplate.Text.Base64
import ScopedTemplate.Text.Lower
import ScopedTemplate.Yaml.Quoted
import ScopedTemplate.Yaml.Tag

/-!
# Scalars

The values of texts by type.  A text that does not fit its type is a fault; which one depends on how
far it can be read.
-/

namespace ScopedTemplate.Yaml.Scalar

def read {α : Type} (result : Except Failure α) : Parsed α := result.mapError .failure

def yesWords : List String := ["yes", "true", "on"]

def noWords : List String := ["no", "false", "off"]

def flag (text : List Char) : Parsed Bool :=
  let word := String.ofList (Text.lowerText text)
  if yesWords.contains word then .ok true
  else if noWords.contains word then .ok false
  else .error (.failure (.raised "KeyError" word))

def demandCharacter (text : List Char) : Parsed Unit :=
  if text = [] then .error (.failure (.outOfRange "string ")) else .ok ()

def inBase (base : Nat) (text : List Char) : Parsed Int :=
  read (ValueFault.readInteger base (String.ofList text))

def sixtieths (parts : List (List Char)) : Parsed Int :=
  parts.foldlM (fun total part => do return total * 60 + (← inBase 10 part)) 0

def magnitude (text : List Char) : Parsed Int :=
  match text with
  | ['0'] => .ok 0
  | '0' :: 'b' :: digits => inBase 2 digits
  | '0' :: 'x' :: digits => inBase 16 digits
  | '0' :: _ => inBase 8 text
  | _ => if text.contains ':' then sixtieths (Tag.colonParts text) else inBase 10 text

/-- The integer that a text stands for; underscores do not count. -/
def integer (text : List Char) : Parsed Int := do
  let text := text.filter (· != '_')
  demandCharacter text
  let (negative, text) := takeSign text
  demandCharacter text
  let n ← magnitude text
  return if negative then -n else n

def decimal (text : List Char) : Parsed (Option Binary64) :=
  read (ValueFault.readFloat (String.ofList text))

/-- Add up parts, the last one first, each sixty times the one behind it. -/
def weighted (total : Binary64) (weight : Nat) : List Binary64 → Option Binary64
  | [] => some total
  | part :: rest => do
    weighted (← total.add? (← part.scale? (.ofNat weight))) (weight * 60) rest

def floatMagnitude (text : List Char) : Parsed (Option Binary64) := do
  if text = ".inf".toList then return some (.infinite false)
  if text = ".nan".toList then return none
  if text.contains ':' then
    let parts ← (Tag.colonParts text).mapM decimal
    return (parts.reverse.mapM id).bind (weighted .zero 1)
  decimal text

/-- The float that a text stands for; underscores do not count. -/
def float (text : List Char) : Parsed (Option Binary64) := do
  let text := Text.lowerText (text.filter (· != '_'))
  demandCharacter text
  let (negative, text) := takeSign text
  let x ← floatMagnitude text
  return if negative then x.map Binary64.negate else x

def value (tag : Tag) (scalar : ScalarText) : Parsed Setting := do
  let text := scalar.text
  match tag with
  | .null => return .null
  | .bool => return .bool (← flag text)
  | .int => return .int (← integer text)
  | .float => return (← float text).elim .nan .float
  | .timestamp =>
    match Timestamp.read? (Tag.dropLineEnd text) with
    | some timestamp => do
      timestamp.check
      return .other
    | none => throw (.failure (.missingAttribute "'NoneType' object" "groupdict"))
  | .binary => do
    require (text.all (·.toNat < 0x80))
    match Text.Base64.decode? text with
    | some bytes => return .bytes bytes
    | none => throw .malformed
  | .text => return if scalar.whole then .text (String.ofList text) else .broken
  | _ => throw .malformed

end ScopedTemplate.Yaml.Scalar
