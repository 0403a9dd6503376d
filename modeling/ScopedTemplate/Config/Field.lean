import ScopedTemplate.Config.Fault
import ScopedTemplate.Config.Setting
import ScopedTemplate.Failure
import ScopedTemplate.Text.Blank
import ScopedTemplate.Text.Compact
import ScopedTemplate.ValueType.Registry

/-!
# Fields

Reading a record of settings from loosely typed fields.  A value of a near type is converted: whole
numbers from text and floats, flags from the usual words, text from bytes.  All faults are reported,
those of known fields in the order of the record and then the unknown fields in the order given.
-/

namespace ScopedTemplate

/-- What an operation can fail with: a failure, or faults of fields. -/
inductive Fault where
  | failure (failure : Failure)
  | invalid (errors : List FieldError)

namespace Setting

def dropPlus? : List Char → Option (List Char)
  | '+' :: '-' :: _ => none
  | '+' :: rest => some rest
  | rest => some rest

def dropZerosAfter? (before : Char) : List Char → Option (List Char)
  | [] => some [before]
  | c :: rest =>
    if c = '0' ∨ c = '_' then dropZerosAfter? c rest
    else if c = '.' then some (before :: c :: rest)
    else if c.isDigit ∨ c = '-' then some (c :: rest)
    else none

def dropZeros? : List Char → Option (List Char)
  | [] => none
  | c :: rest =>
    if c = '0' then dropZerosAfter? c rest
    else if c.isDigit ∨ c = '-' then some (c :: rest)
    else none

def dropZeroFraction (text : List Char) : List Char :=
  match text.dropWhile (· != '.') with
  | _ :: '0' :: zeros => if zeros.all (· == '0') then text.takeWhile (· != '.') else text
  | _ => text

def dropUnderscores (text : List Char) : List Char :=
  if Numeral.separates text then text.filter (· != '_') else text

def signedDigits? (text : List Char) : Option Int :=
  let (negative, digits) := match text with
    | '-' :: rest => (true, rest)
    | rest => (false, rest)
  if digits ≠ [] ∧ digits.all Char.isDigit then some (withSign negative (ofDigits 10 digits))
  else none

/--
The integer that a text stands for: blanks around it, a sign, zeros in front, underscores between
digits, a point with zeros behind it.
-/
def integerText (s : String) : Except FieldFault Int :=
  match (dropPlus? (Text.trimBoth Text.isSpace s.toList)).bind dropZeros? with
  | none => .error .integerText
  | some number =>
    let digits := dropUnderscores (dropZeroFraction number)
    if Numeral.digitLimit < digits.length then .error .integerSize
    else (signedDigits? digits).elim (.error .integerText) .ok

def decodeText? (bytes : List UInt8) : Option String := String.fromUTF8? ⟨bytes.toArray⟩

def wordBound : Nat := twoPow 63

def toInteger : Setting → Except FieldFault Int
  | .bool b => .ok (if b then 1 else 0)
  | .int n => .ok n
  | .float x =>
    match x.units?, x.toInt? with
    | none, _ => .error .integerInfinite
    | some _, none => .error .integerFraction
    | some _, some n => if n.natAbs < wordBound then .ok n else .error .integerSize
  | .nan => .error .integerInfinite
  | .text s => integerText s
  | .bytes bs => (decodeText? bs).elim (.error .integerText) integerText
  | .broken => .error .textEncoding
  | _ => .error .integerExpected

def toBounded (least greatest : Int) (value : Setting) : Except FieldFault Int := do
  let n ← value.toInteger
  if n < least then .error (.belowLeast least)
  else if greatest < n then .error (.aboveGreatest greatest)
  else .ok n

def yesWords : List String := ["1", "t", "true", "y", "yes", "on"]

def noWords : List String := ["0", "f", "false", "n", "no", "off"]

def flagText (s : String) : Except FieldFault Bool :=
  let word := s.map Char.toLower
  if yesWords.contains word then .ok true
  else if noWords.contains word then .ok false
  else .error .flagText

def flagInteger (n : Int) : Except FieldFault Bool :=
  if n = 1 then .ok true else if n = 0 then .ok false else .error .flagText

def toFlag : Setting → Except FieldFault Bool
  | .bool b => .ok b
  | .int n =>
    if -(wordBound : Int) ≤ n ∧ n < wordBound then flagInteger n else .error .flagExpected
  | .float x =>
    match x.toInt? with
    | some n => if n.natAbs < wordBound then flagInteger n else .error .flagExpected
    | none => .error .flagExpected
  | .text s => flagText s
  | .bytes bs => (decodeText? bs).elim (.error .flagText) flagText
  | .broken => .error .textEncoding
  | _ => .error .flagExpected

def toText : Setting → Except FieldFault String
  | .text s => .ok s
  | .bytes bs => (decodeText? bs).elim (.error .textEncoding) .ok
  | .broken => .error .textEncoding
  | _ => .error .textExpected

def toName (value : Setting) : Except FieldFault String := do
  let s ← value.toText
  if s = "" then .error .textEmpty else .ok s

def toOptionalText : Setting → Except FieldFault (Option String)
  | .null => .ok none
  | value => do
    let s ← value.toText
    return if s = "" then none else some s

/-- Elements as texts; faults name the element. -/
def toTexts (field : String) (index : Nat) : List Setting → Checked (List String)
  | [] => .ok []
  | item :: rest =>
    let first : Checked String :=
      item.toText.mapError fun fault => [⟨[field, toString index], fault⟩]
    .apply (first.map List.cons) (toTexts field (index + 1) rest)

def isDotted (path : String) : Bool :=
  let (module, name) := ValueType.splitPath path
  module != "" && name != ""

def toPaths (field : String) : Setting → Checked (List String)
  | .list items => do
    let paths ← toTexts field 0 items
    match paths.find? (!isDotted ·) with
    | some path => .fail field (.leafNotDotted path)
    | none => return paths
  | _ => .fail field .listExpected

end Setting

abbrev Fields := List (String × Setting)

namespace Fields

def find? (fields : Fields) (name : String) : Option Setting :=
  (List.find? (·.1 == name) fields).map Prod.snd

def set (fields : Fields) (name : String) (value : Setting) : Fields :=
  match fields with
  | [] => [(name, value)]
  | first :: rest => if first.1 = name then (name, value) :: rest else first :: set rest name value

end Fields

namespace Config

def fieldNames : List String :=
  ["max_depth", "detect_cycles", "strict", "strict_dependencies", "remove_empty", "ref_prefix",
    "defaults_key", "leaf_types"]

def depthBounds : Int × Int := (1, 10000)

def readField {α : Type} (fields : Fields) (name : String) (fallback : α)
    (read : Setting → Checked α) : Checked α :=
  (fields.find? name).elim (.ok fallback) read

def readPlain {α : Type} (fields : Fields) (name : String) (fallback : α)
    (read : Setting → Except FieldFault α) : Checked α :=
  readField fields name fallback fun value => .within name (read value)

def checkNames (fields : Fields) : Checked Unit :=
  match fields.filter (!fieldNames.contains ·.1) with
  | [] => .ok ()
  | unknown => .error (unknown.map fun field => ⟨[field.1], .unknownField⟩)

def ofFields (fields : Fields) : Checked Config :=
  let make (depth : Int) (detectCycles strict strictDependencies removeEmpty : Bool)
      (refPrefix : Option String) (defaultsKey : String) (leafTypes : List String)
      (_ : Unit) : Config :=
    { maxDepth := depth.toNat, detectCycles, strict, strictDependencies, removeEmpty, refPrefix,
      defaultsKey, leafTypes }
  let depth := readPlain fields "max_depth" (standard.maxDepth : Int)
    (Setting.toBounded depthBounds.1 depthBounds.2)
  let flag (name : String) (fallback : Bool) := readPlain fields name fallback Setting.toFlag
  .apply (.apply (.apply (.apply (.apply (.apply (.apply (.apply (depth.map make)
    (flag "detect_cycles" standard.detectCycles))
    (flag "strict" standard.strict))
    (flag "strict_dependencies" standard.strictDependencies))
    (flag "remove_empty" standard.removeEmpty))
    (readPlain fields "ref_prefix" standard.refPrefix Setting.toOptionalText))
    (readPlain fields "defaults_key" standard.defaultsKey Setting.toName))
    (readField fields "leaf_types" standard.leafTypes (Setting.toPaths "leaf_types")))
    (checkNames fields)

def written (config : Config) : List (String × String) :=
  fieldNames.zip [toString config.maxDepth, Compact.flag config.detectCycles,
    Compact.flag config.strict, Compact.flag config.strictDependencies,
    Compact.flag config.removeEmpty, Compact.optionalText config.refPrefix,
    Text.escape config.defaultsKey, Compact.texts config.leafTypes]

/-- Why a truth value is refused under a name with a meaning of its own. -/
def reservedNames : List (String × Failure) := [
  ("__dict__", .type (.notDictionary "__dict__" "bool")),
  ("__class__", .type (.notClass "__class__" "bool")),
  ("__fields_set__", .computedField "ResolverConfig" "__fields_set__"),
  ("__weakref__", .fixedField "ResolverConfig" "__weakref__")]

/--
Assign a truth value to a name.  Fields do not change: to assign one is a fault.  A private name is
taken, but is no setting.
-/
def assign (config : Config) (name : String) : Except Fault Config :=
  match reservedNames.find? (·.1 == name) with
  | some (_, failure) => .error (.failure failure)
  | none =>
    if name.toList.head? = some '_' then .ok config
    else .error (.invalid [⟨[name], .frozen⟩])

theorem ofFields_nil : ofFields [] = .ok standard := rfl

end Config

end ScopedTemplate
