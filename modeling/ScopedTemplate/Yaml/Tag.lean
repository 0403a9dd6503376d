import ScopedTemplate.Number.Literal
import ScopedTemplate.Yaml.Timestamp

/-!
# Types of nodes

The type of a node is named, or follows from its text: one of the words for null and the truth
values, a number in one of several bases, a date, a sign for mappings, or plain text.
-/

namespace ScopedTemplate.Yaml

/-- The type of a node. -/
inductive Tag where
  | null
  | bool
  | int
  | float
  | timestamp
  | binary
  | text
  | sequence
  | mapping
  | set
  /-- Pairs, which are written as mappings with one entry. -/
  | pairs
  /-- The key that copies the entries of another mapping. -/
  | merge
  /-- The key for what a mapping is when it is read as a scalar. -/
  | value
  /-- A type that has no values here. -/
  | other
  deriving DecidableEq, Repr

namespace Tag

def named : List (String × Tag) := [
  ("null", .null), ("bool", .bool), ("int", .int), ("float", .float), ("timestamp", .timestamp),
  ("binary", .binary), ("str", .text), ("seq", .sequence), ("map", .mapping), ("set", .set),
  ("omap", .pairs), ("pairs", .pairs), ("merge", .merge), ("value", .value)]

def space : String := "tag:yaml.org,2002:"

def ofName (name : String) : Tag :=
  let text := name.toList
  if space.toList.isPrefixOf text then
    let rest := String.ofList (text.drop space.length)
    ((named.find? (·.1 == rest)).map Prod.snd).getD .other
  else .other

/-- Whether the values of a type are collections. -/
def isCollection : Tag → Bool
  | .sequence | .mapping | .set | .pairs => true
  | _ => false

def hasValues : Tag → Bool
  | .merge | .value | .other => false
  | _ => true

def nullWords : List String := ["", "~", "null", "Null", "NULL"]

def flagWords : List String := [
  "yes", "Yes", "YES", "no", "No", "NO", "true", "True", "TRUE", "false", "False", "FALSE",
  "on", "On", "ON", "off", "Off", "OFF"]

def infinityWords : List String := ["inf", "Inf", "INF"]

def nanWords : List String := ["nan", "NaN", "NAN"]

def signs : List (String × Tag) :=
  [("<<", .merge), ("=", .value), ("!", .other), ("&", .other), ("*", .other)]

def colonParts : List Char → List (List Char)
  | [] => [[]]
  | c :: rest =>
    match colonParts rest with
    | [] => [[c]]
    | part :: parts => if c == ':' then [] :: part :: parts else (c :: part) :: parts

/-- Whether a part counts minutes or seconds: up to fifty-nine, in one digit or two. -/
def isSixtieth : List Char → Bool
  | [c] => c.isDigit
  | [c, d] => '0' ≤ c && c ≤ '5' && d.isDigit
  | _ => false

def isDigitIn (base : Nat) (c : Char) : Bool := decide (digitValue c < base) || c == '_'

def isRun (isFirst : Char → Bool) : List Char → Bool
  | [] => false
  | c :: rest => isFirst c && rest.all (isDigitIn 10)

def isLeadDigit (c : Char) : Bool := '1' ≤ c && c ≤ '9'

def isIn (base : Nat) (text : List Char) : Bool := text != [] && text.all (isDigitIn base)

def isInteger (text : List Char) : Bool :=
  match (takeSign text).2 with
  | ['0'] => true
  | '0' :: 'b' :: digits => isIn 2 digits
  | '0' :: 'x' :: digits => isIn 16 digits
  | '0' :: digits => isIn 8 digits
  | unsigned =>
    match colonParts unsigned with
    | [] => false
    | lead :: parts => isRun isLeadDigit lead && parts.all isSixtieth

def isExponent : List Char → Bool
  | [] => true
  | mark :: sign :: digits =>
    (mark == 'e' || mark == 'E') && (sign == '+' || sign == '-') && digits != [] &&
      digits.all Char.isDigit
  | _ => false

def isSixtieths (text : List Char) : Bool :=
  match colonParts text with
  | lead :: next :: parts => isRun Char.isDigit lead && (next :: parts).all isSixtieth
  | _ => false

def isFloat (text : List Char) : Bool :=
  let unsigned := (takeSign text).2
  let hasSign := unsigned.length < text.length
  let whole := unsigned.takeWhile (· != '.')
  match unsigned.dropWhile (· != '.') with
  | [] => false
  | _ :: rest =>
    let fraction := rest.takeWhile (isDigitIn 10)
    let exponent := rest.dropWhile (isDigitIn 10)
    if whole = [] then
      infinityWords.contains (String.ofList rest) ||
        (!hasSign && (nanWords.contains (String.ofList rest) ||
          (isRun Char.isDigit fraction && isExponent exponent)))
    else (isRun Char.isDigit whole && isExponent exponent) ||
      (isSixtieths whole && exponent == [])

def dropLineEnd (text : List Char) : List Char :=
  if text.getLast? = some '\n' ∧ text ≠ ['\n'] then text.dropLast else text

/-- The type that follows from a text; a line end behind it does not matter. -/
def ofText (text : List Char) : Tag :=
  let text := dropLineEnd text
  let s := String.ofList text
  if nullWords.contains s then .null
  else if flagWords.contains s then .bool
  else if isFloat text then .float
  else if isInteger text then .int
  else if Timestamp.isPlain text then .timestamp
  else ((signs.find? (·.1 == s)).map Prod.snd).getD .text

end Tag

end ScopedTemplate.Yaml
