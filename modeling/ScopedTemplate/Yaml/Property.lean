import ScopedTemplate.Failure
import ScopedTemplate.Yaml.Cursor

/-!
# Names, types and directives

The words of a document that are no text: names of nodes, the types that nodes are given, and the
directives in front.
-/

namespace ScopedTemplate.Yaml

/-- A written type: a handle that stands for the beginning, if there is one, and the rest. -/
structure TagText where
  handle : Option String
  suffix : String
  deriving DecidableEq, Repr

/-- A directive in front of a document. -/
inductive Directive where
  | version (major minor : Int)
  /-- What a handle stands for. -/
  | handle (handle start : String)
  | other
  deriving DecidableEq, Repr

namespace Property

def nameEnds : List Char := ['?', ':', ',', ']', '\x7d', '%', '@', '\x60']

/-- Read a name behind its mark. -/
def name (place : Cursor) : Parsed (String × Cursor) := do
  let (text, after) := place.next.takeWhile isWordChar
  require (text != [] && after.peek?.all fun c => isSeparator c || nameEnds.contains c)
  return (String.ofList text, after)

def tagMarks : List Char :=
  ['-', ';', '/', '?', ':', '@', '&', '=', '+', '$', ',', '_', '.', '!', '~', '*', '\'', '(', ')',
    '[', ']']

def isTagChar (c : Char) : Bool := c.isAlphanum || tagMarks.contains c

def escapedBytes : List Char → Option (List UInt8 × List Char)
  | '%' :: high :: low :: rest => do
    if digitValue high < 16 && digitValue low < 16 then
      let (bytes, after) ← escapedBytes rest
      return ((ofDigits 16 [high, low]).toUInt8 :: bytes, after)
    else none
  | '%' :: _ => none
  | rest => some ([], rest)

/-- Read the characters of a type; every step goes past one. -/
def tagFrom : Nat → List Char → Cursor → Parsed (List Char × Cursor)
  | 0, before, place => .ok (before, place)
  | fuel + 1, before, place =>
    let (text, after) := place.takeWhile isTagChar
    if after.sees '%' then
      match escapedBytes after.rest with
      | none => .error .malformed
      | some (bytes, rest) =>
        match String.fromUTF8? ⟨bytes.toArray⟩ with
        | none => .error .malformed
        | some s =>
          tagFrom fuel (before ++ text ++ s.toList)
            (after.advance (after.rest.length - rest.length))
    else .ok (before ++ text, after)

def tagChars (place : Cursor) : Parsed (String × Cursor) := do
  require (place.peek?.any fun c => isTagChar c || c == '%')
  let (text, after) ← tagFrom (place.rest.length + 1) [] place
  return (String.ofList text, after)

/-- Read a handle: a mark by itself, or a word between two marks. -/
def handle (place : Cursor) : Parsed (String × Cursor) := do
  require (place.sees '!')
  if place.next.sees ' ' then return ("!", place.next)
  let (text, after) := place.next.takeWhile isWordChar
  require (after.sees '!')
  return (String.ofList ('!' :: text ++ ['!']), after.next)

def tag (place : Cursor) : Parsed (TagText × Cursor) := do
  let (found, after) ←
    if place.next.sees '<' then do
      let (suffix, after) ← tagChars (place.advance 2)
      require (after.sees '>')
      pure (⟨none, suffix⟩, after.next)
    else if endsToken place.next.rest then pure (⟨none, "!"⟩, place.next)
    else if ((place.next.rest.takeWhile fun c => c != ' ' && !isBreak c).contains '!') then do
      let (handle, after) ← handle place
      let (suffix, after) ← tagChars after
      pure (⟨some handle, suffix⟩, after)
    else do
      let (suffix, after) ← tagChars place.next
      pure (⟨some "!", suffix⟩, after)
  require (endsWord after.rest)
  return (found, after)

def number (place : Cursor) : Parsed (Int × Cursor) := do
  let (digits, after) := place.takeWhile Char.isDigit
  require (digits != [])
  match ValueFault.readInteger 10 (String.ofList digits) with
  | .ok n => return (n, after)
  | .error failure => .error (.failure failure)

def content (word : String) (place : Cursor) : Parsed (Directive × Cursor) := do
  match word with
  | "YAML" => do
    let (major, after) ← number place.pastSpaces
    require (after.sees '.')
    let (minor, after) ← number after.next
    require (endsWord after.rest)
    return (.version major minor, after)
  | "TAG" => do
    let (handle, after) ← handle place.pastSpaces
    require (after.sees ' ')
    let (start, after) ← tagChars after.pastSpaces
    require (endsWord after.rest)
    return (.handle handle start, after)
  | _ => return (.other, place.skipWhile (!isBreak ·))

def directive (place : Cursor) : Parsed (Directive × Cursor) := do
  let (word, after) := place.next.takeWhile isWordChar
  require (word != [] && endsWord after.rest)
  let (found, after) ← content (String.ofList word) after
  return (found, ← after.pastLine)

end Property

end ScopedTemplate.Yaml
