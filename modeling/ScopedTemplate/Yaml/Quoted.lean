import ScopedTemplate.Number.Literal
import ScopedTemplate.Yaml.Cursor

/-!
# Quoted text

Text between quotes in a document.  Blanks around line ends are dropped, one line end becomes a
space, and further ones stay.  Between single quotes only the quote itself is special, by being
doubled; between double quotes a backslash begins an escape.
-/

namespace ScopedTemplate.Yaml

/-- Text of a scalar; `whole` says that all of it are characters by themselves. -/
structure ScalarText where
  text : List Char
  whole : Bool

namespace ScalarText

def of (text : List Char) : ScalarText := ⟨text, true⟩

def append (first second : ScalarText) : ScalarText :=
  ⟨first.text ++ second.text, first.whole && second.whole⟩

end ScalarText

namespace Quoted

def escapes : List (Char × Nat) := [
  ('0', 0), ('a', 7), ('b', 8), ('t', 9), ('\t', 9), ('n', 10), ('v', 11), ('f', 12), ('r', 13),
  ('e', 27), (' ', 32), ('"', 34), ('\\', 92), ('/', 47), ('N', 0x85), ('_', 0xa0), ('L', 0x2028),
  ('P', 0x2029)]

def numericEscapes : List (Char × Nat) := [('x', 2), ('u', 4), ('U', 8)]

/-- What the line ends ahead and the blanks around them become, and their number. -/
def foldFrom (atStart : Bool) (kept : List Char) (count : Nat) :
    List Char → Parsed (List Char × Nat)
  | [] => .ok (kept, count)
  | c :: rest =>
    if atStart ∧ beginsWithBoundary (c :: rest) then .error .malformed
    else if isBreak c then foldFrom true (kept ++ [breakChar c]) (count + 1) rest
    else if isBlank c then foldFrom false kept (count + 1) rest
    else .ok (kept, count)

/-- Go past the blanks and line ends at the start of a line; the line ends are kept. -/
def breaks (place : Cursor) : Parsed (List Char × Cursor) := do
  let (kept, count) ← foldFrom true [] 0 place.rest
  return (kept, place.advance count)

def foldedBreaks (first : Char) (kept : List Char) : List Char :=
  if breakChar first ≠ '\n' then breakChar first :: kept
  else if kept = [] then [' '] else kept

def character (code : Nat) : Parsed ScalarText :=
  if 0x7fffffff < code then
    .error (.failure (.raised "OverflowError" "Python int too large to convert to C int"))
  else if 0x110000 ≤ code then .error (.value .notCodePoint)
  else if code.isValidChar then .ok (.of [Char.ofNat code])
  else .ok ⟨['\ufffd'], false⟩

def escape (place : Cursor) : Parsed (ScalarText × Cursor) := do
  match place.peek? with
  | none => .error .malformed
  | some c =>
    match escapes.find? (·.1 == c), numericEscapes.find? (·.1 == c) with
    | some (_, code), _ => return (.of [Char.ofNat code], place.next)
    | none, some (_, width) => do
      let digits := place.next.rest.take width
      require (digits.length == width && digits.all (digitValue · < 16))
      return (← character (ofDigits 16 digits), place.next.advance width)
    | none, none => do
      require (isBreak c)
      let (kept, place) ← breaks place.next
      return (.of kept, place)

def gap (place : Cursor) : Parsed (List Char × Cursor) := do
  let (blanks, place) := place.takeWhile isBlank
  match place.peek? with
  | none => .error .malformed
  | some c =>
    if isBreak c then do
      let (kept, place) ← breaks place.next
      return (foldedBreaks c kept, place)
    else return (blanks, place)

/-- Read text up to the closing quote; every step goes past a character. -/
def readFrom (mark : Char) : Nat → ScalarText → Cursor → Parsed (ScalarText × Cursor)
  | 0, _, _ => .error .malformed
  | fuel + 1, before, place =>
    match place.peek? with
    | none => .error .malformed
    | some c =>
      if c = mark then
        if mark = '\'' ∧ place.next.sees mark then
          readFrom mark fuel (before.append (.of [mark])) (place.advance 2)
        else .ok (before, place.next)
      else if c = '\\' ∧ mark = '"' then do
        let (text, place) ← escape place.next
        readFrom mark fuel (before.append text) place
      else if isSeparator c then do
        let (text, place) ← gap place
        readFrom mark fuel (before.append (.of text)) place
      else
        let (text, place) := place.takeWhile fun d =>
          !isSeparator d && d != mark && (d != '\\' || mark != '"')
        readFrom mark fuel (before.append (.of text)) place

/-- Read text whose opening quote is ahead. -/
def read (mark : Char) (place : Cursor) : Parsed (ScalarText × Cursor) :=
  readFrom mark (place.rest.length + 1) (.of []) place.next

end Quoted

end ScopedTemplate.Yaml
