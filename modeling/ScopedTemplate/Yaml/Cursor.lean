import ScopedTemplate.Yaml.Fault

/-!
# Cursors

A place in a document: the characters ahead with their number, line and column.
-/

namespace ScopedTemplate.Yaml

def isBreak (c : Char) : Bool :=
  c == '\n' || c.toNat == 0x85 || c.toNat == 0x2028 || c.toNat == 0x2029

def breakChar (c : Char) : Char := if c.toNat == 0x85 then '\n' else c

def isBlank (c : Char) : Bool := c == ' ' || c == '\t'

def isSeparator (c : Char) : Bool := isBlank c || isBreak c

def isWordChar (c : Char) : Bool := c.isAlphanum || c == '-' || c == '_'

def endsToken (text : List Char) : Bool := text.head?.all isSeparator

def endsWord (text : List Char) : Bool := text.head?.all fun c => c == ' ' || isBreak c

def beginsWithMark (mark : Char) (text : List Char) : Bool :=
  [mark, mark, mark].isPrefixOf text && endsToken (text.drop 3)

/-- Whether a text at the start of a line ends the part of a document before it. -/
def beginsWithBoundary (text : List Char) : Bool :=
  beginsWithMark '-' text || beginsWithMark '.' text

/-- A place in a document. -/
structure Cursor where
  rest : List Char
  index : Nat
  line : Nat
  column : Nat

namespace Cursor

def start (text : List Char) : Cursor := ⟨text, 0, 0, 0⟩

def peek? (place : Cursor) : Option Char := place.rest.head?

/-- Go past one character; a mark of the byte order has no width. -/
def next (place : Cursor) : Cursor :=
  match place.rest with
  | [] => place
  | c :: rest =>
    if isBreak c then ⟨rest, place.index + 1, place.line + 1, 0⟩
    else if c = '\ufeff' then ⟨rest, place.index + 1, place.line, place.column⟩
    else ⟨rest, place.index + 1, place.line, place.column + 1⟩

def advance : Nat → Cursor → Cursor
  | 0, place => place
  | count + 1, place => advance count place.next

def sees (place : Cursor) (c : Char) : Bool := place.peek? == some c

def seesAlone (place : Cursor) (c : Char) : Bool := place.sees c && endsToken (place.rest.drop 1)

def atMark (place : Cursor) (mark : Char) : Bool :=
  place.column == 0 && beginsWithMark mark place.rest

def takeWhile (place : Cursor) (p : Char → Bool) : List Char × Cursor :=
  let text := place.rest.takeWhile p
  (text, place.advance text.length)

def skipWhile (place : Cursor) (p : Char → Bool) : Cursor := (place.takeWhile p).2

def pastSpaces (place : Cursor) : Cursor := place.skipWhile (· == ' ')

def pastComment (place : Cursor) : Cursor :=
  if place.sees '#' then place.skipWhile (!isBreak ·) else place

def atLineEnd (place : Cursor) : Bool := place.peek?.all isBreak

def pastLine (place : Cursor) : Parsed Cursor := do
  let place := place.pastSpaces.pastComment
  require place.atLineEnd
  return place.next

def gapFrom (inComment : Bool) (count : Nat) : List Char → Nat
  | [] => count
  | c :: rest =>
    if isBreak c then gapFrom false (count + 1) rest
    else if inComment || c == ' ' then gapFrom inComment (count + 1) rest
    else if c == '#' then gapFrom true (count + 1) rest
    else count

/-- Go to the next token; a mark of the byte order means nothing at the beginning. -/
def skip (place : Cursor) : Cursor :=
  let place := if place.index == 0 && place.sees '\ufeff' then place.next else place
  place.advance (gapFrom false 0 place.rest)

@[simp] theorem advance_zero (place : Cursor) : advance 0 place = place := rfl

theorem next_of_nil {place : Cursor} (ended : place.rest = []) : place.next = place := by
  simp [next, ended]

end Cursor

end ScopedTemplate.Yaml
