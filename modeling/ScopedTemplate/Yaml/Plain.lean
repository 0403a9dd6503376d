import ScopedTemplate.Yaml.Quoted

/-!
# Plain text

Text without quotes in a document.  It ends before a colon that stands alone, before a comment, at
the marks of flow collections when inside one, and with the first line that is not indented enough.
-/

namespace ScopedTemplate.Yaml.Plain

def flowMarks : List Char := [',', '[', ']', '\x7b', '\x7d']

def indicators : List Char :=
  ['-', '?', ':', '#', '&', '*', '!', '|', '>', '\'', '"', '%', '@', '\x60'] ++ flowMarks

def mayStart (inFlow : Bool) (place : Cursor) : Bool :=
  match place.rest with
  | [] => false
  | c :: rest =>
    !isSeparator c &&
      (!indicators.contains c ||
        (!endsToken rest && (c == '-' || (!inFlow && (c == '?' || c == ':')))))

def endsAfterColon (inFlow : Bool) (rest : List Char) : Bool :=
  endsToken rest || (inFlow && rest.head?.any flowMarks.contains)

def chunk (inFlow : Bool) : List Char → List Char
  | [] => []
  | c :: rest =>
    if isSeparator c || (c == ':' && endsAfterColon inFlow rest) ||
        (inFlow && (c == '?' || flowMarks.contains c)) then []
    else c :: chunk inFlow rest

/-- The line ends among the spaces ahead, and the number of both; nothing is kept at a boundary. -/
def foldFrom (atStart : Bool) (kept : List Char) (count : Nat) :
    List Char → Option (List Char) × Nat
  | [] => (some kept, count)
  | c :: rest =>
    if atStart ∧ beginsWithBoundary (c :: rest) then (none, count)
    else if isBreak c then foldFrom true (kept ++ [breakChar c]) (count + 1) rest
    else if c = ' ' then foldFrom false kept (count + 1) rest
    else (some kept, count)

/-- What is between two chunks. -/
structure Gap where
  /-- What the blanks become; nothing if the text ends here. -/
  text : List Char
  /-- Whether a line ended. -/
  newLine : Bool
  after : Cursor

def gap (place : Cursor) : Gap :=
  let (spaces, after) := place.takeWhile (· == ' ')
  match after.peek? with
  | none => ⟨spaces, false, after⟩
  | some c =>
    if isBreak c then
      let after := after.next
      match foldFrom true [] 0 after.rest with
      | (some kept, count) => ⟨Quoted.foldedBreaks c kept, true, after.advance count⟩
      | (none, count) => ⟨[], true, after.advance count⟩
    else ⟨spaces, false, after⟩

/-- Plain text, whether a line ended behind it, and the place of the next token. -/
structure Reading where
  text : List Char
  newLine : Bool
  after : Cursor

/-- Read chunks and the blanks between them; every step goes past a character. -/
def readFrom (inFlow : Bool) (indent : Int) : Nat → List Char → List Char → Bool → Cursor → Reading
  | 0, before, _, newLine, place => ⟨before, newLine, place⟩
  | fuel + 1, before, between, newLine, place =>
    let text := chunk inFlow place.rest
    if text = [] ∨ place.sees '#' then ⟨before, newLine, place⟩
    else
      let gap := gap (place.advance text.length)
      let before := before ++ between ++ text
      if gap.text = [] ∨ gap.after.sees '#' ∨
          (inFlow = false ∧ (gap.after.column : Int) < indent) then
        ⟨before, gap.newLine, gap.after⟩
      else readFrom inFlow indent fuel before gap.text gap.newLine gap.after

/-- Read plain text whose lines are indented by at least some columns. -/
def read (inFlow : Bool) (indent : Int) (place : Cursor) : Reading :=
  readFrom inFlow indent (place.rest.length + 1) [] [] false place

end ScopedTemplate.Yaml.Plain
