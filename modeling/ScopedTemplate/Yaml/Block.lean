import ScopedTemplate.Yaml.Cursor

/-!
# Block text

Text given by indented lines under a header.  Literal text keeps its line ends; in folded text a
line end between two lines that begin with no blank becomes a space.  The header may fix the
indentation and say what becomes of the line ends behind the last line.
-/

namespace ScopedTemplate.Yaml.Block

/-- What becomes of the line ends behind the last line. -/
inductive Chomping where
  | strip
  | clip
  | keep
  deriving DecidableEq, Repr

structure Header where
  folded : Bool
  chomping : Chomping
  /-- The indentation of the text beyond that of its parent, if the header fixes it. -/
  indent : Option Nat

def chomping? : Char → Option Chomping
  | '-' => some .strip
  | '+' => some .keep
  | _ => none

def indent? (c : Char) : Option Nat :=
  if '1' ≤ c ∧ c ≤ '9' then some (c.toNat - '0'.toNat) else none

/-- Read the marks of a header, in either order and each at most once. -/
def marks (text : List Char) : Option Chomping × Option Nat × Nat :=
  match text with
  | [] => (none, none, 0)
  | c :: rest =>
    match chomping? c, indent? c with
    | some chomping, _ =>
      match rest.head?.bind indent? with
      | some indent => (some chomping, some indent, 2)
      | none => (some chomping, none, 1)
    | none, some indent =>
      match rest.head?.bind chomping? with
      | some chomping => (some chomping, some indent, 2)
      | none => (none, some indent, 1)
    | none, none => (none, none, 0)

/-- Read a header and the rest of its line, which may hold a comment behind a space. -/
def header (place : Cursor) : Parsed (Header × Cursor) := do
  let (chomping, indent, width) := marks place.next.rest
  let after := place.next.advance width
  require (endsWord after.rest)
  return (⟨place.sees '>', chomping.getD .clip, indent⟩, ← after.pastLine)

/-- The line ends among the spaces ahead up to a column, and the number of both. -/
def emptyFrom (limit column : Nat) (kept : List Char) (count : Nat) :
    List Char → List Char × Nat
  | [] => (kept, count)
  | c :: rest =>
    if isBreak c then emptyFrom limit 0 (kept ++ [breakChar c]) (count + 1) rest
    else if c = ' ' ∧ column < limit then emptyFrom limit (column + 1) kept (count + 1) rest
    else (kept, count)

/-- Go past empty lines and the spaces before text, up to a column; the line ends are kept. -/
def emptyLines (limit : Nat) (place : Cursor) : List Char × Cursor :=
  let (kept, count) := emptyFrom limit place.column [] 0 place.rest
  (kept, place.advance count)

def reach (column greatest : Nat) : List Char → Nat
  | [] => greatest
  | c :: rest =>
    if isBreak c then reach 0 greatest rest
    else if c = ' ' then reach (column + 1) (max greatest (column + 1)) rest
    else greatest

/-- The lines of a text, from the first on; every step goes past a line. -/
def linesFrom (folded : Bool) (indent : Nat) :
    Nat → List Char → List Char → Cursor → List Char × List Char × List Char × Cursor
  | 0, before, breaks, place => (before, [], breaks, place)
  | fuel + 1, before, breaks, place =>
    let text := place.rest.takeWhile (!isBreak ·)
    let ended := place.advance text.length
    let lineBreak := ended.peek?.toList.map breakChar
    let after := ended.next
    let (more, after) := emptyLines indent after
    let before := before ++ breaks ++ text
    if after.column = indent ∧ !after.rest.isEmpty then
      let joined := folded && lineBreak == ['\n'] && !text.head?.any isBlank &&
        !after.peek?.any isBlank
      let between := if joined then (if more = [] then [' '] else []) else lineBreak
      linesFrom folded indent fuel (before ++ between) more after
    else (before, lineBreak, more, after)

/-- Read text whose header is ahead, under a parent at a column. -/
def read (parent : Int) (place : Cursor) : Parsed (List Char × Cursor) := do
  let (header, place) ← header place
  let least := max 1 (parent + 1).toNat
  let indent := match header.indent with
    | some indent => least + indent - 1
    | none => max least (reach place.column 0 place.rest)
  let (breaks, first) := emptyLines indent place
  if first.column = indent ∧ !first.rest.isEmpty then
    let (text, lineBreak, breaks, after) :=
      linesFrom header.folded indent (place.rest.length + 1) [] breaks first
    match header.chomping with
    | .strip => return (text, after)
    | .clip => return (text ++ lineBreak, after)
    | .keep => return (text ++ lineBreak ++ breaks, after)
  else return (if header.chomping = .keep then breaks else [], first)

end ScopedTemplate.Yaml.Block
