import ScopedTemplate.Yaml.Block
import ScopedTemplate.Yaml.Plain
import ScopedTemplate.Yaml.Property

/-!
# Tokens

The words of a document, with marks for the collections that indentation begins and ends.  What may
turn out to be a key is remembered, for each level of flow collections, until a colon follows; then
the mark of the key, and perhaps that of a mapping, is put in front of it.
-/

namespace ScopedTemplate.Yaml

/-- A word or mark of a document. -/
inductive Token where
  | directive (content : Directive)
  | documentStart
  | documentEnd
  | streamEnd
  | blockSequenceStart
  | blockMappingStart
  | blockEnd
  | flowSequenceStart
  | flowSequenceEnd
  | flowMappingStart
  | flowMappingEnd
  | blockEntry
  | flowEntry
  | key
  | value
  | alias (name : String)
  | anchor (name : String)
  | tag (text : TagText)
  | scalar (text : ScalarText) (plain : Bool)

/-- What may turn out to be a key. -/
structure PossibleKey where
  /-- The number of tokens before it. -/
  position : Nat
  /-- Whether it has to be one. -/
  required : Bool
  index : Nat
  line : Nat
  column : Nat

/-- The tokens read so far and what the next ones depend on. -/
structure Lexer where
  place : Cursor
  /-- Tokens, the last one first. -/
  tokens : List Token
  /-- The column of the innermost block collection. -/
  indent : Int
  /-- The columns of the block collections around it. -/
  outer : List Int
  /-- The number of flow collections around the place. -/
  flow : Nat
  /-- What may turn out to be a key, by its number of flow collections. -/
  keys : List (Nat × PossibleKey)
  /-- Whether a key may begin here. -/
  keyAllowed : Bool

namespace Lexer

def keyLimit : Nat := 1024

def start (text : List Char) : Lexer := ⟨.start text, [], -1, [], 0, [], true⟩

def inFlow (lexer : Lexer) : Bool := lexer.flow != 0

def push (lexer : Lexer) (token : Token) : Lexer := { lexer with tokens := token :: lexer.tokens }

def insert (lexer : Lexer) (position : Nat) (token : Token) : Lexer :=
  let later := lexer.tokens.length - position
  { lexer with tokens := lexer.tokens.take later ++ token :: lexer.tokens.drop later }

def moveTo (lexer : Lexer) (place : Cursor) : Lexer := { lexer with place := place }

def pushOver (lexer : Lexer) (width : Nat) (token : Token) : Lexer :=
  (lexer.push token).moveTo (lexer.place.advance width)

def isStale (place : Cursor) (key : PossibleKey) : Bool :=
  key.line != place.line || keyLimit < place.index - key.index

def dropStale (lexer : Lexer) : Parsed Lexer := do
  let stale := lexer.keys.filter fun entry => isStale lexer.place entry.2
  require (!stale.any (·.2.required))
  return { lexer with keys := lexer.keys.filter fun entry => !isStale lexer.place entry.2 }

def key? (lexer : Lexer) : Option PossibleKey :=
  (lexer.keys.find? (·.1 == lexer.flow)).map Prod.snd

def forgetKey (lexer : Lexer) : Lexer :=
  { lexer with keys := lexer.keys.filter (·.1 != lexer.flow) }

def dropKey (lexer : Lexer) : Parsed Lexer := do
  require (!lexer.key?.any (·.required))
  return lexer.forgetKey

def saveKey (lexer : Lexer) : Parsed Lexer := do
  if lexer.keyAllowed then
    let kept ← lexer.dropKey
    let place := lexer.place
    let key : PossibleKey := ⟨lexer.tokens.length, !lexer.inFlow && lexer.indent == place.column,
      place.index, place.line, place.column⟩
    return { kept with keys := (lexer.flow, key) :: kept.keys }
  else return lexer

def allowKey (lexer : Lexer) (allowed : Bool) : Lexer := { lexer with keyAllowed := allowed }

def unwindFrom (column : Int) : List Int → Lexer → Lexer
  | [], lexer => lexer
  | indent :: outer, lexer =>
    if column < lexer.indent then
      unwindFrom column outer { lexer.push .blockEnd with indent := indent, outer := outer }
    else lexer

/-- End the block collections that lie to the right of a column, outside of flow collections. -/
def unwind (lexer : Lexer) (column : Int) : Lexer :=
  if lexer.inFlow then lexer else unwindFrom column lexer.outer lexer

def indentTo (lexer : Lexer) (column position : Nat) (token : Token) : Lexer :=
  if lexer.indent < (column : Int) then
    { lexer.insert position token with
      indent := column, outer := lexer.indent :: lexer.outer }
  else lexer

def beginBlock (lexer : Lexer) (token : Token) : Parsed Lexer := do
  if lexer.inFlow then return lexer
  require lexer.keyAllowed
  return lexer.indentTo lexer.place.column lexer.tokens.length token

def closeAll (lexer : Lexer) : Parsed Lexer := do
  return (← (lexer.unwind (-1)).dropKey).allowKey false

def documentMark (lexer : Lexer) (token : Token) : Parsed Lexer := do
  return (← lexer.closeAll).pushOver 3 token

def openFlow (lexer : Lexer) (token : Token) : Parsed Lexer := do
  let lexer ← lexer.saveKey
  return { (lexer.allowKey true).pushOver 1 token with flow := lexer.flow + 1 }

def closeFlow (lexer : Lexer) (token : Token) : Parsed Lexer := do
  let lexer ← lexer.dropKey
  return { (lexer.allowKey false).pushOver 1 token with flow := lexer.flow - 1 }

def flowEntry (lexer : Lexer) : Parsed Lexer := do
  return ((← lexer.dropKey).allowKey true).pushOver 1 .flowEntry

def blockEntry (lexer : Lexer) : Parsed Lexer := do
  let lexer ← lexer.beginBlock .blockSequenceStart
  return ((← lexer.dropKey).allowKey true).pushOver 1 .blockEntry

def explicitKey (lexer : Lexer) : Parsed Lexer := do
  let lexer ← lexer.beginBlock .blockMappingStart
  return ((← lexer.dropKey).allowKey !lexer.inFlow).pushOver 1 .key

def keyValue (lexer : Lexer) : Parsed Lexer := do
  match lexer.key? with
  | some key =>
    let lexer := lexer.forgetKey.insert key.position .key
    let lexer := if lexer.inFlow then lexer
      else lexer.indentTo key.column key.position .blockMappingStart
    return (lexer.allowKey false).pushOver 1 .value
  | none => do
    let lexer ← lexer.beginBlock .blockMappingStart
    return ((← lexer.dropKey).allowKey !lexer.inFlow).pushOver 1 .value

def named (lexer : Lexer) (token : String → Token) : Parsed Lexer := do
  let lexer ← lexer.saveKey
  let (name, after) ← Property.name lexer.place
  return ((lexer.allowKey false).push (token name)).moveTo after

def tagged (lexer : Lexer) : Parsed Lexer := do
  let lexer ← lexer.saveKey
  let (text, after) ← Property.tag lexer.place
  return ((lexer.allowKey false).push (.tag text)).moveTo after

def blockText (lexer : Lexer) : Parsed Lexer := do
  let lexer ← lexer.dropKey
  let (text, after) ← Block.read lexer.indent lexer.place
  return ((lexer.allowKey true).push (.scalar (.of text) false)).moveTo after

def quotedText (lexer : Lexer) (mark : Char) : Parsed Lexer := do
  let lexer ← lexer.saveKey
  let (text, after) ← Quoted.read mark lexer.place
  return ((lexer.allowKey false).push (.scalar text false)).moveTo after

def plainText (lexer : Lexer) : Parsed Lexer := do
  let lexer ← lexer.saveKey
  let reading := Plain.read lexer.inFlow (lexer.indent + 1) lexer.place
  return ((lexer.allowKey reading.newLine).push (.scalar (.of reading.text) true)).moveTo
    reading.after

def directive (lexer : Lexer) : Parsed Lexer := do
  let lexer ← lexer.closeAll
  let (content, after) ← Property.directive lexer.place
  return (lexer.push (.directive content)).moveTo after

def finish (lexer : Lexer) : Parsed Lexer := do
  return (← lexer.closeAll).push .streamEnd

/-- Whether a mark is ahead that stands alone, or stands inside a flow collection. -/
def seesMark (lexer : Lexer) (mark : Char) : Bool :=
  lexer.place.sees mark && (lexer.inFlow || lexer.place.seesAlone mark)

def token (lexer : Lexer) (c : Char) : Parsed Lexer :=
  let place := lexer.place
  if c = '%' ∧ place.column = 0 then lexer.directive
  else if place.atMark '-' then lexer.documentMark .documentStart
  else if place.atMark '.' then lexer.documentMark .documentEnd
  else if c = '[' then lexer.openFlow .flowSequenceStart
  else if c = '\x7b' then lexer.openFlow .flowMappingStart
  else if c = ']' then lexer.closeFlow .flowSequenceEnd
  else if c = '\x7d' then lexer.closeFlow .flowMappingEnd
  else if c = ',' then lexer.flowEntry
  else if place.seesAlone '-' then lexer.blockEntry
  else if lexer.seesMark '?' then lexer.explicitKey
  else if lexer.seesMark ':' then lexer.keyValue
  else if c = '*' then lexer.named .alias
  else if c = '&' then lexer.named .anchor
  else if c = '!' then lexer.tagged
  else if (c = '|' ∨ c = '>') ∧ lexer.inFlow = false then lexer.blockText
  else if c = '\'' ∨ c = '"' then lexer.quotedText c
  else if Plain.mayStart lexer.inFlow place then lexer.plainText
  else .error .malformed

/-- Go to the next token; a key may begin in a new line outside of flow collections. -/
def skip (lexer : Lexer) : Lexer :=
  let after := lexer.place.skip
  { lexer with
    place := after
    keyAllowed := lexer.keyAllowed || (!lexer.inFlow && lexer.place.line != after.line) }

def step (lexer : Lexer) : Parsed Lexer := do
  let lexer ← lexer.skip.dropStale
  let lexer := lexer.unwind lexer.place.column
  match lexer.place.peek? with
  | none => lexer.finish
  | some c => lexer.token c

def firstKey (lexer : Lexer) : Nat :=
  (lexer.keys.filter fun entry => !isStale lexer.place entry.2).foldl
    (fun least entry => min least entry.2.position) lexer.tokens.length

def settled (lexer : Lexer) : List Token := lexer.tokens.reverse.take lexer.firstKey

/-- The tokens up to the end of the text or a fault; every step goes past a character. -/
def run : Nat → Lexer → List Token × Option Fault
  | 0, lexer => (lexer.tokens.reverse, some .malformed)
  | fuel + 1, lexer =>
    match lexer.step with
    | .error fault => (lexer.settled, some fault)
    | .ok next =>
      match next.tokens with
      | .streamEnd :: _ => (next.tokens.reverse, none)
      | _ => run fuel next

end Lexer

def Token.ofText (text : List Char) : List Token × Option Fault :=
  (Lexer.start text).run (text.length + 1)

end ScopedTemplate.Yaml
