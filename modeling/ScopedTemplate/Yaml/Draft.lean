import ScopedTemplate.Yaml.Node
import ScopedTemplate.Yaml.Token

/-!
# Drafts

Reading the nodes of a document off its tokens.  A text holds at most one document.
-/

namespace ScopedTemplate.Yaml

/-- The tokens ahead, and what was read before them. -/
structure Draft where
  tokens : List Token
  /-- What is wrong behind the last token. -/
  ending : Fault
  /-- What handles of types stand for. -/
  handles : List (String × String)
  nodes : Nodes
  /-- The nodes with names. -/
  anchors : List (String × NodeId)

abbrev Drafting := StateT Draft Parsed

/-- The places of nodes: they differ in the collections that may begin there. -/
inductive Position where
  /-- A node inside a flow collection. -/
  | flow
  | block
  /-- A key or value of a block mapping. -/
  | field
  deriving DecidableEq, Repr

/-- What is said about a node in front of it. -/
structure NodeProperties where
  anchor : Option String
  tag : Option String

namespace NodeProperties

def unsaid : NodeProperties := ⟨none, none⟩

def openTag : String := "!"

def collectionTag (properties : NodeProperties) (standard : Tag) : Tag :=
  match properties.tag with
  | none => standard
  | some name => if name = openTag then standard else .ofName name

def scalarTag (properties : NodeProperties) (text : ScalarText) (plain : Bool) : Tag :=
  match properties.tag with
  | none => if plain then .ofText text.text else .text
  | some name => if name = openTag then .ofText text.text else .ofName name

end NodeProperties

namespace Draft

def standardHandles : List (String × String) := [("!", "!"), ("!!", Tag.space)]

def refuse {α : Type} : Drafting α := throw .malformed

def peek : Drafting Token := do
  match (← get).tokens with
  | token :: _ => return token
  | [] => throw (← get).ending

def skip : Drafting Unit := modify fun draft => { draft with tokens := draft.tokens.drop 1 }

/-- Add a node, under a name if it has one; names are not used twice. -/
def define (anchor : Option String) (node : Node) : Drafting NodeId := do
  let draft ← get
  let id := draft.nodes.size
  match anchor with
  | none => set { draft with nodes := draft.nodes.push node }
  | some name =>
    if draft.anchors.any (·.1 == name) then refuse
    else set { draft with
      nodes := draft.nodes.push node, anchors := (name, id) :: draft.anchors }
  return id

/-- Add a node without text. -/
def empty : Drafting NodeId := define none .empty

def known (name : String) : Drafting NodeId := do
  match (← get).anchors.find? (·.1 == name) with
  | some (_, id) => return id
  | none => refuse

/-- Add a sequence; its items are read behind it. -/
def sequence (properties : NodeProperties) (items : Drafting (List NodeId)) :
    Drafting NodeId := do
  let id ← define properties.anchor ⟨properties.collectionTag .sequence, .sequence []⟩
  let items ← items
  modify fun draft => { draft with nodes := draft.nodes.fill id (.sequence items) }
  return id

/-- Add a mapping; its entries are read behind it. -/
def mapping (properties : NodeProperties) (entries : Drafting (List (NodeId × NodeId))) :
    Drafting NodeId := do
  let id ← define properties.anchor ⟨properties.collectionTag .mapping, .mapping []⟩
  let entries ← entries
  modify fun draft => { draft with nodes := draft.nodes.fill id (.mapping entries) }
  return id

def scalar (properties : NodeProperties) (text : ScalarText) (plain : Bool) : Drafting NodeId :=
  define properties.anchor ⟨properties.scalarTag text plain, .scalar text⟩

def unwritten (properties : NodeProperties) : Drafting NodeId :=
  if properties.anchor.isSome || properties.tag.isSome then scalar properties (.of []) true
  else refuse

def fullTag (text : TagText) : Drafting String := do
  match text.handle with
  | none => return text.suffix
  | some handle =>
    match (← get).handles.find? (·.1 == handle) with
    | some (_, start) => return start ++ text.suffix
    | none => refuse

def anchor? : Drafting (Option String) := do
  match ← peek with
  | .anchor name => do
    skip
    return some name
  | _ => return none

def tag? : Drafting (Option TagText) := do
  match ← peek with
  | .tag text => do
    skip
    return some text
  | _ => return none

/-- Read a name and a type in any order; either can be missing. -/
def properties : Drafting NodeProperties := do
  let before ← anchor?
  let tag ← tag?
  let anchor ← if before.isSome || tag.isNone then pure before else anchor?
  return ⟨anchor, ← tag.mapM fullTag⟩

def endsItem : Token → Bool
  | .blockEntry | .blockEnd => true
  | _ => false

def endsField : Token → Bool
  | .key | .value | .blockEnd => true
  | _ => false

def endsFlowItem : Token → Bool
  | .flowEntry | .flowSequenceEnd => true
  | _ => false

def endsFlowField : Token → Bool
  | .flowEntry | .flowMappingEnd => true
  | _ => false

def isValue : Token → Bool
  | .value => true
  | _ => false

def orEmpty (ends : Token → Bool) (node : Drafting NodeId) : Drafting NodeId := do
  if ends (← peek) then empty else node

/-- Read a value behind its mark; without the mark it is not written. -/
def valueOr (ends : Token → Bool) (node : Drafting NodeId) : Drafting NodeId := do
  match ← peek with
  | .value => do
    skip
    orEmpty ends node
  | _ => empty

/-- Go past the mark between two elements of a flow collection. -/
def separator (first : Bool) : Drafting Unit := do
  if !first then
    match ← peek with
    | .flowEntry => skip
    | _ => refuse

mutual

def node (position : Position) : Nat → Drafting NodeId
  | 0 => refuse
  | fuel + 1 => do
    match ← peek with
    | .alias name => do
      skip
      known name
    | _ => do
      let properties ← properties
      match ← peek with
      | .scalar text plain => do
        skip
        scalar properties text plain
      | .flowSequenceStart => do
        skip
        sequence properties (flowItems true fuel)
      | .flowMappingStart => do
        skip
        mapping properties (flowEntries true fuel)
      | .blockSequenceStart =>
        if position = .flow then unwritten properties
        else do
          skip
          sequence properties (blockItems fuel)
      | .blockMappingStart =>
        if position = .flow then unwritten properties
        else do
          skip
          mapping properties (blockEntries fuel)
      | .blockEntry =>
        if position = .field then sequence properties (fieldItems fuel)
        else unwritten properties
      | _ => unwritten properties

def blockItems : Nat → Drafting (List NodeId)
  | 0 => refuse
  | fuel + 1 => do
    match ← peek with
    | .blockEntry => do
      skip
      let item ← orEmpty endsItem (node .block fuel)
      return item :: (← blockItems fuel)
    | .blockEnd => do
      skip
      return []
    | _ => refuse

/-- Read the items of a block sequence that is indented like the key before it. -/
def fieldItems : Nat → Drafting (List NodeId)
  | 0 => refuse
  | fuel + 1 => do
    match ← peek with
    | .blockEntry => do
      skip
      let item ← orEmpty (fun token => endsItem token || endsField token) (node .block fuel)
      return item :: (← fieldItems fuel)
    | _ => return []

def blockEntries : Nat → Drafting (List (NodeId × NodeId))
  | 0 => refuse
  | fuel + 1 => do
    match ← peek with
    | .key => do
      skip
      let key ← orEmpty endsField (node .field fuel)
      let value ← valueOr endsField (node .field fuel)
      return (key, value) :: (← blockEntries fuel)
    | .blockEnd => do
      skip
      return []
    | _ => refuse

/-- Read the items of a flow sequence; a key begins a mapping with one entry. -/
def flowItems (first : Bool) : Nat → Drafting (List NodeId)
  | 0 => refuse
  | fuel + 1 => do
    match ← peek with
    | .flowSequenceEnd => do
      skip
      return []
    | _ => do
      separator first
      match ← peek with
      | .flowSequenceEnd => do
        skip
        return []
      | .key => do
        skip
        let item ← mapping .unsaid (flowPair fuel)
        return item :: (← flowItems false fuel)
      | _ => do
        let item ← node .flow fuel
        return item :: (← flowItems false fuel)

def flowPair : Nat → Drafting (List (NodeId × NodeId))
  | 0 => refuse
  | fuel + 1 => do
    let key ← orEmpty (fun token => isValue token || endsFlowItem token) (node .flow fuel)
    let value ← valueOr endsFlowItem (node .flow fuel)
    return [(key, value)]

/-- Read the entries of a flow mapping; a node that is no key has no value. -/
def flowEntries (first : Bool) : Nat → Drafting (List (NodeId × NodeId))
  | 0 => refuse
  | fuel + 1 => do
    match ← peek with
    | .flowMappingEnd => do
      skip
      return []
    | _ => do
      separator first
      match ← peek with
      | .flowMappingEnd => do
        skip
        return []
      | .key => do
        skip
        let key ← orEmpty (fun token => isValue token || endsFlowField token) (node .flow fuel)
        let value ← valueOr endsFlowField (node .flow fuel)
        return (key, value) :: (← flowEntries false fuel)
      | _ => do
        let key ← node .flow fuel
        let value ← empty
        return (key, value) :: (← flowEntries false fuel)

end

def directive? : Token → Option Directive
  | .directive content => some content
  | _ => none

/-- What directives say: whether there was a version, and the handles. -/
def follow (versioned : Bool) (handles : List (String × String)) :
    List Directive → Parsed (List (String × String))
  | [] => .ok handles
  | .version major _ :: rest => do
    require (!versioned && major == 1)
    follow true handles rest
  | .handle handle start :: rest => do
    require (!handles.any (·.1 == handle))
    follow versioned ((handle, start) :: handles) rest
  | .other :: rest => follow versioned handles rest

/-- Read the directives ahead; handles without one mean what they always do. -/
def directives : Drafting Unit := do
  let draft ← get
  let found := (draft.tokens.map directive?).takeWhile Option.isSome
  let handles ← follow false [] (found.filterMap id)
  set { draft with
    tokens := draft.tokens.drop found.length, handles := handles ++ standardHandles }

def explicit (fuel : Nat) : Drafting NodeId := do
  directives
  match ← peek with
  | .documentStart => do
    skip
    match ← peek with
    | .directive _ | .documentStart | .documentEnd | .streamEnd => empty
    | _ => node .block fuel
  | _ => refuse

def isDocumentEnd : Token → Bool
  | .documentEnd => true
  | _ => false

def finish : Drafting Unit := do
  modify fun draft => { draft with tokens := draft.tokens.dropWhile isDocumentEnd }
  match ← peek with
  | .streamEnd => return
  | _ => refuse

def document (fuel : Nat) : Drafting (Option NodeId) := do
  match ← peek with
  | .streamEnd => return none
  | .directive _ | .documentStart => do
    let root ← explicit fuel
    finish
    return some root
  | _ => do
    let root ← node .block fuel
    finish
    return some root

/-- Before anything is read. -/
def start (text : List Char) : Draft :=
  let (tokens, fault) := Token.ofText text
  ⟨tokens, fault.getD .malformed, standardHandles, .empty, []⟩

end Draft

namespace Nodes

/-- The nodes of a text and its root, if it holds a document; every step goes past a token. -/
def ofText (text : List Char) : Parsed (Option NodeId × Nodes) := do
  let draft := Draft.start text
  let (root, draft) ← (Draft.document (4 * draft.tokens.length + 4)).run draft
  return (root, draft.nodes)

end Nodes

end ScopedTemplate.Yaml
