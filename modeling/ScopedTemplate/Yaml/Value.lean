import ScopedTemplate.Yaml.Draft
import ScopedTemplate.Yaml.Scalar

/-!
# Values of nodes

A document has a value if all of its nodes have one.  They are visited level by level from the root:
the scalars in a collection before the contents of the collections in it.  Each collection is
visited once, wherever it occurs.
-/

namespace ScopedTemplate.Yaml.Nodes

def isMapping (nodes : Nodes) (id : NodeId) : Bool :=
  match nodes.content id with
  | .mapping _ => true
  | _ => false

/--
The text of a scalar.  A mapping stands for its entry under the sign for values; one that stands for
itself has no end.
-/
def scalarText (nodes : Nodes) : Nat → NodeId → Parsed ScalarText
  | 0, _ => .error (.failure .exhausted)
  | fuel + 1, id =>
    match nodes.content id with
    | .scalar text => .ok text
    | .sequence _ => .error .malformed
    | .mapping entries =>
      match entries.find? (nodes.tag ·.1 == .value) with
      | some (_, value) => scalarText nodes fuel value
      | none => .error .malformed

/-- The value of a node that is no collection; only the text of a scalar itself is a timestamp. -/
def scalar (nodes : Nodes) (id : NodeId) : Parsed Setting := do
  require (nodes.tag id).hasValues
  let text ← nodes.scalarText (nodes.size + 1) id
  if nodes.tag id = .timestamp ∧ nodes.isMapping id then
    throw (.failure (.type (.textExpected "list")))
  Scalar.value (nodes.tag id) text

mutual

/-- The entries of a mapping, those that it copies first; `within` are the mappings around it. -/
def entries (nodes : Nodes) (within : List NodeId) :
    Nat → NodeId → Parsed (List (NodeId × NodeId))
  | 0, _ => .error .malformed
  | fuel + 1, id =>
    match nodes.content id with
    | .mapping given => do
      let (merges, own) := given.partition (nodes.tag ·.1 == .merge)
      if within.contains id then return own
      let copied ← merges.mapM fun merge => copied nodes (id :: within) fuel merge.2
      return copied.flatten ++ own
    | _ => .error .malformed

/-- The entries that a mapping copies: those of a mapping, or of mappings whose later ones lose. -/
def copied (nodes : Nodes) (within : List NodeId) :
    Nat → NodeId → Parsed (List (NodeId × NodeId))
  | 0, _ => .error .malformed
  | fuel + 1, id =>
    match nodes.content id with
    | .sequence items => do
      return (← items.mapM (entries nodes within fuel)).reverse.flatten
    | _ => entries nodes within fuel id

end

def entriesOf (nodes : Nodes) (id : NodeId) : Parsed (List (NodeId × NodeId)) :=
  nodes.entries [] (2 * nodes.size + 2) id

/-- Check a node, but for the contents of a collection, which is what is left to visit. -/
def visit (nodes : Nodes) (id : NodeId) : Parsed (List NodeId) :=
  if (nodes.tag id).isCollection then .ok [id]
  else do
    let _ ← nodes.scalar id
    return []

def visitEntry (nodes : Nodes) (entry : NodeId × NodeId) : Parsed (List NodeId) := do
  require (!(nodes.tag entry.1).isCollection)
  let _ ← nodes.scalar entry.1
  nodes.visit entry.2

def visitPair (nodes : Nodes) (id : NodeId) : Parsed (List NodeId) :=
  match nodes.content id with
  | .mapping [(key, value)] => do return (← nodes.visit key) ++ (← nodes.visit value)
  | _ => .error .malformed

/--
Check the contents of a collection; the answer is what is left to visit.  Where the sign for values
is a key of a mapping, it is text from then on.
-/
def visitContents (nodes : Nodes) (id : NodeId) : Parsed (Nodes × List NodeId) := do
  match nodes.tag id, nodes.content id with
  | .sequence, .sequence items => return (nodes, (← items.mapM nodes.visit).flatten)
  | .pairs, .sequence items => return (nodes, (← items.mapM nodes.visitPair).flatten)
  | .mapping, .mapping _ | .set, .mapping _ =>
    let entries ← nodes.entriesOf id
    let nodes := nodes.settle (entries.map Prod.fst)
    return (nodes, (← entries.mapM nodes.visitEntry).flatten)
  | _, _ => throw .malformed

def visitAll (nodes : Nodes) : List NodeId → Parsed (Nodes × List NodeId)
  | [] => .ok (nodes, [])
  | id :: rest => do
    let (nodes, found) ← nodes.visitContents id
    let (nodes, more) ← visitAll nodes rest
    return (nodes, found ++ more)

def visitLevels : Nat → List NodeId → List NodeId → Nodes → Parsed Nodes
  | 0, _, _, nodes => .ok nodes
  | fuel + 1, seen, level, nodes => do
    let level := (level.filter (!seen.contains ·)).eraseDups
    if level = [] then return nodes
    let (nodes, next) ← nodes.visitAll level
    visitLevels fuel (level ++ seen) next nodes

def check (nodes : Nodes) (root : NodeId) : Parsed Nodes := do
  visitLevels (nodes.size + 1) [] (← nodes.visit root) nodes

def scalarValue (nodes : Nodes) (id : NodeId) : Setting := (nodes.scalar id).toOption.getD .other

def checkedEntries (nodes : Nodes) (id : NodeId) : List (NodeId × NodeId) :=
  (nodes.entriesOf id).toOption.getD []

/-- The value of a node that was checked; what is nested deeper than fields can hold is no value. -/
def valueOf (nodes : Nodes) : Nat → NodeId → Setting
  | 0, _ => .other
  | depth + 1, id =>
    match nodes.tag id, nodes.content id with
    | .sequence, .sequence items => .list (items.map (valueOf nodes depth))
    | .pairs, .sequence items => .list (items.map fun _ => .other)
    | .mapping, .mapping _ =>
      .mapping ((nodes.checkedEntries id).foldl (fun entries entry =>
        Setting.put entries (nodes.scalarValue entry.1) (valueOf nodes depth entry.2)) [])
    | .set, .mapping _ =>
      .list (((nodes.checkedEntries id).foldl (fun entries entry =>
        Setting.put entries (nodes.scalarValue entry.1) .null) []).map Prod.fst)
    | _, _ => nodes.scalarValue id

def depthOfElements : Nat := 3

def value (nodes : Nodes) (root : NodeId) : Parsed Setting := do
  let nodes ← nodes.check root
  return nodes.valueOf depthOfElements root

end ScopedTemplate.Yaml.Nodes
