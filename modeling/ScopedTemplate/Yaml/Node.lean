import ScopedTemplate.Yaml.Quoted
import ScopedTemplate.Yaml.Tag

/-!
# Nodes

The nodes of a document before they are values.  A node can occur at several places, also inside of
itself, so nodes have numbers, and collections hold the numbers of what is in them.
-/

namespace ScopedTemplate.Yaml

abbrev NodeId := Nat

inductive NodeContent where
  | scalar (text : ScalarText)
  | sequence (items : List NodeId)
  | mapping (entries : List (NodeId × NodeId))

structure Node where
  tag : Tag
  content : NodeContent

namespace Node

def empty : Node := ⟨.null, .scalar (.of [])⟩

end Node

/-- The nodes of a document by number. -/
structure Nodes where
  table : Array Node

namespace Nodes

def empty : Nodes := ⟨#[]⟩

def size (nodes : Nodes) : Nat := nodes.table.size

def node (nodes : Nodes) (id : NodeId) : Node := nodes.table[id]?.getD .empty

def tag (nodes : Nodes) (id : NodeId) : Tag := (nodes.node id).tag

def content (nodes : Nodes) (id : NodeId) : NodeContent := (nodes.node id).content

def push (nodes : Nodes) (node : Node) : Nodes := ⟨nodes.table.push node⟩

def fill (nodes : Nodes) (id : NodeId) (content : NodeContent) : Nodes :=
  ⟨nodes.table.modify id fun node => { node with content := content }⟩

def settle (nodes : Nodes) (keys : List NodeId) : Nodes :=
  ⟨keys.foldl (fun table id => table.modify id fun node =>
    if node.tag = .value then { node with tag := .text } else node) nodes.table⟩

theorem size_push (nodes : Nodes) (node : Node) : (nodes.push node).size = nodes.size + 1 := by
  simp [push, size]

theorem size_fill (nodes : Nodes) (id : NodeId) (content : NodeContent) :
    (nodes.fill id content).size = nodes.size := by
  simp [fill, size]

end Nodes

end ScopedTemplate.Yaml
