import ScopedTemplate.Outcome
import ScopedTemplate.Template

/-!
# Dependency graphs

The static graph of a set of bindings.  An edge leads from a name to each binding that needs it: a
function needs its dependencies, any other value the references inside it, except one to its own
name.  Nothing is resolved.
-/

namespace ScopedTemplate

/-- Names with what each of them depends on, in order and without two equal names. -/
abbrev DependencyTable := List (String × List String)

/-- The dependency graph of bindings. -/
structure Graph where
  bindings : Entries
  /-- The bound names and the distinct names that each depends on. -/
  table : DependencyTable
  /-- Every name, bound or only depended upon, once. -/
  nodes : List String

namespace Graph

def record (name : String) (deps : List String) : DependencyTable → DependencyTable
  | [] => [(name, deps)]
  | row :: rest => if row.1 = name then (name, deps) :: rest else row :: record name deps rest

def declared (classifier : Classifier) (defaultsKey name : String) (value : Term) :
    List String :=
  match value with
  | .function _ _ deps _ _ => Text.distinct deps
  | value => (value.referenceNames classifier defaultsKey).filter (· != name)

/-- What is no function depends on the other names that it refers to. -/
theorem declared_of_data {classifier : Classifier} {defaultsKey : String} {value : Term}
    (data : value.dependencies? = none) (name : String) : declared classifier defaultsKey name value =
      (value.referenceNames classifier defaultsKey).filter (· != name) := by
  unfold declared
  split
  · cases data
  · rfl

def tableOf (classifier : Classifier) (defaultsKey : String) (bindings : Entries) :
    DependencyTable :=
  bindings.foldl (fun table binding =>
    let name := binding.1.nameText
    record name (declared classifier defaultsKey name binding.2) table) []

def ofBindings (bindings : Entries) (classifier : Classifier) (defaultsKey : String) : Graph :=
  let table := tableOf classifier defaultsKey bindings
  { bindings, table, nodes := Text.distinct (table.flatMap fun row => row.1 :: row.2) }

def checkBindings (classifier : Classifier) (bindings : Entries) : Except Failure Unit :=
  bindings.forM fun binding =>
    if binding.2.dependencies?.isSome then .ok () else classifier.check binding.2

def children (defaultsKey : String) : Term → List Term
  | .map _ _ entries =>
    (entries.filter fun entry => !entry.1.sameKey (.str defaultsKey)).map Prod.snd
  | .list _ _ items => items
  | .tuple _ items => items
  | _ => []

def scopeAt (defaultsKey : String) (node : Term) : Entries :=
  ((node.entries?.bind (Entries.find? · (.str defaultsKey))).bind Term.entries?).getD []

def scopesByLevel (defaultsKey : String) : Nat → List Term → List Entries
  | 0, _ => []
  | _ + 1, [] => []
  | levels + 1, nodes =>
    nodes.map (scopeAt defaultsKey) ++
      scopesByLevel defaultsKey levels (nodes.flatMap (children defaultsKey))

mutual

def levels : Term → Nat
  | .map _ _ entries => levelsInEntries entries + 1
  | .list _ _ items => levelsInItems items + 1
  | .tuple _ items => levelsInItems items + 1
  | _ => 1

def levelsInItems : List Term → Nat
  | [] => 0
  | t :: ts => max (levels t) (levelsInItems ts)

def levelsInEntries : List (Term × Term) → Nat
  | [] => 0
  | (_, value) :: rest => max (levels value) (levelsInEntries rest)

end

theorem levels_pos (t : Term) : 0 < levels t := by
  cases t <;> simp [levels]

theorem levels_le_items {item : Term} {items : List Term} (member : item ∈ items) :
    levels item ≤ levelsInItems items := by
  induction items with
  | nil => cases member
  | cons first rest ih =>
    rw [levelsInItems]
    rcases List.mem_cons.1 member with rfl | later
    · exact Nat.le_max_left _ _
    · exact Nat.le_trans (ih later) (Nat.le_max_right _ _)

theorem levels_le_entries {entry : Term × Term} {entries : Entries} (member : entry ∈ entries) :
    levels entry.2 ≤ levelsInEntries entries := by
  induction entries with
  | nil => cases member
  | cons first rest ih =>
    rw [levelsInEntries]
    rcases List.mem_cons.1 member with rfl | later
    · exact Nat.le_max_left _ _
    · exact Nat.le_trans (ih later) (Nat.le_max_right _ _)

/-- A node has more levels than what is below it. -/
theorem levels_lt_of_child {defaultsKey : String} {node child : Term}
    (member : child ∈ children defaultsKey node) : levels child < levels node := by
  cases node with
  | map kind stamp entries =>
    obtain ⟨entry, kept, rfl⟩ := List.mem_map.1 member
    exact Nat.lt_succ_of_le (levels_le_entries (List.mem_filter.1 kept).1)
  | list kind stamp items => exact Nat.lt_succ_of_le (levels_le_items member)
  | tuple stamp items => exact Nat.lt_succ_of_le (levels_le_items member)
  | _ => cases member

/-- Every binding that is visible somewhere in a template: deeper scopes shadow outer ones. -/
def bindingsOf (template : Term) (env : Entries) (defaultsKey : String) : Entries :=
  (scopesByLevel defaultsKey (levels template) [template]).foldl Entries.update env

def ofTemplate (template : Term) (env : Entries) (classifier : Classifier)
    (defaultsKey : String) : Graph :=
  ofBindings (bindingsOf template env defaultsKey) classifier defaultsKey

variable (graph : Graph)

def dependencies (name : String) : List String :=
  ((graph.table.find? (·.1 == name)).map Prod.snd).getD []

def dependents (name : String) : List String :=
  (graph.table.filter fun row => row.2.contains name).map Prod.fst

def edges : List (String × String) :=
  graph.table.flatMap fun row => row.2.map (·, row.1)

def edgeName (edge : String × String) : String := edge.1 ++ "->" ++ edge.2

def isBound (name : String) : Bool := graph.table.any (·.1 == name)

def hasNode (name : String) : Bool := graph.nodes.contains name

def unbound : List String := graph.nodes.filter (!graph.isBound ·)

abbrev Degrees := String → Nat

def degrees : Degrees := fun node => (graph.dependencies node).length

def Degrees.lower (degrees : Degrees) (node : String) : Degrees := fun other =>
  if other = node then degrees other - 1 else degrees other

/-- Lower the degrees of some nodes, one after the other, and give those that come down to zero. -/
def release (degrees : Degrees) : List String → List String × Degrees
  | [] => ([], degrees)
  | node :: rest =>
    let lowered := degrees.lower node
    let released := release lowered rest
    (if lowered node = 0 then node :: released.1 else released.1, released.2)

/-- Take ready nodes first in, first out; a node becomes ready with its last dependency. -/
def orderFrom : Nat → Degrees → List String → List String → List String × Degrees
  | 0, degrees, done, _ => (done, degrees)
  | _ + 1, degrees, done, [] => (done, degrees)
  | steps + 1, degrees, done, node :: queue =>
    let released := release degrees (graph.dependents node)
    orderFrom steps released.2 (done ++ [node]) (queue ++ released.1)

def sorted : List String × Degrees :=
  graph.orderFrom graph.nodes.length graph.degrees [] (graph.nodes.filter (graph.degrees · == 0))

def ordered : List String := graph.sorted.1

def waiting : List String :=
  let degrees := graph.sorted.2
  graph.nodes.filter (0 < degrees ·)

/-- Drop, over and over, the nodes on which no other one left depends. -/
def peel : Nat → List String → List String
  | 0, remaining => remaining
  | steps + 1, remaining =>
    peel steps (remaining.filter fun node => (graph.dependents node).any remaining.contains)

/-- The nodes that cannot be put in order and that are left when there is nothing more to drop. -/
def cycleMembers : List String :=
  let waiting := graph.waiting
  graph.peel waiting.length waiting

def cycleError (cycle : List String) : String :=
  "Cyclic dependency detected: " ++ ", ".intercalate cycle

/-- All nodes, each after everything it depends on; a failure lists the nodes on cycles. -/
def topologicalOrder : Outcome (List String) :=
  let done := graph.ordered
  if done.length = graph.nodes.length then ⟨.success, some done, none, []⟩
  else
    let cycle := graph.cycleMembers
    ⟨.failed, none, some (cycleError cycle),
      [(.str "cycle", .list .plain none (cycle.map .str))]⟩

def display : String :=
  "DependencyGraph(nodes=" ++ toString graph.nodes.length ++ ", edges=" ++
    toString graph.edges.length ++ ")"

end Graph

end ScopedTemplate
