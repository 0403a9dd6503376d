import ScopedTemplate.Graph

/-!
# Markdown

Documents about functions and graphs.
-/

namespace ScopedTemplate.Markdown

def lines (parts : List String) : String := "\n".intercalate parts

def functionLines (title : String) (deps : List String) (doc : Option String) : List String :=
  let needs := ", ".intercalate (deps.map fun dep => "`" ++ dep ++ "`")
  let needs := if needs = "" then "none" else needs
  ("- **" ++ title ++ "** - depends on: " ++ needs) ::
    match doc with
    | none | some "" => []
    | some doc => ["  " ++ doc]

def entryLines? (title : String) : Term → Option (List String)
  | .function _ _ deps doc _ => some (functionLines title deps doc)
  | _ => none

def functionDocument (entries : List (List String)) : String :=
  if entries.isEmpty then "No dependency functions found"
  else lines (["## Dependency Functions (" ++ toString entries.length ++ ")", ""] ++ entries.flatten)

/-- The functions among bindings, titled by the names they are bound to. -/
def ofBindings (bindings : Entries) : String :=
  functionDocument (bindings.filterMap fun binding => entryLines? binding.1.nameText binding.2)

def ofFunctions (functions : List Term) : String :=
  functionDocument (functions.filterMap fun
    | .function _ name deps doc _ => some (functionLines name deps doc)
    | _ => none)

def orderLine (graph : Graph) (index : Nat) (name : String) : String :=
  let deps := graph.dependencies name
  toString (index + 1) ++ ". " ++ name ++
    if deps.isEmpty then "" else " (after " ++ ", ".intercalate deps ++ ")"

def orderLines (graph : Graph) : List String :=
  match graph.topologicalOrder.unwrap with
  | .ok order => "## Evaluation Order" :: order.mapIdx (orderLine graph)
  | .error _ =>
    let cycle := graph.cycleMembers
    "## Cycle" :: ("**Error**: " ++ Graph.cycleError cycle) ::
      cycle.map fun name => "- " ++ name ++ " -> " ++ ", ".intercalate (graph.dependencies name)

def unboundLines (graph : Graph) : List String :=
  if graph.unbound.isEmpty then []
  else ["", "## Unbound Inputs"] ++ graph.unbound.map ("- " ++ ·)

def ofGraph (graph : Graph) : String :=
  lines (["# Dependency Graph", "", "- **Nodes**: " ++ toString graph.nodes.length,
    "- **Edges**: " ++ toString graph.edges.length, ""] ++ orderLines graph ++ unboundLines graph)

end ScopedTemplate.Markdown
