import ScopedTemplate.Resolver.Body

/-!
# Reducing a node

A node is reduced by the first rule that applies to it, until a rule finishes it.  The resolution
of children, bindings and scopes is a parameter; `resolveTerm` in the next module closes
the recursion.
-/

namespace ScopedTemplate

/-- A template node on its way to a value. -/
structure Node where
  term : Term
  kind : Kind
  env : Environment Term
  /-- Whether the children were resolved. -/
  collected : Bool

/-- What a rule makes of a node. -/
inductive Step where
  | finish (value : Term)
  | again (term : Term) (env : Environment Term) (collected : Bool)

namespace Term

/-- How a limit that was exceeded names a term. -/
def label : Term → String
  | .text _ s => s
  | .function _ name _ _ _ => name
  | t => t.typeName

end Term

namespace Test

def passes (node : Node) : Test → Bool
  | .starts marker => node.term.text?.any fun s => marker.toList.isPrefixOf s.toList
  | .written form => node.term.tagged == form
  | .kind wanted => node.kind == wanted
  | .bound => (node.env.target? node.term).isSome
  | .collected => node.collected
  | .no test => !test.passes node
  | .both first second => first.passes node && second.passes node

def fails (node : Node) : Test → Bool
  | .written _ => !node.term.isWritable
  | .no test => test.fails node
  | .both first second => first.fails node || (first.passes node && second.fails node)
  | _ => false

end Test

def Rule.fails (node : Node) : Rule Term → Bool
  | .custom rule => rule.test.fails node
  | _ => false

namespace Resolver

variable (resolver : Resolver Term)

def drops (value : Term) : Bool :=
  value.isRemoved ||
    (resolver.config.removeEmpty && resolver.classifier.isCollection value &&
      value.size? == some 0)

def checkValues (values : List Term) : Except Failure Unit :=
  if resolver.config.removeEmpty then
    values.forM fun value => if value.isRemoved then .ok () else resolver.classifier.check value
  else .ok ()

/-- The mapping key that carries a scope of defaults. -/
def defaultsKey : Term := .str resolver.config.defaultsKey

/-- Whether a rule applies to a node. -/
def applies (node : Node) : Rule Term → Bool
  | .lookup => node.kind == .ref && (node.env.target? node.term).isSome
  | .fixpoint => node.kind == .ref
  | .application => node.kind == .function
  | .callable => node.kind == .callable
  | .nestedDefaults =>
    node.kind == .mapping &&
      node.term.entries?.any fun entries => Entries.has entries resolver.defaultsKey
  | .collection => node.kind.isCollection && !node.collected
  | .removal => node.collected
  | .passThrough => true
  | .custom rule => rule.test.passes node

/-- The first rule that applies to a node. -/
def select (node : Node) : List (Rule Term) → Except Failure (Option (Rule Term))
  | [] => .ok none
  | rule :: rest =>
    if rule.fails node then .error (.value .tooManyDigits)
    else if applies resolver node rule then .ok (some rule)
    else select node rest

variable (resolution : Resolution) (cache : CacheId)

def checkDependency (function : String) (dep : String) (env : Environment Term) (value : Term) :
    Run Unit :=
  if resolver.config.checkDependencies && resolver.classifier.isRef value then do
    throw (.resolution dep
      (if env.binds (.ref dep) then
        "dependency of " ++ function ++ " resolved to unbound reference " ++
          Text.quote value.nameText
      else "dependency of " ++ function ++ " has no binding")
      (← Run.snapshot env))
  else pure ()

/-- Resolve the dependencies of a function in order; a repeated one is looked up again. -/
def resolveDependencies (function : String) (env : Environment Term) :
    List String → Run Entries
  | [] => pure []
  | dep :: rest => do
    let value ← lookupName resolution resolver env cache (.ref dep)
    checkDependency resolver function dep env value
    return (.ref dep, value) :: (← resolveDependencies function env rest)

def arguments (deps : List String) (values : Entries) : List Term :=
  let latest := Entries.ofPairs values
  deps.map fun dep => (Entries.find? latest (.ref dep)).getD .null

def resolveItems (env : Environment Term) : List Term → Run (List Term)
  | [] => pure []
  | item :: rest => do
    let value ← resolution resolver item env cache
    return value :: (← resolveItems env rest)

def resolveEntries (env : Environment Term) : Entries → Run Entries
  | [] => pure []
  | (key, item) :: rest => do
    let value ← resolution resolver item env cache
    return (key, value) :: (← resolveEntries env rest)

/-- Call a function with its resolved dependencies; what it returns is resolved further. -/
def applyFunction (node : Node) : Run Step :=
  match node.term with
  | .function _ name deps _ callee => do
    let values ← resolveDependencies resolver resolution cache name node.env deps
    Run.log .debug ("Invoking " ++ name ++ "(" ++ Term.commas deps ++ ")")
    let args := arguments deps values
    Run.record cache (.applied node.term args)
    let result ← invoke resolution callee node.term args
    return .again result node.env node.collected
  | term => return .finish term

/-- Call a callable with a view of the environment; what it returns is resolved further. -/
def applyCallable (node : Node) : Run Step :=
  match node.term with
  | .callable _ _ _ name _ => do
    Run.log .debug ("Invoking " ++ name ++ " with environment view")
    let stamp ← Run.takeStamps 1
    let view := .view stamp resolver node.env cache
    let result ← invoke resolution node.term node.term [view]
    return .again result node.env node.collected
  | term => return .finish term

def enterDefaults (node : Node) : Run Step :=
  match node.term with
  | .map _ _ entries => do
    let defaults := (Entries.find? entries resolver.defaultsKey).getD .null
    match defaults.scopeSize? with
    | none =>
      throw (.resolution resolver.config.defaultsKey
        ("nested defaults must be a mapping, got " ++ defaults.typeName)
        (← Run.snapshot node.env))
    | some size =>
      Run.log .debug ("Entering defaults scope with " ++ toString size ++ " binding(s)")
      let bindings ← defaults.scopeEntries resolution
      let rest ← Run.makeMap (Entries.erase entries resolver.defaultsKey)
      return .again rest (node.env.child bindings) node.collected
  | term => return .finish term

def collect (node : Node) : Run Step :=
  match node.term with
  | .map _ _ entries => do
    let values ← resolveEntries resolver resolution cache node.env entries
    return .again (← Run.makeMap values) node.env true
  | .tuple _ items => do
    let values ← resolveItems resolver resolution cache node.env items
    return .again (← Run.makeTuple values) node.env true
  | .list _ _ items => do
    let values ← resolveItems resolver resolution cache node.env items
    return .again (← Run.makeList values) node.env true
  | term => return .again term node.env true

def prune (term : Term) : Run Step :=
  match term with
  | .map _ _ entries => do
    Run.ofResult (resolver.checkValues (Entries.values entries))
    return .finish (← Run.makeMap (entries.filter (!resolver.drops ·.2)))
  | .tuple _ items | .point _ items => do
    Run.ofResult (resolver.checkValues items)
    return .finish (← Run.makeTuple (items.filter (!resolver.drops ·)))
  | term =>
    match term.elements? with
    | some items => do
      Run.ofResult (resolver.checkValues items)
      return .finish (← Run.makeList (items.filter (!resolver.drops ·)))
    | none => throw (.type (.notIterable term.typeName))

/-- What a custom rule puts in the place of a term; a body sees the term as itself. -/
def act (node : Node) : Action Term → Run Term
  | .put term => pure term
  | .call (.callable _ counter _ _ body) => do
    let stamp ← Run.takeStamps 1
    let view := .view stamp resolver node.env cache
    evalBody resolution ⟨node.term, counter, [], view⟩ body
  | .call term => pure term

/-- What a rule makes of a node that it applies to. -/
def transform (node : Node) : Rule Term → Run Step
  | .lookup => return .finish (← lookupName resolution resolver node.env cache node.term)
  | .fixpoint => do
    Run.record cache (.left node.env node.term)
    return .finish node.term
  | .application => applyFunction resolver resolution cache node
  | .callable => applyCallable resolver resolution cache node
  | .nestedDefaults => enterDefaults resolver resolution node
  | .collection => collect resolver resolution cache node
  | .removal => prune resolver node.term
  | .passThrough => return .finish node.term
  | .custom rule => do
    let result ← act resolver resolution cache node rule.action
    if rule.finishes then return .finish result
    else return .again result node.env node.collected

/-- Reduce a node until a rule finishes it, with a bound on the number of steps. -/
def reduce : Nat → Node → Run Term
  | 0, node => do
    throw (.cyclic node.term.label (← Run.chain cache) (some resolver.config.maxDepth))
  | steps + 1, node => do
    match ← Run.ofResult (select resolver node resolver.rules) with
    | none =>
      throw (.resolution node.term.label
        ("no rule applies to " ++ node.kind.word ++ " term") (← Run.snapshot node.env))
    | some rule => do
      match ← transform resolver resolution cache node rule with
      | .finish value => return value
      | .again term env collected =>
        let kind ← Run.ofResult (resolver.classifier.classify term)
        reduce steps ⟨term, kind, env, collected⟩

def resolveNode (term : Term) (env : Environment Term) : Run Term := do
  let kind ← Run.ofResult (resolver.classifier.classify term)
  reduce resolver resolution cache resolver.config.maxDepth ⟨term, kind, env, false⟩

end Resolver

end ScopedTemplate
