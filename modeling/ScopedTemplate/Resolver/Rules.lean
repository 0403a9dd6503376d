import ScopedTemplate.Term.Kind
import ScopedTemplate.ValueType.Registry
import ScopedTemplate.Run
import ScopedTemplate.Template

/-!
# Rules and their order

What the rules are called, the order in which a resolver tries them, and the making of resolvers.
-/

namespace ScopedTemplate

namespace Rule

/-- Rules with a smaller priority are tried first. -/
def priority {α : Type} : Rule α → Int
  | .lookup => 10
  | .fixpoint => 20
  | .application => 30
  | .callable => 35
  | .nestedDefaults => 40
  | .collection => 50
  | .removal => 60
  | .passThrough => 90
  | .custom rule => rule.priority

def name {α : Type} : Rule α → String
  | .lookup => "LookupRule"
  | .fixpoint => "FixpointRule"
  | .application => "ApplicationRule"
  | .callable => "CallableRule"
  | .nestedDefaults => "NestedDefaultsRule"
  | .collection => "CollectionRule"
  | .removal => "RemovalRule"
  | .passThrough => "PassThroughRule"
  | .custom rule => rule.name

def group {α : Type} : Rule α → String
  | .lookup => "lookup"
  | .fixpoint => "fixpoint"
  | .application | .callable => "application"
  | .nestedDefaults => "scope"
  | .collection => "collection"
  | .removal => "removal"
  | .passThrough => "pass_through"
  | .custom rule => rule.group

def description {α : Type} : Rule α → String
  | .lookup => "Replace bound references with their resolved bindings"
  | .fixpoint => "Leave unbound and self-bound references unchanged"
  | .application => "Call dependency-aware functions with resolved dependencies"
  | .callable => "Call plain functions with a lazy environment view"
  | .nestedDefaults => "Merge nested defaults as the innermost scope of a subtree"
  | .collection => "Recurse into mappings and sequences"
  | .removal => "Remove RMV entries and collections emptied by removal"
  | .passThrough => "Return scalars and leaf values unchanged"
  | .custom rule => rule.description

def shout (priority : Int) (marker : String) : Rule Term :=
  .custom ⟨"CustomRule", "pass_through", "custom shout", priority, .starts marker,
    .call (.callable .accessor 0 "" "" (.edit .upper (.edit (.drop marker.length) .self))), true⟩

/-- Turn a term with the given written form into another, and perhaps finish there. -/
def replace (priority : Int) (target : String) (replacement : Term) (finishes : Bool) : Rule Term :=
  .custom ⟨"CustomRule", "pass_through", if finishes then "custom finish" else "custom rewrite",
    priority, .written target, .put replacement, finishes⟩

def display {α : Type} (rule : Rule α) : String :=
  rule.name ++ "(priority=" ++ toString rule.priority ++ ")"

/-- The rules that every resolver has. -/
def standard {α : Type} : List (Rule α) :=
  [.lookup, .fixpoint, .application, .callable, .nestedDefaults, .collection, .removal,
    .passThrough]

def insertByPriority {α : Type} (rule : Rule α) : List (Rule α) → List (Rule α)
  | [] => [rule]
  | first :: rest =>
    if rule.priority ≤ first.priority then rule :: first :: rest
    else first :: insertByPriority rule rest

/-- Rules by priority; rules of one priority stay in order. -/
def sortByPriority {α : Type} : List (Rule α) → List (Rule α)
  | [] => []
  | rule :: rest => insertByPriority rule (sortByPriority rest)

end Rule

def ValueType.PathError.toFailure : ValueType.PathError → Failure
  | .notDotted path => .value (.leafNotDotted (Text.quote path))
  | .relative module => .type (.relativeImport module)
  | .noType path => .value (.leafWithoutType path)

/-- A leaf type, given by itself or by a dotted path. -/
inductive LeafType where
  | known (type : ValueType)
  | path (path : String)

namespace LeafType

/-- The type that a leaf type names; a path into an unknown module names none. -/
def toType? : LeafType → Except Failure (Option ValueType)
  | .known found => .ok (some found)
  | .path dotted => (ValueType.ofPath dotted).mapError ValueType.PathError.toFailure

/-- The types that leaf types name; a module that is not known is reported. -/
def load : List LeafType → Run (List ValueType)
  | [] => pure []
  | .known found :: rest => return found :: (← load rest)
  | .path dotted :: rest => do
    match ← Run.ofResult (toType? (.path dotted)) with
    | some found => return found :: (← load rest)
    | none => do
      Run.log .debug ("Leaf type module not available: " ++ (ValueType.splitPath dotted).1)
      load rest

end LeafType

def Classifier.load (leafTypes : List LeafType) (start : Option String) : Run Classifier := do
  return .ofPrefix (← LeafType.load leafTypes) start

namespace Resolver

def load (config : Config) (rules : List (Rule Term)) (leafTypes : List LeafType) :
    Run (Resolver Term) := do
  let classifier ← Classifier.load (config.leafTypes.map .path ++ leafTypes) config.refPrefix
  return ⟨config, classifier, Rule.sortByPriority (Rule.standard ++ rules)⟩

def standard : Resolver Term := ⟨.standard, .standard, Rule.standard⟩

def ofConfig : Option Config → Run (Resolver Term)
  | some config => load config [] []
  | none => pure standard

def functionName : String := "resolve"

def moduleName : String := "subflow.engine.resolver.resolver"

def checkOverrides (overrides : Entries) (given : List String) : Except Failure Unit :=
  overrides.checkNames functionName moduleName given ["template", "env"]

def dropRules (resolver : Resolver Term) (names : List String) : Resolver Term :=
  { resolver with rules := resolver.rules.filter fun rule => !names.contains rule.name }

theorem load_standard : load .standard [] [] = pure standard := rfl

end Resolver

end ScopedTemplate
