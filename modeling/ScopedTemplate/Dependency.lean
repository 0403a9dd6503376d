import ScopedTemplate.Standard
import ScopedTemplate.Text.Blank

/-!
# Functions with dependencies

A function value pairs something that can be called with the ordered names of what it needs.
-/

namespace ScopedTemplate

namespace Term

def isCallable : Term → Bool
  | .callable .. | .function .. | .builtin _ | .type _ => true
  | _ => false

def ownName : Term → String
  | .callable .object .. => "<anonymous>"
  | .callable _ _ _ name _ => name
  | .builtin name => name
  | .type name => name.name
  | _ => "<anonymous>"

def objectDoc : String :=
  "Bound method `call` is a plain callable; the instance itself is a scalar."

def ownDoc (docstring : Option String) : Term → Option String
  | .callable .object .. => some objectDoc
  | .callable .. => docstring
  | t => Standard.documentation? t

end Term

namespace Dependency

/-- A dependency: text that is not empty. -/
def name : Term → Except Failure String
  | .text _ s => if s = "" then .error (.value .emptyDependency) else .ok s
  | t => .error (.type (.nameNotText t.typeName))

/-- The dependencies that a collection of names declares; a single text is refused. -/
def names (deps : Term) : Except Failure (List String) :=
  match deps.text?, deps.elements? with
  | some _, _ => .error (.type (.singleName deps.display))
  | none, none => .error (.type (.notIterable deps.typeName))
  | none, some items => items.mapM name

/-- The documentation of a function: its own, else that of what it calls without blanks around. -/
def docOf (doc docstring : Option String) (callee : Term) : Option String :=
  doc <|> ((callee.ownDoc docstring).filter (· ≠ "")).map Text.strip

/-- Make a function of something callable; the callable is checked before the names. -/
def make (stamp : Stamp) (callee deps : Term) (doc docstring : Option String) (title : String) :
    Except Failure Term :=
  if callee.isCallable then do
    let deps ← names deps
    let title := if title = "" then callee.ownName else title
    return .function stamp title deps (docOf doc docstring callee) callee
  else .error (.type (.notCallable callee.typeName))

def makeSpread (stamp : Stamp) (callee deps : Term) (doc docstring : Option String) :
    Except Failure Term :=
  match deps.elements? with
  | none => .error (.type (.notSpreadable "subflow.engine.dependency.with_deps" deps.typeName))
  | some items => make stamp callee (.tuple none items) doc docstring ""

def makeInline (stamp : Stamp) (callee deps : Term) (doc docstring : Option String) :
    Except Failure Term := do
  let deps ← names deps
  make stamp callee (.tuple none (deps.map .ref)) doc docstring ""

end Dependency

/-- The reference with a name that a caller gives; the name is text and not empty. -/
def makeRef (name : Term) : Except Failure Term :=
  match name.text? with
  | some "" | none => .error (.value (.badName name.display))
  | some s => .ok (.ref s)

end ScopedTemplate
