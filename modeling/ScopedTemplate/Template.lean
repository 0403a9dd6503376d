import ScopedTemplate.Failure
import ScopedTemplate.Term.Kind

/-!
# Templates

Looking into a template without resolving it: the references that occur in it, and the scope of
defaults at its top.
-/

namespace ScopedTemplate

namespace Classifier

def check (classifier : Classifier) (t : Term) : Except Failure Unit :=
  match classifier.refusal? t with
  | some reason => .error (.type (.noInstances reason))
  | none => .ok ()

/-- The kind of a term, if it can be said whether it is of a leaf type. -/
def classify (classifier : Classifier) (t : Term) : Except Failure Kind := do
  if !t.isRemoved then classifier.check t
  return classifier.kind t

/-- Without leaf types every term has a kind. -/
theorem classify_standard (t : Term) : standard.classify t = .ok (standard.kind t) := by
  have noRefusal : standard.check t = .ok () := rfl
  unfold classify
  split <;> simp [noRefusal, bind, Except.bind, pure, Except.pure]

end Classifier

namespace Entries

def isNamed (entry : Term × Term) : Bool := entry.1.text?.isSome

/--
Refuse entries as named arguments of a function: first a name that is given as such already, then
a name that is no text, then the first parameter that has its argument by position.
-/
def checkNames (entries : Entries) (function module : String) (given positional : List String) :
    Except Failure Unit :=
  match entries.findSome? fun entry => entry.1.text?.filter given.contains with
  | some name => .error (.type (.repeatedKeyword (module ++ "." ++ function) name))
  | none =>
    if !entries.all isNamed then .error (.type .keywordNotText)
    else match positional.find? fun name => Entries.has entries (.str name) with
      | some name => .error (.type (.repeatedArgument function name))
      | none => .ok ()

end Entries

namespace Term

mutual

/--
The references at any depth of a term, in order and as often as they occur.  Leaves and the scopes
of defaults are not looked into.
-/
def references (classifier : Classifier) (defaultsKey : String) : Term → List String
  | .text kind s =>
    if classifier.isLeaf (.text kind s) then []
    else if classifier.isRef (.text kind s) then [s] else []
  | .list kind stamp items =>
    if classifier.isLeaf (.list kind stamp items) then []
    else referencesInItems classifier defaultsKey items
  | .tuple stamp items =>
    if classifier.isLeaf (.tuple stamp items) then []
    else referencesInItems classifier defaultsKey items
  | .map kind stamp entries =>
    if classifier.isLeaf (.map kind stamp entries) then []
    else referencesInEntries classifier defaultsKey entries
  | _ => []

def referencesInItems (classifier : Classifier) (defaultsKey : String) : List Term → List String
  | [] => []
  | t :: ts =>
    references classifier defaultsKey t ++ referencesInItems classifier defaultsKey ts

def referencesInEntries (classifier : Classifier) (defaultsKey : String) :
    List (Term × Term) → List String
  | [] => []
  | (key, value) :: rest =>
    if key.sameKey (.str defaultsKey) then referencesInEntries classifier defaultsKey rest
    else
      references classifier defaultsKey value ++ referencesInEntries classifier defaultsKey rest

end

def referenceNames (classifier : Classifier) (defaultsKey : String) (t : Term) : List String :=
  Text.sort (Text.distinct (t.references classifier defaultsKey))

/-- Whether a value counts as nothing where a truth value is asked for. -/
def isFalsy : Term → Bool
  | .null | .removed => true
  | .bool b => !b
  | .int n => n == 0
  | .float x => x.isZero
  | .text _ s => s.isEmpty
  | .bytes bs => bs.isEmpty
  | .list _ _ items | .tuple _ items | .set _ items | .point _ items => items.isEmpty
  | .map _ _ entries => entries.isEmpty
  | .view _ _ env _ => env.size == 0
  | .nan _ | .function .. | .callable .. | .builtin _ | .type _ | .internal _ => false

def entries? : Term → Option Entries
  | .map _ _ entries => some entries
  | _ => none

def elements? : Term → Option (List Term)
  | .text _ s => some (s.toList.map fun c => .str c.toString)
  | .bytes bs => some (bs.map fun byte => .int byte.toNat)
  | .list _ _ items | .tuple _ items | .set _ items | .point _ items => some items
  | .map _ _ entries => some (Entries.keys entries)
  | .view _ _ env _ => some env.names
  | _ => none

/-- The key of the defaults that builders of templates use. -/
def defaultsKey : Term := .str Config.standardDefaultsKey

/-- The entries of a scope that may be missing; a value that counts as nothing is an empty scope. -/
def scopeOr (scope : Term) (fault : TypeFault) : Except Failure Entries :=
  if scope.isFalsy then .ok [] else (scope.entries?).elim (.error (.type fault)) .ok

/--
A template with more defaults at its top, which win over the ones that are there; those of `mapping`
give way to the named ones.
-/
def withDefaults (template mapping : Term) (named : Entries) : Except Failure Entries := do
  match template.entries? with
  | none => .error (.type (.notTemplate template.typeName))
  | some entries =>
    let existing := (Entries.find? entries defaultsKey).getD .null
    let scope ← existing.scopeOr (.defaultsNotMapping Config.standardDefaultsKey)
    let more ← mapping.scopeOr (.notMapping mapping.typeName)
    let merged := Entries.update (Entries.update scope more) named
    return Entries.insert entries defaultsKey (.map .plain none merged)

def getDefault (template name fallback : Term) : Except Failure Term :=
  match template.entries?.bind fun entries =>
      (Entries.find? entries defaultsKey).bind entries? with
  | none => .ok fallback
  | some scope => do
    name.checkKey
    return (Entries.find? scope name).getD fallback

end Term

end ScopedTemplate
