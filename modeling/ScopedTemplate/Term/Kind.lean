import ScopedTemplate.Term.Type

/-!
# Kinds of terms

What a node is to the rules.  Leaf types win over every other kind but the removal mark; a
reference is text of the reference kind or, if a prefix is set, longer plain text with that prefix.
-/

namespace ScopedTemplate

namespace Kind

def word : Kind → String
  | .ref => "ref"
  | .function => "function"
  | .callable => "callable"
  | .mapping => "mapping"
  | .sequence => "sequence"
  | .removed => "removed"
  | .scalar => "scalar"

def isCollection (kind : Kind) : Bool := kind == .mapping || kind == .sequence

end Kind

namespace Classifier

/-- References of the reference kind only, no leaf types. -/
def standard : Classifier := ⟨[], none⟩

def ofPrefix (leafTypes : List ValueType) (text : Option String) : Classifier :=
  ⟨leafTypes, text.filter (· ≠ "")⟩

def protocols : List (String × List String) := [
  ("typing", ["Protocol"]),
  ("importlib.metadata", ["PackageMetadata", "SimplePath"]),
  ("importlib.metadata._meta", ["PackageMetadata", "SimplePath"]),
  ("wsgiref.types", ["ErrorStream", "FileWrapper", "InputStream", "StartResponse", "_Readable"])]

def isProtocol (type : ValueType) : Bool :=
  protocols.any fun row => row.1 == type.module && row.2.contains type.name

def refusalOf? (type : ValueType) : Option String :=
  if type = ⟨"typing", "Any"⟩ then some "typing.Any cannot be used with isinstance()"
  else if type = ⟨"typing", "TypedDict"⟩ then
    some "TypedDict does not support instance and class checks"
  else if isProtocol type then
    some "Instance and class checks can only be used with @runtime_checkable protocols"
  else none

/-- Why types do not tell whether a term is of one of them; the first type that does decides. -/
def refusalAmong? (t : Term) : List ValueType → Option String
  | [] => none
  | first :: rest =>
    if t.isInstance [first] then none else refusalOf? first <|> refusalAmong? t rest

def refusal? (classifier : Classifier) (t : Term) : Option String :=
  refusalAmong? t classifier.leafTypes

def isLeaf (classifier : Classifier) (t : Term) : Bool := t.isInstance classifier.leafTypes

def extendsText (start s : String) : Bool :=
  decide (start.length < s.length) && start.toList.isPrefixOf s.toList

def isRef (classifier : Classifier) : Term → Bool
  | .text .ref _ => true
  | .text .plain s => classifier.refPrefix.any fun start => extendsText start s
  | _ => false

def shapeKind : Term → Kind
  | .removed => .removed
  | .function .. => .function
  | .callable .object .. => .scalar
  | .callable .. => .callable
  | .map .. => .mapping
  | .list .. | .tuple .. => .sequence
  | _ => .scalar

/-- The kind of a term. -/
def kind (classifier : Classifier) (t : Term) : Kind :=
  if t.isRemoved then .removed
  else if classifier.isLeaf t then .scalar
  else if classifier.isRef t then .ref
  else shapeKind t

def isCollection (classifier : Classifier) (t : Term) : Bool := (classifier.kind t).isCollection

@[simp] theorem kind_removed (classifier : Classifier) : classifier.kind .removed = .removed := rfl

/-- A leaf is a scalar unless it is the removal mark. -/
theorem kind_of_isLeaf {classifier : Classifier} {t : Term} (leaf : classifier.isLeaf t = true)
    (kept : t.isRemoved = false) : classifier.kind t = .scalar := by
  simp [kind, leaf, kept]

end Classifier

end ScopedTemplate
