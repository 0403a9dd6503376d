import ScopedTemplate.Failure

/-!
# Faults of documents

A document is malformed if its text, its structure or its types break the rules.  A scalar whose
text does not fit its type can also stop the reading with a failure of its own.
-/

namespace ScopedTemplate.Yaml

/-- Why a document has no value. -/
inductive Fault where
  | malformed
  | failure (failure : Failure)

abbrev Parsed (α : Type) := Except Fault α

namespace Fault

def value (fault : ValueFault) : Fault := .failure (.value fault)

end Fault

def require (condition : Bool) : Parsed Unit := if condition then .ok () else .error .malformed

end ScopedTemplate.Yaml
