import ScopedTemplate.Term

/-!
# Types of terms

The type of a term, and the types it is an instance of: its own, the ones that type derives from,
and the abstract ones that it satisfies.
-/

namespace ScopedTemplate

namespace ValueType

def object : ValueType := ⟨"builtins", "object"⟩

def core (name : String) : ValueType := ⟨"builtins", name⟩

def abstractCollection (name : String) : ValueType := ⟨"collections.abc", name⟩

def abstractNumber (name : String) : ValueType := ⟨"numbers", name⟩

def conversion (name : String) : ValueType := ⟨"typing", name⟩

def view : ValueType := ⟨"subflow.engine.resolver.proxies", "EnvironmentProxy"⟩

end ValueType

namespace Term

open ScopedTemplate.ValueType

def exactType : Term → ValueType
  | .null => core "NoneType"
  | .bool _ => core "bool"
  | .int _ => core "int"
  | .float _ | .nan _ => core "float"
  | .text .plain _ => core "str"
  | .text .ref _ => ⟨"subflow.engine.terms", "Ref"⟩
  | .text .derived _ => ⟨"data", "Text"⟩
  | .bytes _ => core "bytes"
  | .list .plain .. => core "list"
  | .list .rows .. => ⟨"data", "Rows"⟩
  | .tuple .. => core "tuple"
  | .map .plain .. => core "dict"
  | .map .frame .. => ⟨"data", "Frame"⟩
  | .set .. => core "set"
  | .point .. => ⟨"data", "Point"⟩
  | .removed => ⟨"subflow.engine.terms", "_RemoveType"⟩
  | .function .. => ⟨"subflow.engine.dependency", "DependencyFn"⟩
  | .callable .method .. | .callable .accessor .. => core "method"
  | .callable .function .. | .callable .procedure .. => core "function"
  | .callable .object .. => ⟨"data", "UserFn"⟩
  | .builtin _ => core "builtin_function_or_method"
  | .type name => if name = ValueType.view then ⟨"abc", "ABCMeta"⟩ else core "type"
  | .internal own => own
  | .view .. => ValueType.view

def typeName (t : Term) : String := t.exactType.name

def baseType? : Term → Option ValueType
  | .bool _ => some (core "int")
  | .text .ref _ | .text .derived _ => some (core "str")
  | .list .rows .. => some (core "list")
  | .map .frame .. => some (core "dict")
  | .point .. => some (core "tuple")
  | _ => none

def collectionTypes : List String := ["Collection", "Sized", "Iterable", "Container"]

def abstractTypes : Term → List String
  | .text .. => ["Hashable", "Sequence", "Reversible"] ++ collectionTypes
  | .bytes _ => ["Hashable", "ByteString", "Sequence", "Reversible"] ++ collectionTypes
  | .list .. => ["MutableSequence", "Sequence", "Reversible"] ++ collectionTypes
  | .tuple .. | .point .. => ["Hashable", "Sequence", "Reversible"] ++ collectionTypes
  | .map .. => ["MutableMapping", "Mapping", "Reversible"] ++ collectionTypes
  | .set .. => ["MutableSet", "Set"] ++ collectionTypes
  | .view .. => "Mapping" :: collectionTypes
  | .function .. | .callable .. | .builtin _ | .type _ => ["Hashable", "Callable"]
  | .null | .bool _ | .int _ | .float _ | .nan _ | .removed | .internal _ => ["Hashable"]

def numberTypes : Term → List String
  | .bool _ | .int _ => ["Number", "Complex", "Real", "Rational", "Integral"]
  | .float _ | .nan _ => ["Number", "Complex", "Real"]
  | _ => []

def conversionTypes : Term → List String
  | .bool _ | .int _ =>
    ["SupportsInt", "SupportsFloat", "SupportsAbs", "SupportsRound", "SupportsIndex"]
  | .float _ | .nan _ => ["SupportsInt", "SupportsFloat", "SupportsAbs", "SupportsRound"]
  | .bytes _ => ["SupportsBytes"]
  | _ => []

def types (t : Term) : List ValueType :=
  object :: t.exactType :: t.baseType?.toList ++ t.abstractTypes.map abstractCollection ++
    t.numberTypes.map abstractNumber ++ t.conversionTypes.map conversion

def isInstance (t : Term) (types : List ValueType) : Bool :=
  types.any fun type => t.types.contains type

@[simp] theorem isInstance_nil (t : Term) : t.isInstance [] = false := rfl

/-- Every term is an object. -/
theorem isInstance_object (t : Term) : t.isInstance [object] = true := by
  simp [isInstance, types]

end Term

end ScopedTemplate
