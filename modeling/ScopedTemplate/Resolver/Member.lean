import ScopedTemplate.Term.Type

/-!
# Members of views

What a view answers by itself when a field is asked of it, whatever the environment binds: its
methods, its documentation, and the parts of the engine that it is made of.
-/

namespace ScopedTemplate

namespace View

def documentation : String :=
  "\n    Read-only mapping that resolves bindings on access.\n\n    Access rules:\n" ++
    "    - proxy[\"Name\"]: resolved value, KeyError if no scope binds Name\n" ++
    "    - proxy.get(\"Name\", default): resolved value or default\n" ++
    "    - proxy.Name: resolved value, None if unbound\n    "

def takesNothing (method : String) : Body :=
  .raise "TypeError" (method ++ "() takes 1 positional argument but 2 were given")

def takesMore (method missing : String) : Body :=
  .raise "TypeError" (method ++ "() missing " ++ missing)

/-- The methods of views: name, qualified name, and what a call with a view computes. -/
def methods : List (String × String × Body) := [
  ("keys", "Mapping.keys", takesNothing "Mapping.keys"),
  ("items", "Mapping.items", takesNothing "Mapping.items"),
  ("values", "Mapping.values", takesNothing "Mapping.values"),
  ("get", "Mapping.get", .readOr .readView (.const .null)),
  ("__eq__", "Mapping.__eq__", .sequence [.readItems, .readItems, .const (.bool true)]),
  ("__contains__", "EnvironmentProxy.__contains__", .readHas .readView),
  ("__getitem__", "EnvironmentProxy.__getitem__", .readItem .readView),
  ("__iter__", "EnvironmentProxy.__iter__", takesNothing "EnvironmentProxy.__iter__"),
  ("__len__", "EnvironmentProxy.__len__", takesNothing "EnvironmentProxy.__len__"),
  ("__repr__", "EnvironmentProxy.__repr__", takesNothing "EnvironmentProxy.__repr__"),
  ("__getattr__", "EnvironmentProxy.__getattr__",
    .raise "TypeError" "'NoneType' object is not callable"),
  ("__setattr__", "EnvironmentProxy.__setattr__",
    takesMore "EnvironmentProxy.__setattr__" "1 required positional argument: 'value'"),
  ("__delattr__", "EnvironmentProxy.__delattr__", .dropField ""),
  ("__init__", "EnvironmentProxy.__init__",
    takesMore "EnvironmentProxy.__init__" "2 required positional arguments: 'env' and 'cache'")]

def typeMethods : List (String × String × ValueType) := [
  ("__class_getitem__", "GenericAlias", ⟨"types", "GenericAlias"⟩),
  ("__subclasshook__", "Collection.__subclasshook__", .core "NotImplementedType")]

def objectFunctions : List String :=
  ["__dir__", "__format__", "__getstate__", "__init_subclass__", "__new__", "__reduce__",
    "__reduce_ex__", "__sizeof__"]

def objectOperators : List String :=
  ["__ge__", "__getattribute__", "__gt__", "__le__", "__lt__", "__ne__", "__str__"]

def ownFields : List (String × ValueType) := [
  ("_resolver", ⟨"subflow.engine.resolver.resolver", "SubstitutionResolver"⟩),
  ("_env", ⟨"subflow.engine.environment", "Environment"⟩),
  ("_cache", ⟨"subflow.engine.cache", "ResolutionCache"⟩)]

def constants : List (String × Term) := [
  ("__class__", .type ValueType.view),
  ("__dict__", .map .plain none (ownFields.map fun field => (.str field.1, .internal field.2))),
  ("__doc__", .str documentation),
  ("__module__", .str ValueType.view.module),
  ("__slots__", .tuple none []),
  ("__orig_bases__", .tuple none [.internal ⟨"types", "GenericAlias"⟩]),
  ("__hash__", .null), ("__reversed__", .null), ("__weakref__", .null),
  ("__abstractmethods__", .internal (.core "frozenset")),
  ("_abc_impl", .internal ⟨"_abc", "_abc_data"⟩)]

def member? (name shown : String) (stamp : Stamp) : Option Term :=
  match methods.find? (·.1 == name), typeMethods.find? (·.1 == name) with
  | some (_, qualified, body), _ =>
    some (.callable .accessor stamp (qualified ++ " of " ++ shown) name body)
  | none, some (_, qualified, result) =>
    some (.callable .accessor stamp (qualified ++ " of " ++ shown) name
      (.const (.internal result)))
  | none, none =>
    if objectFunctions.contains name then some (.builtin name)
    else if objectOperators.contains name then some (.internal (.core "method-wrapper"))
    else match constants.find? (·.1 == name), ownFields.find? (·.1 == name) with
      | some (_, value), _ => some value
      | none, some (_, type) => some (.internal type)
      | none, none => none

end View

end ScopedTemplate
