import ScopedTemplate.Run

/-!
# Lookups

The resolved value of a name, and the lazy view through which callables read an environment.  Both
are given the resolution of terms as a parameter.
-/

namespace ScopedTemplate

/--
Resolving a term: with which resolver, under which environment, with which memo table; and the limit of
the stack that is reported when it ends.
-/
structure Resolution where
  ceiling : Int
  run : Resolver Term → Term → Environment Term → CacheId → Run Term

instance : CoeFun Resolution fun _ =>
    Resolver Term → Term → Environment Term → CacheId → Run Term := ⟨Resolution.run⟩

def isSelfBinding (binding name : Term) : Bool :=
  match binding.text?, name.text? with
  | some s, some t => s == t
  | _, _ => false

namespace Environment

/-- The binding of a name, unless the name is bound to itself. -/
def target? (env : Environment Term) (name : Term) : Option Term :=
  (env.lookup? name).filter fun binding => !isSelfBinding binding name

end Environment

variable (resolution : Resolution) (resolver : Resolver Term) (env : Environment Term)
  (cache : CacheId)

/-- The resolved value of a name; one without a binding, or bound to itself, stays a reference. -/
def lookupName (name : Term) : Run Term :=
  match env.target? name with
  | none => do
    Run.record cache (.left env name.asRef)
    return name.asRef
  | some binding =>
    Run.memoize cache name env resolver.config.detectCycles (some resolver.config.maxDepth)
      (resolution resolver binding env cache)

namespace View

def has (name : Term) : Bool := name.text?.isSome && env.binds name

def item (name : Term) : Run Term :=
  if has env name then do
    let value ← lookupName resolution resolver env cache name
    Run.record cache (.read value)
    return value
  else throw (.missingKey name)

/-- The resolved value of a name, or a fallback if a key is missing. -/
def itemOr (name fallback : Term) : Run Term :=
  Run.recover (item resolution resolver env cache name) fun failure =>
    if failure.isMissingKey then some do
      if has env name then Run.noteCaught failure
      return fallback
    else none

/-- The resolved value of a name, or null if a key is missing; reserved names are no fields. -/
def field (name : String) : Run Term :=
  if "__".toList.isPrefixOf name.toList then throw (.missingField name)
  else itemOr resolution resolver env cache (.str name) .null

def itemsOf : List Term → Run Entries
  | [] => pure []
  | name :: rest => do
    let value ← item resolution resolver env cache name
    return (name, value) :: (← itemsOf rest)

/-- The resolved values of all bound names. -/
def items : Run Entries := itemsOf resolution resolver env cache env.names

end View

namespace Term

def scopeSize? : Term → Option Nat
  | .map _ _ entries => some entries.length
  | .view _ _ env _ => some env.size
  | _ => none

def scopeEntries (resolution : Resolution) : Term → Run Entries
  | .map _ _ entries => pure entries
  | .view _ resolver env cache => View.items resolution resolver env cache
  | _ => pure []

end Term

end ScopedTemplate
