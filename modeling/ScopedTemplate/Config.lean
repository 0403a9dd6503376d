/-!
# Resolver settings

The switches of a resolver.  A plain record; reading one from loosely typed fields is a matter of
`Config.Field`.
-/

namespace ScopedTemplate

/-- How a resolver behaves. -/
structure Config where
  /-- Bound on nested lookups and on the steps at one node. -/
  maxDepth : Nat
  /-- Refuse a lookup that is already in flight. -/
  detectCycles : Bool
  /-- Refuse references left in the output. -/
  strict : Bool
  /-- Refuse dependencies that stay references. -/
  strictDependencies : Bool
  /-- Drop collections that resolve to nothing. -/
  removeEmpty : Bool
  /-- Plain text that starts with this is a reference. -/
  refPrefix : Option String
  /-- The mapping key that carries a scope of defaults. -/
  defaultsKey : String
  /-- Dotted paths of types that are never looked into. -/
  leafTypes : List String
  deriving DecidableEq, Repr

namespace Config

def standardDefaultsKey : String := "::defaults"

def standard : Config :=
  { maxDepth := 100, detectCycles := true, strict := false, strictDependencies := false,
    removeEmpty := true, refPrefix := none, defaultsKey := standardDefaultsKey, leafTypes := [] }

instance : Inhabited Config := ⟨standard⟩

/-- Strictness about the output includes strictness about dependencies. -/
def checkDependencies (config : Config) : Bool :=
  config.strict || config.strictDependencies

end Config

end ScopedTemplate
