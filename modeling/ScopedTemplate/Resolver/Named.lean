import ScopedTemplate.Resolver.Resolve

/-!
# Arguments by name

Overrides and defaults can be given as named arguments.  Their names are text, and none of them may
name an argument that is given already; of the arguments that have names of their own, one that is
not given yet is taken out of the overrides.
-/

namespace ScopedTemplate

namespace Entries

def take (entries : Entries) (name : String) : Option Term × Entries :=
  (Entries.find? entries (.str name), Entries.erase entries (.str name))

end Entries

namespace Term

def owner : Term → String
  | .type name => "type object '" ++ name.name ++ "'"
  | t => "'" ++ t.typeName ++ "' object"

def withNamedDefaults (template mapping : Term) (named : Entries) : Except Failure Entries := do
  named.checkNames "with_defaults" "subflow.engine.template" [] ["template", "mapping"]
  template.withDefaults mapping named

end Term

namespace Resolver

/-- The table that an argument stands for; something else fails where a table is used. -/
def cacheOf : Option Term → Run (Option CacheId)
  | none | some .null => pure none
  | some t => some <$> Run.addCache (.ofOther t.owner)

def ofArgument : Option Term → Except Failure (Resolver Term)
  | none => .ok standard
  | some t =>
    if t.isFalsy then .ok standard else .error (.missingAttribute t.owner "leaf_types")

/-- Resolve a template with given settings; a table can be among the overrides. -/
def resolveConfigured (config : Option Config) (template : Term) (bindings overrides : Entries)
    (stack : Stack := .usual) : Run Term := do
  Run.ofResult (checkOverrides overrides ["config"])
  let (cache, overrides) := overrides.take "cache"
  let resolver ← ofConfig config
  resolver.resolve template (.ofBindings bindings overrides) (← cacheOf cache) stack

/-- The resolver and the overrides of a call with a given table; settings can be among them. -/
def forOverrides (overrides : Entries) : Except Failure (Resolver Term × Entries) := do
  checkOverrides overrides ["cache"]
  let (config, overrides) := overrides.take "config"
  return (← ofArgument config, overrides)

end Resolver

end ScopedTemplate
