import ScopedTemplate.Environment.Access
import ScopedTemplate.Proofs.Sharing.Flatten

/-!
# How environments come about

An environment is made of bindings and overrides, or of an environment that is there by entering a scope or
adding overrides.  It holds its scopes and its overrides by their places in a store, and shares them with
the environments that are made of it.  In whatever order this happens, it answers as the one mapping that
it flattens to, where the latest override of a name counts, or else the latest scope that binds it; and
whatever is made later, its answers stay.
-/

namespace ScopedTemplate

/-! ## Mappings -/

structure Mapping where
  entries : Entries
  distinct : Entries.Distinct entries

namespace Mapping

def empty : Mapping := ⟨[], .nil⟩

/-- A mapping with the entries of another one stored over its own. -/
def update (mapping additions : Mapping) : Mapping :=
  ⟨Entries.update mapping.entries additions.entries, mapping.distinct.update additions.entries⟩

def first? (mappings : List Mapping) (name : Term) : Option Term :=
  mappings.findSome? fun mapping => Entries.find? mapping.entries name

theorem first?_singleton (mapping : Mapping) (name : Term) :
    first? [mapping] name = Entries.find? mapping.entries name := by
  unfold first?
  rw [List.findSome?_cons, List.findSome?_nil]
  cases Entries.find? mapping.entries name <;> rfl

theorem first?_cons (mapping : Mapping) (rest : List Mapping) (name : Term) :
    first? (mapping :: rest) name = (Entries.find? mapping.entries name <|> first? rest name) := by
  unfold first?
  rw [List.findSome?_cons]
  cases Entries.find? mapping.entries name <;> rfl

end Mapping

namespace Environment

/-! ## Steps -/

/-- The steps by which an environment comes about. -/
inductive Lineage where
  | start (bindings overrides : Mapping)
  | child (parent : Lineage) (defaults : Mapping)
  | withOverrides (parent : Lineage) (overrides : Mapping)

namespace Lineage

def environment : Lineage → Environment Term
  | .start bindings overrides => .ofBindings bindings.entries overrides.entries
  | .child parent defaults => parent.environment.child defaults.entries
  | .withOverrides parent overrides => parent.environment.withOverrides overrides.entries

/-- The overrides that have been added, latest first. -/
def overrides : Lineage → List Mapping
  | .start _ overrides => [overrides]
  | .child parent _ => parent.overrides
  | .withOverrides parent overrides => overrides :: parent.overrides

def scopes : Lineage → List Mapping
  | .start bindings _ => [bindings]
  | .child parent defaults => defaults :: parent.scopes
  | .withOverrides parent _ => parent.scopes

def binding? (lineage : Lineage) (name : Term) : Option Term :=
  Mapping.first? lineage.overrides name <|> Mapping.first? lineage.scopes name

theorem find?_overrides (lineage : Lineage) (name : Term) :
    Entries.find? lineage.environment.overrides name = Mapping.first? lineage.overrides name := by
  induction lineage with
  | start bindings overrides => exact (Mapping.first?_singleton overrides name).symm
  | child parent defaults ih =>
      unfold environment overrides
      rw [overrides_child, ih]
  | withOverrides parent added ih =>
      unfold environment overrides
      -- of equal keys that are stored the last one counts, but a mapping has no key twice
      rw [Mapping.first?_cons, ← ih, Environment.withOverrides, Entries.find?_update,
        added.distinct.find?_reverse]

theorem bound?_eq (lineage : Lineage) (name : Term) :
    lineage.environment.bound? name = Mapping.first? lineage.scopes name := by
  induction lineage with
  | start bindings overrides =>
      unfold environment scopes
      rw [(layered_ofBindings bindings.distinct overrides.entries).bound?_eq, merged_ofBindings,
        Mapping.first?_singleton]
  | child parent defaults ih =>
      unfold environment scopes
      rw [bound?_child, Mapping.first?_cons, ih]
  | withOverrides parent added ih => exact ih

/-- However scopes and overrides alternate, the latest override counts, and then the latest scope. -/
theorem lookup?_environment (lineage : Lineage) (name : Term) :
    lineage.environment.lookup? name = lineage.binding? name := by
  rw [lookup?_eq_bound?, find?_overrides, bound?_eq]
  rfl

theorem distinct_overrides (lineage : Lineage) :
    Entries.Distinct lineage.environment.overrides := by
  induction lineage with
  | start _ overrides => exact overrides.distinct
  | child parent defaults ih =>
      unfold environment
      rw [overrides_child]
      exact ih
  | withOverrides parent added ih => exact ih.update added.entries

theorem layered (lineage : Lineage) : lineage.environment.Layered := by
  induction lineage with
  | start bindings overrides => exact layered_ofBindings bindings.distinct overrides.entries
  | child parent defaults ih => exact ih.child defaults.distinct
  | withOverrides parent added ih => exact ⟨ih.distinct, ih.kept⟩

theorem find?_flatten (lineage : Lineage) (name : Term) :
    Entries.find? lineage.environment.flatten name = lineage.environment.lookup? name := by
  refine Environment.find?_flatten (fun layer among => ?_) name
  rcases List.mem_cons.1 among with rfl | scope
  · exact lineage.distinct_overrides
  · exact lineage.layered.distinct layer (List.mem_reverse.1 scope)

end Lineage

/-! ## Answers -/

/-- The overrides and the scopes are asked one by one whether a name is bound. -/
theorem binds_eq_any (env : Environment Term) (name : Term) :
    env.binds name = (Entries.has env.overrides name || env.scopes.any (Entries.has · name)) := by
  unfold binds
  rw [lookup?_eq]
  simp [Entries.has, List.isSome_findSome?]

/-- Names are looked up as in one mapping, and those that cannot be keys are refused. -/
structure AnswersAs (env : Environment Term) (merged : Entries) : Prop where
  isBound : ∀ name, env.isBound name = name.checkKey.map fun _ => Entries.has merged name
  item : ∀ name, env.item name = name.checkKey.bind fun _ =>
    (Entries.find? merged name).elim (.error (.missingKey name)) .ok
  itemOr : ∀ name fallback, env.itemOr name fallback =
    name.checkKey.map fun _ => (Entries.find? merged name).getD fallback

theorem answersAs {env : Environment Term} {merged : Entries}
    (same : ∀ name, Entries.find? merged name = env.lookup? name) : env.AnswersAs merged := by
  refine ⟨fun name => ?_, fun name => ?_, fun name fallback => ?_⟩
  · unfold isBound find Entries.has
    rw [same]
    cases name.checkKey <;> rfl
  · unfold item find
    rw [same]
    cases name.checkKey with
    | error failure => rfl
    | ok => cases env.lookup? name <;> rfl
  · unfold itemOr find
    rw [same]
    cases name.checkKey <;> rfl

end Environment

end ScopedTemplate
