import ScopedTemplate.Proofs.Twin.Terms

/-!
# Names that matter

A template mentions the names of its references and those that its functions depend on, and so does what
a name is bound to.  The names that matter are those that a template mentions, and with each of them all
that its binding mentions.
-/

namespace ScopedTemplate

namespace Resolver

variable (resolver : Resolver Term)

/-- A term refers to a name, or holds a function that depends on it, outside of leaves. -/
inductive Mentions (name : String) : Term → Prop where
  | reference {kind : TextKind} (looked : resolver.classifier.kind (.text kind name) = .ref) :
      Mentions name (.text kind name)
  | dependency {stamp : Stamp} {label : String} {deps : List String} {doc : Option String}
      {callee : Term}
      (looked : resolver.classifier.kind (.function stamp label deps doc callee) = .function)
      (among : name ∈ deps) : Mentions name (.function stamp label deps doc callee)
  | part {t s : Term} (looked : resolver.classifier.isCollection t = true) (inside : s ∈ t.inner)
      (mentions : Mentions name s) : Mentions name t

/-- The least set of names that holds those of a template and, with a name, those of its binding. -/
inductive Reaches (env : Environment Term) (template : Term) : String → Prop where
  | root {name : String} (mentions : resolver.Mentions name template) : Reaches env template name
  | next {name other : String} {binding : Term} (reached : Reaches env template other)
      (bound : env.lookup? (.ref other) = some binding) (mentions : resolver.Mentions name binding) :
      Reaches env template name

variable {resolver} {names names' : String → Prop} {called called' : Term → Prop} {t : Term}

/-- What is confined is so for the names that it mentions. -/
theorem Confined.restrict (confined : resolver.Confined names called t)
    (known : ∀ f, called f → called' f) (among : ∀ name, resolver.Mentions name t → names' name) :
    resolver.Confined names' called' t := by
  induction confined with
  | data looked => exact .data looked
  | reference looked _ => exact .reference looked (among _ (.reference looked))
  | function looked _ knows =>
      exact .function looked (fun dep member => among dep (.dependency looked member)) (known _ knows)
  | callable looked knows => exact .callable looked (known _ knows)
  | map looked noDefaults _ ih =>
      refine .map looked noDefaults fun entry member => ih entry member fun name mentions => ?_
      refine among name (.part ?_ (List.mem_map_of_mem member) mentions)
      unfold Classifier.isCollection
      rw [looked]
      rfl
  | list looked _ ih =>
      refine .list looked fun item member => ih item member fun name mentions => ?_
      refine among name (.part ?_ member mentions)
      unfold Classifier.isCollection
      rw [looked]
      rfl
  | tuple looked _ ih =>
      refine .tuple looked fun item member => ih item member fun name mentions => ?_
      refine among name (.part ?_ member mentions)
      unfold Classifier.isCollection
      rw [looked]
      rfl

end Resolver

end ScopedTemplate
