import ScopedTemplate.Resolver.Step

/-!
# Selection among the built-in rules

With the built-in rules exactly one rule makes the next step of a node, and the kind of the node
says which one.
-/

namespace ScopedTemplate

namespace Resolver

open Run

variable (resolver : Resolver Term) (node : Node)

def isScoped : Bool :=
  node.term.entries?.any fun entries => Entries.has entries resolver.defaultsKey

def ruleFor : Rule Term := (Rule.standard.find? (resolver.applies node)).getD .passThrough

/-- When a built-in rule makes the next step of a node. -/
inductive Applies : Rule Term → Prop where
  | lookup {binding : Term} (kind : node.kind = .ref)
      (bound : node.env.target? node.term = some binding) : Applies .lookup
  | fixpoint (kind : node.kind = .ref) (unbound : node.env.target? node.term = none) :
      Applies .fixpoint
  | application (kind : node.kind = .function) : Applies .application
  | callable (kind : node.kind = .callable) : Applies .callable
  | nestedDefaults (kind : node.kind = .mapping) (defaults : resolver.isScoped node = true) :
      Applies .nestedDefaults
  | collection (kind : node.kind.isCollection = true) (fresh : node.collected = false)
      (unscoped : node.kind = .mapping → resolver.isScoped node = false) : Applies .collection
  | removal (collected : node.collected = true) : Applies .removal
  | passThrough (kind : node.kind = .scalar ∨ node.kind = .removed)
      (fresh : node.collected = false) : Applies .passThrough

variable {resolver node}

/-- Where no rule fails, the first one that applies is selected. -/
theorem select_eq_find? {rules : List (Rule Term)} (known : ∀ rule ∈ rules, rule.fails node = false) :
    resolver.select node rules = .ok (rules.find? (resolver.applies node)) := by
  induction rules with
  | nil => rfl
  | cons rule rest ih =>
      obtain ⟨first, others⟩ := List.forall_mem_cons.1 known
      unfold Resolver.select
      rw [first, if_neg Bool.false_ne_true, ih others, List.find?_cons]
      cases resolver.applies node rule <;> rfl

variable (resolver) (node) in
theorem applies_ruleFor : resolver.Applies node (resolver.ruleFor node) := by
  unfold ruleFor Rule.standard
  simp only [List.find?_cons, applies]
  cases kind : node.kind with
  | ref =>
      cases bound : node.env.target? node.term with
      | some binding => exact .lookup kind bound
      | none => exact .fixpoint kind bound
  | function => exact .application kind
  | callable => exact .callable kind
  | mapping =>
      cases defaults : resolver.isScoped node with
      | true =>
          have has : (node.term.entries?.any fun entries =>
            Entries.has entries resolver.defaultsKey) = true := defaults
          simp only [has]
          exact .nestedDefaults kind defaults
      | false =>
          have hasNot : (node.term.entries?.any fun entries =>
            Entries.has entries resolver.defaultsKey) = false := defaults
          simp only [hasNot]
          cases collected : node.collected with
          | false => exact .collection (by rw [kind]; rfl) collected fun _ => defaults
          | true => exact .removal collected
  | sequence =>
      cases collected : node.collected with
      | false =>
          refine .collection (by rw [kind]; rfl) collected fun mapping => ?_
          rw [kind] at mapping
          cases mapping
      | true => exact .removal collected
  | removed =>
      cases collected : node.collected with
      | false => exact .passThrough (.inr kind) collected
      | true => exact .removal collected
  | scalar =>
      cases collected : node.collected with
      | false => exact .passThrough (.inl kind) collected
      | true => exact .removal collected

theorem find?_ruleFor :
    Rule.standard.find? (resolver.applies node) = some (resolver.ruleFor node) := by
  have passes : (Rule.standard.find? (resolver.applies node)).isSome = true :=
    List.find?_isSome.2 ⟨.passThrough, by simp [Rule.standard], rfl⟩
  obtain ⟨rule, found⟩ := Option.isSome_iff_exists.1 passes
  unfold ruleFor
  rw [found]
  rfl

/-! ## First steps -/

section

variable {t : Term} {env : Environment Term} {kind : Kind}

theorem ruleFor_single (looked : kind = .scalar ∨ kind = .removed) :
    resolver.ruleFor ⟨t, kind, env, false⟩ = .passThrough := by
  rcases looked with rfl | rfl <;> rfl

theorem ruleFor_function : resolver.ruleFor ⟨t, .function, env, false⟩ = .application := rfl

theorem ruleFor_callable : resolver.ruleFor ⟨t, .callable, env, false⟩ = .callable := rfl

theorem ruleFor_sequence : resolver.ruleFor ⟨t, .sequence, env, false⟩ = .collection := rfl

theorem ruleFor_ref : resolver.ruleFor ⟨t, .ref, env, false⟩ =
    if (env.target? t).isSome then .lookup else .fixpoint := by
  unfold ruleFor Rule.standard
  rw [List.find?_cons]
  split <;> simp_all [applies]

theorem ruleFor_mapping {kind : MapKind} {stamp : Option Stamp} {entries : Entries} :
    resolver.ruleFor ⟨.map kind stamp entries, .mapping, env, false⟩ =
      if Entries.has entries resolver.defaultsKey then .nestedDefaults else .collection := by
  have applies := resolver.applies_ruleFor ⟨.map kind stamp entries, .mapping, env, false⟩
  generalize resolver.ruleFor ⟨.map kind stamp entries, .mapping, env, false⟩ = rule at applies
  cases applies with
  | nestedDefaults _ defaults => exact (if_pos defaults).symm
  | collection _ _ unscoped => exact (if_neg (Bool.eq_false_iff.1 (unscoped rfl))).symm
  | removal collected => cases collected
  | lookup isRef => cases isRef
  | fixpoint isRef => cases isRef
  | application isFunction => cases isFunction
  | callable isCallable => cases isCallable
  | passThrough isScalar => rcases isScalar with isScalar | isRemoved <;> contradiction

/-- A collection whose children are resolved is pruned. -/
theorem ruleFor_collected (isCollection : kind.isCollection = true)
    (unscoped : kind = .mapping → resolver.isScoped ⟨t, kind, env, true⟩ = false) :
    resolver.ruleFor ⟨t, kind, env, true⟩ = .removal := by
  have applies := resolver.applies_ruleFor ⟨t, kind, env, true⟩
  generalize resolver.ruleFor ⟨t, kind, env, true⟩ = rule at applies
  cases applies with
  | removal _ => rfl
  | nestedDefaults isMapping defaults =>
      rw [unscoped isMapping] at defaults
      cases defaults
  | collection _ fresh _ => cases fresh
  | passThrough _ fresh => cases fresh
  | lookup isRef _ =>
      cases isRef
      cases isCollection
  | fixpoint isRef _ =>
      cases isRef
      cases isCollection
  | application isFunction =>
      cases isFunction
      cases isCollection
  | callable isCallable =>
      cases isCallable
      cases isCollection

end

/-! ## Steps -/

variable {resolution : Resolution} {cache : CacheId} {steps : Nat}

def follow (resolver : Resolver Term) (resolution : Resolution) (cache : CacheId) (steps : Nat) :
    Step → Run Term
  | .finish value => pure value
  | .again term env collected => do
    let kind ← ofResult (resolver.classifier.classify term)
    resolver.reduce resolution cache steps ⟨term, kind, env, collected⟩

/-- A node with steps left is transformed by the rule for it. -/
theorem reduce_succ (rules : resolver.rules = Rule.standard) :
    resolver.reduce resolution cache (steps + 1) node =
      resolver.transform resolution cache node (resolver.ruleFor node) >>=
        resolver.follow resolution cache steps := by
  have selects : resolver.select node resolver.rules = .ok (some (resolver.ruleFor node)) := by
    rw [rules, select_eq_find? (by simp [Rule.standard, Rule.fails]), find?_ruleFor]
  rw [reduce, selects]
  rfl

end Resolver

end ScopedTemplate
