import ScopedTemplate.Proofs.Resolver.NormalForm
import ScopedTemplate.Proofs.Term.Outline

/-!
# Rewriting with the built-in rules

Collected children are pruned and finished.  A mapping without defaults takes two steps, and one
with a scope of defaults goes on with the other entries, in the environment of that scope.
-/

namespace ScopedTemplate

/-- Other values under the same keys. -/
theorem Entries.has_zip {entries : Entries} {key : Term} (missing : Entries.has entries key = false)
    (values : List Term) : Entries.has ((Entries.keys entries).zip values) key = false := by
  rw [Entries.has_eq_any, List.any_eq_false] at missing ⊢
  intro entry member
  obtain ⟨original, inside, same⟩ := List.mem_map.1 (List.of_mem_zip member).1
  rw [← same]
  exact missing original inside

namespace Resolver

open Run

variable {resolver : Resolver Term}

/-! ## Collected children -/

variable (resolver) in
/-- A collection of resolved children. -/
inductive Gathered : Term → Prop where
  | list {stamp : Option Stamp} {items : List Term} : Gathered (.list .plain stamp items)
  | tuple {stamp : Option Stamp} {items : List Term} : Gathered (.tuple stamp items)
  | map {stamp : Option Stamp} {entries : Entries}
      (noDefaults : Entries.has entries resolver.defaultsKey = false) :
      Gathered (.map .plain stamp entries)

/-- A collection of resolved children is next pruned. -/
theorem Gathered.ruleFor {t : Term} {env : Environment Term} (gathered : resolver.Gathered t) :
    resolver.ruleFor ⟨t, resolver.classifier.kind t, env, true⟩ = .removal := by
  have applies := resolver.applies_ruleFor ⟨t, resolver.classifier.kind t, env, true⟩
  generalize resolver.ruleFor ⟨t, resolver.classifier.kind t, env, true⟩ = rule at applies
  cases applies with
  | removal _ => rfl
  | collection _ fresh _ => cases fresh
  | passThrough _ fresh => cases fresh
  | lookup isRef _ =>
      obtain ⟨_, _, rfl⟩ := Classifier.text_of_ref isRef
      cases gathered
  | fixpoint isRef _ =>
      obtain ⟨_, _, rfl⟩ := Classifier.text_of_ref isRef
      cases gathered
  | application isFunction =>
      obtain ⟨_, _, _, _, _, rfl⟩ := Classifier.function_of_kind isFunction
      cases gathered
  | callable isCallable =>
      obtain ⟨_, _, _, _, _, rfl⟩ := Classifier.callable_of_kind isCallable
      cases gathered
  | nestedDefaults _ defaults =>
      cases gathered with
      | map noDefaults => exact absurd (noDefaults.symm.trans defaults) (by decide)
      | list => cases defaults
      | tuple => cases defaults

/-! ## Steps -/

variable {resolution : Resolution} {cache : CacheId} {steps : Nat}

/-- What is pruned is finished. -/
theorem prune_finishes (t : Term) :
    Quiet (resolver.prune t) fun step => ∃ value, step = .finish value := by
  unfold prune
  split
  · exact Quiet.bind (.ofResult fun _ _ => trivial) fun _ (_ : True) =>
      Quiet.bind (.makeMap fun _ => trivial) fun made (_ : True) => .pure ⟨made, rfl⟩
  · exact Quiet.bind (.ofResult fun _ _ => trivial) fun _ (_ : True) =>
      Quiet.bind (.makeTuple fun _ => trivial) fun made (_ : True) => .pure ⟨made, rfl⟩
  · exact Quiet.bind (.ofResult fun _ _ => trivial) fun _ (_ : True) =>
      Quiet.bind (.makeTuple fun _ => trivial) fun made (_ : True) => .pure ⟨made, rfl⟩
  · split
    · exact Quiet.bind (.ofResult fun _ _ => trivial) fun _ (_ : True) =>
        Quiet.bind (.makeList fun _ => trivial) fun made (_ : True) => .pure ⟨made, rfl⟩
    · exact .throw _

/-! ## Mappings -/

variable {env : Environment Term} {t : Term} {kind : MapKind} {stamp : Option Stamp}
  {entries : Entries}

/-- The values of entries are resolved like elements. -/
theorem resolveEntries_eq (entries : Entries) :
    resolver.resolveEntries resolution cache env entries = do
      let values ← resolver.resolveItems resolution cache env (Entries.values entries)
      return (Entries.keys entries).zip values := by
  induction entries with
  | nil => rfl
  | cons entry rest ih =>
      obtain ⟨key, item⟩ := entry
      unfold resolveEntries
      rw [ih]
      simp only [Entries.values, Entries.keys, List.map_cons, resolveItems, bind_assoc, pure_bind,
        List.zip_cons_cons]

/-- What is gathered is pruned and finished, whatever steps are left. -/
theorem Gathered.follow_eq (rules : resolver.rules = Rule.standard) (gathered : resolver.Gathered t)
    (steps steps' : Nat) : resolver.follow resolution cache (steps + 1) (.again t env true) =
      resolver.follow resolution cache (steps' + 1) (.again t env true) := by
  unfold follow
  dsimp only
  have finishes : ∀ kind, resolver.classifier.classify t = .ok kind →
      resolver.reduce resolution cache (steps + 1) ⟨t, kind, env, true⟩ =
        resolver.reduce resolution cache (steps' + 1) ⟨t, kind, env, true⟩ := by
    intro kind classified
    rw [Classifier.kind_of_classify classified, reduce_succ rules, reduce_succ rules,
      gathered.ruleFor]
    unfold transform prune
    cases gathered with
    | map => simp only [bind_assoc, pure_bind, follow]
    | list => simp only [bind_assoc, pure_bind, follow, Term.elements?]
    | tuple => simp only [bind_assoc, pure_bind, follow]
  cases classified : resolver.classifier.classify t with
  | error failure => rfl
  | ok kind => exact finishes kind classified

/-- A mapping without defaults is done in two steps, whatever steps are left. -/
theorem reduce_unscoped (rules : resolver.rules = Rule.standard)
    (noDefaults : Entries.has entries resolver.defaultsKey = false) (steps steps' : Nat) :
    resolver.reduce resolution cache (steps + 2) ⟨.map kind stamp entries, .mapping, env, false⟩ =
      resolver.reduce resolution cache (steps' + 2)
        ⟨.map kind stamp entries, .mapping, env, false⟩ := by
  rw [reduce_succ rules, reduce_succ rules, ruleFor_mapping, noDefaults, if_neg Bool.false_ne_true]
  unfold transform collect
  dsimp only
  rw [resolveEntries_eq]
  simp only [bind_assoc, pure_bind]
  congr 1
  funext values
  unfold makeMap
  simp only [bind_assoc, pure_bind]
  congr 1
  funext stamp'
  exact Gathered.follow_eq rules (.map (Entries.has_zip noDefaults values)) steps steps'

/-- A scope of defaults is entered in one step. -/
theorem reduce_scoped (rules : resolver.rules = Rule.standard) {defaults : Entries}
    {kind' : MapKind} {stamp' : Option Stamp}
    (found : Entries.find? entries resolver.defaultsKey = some (.map kind' stamp' defaults))
    (looked : resolver.classifier.classify (.map .plain none []) = .ok .mapping) (steps : Nat) :
    resolver.reduce resolution cache (steps + 1) ⟨.map kind stamp entries, .mapping, env, false⟩ =
      (do
        Run.log .debug ("Entering defaults scope with " ++ toString defaults.length ++ " binding(s)")
        let rest ← Run.makeMap (Entries.erase entries resolver.defaultsKey)
        resolver.reduce resolution cache steps ⟨rest, .mapping, env.child defaults, false⟩) := by
  have defaulted : Entries.has entries resolver.defaultsKey = true := Entries.has_iff.2 ⟨_, found⟩
  rw [reduce_succ rules, ruleFor_mapping, defaulted, if_pos rfl]
  unfold transform enterDefaults
  dsimp only
  rw [found, Option.getD_some]
  unfold makeMap
  simp only [Term.scopeSize?, Term.scopeEntries, bind_assoc, pure_bind, follow,
    resolver.classifier.classify_plainMap _ none _ [], looked, ofResult]

end Resolver

end ScopedTemplate
