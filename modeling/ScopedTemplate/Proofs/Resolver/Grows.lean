import ScopedTemplate.Proofs.Run.Grows

/-!
# Resolutions forget nothing

A resolution, a body and a call forget nothing if the resolution below them does not, and so no
resolution ever does.
-/

namespace ScopedTemplate

variable {ceiling : Int}

open Run

namespace Run.Grows

section

variable {resolution : Resolution}
  [below : ∀ resolver t env cache, Grows (resolution resolver t env cache)]
  {resolver : Resolver Term} {env : Environment Term} {cache : CacheId}

/-! ## Reads -/

instance lookupName {name : Term} : Grows (lookupName resolution resolver env cache name) := by
  unfold ScopedTemplate.lookupName
  split <;> infer_instance

instance item {name : Term} : Grows (View.item resolution resolver env cache name) := by
  unfold View.item
  split <;> infer_instance

instance itemOr {name fallback : Term} :
    Grows (View.itemOr resolution resolver env cache name fallback) := by
  refine recover ?_
  intro failure next handled
  split at handled
  · cases handled
    split <;> infer_instance
  · cases handled

instance field {name : String} : Grows (View.field resolution resolver env cache name) := by
  unfold View.field
  split <;> infer_instance

instance itemsOf {names : List Term} : Grows (View.itemsOf resolution resolver env cache names) := by
  induction names with
  | nil => exact pure
  | cons name rest ih =>
      unfold View.itemsOf
      infer_instance

instance items : Grows (View.items resolution resolver env cache) := itemsOf

instance scopeEntries {t : Term} : Grows (t.scopeEntries resolution) := by
  unfold Term.scopeEntries
  split <;> infer_instance

variable {source : Term}

instance readItem {name : Term} : Grows (Reading.item resolution source name) := by
  unfold Reading.item
  split <;> infer_instance

instance readItemOr {name fallback : Term} :
    Grows (Reading.itemOr resolution source name fallback) := by
  unfold Reading.itemOr
  split <;> infer_instance

instance readField {name : String} : Grows (Reading.field resolution source name) := by
  unfold Reading.field
  split
  · refine @bind _ _ _ _ _ fun own => ?_
    split <;> infer_instance
  · infer_instance

instance readItems : Grows (Reading.items resolution source) := by
  unfold Reading.items
  split <;> infer_instance

instance readEnvironment : Grows (Reading.environment resolution source) := by
  unfold Reading.environment
  split
  · infer_instance
  · split <;> infer_instance

instance readHas {name : Term} : Grows (Reading.has source name) := by
  unfold Reading.has
  split <;> infer_instance

instance readNames : Grows (Reading.names source) := ofResult

instance readSize : Grows (Reading.size source) := ofResult

instance write {name : String} : Grows (Reading.write source name) := by
  unfold Reading.write
  split <;> infer_instance

/-! ## Resolutions -/

instance checkResult {result : Term} : Grows (resolver.checkResult env result) := by
  unfold Resolver.checkResult
  split
  · refine @bind _ _ _ _ _ fun _ => ?_
    split <;> infer_instance
  · infer_instance

instance reportEndless {body : Run Term} [Grows body] : Grows (reportEndless ceiling cache body) := by
  refine recover ?_
  intro failure next handled
  split at handled
  · cases handled
    infer_instance
  · cases handled

instance resolveIn {t : Term} : Grows (resolveIn resolution resolver t env cache) := by
  unfold ScopedTemplate.resolveIn
  infer_instance

instance resolveLeniently {t : Term} {given : Option CacheId} :
    Grows (resolveLeniently resolution resolver t env given) := by
  unfold ScopedTemplate.resolveLeniently
  refine @bind _ _ _ _ _ fun world => ?_
  split <;> infer_instance

instance resolveWith {t : Term} {given : Option CacheId} :
    Grows (resolveWith resolution resolver t env given) := by
  unfold ScopedTemplate.resolveWith
  infer_instance

/-! ## Bodies -/

instance loadTypes {types : List LeafType} : Grows (LeafType.load types) := by
  induction types with
  | nil => exact pure
  | cons first rest ih =>
      cases first with
      | known found =>
          unfold LeafType.load
          infer_instance
      | path dotted =>
          unfold LeafType.load
          refine @bind _ _ _ _ _ fun found => ?_
          split <;> infer_instance

instance load {config : Config} {rules : List (Rule Term)} {types : List LeafType} :
    Grows (Resolver.load config rules types) := by
  unfold Resolver.load Classifier.load
  infer_instance

instance ofConfig {config : Option Config} : Grows (Resolver.ofConfig config) := by
  unfold Resolver.ofConfig
  split <;> infer_instance

instance resolveFor {config : Option Config} {given : Option CacheId} {template : Term}
    {overrides : Entries} : Grows (resolveFor resolution config given template source overrides) := by
  unfold ScopedTemplate.resolveFor
  infer_instance

section

variable {call : Call}

set_option linter.unusedSectionVars false in
mutual

theorem evalBody : (body : Body) → Grows (evalBody resolution call body)
  | .arg index => by
      unfold ScopedTemplate.evalBody
      cases Term.atIndex? call.args index with
      | none => exact throw
      | some value => exact pure
  | .const _ | .self | .raise _ _ | .readView | .readText | .fresh _ _ _ | .count | .readField _
  | .readNames | .readItems | .readSize | .setField _ | .dropField _ => by
      unfold ScopedTemplate.evalBody
      infer_instance
  | .list items | .tuple items | .sequence items => by
      have := evalBodies items
      unfold ScopedTemplate.evalBody
      infer_instance
  | .map entries => by
      have := evalFields entries
      unfold ScopedTemplate.evalBody
      infer_instance
  | .ref body | .typeOf body | .readItem body | .readHas body | .edit _ body | .block body => by
      have := evalBody body
      unfold ScopedTemplate.evalBody
      infer_instance
  | .concat items => by
      have := evalTexts items
      unfold ScopedTemplate.evalBody
      infer_instance
  | .add items => by
      have := evalSum items 0
      unfold ScopedTemplate.evalBody
      infer_instance
  | .mul items => by
      have := evalBodies items
      unfold ScopedTemplate.evalBody
      refine @bind _ _ _ _ _ fun values => ?_
      split <;> infer_instance
  | .size of => by
      have := evalBody of
      unfold ScopedTemplate.evalBody
      refine @bind _ _ _ _ _ fun value => ?_
      split <;> infer_instance
  | .item of key | .same of key | .readOr of key => by
      have := evalBody of
      have := evalBody key
      unfold ScopedTemplate.evalBody
      infer_instance
  | .choose condition yes no => by
      have := evalBody condition
      have := evalBody yes
      have := evalBody no
      unfold ScopedTemplate.evalBody
      refine @bind _ _ _ _ _ fun value => ?_
      split <;> infer_instance
  | .attempt body => by
      have := evalBody body
      unfold ScopedTemplate.evalBody
      refine recover ?_
      intro failure next handled
      split at handled
      · cases handled
      · cases handled
        infer_instance
  | .note message => by
      unfold ScopedTemplate.evalBody
      have noted : Grows (modify fun world : World =>
          { world with calls := message :: world.calls } : Run Unit) := of_same fun _ => ⟨rfl, rfl, rfl⟩
      infer_instance
  | .ask config cache template inView env overrides => by
      have := evalBody template
      have := evalBody env
      have := evalFields overrides
      unfold ScopedTemplate.evalBody
      have source : Grows (if inView then Pure.pure call.env else ScopedTemplate.evalBody resolution call env) := by
        split <;> infer_instance
      infer_instance

theorem evalBodies : (bodies : List Body) → Grows (evalBodies resolution call bodies)
  | [] => by
      unfold ScopedTemplate.evalBodies
      infer_instance
  | body :: rest => by
      have := evalBody body
      have := evalBodies rest
      unfold ScopedTemplate.evalBodies
      infer_instance

theorem evalTexts : (bodies : List Body) → Grows (evalTexts resolution call bodies)
  | [] => by
      unfold ScopedTemplate.evalTexts
      infer_instance
  | body :: rest => by
      have := evalBody body
      have := evalTexts rest
      unfold ScopedTemplate.evalTexts
      infer_instance

theorem evalFields : (fields : List (Body × Body)) → Grows (evalFields resolution call fields)
  | [] => by
      unfold ScopedTemplate.evalFields
      infer_instance
  | (key, body) :: rest => by
      have := evalBody key
      have := evalBody body
      have := evalFields rest
      unfold ScopedTemplate.evalFields
      infer_instance

theorem evalSum : (bodies : List Body) → (total : Int) → Grows (evalSum resolution call bodies total)
  | [], _ => by
      unfold ScopedTemplate.evalSum
      infer_instance
  | body :: rest, total => by
      have := evalBody body
      have := evalSum rest
      unfold ScopedTemplate.evalSum
      refine @bind _ _ _ _ _ fun value => ?_
      split <;> infer_instance

end

attribute [instance] evalBody evalBodies evalTexts evalFields evalSum

end

instance makeCollection {kind : MapKind} {entries : Entries} :
    Grows (Standard.makeMap kind entries) := by
  unfold Standard.makeMap
  infer_instance

instance call {callee : Term} {args : List Term} : Grows (Standard.call callee args) := by
  unfold Standard.call
  split
  · split <;> infer_instance
  all_goals infer_instance

instance invoke {callee self : Term} {args : List Term} :
    Grows (invoke resolution callee self args) := by
  induction callee, self using invoke.induct with
  | case4 self kind stamp label name body noAccessor noMethod noFunction =>
      rw [ScopedTemplate.invoke.eq_4 _ _ _ _ _ _ _ _ noAccessor noMethod noFunction]
      infer_instance
  | case5 self stamp name deps doc inner ih =>
      unfold ScopedTemplate.invoke
      exact ih
  | case6 self callee noAccessor noMethod noFunction noCallable noInner =>
      rw [ScopedTemplate.invoke.eq_6 _ _ _ _ noAccessor noMethod noFunction noCallable noInner]
      infer_instance
  | _ =>
      unfold ScopedTemplate.invoke
      infer_instance

/-! ## Nodes -/

instance checkDependency {function dep : String} {value : Term} :
    Grows (resolver.checkDependency function dep env value) := by
  unfold Resolver.checkDependency
  split <;> infer_instance

instance resolveDependencies {function : String} {deps : List String} :
    Grows (resolver.resolveDependencies resolution cache function env deps) := by
  induction deps with
  | nil => exact pure
  | cons dep rest ih =>
      unfold Resolver.resolveDependencies
      infer_instance

instance resolveItems {items : List Term} :
    Grows (resolver.resolveItems resolution cache env items) := by
  induction items with
  | nil => exact pure
  | cons item rest ih =>
      unfold Resolver.resolveItems
      infer_instance

instance resolveEntries {entries : Entries} :
    Grows (resolver.resolveEntries resolution cache env entries) := by
  induction entries with
  | nil => exact pure
  | cons entry rest ih =>
      unfold Resolver.resolveEntries
      infer_instance

variable {node : Node}

instance applyFunction : Grows (resolver.applyFunction resolution cache node) := by
  unfold Resolver.applyFunction
  split <;> infer_instance

instance applyCallable : Grows (resolver.applyCallable resolution cache node) := by
  unfold Resolver.applyCallable
  split <;> infer_instance

instance enterDefaults : Grows (resolver.enterDefaults resolution node) := by
  unfold Resolver.enterDefaults
  split
  · dsimp only
    split <;> infer_instance
  · infer_instance

instance collect : Grows (resolver.collect resolution cache node) := by
  unfold Resolver.collect
  split <;> infer_instance

instance prune {term : Term} : Grows (resolver.prune term) := by
  unfold Resolver.prune
  split
  · infer_instance
  · infer_instance
  · infer_instance
  · split <;> infer_instance

instance act {action : Action Term} : Grows (resolver.act resolution cache node action) := by
  unfold Resolver.act
  split <;> infer_instance

instance transform {rule : Rule Term} : Grows (resolver.transform resolution cache node rule) := by
  cases rule with
  | custom rule =>
      unfold Resolver.transform
      refine @bind _ _ _ _ _ fun result => ?_
      split <;> exact pure
  | _ =>
      unfold Resolver.transform
      infer_instance

instance reduce {steps : Nat} : Grows (resolver.reduce resolution cache steps node) := by
  induction steps generalizing node with
  | zero =>
      unfold Resolver.reduce
      infer_instance
  | succ steps ih =>
      unfold Resolver.reduce
      refine @bind _ _ _ _ _ fun selected => ?_
      split
      · infer_instance
      · refine @bind _ _ _ _ _ fun step => ?_
        split <;> infer_instance

instance resolveNode {term : Term} : Grows (resolver.resolveNode resolution cache term env) := by
  unfold Resolver.resolveNode
  infer_instance

end

/-- No resolution forgets anything. -/
instance resolveTerm {levels : Nat} {resolver : Resolver Term} {t : Term} {env : Environment Term}
    {cache : CacheId} : Grows (resolveTerm ceiling levels resolver t env cache) := by
  induction levels generalizing resolver t env cache with
  | zero => exact throw
  | succ levels ih =>
      rw [resolveTerm_succ]
      infer_instance

end Run.Grows

end ScopedTemplate
