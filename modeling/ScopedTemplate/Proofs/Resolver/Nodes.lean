import ScopedTemplate.Proofs.Resolver.Calls

/-!
# Reductions keep a discipline

The reduction of a node keeps a discipline if its lookups do, and if the table may note what happens.
-/

namespace ScopedTemplate

open Run Term

def Event.isNote : Event → Bool
  | .lookup .. => false
  | _ => true

namespace Resolver

/-- What holds of all values of dependencies, and of null, holds of all arguments. -/
theorem arguments_each {P : Term → Prop} (null : P .null) {values : Entries}
    (each : Entries.Each P values) (deps : List String) :
    ∀ arg ∈ arguments deps values, P arg := by
  intro arg member
  obtain ⟨dep, _, rfl⟩ := List.mem_map.1 member
  cases found : Entries.find? (Entries.ofPairs values) (.ref dep) with
  | none => exact null
  | some value => exact each.ofPairs.find? found

theorem mem_of_select {resolver : Resolver Term} {node : Node} {rules : List (Rule Term)}
    {rule : Rule Term} (found : resolver.select node rules = .ok (some rule)) : rule ∈ rules := by
  induction rules with
  | nil => cases found
  | cons first rest ih =>
      unfold select at found
      split at found
      · cases found
      · split at found
        · cases found
          exact List.mem_cons_self
        · exact List.mem_cons_of_mem _ (ih found)

end Resolver

namespace Discipline

/-- What a reduction with a table needs to keep the discipline. -/
structure Works (d : Discipline) (resolution : Resolution) (resolver : Resolver Term)
    (cache : CacheId) : Prop extends d.Serves resolution where
  children : ∀ {t env}, d.safe t → env.Each d.safe →
    d.Keeps (resolution resolver t env cache) d.safe
  replacements : ∀ t ∈ resolver.replacements, d.safe t
  views : ∀ {env} stamp, env.Each d.safe → d.given (.view stamp resolver env cache)
  applied : ∀ {stamp name deps doc callee args}, d.safe (.function stamp name deps doc callee) →
    (∀ arg ∈ args, d.safe arg) → d.Invocable callee (.function stamp name deps doc callee) args
  called : ∀ {kind stamp label name body view}, d.safe (.callable kind stamp label name body) →
    d.given view → d.Invocable (.callable kind stamp label name body)
      (.callable kind stamp label name body) [view]
  acts : ∀ {kind stamp label name body self view}, d.safe (.callable kind stamp label name body) →
    d.safe self → d.given view → body.Every (d.Permits ⟨self, stamp, [], view⟩)
  looksUp : ∀ {env} name, env.Each d.safe →
    d.Keeps (lookupName resolution resolver env cache name) d.safe
  notes : ∀ {event : Event}, event.isNote = true → d.Keeps (record cache event) fun _ => True

def Leads (d : Discipline) : Step → Prop
  | .finish value => d.safe value
  | .again term env _ => d.safe term ∧ env.Each d.safe

variable {d : Discipline} {resolution : Resolution} {resolver : Resolver Term} {cache : CacheId}

/-- A read of a view keeps the discipline if lookups and notes do. -/
theorem item_keeps {env : Environment Term} (name : Term)
    (looksUp : d.Keeps (lookupName resolution resolver env cache name) d.safe)
    (notes : ∀ value, d.Keeps (record cache (.read value)) fun _ => True) :
    d.Keeps (View.item resolution resolver env cache name) d.safe := by
  unfold View.item
  split
  · refine looksUp.bind fun value valued => ?_
    refine (notes value).bind fun _ _ => ?_
    exact .pure valued
  · exact .throw rfl

/-! ## Functions -/

theorem Works.resolveDependencies (works : d.Works resolution resolver cache)
    {env : Environment Term} (bindings : env.Each d.safe) (function : String) (deps : List String) :
    d.Keeps (resolver.resolveDependencies resolution cache function env deps)
      (Entries.Each d.safe) := by
  induction deps with
  | nil => exact .pure Entries.each_nil
  | cons dep rest ih =>
      refine (works.looksUp _ bindings).bind fun value valued => ?_
      refine Keeps.bind (.steady (resolver.checkDependency_steady function dep env value)) fun _ _ => ?_
      refine ih.bind fun entries each => ?_
      exact .pure (Entries.each_cons.2 ⟨⟨d.hereditary.text _ _, valued⟩, each⟩)

theorem Works.applyFunction (works : d.Works resolution resolver cache) {node : Node}
    (safe : d.safe node.term) (bindings : node.env.Each d.safe) :
    d.Keeps (resolver.applyFunction resolution cache node) d.Leads := by
  unfold Resolver.applyFunction
  split
  · next stamp name deps doc callee shape =>
      refine (works.resolveDependencies bindings name deps).bind fun values each => ?_
      refine Keeps.bind (.silent (.log _ _)) fun _ _ => ?_
      refine (works.notes rfl).bind fun _ _ => ?_
      rw [shape] at safe ⊢
      have args := Resolver.arguments_each d.hereditary.null each deps
      refine (works.invoke (works.applied safe args)).bind fun result made => ?_
      exact .pure ⟨made, bindings⟩
  · exact .pure safe

theorem Works.applyCallable (works : d.Works resolution resolver cache) {node : Node}
    (safe : d.safe node.term) (bindings : node.env.Each d.safe) :
    d.Keeps (resolver.applyCallable resolution cache node) d.Leads := by
  unfold Resolver.applyCallable
  split
  · next shape =>
      refine Keeps.bind (.silent (.log _ _)) fun _ _ => ?_
      refine Keeps.bind (.silent (.takeStamps 1)) fun stamp _ => ?_
      rw [shape] at safe ⊢
      refine (works.invoke (works.called safe (works.views stamp bindings))).bind fun result made => ?_
      exact .pure ⟨made, bindings⟩
  · exact .pure safe

/-! ## Scopes and collections -/

/-- Entering the defaults of a mapping leads on to the rest of it. -/
theorem Serves.enterMapping (serves : d.Serves resolution) {node : Node}
    (safe : d.safe node.term) (bindings : node.env.Each d.safe) {kind : MapKind}
    {stamp : Option Stamp} {entries : Entries} (shape : node.term = .map kind stamp entries) :
    d.Keeps (resolver.enterDefaults resolution node) fun step =>
      ∃ term env, step = .again term env node.collected ∧ d.safe term ∧ env.Each d.safe := by
  unfold Resolver.enterDefaults
  rw [shape] at safe ⊢
  have each := d.hereditary.map.1 safe
  have named : d.safe ((Entries.find? entries resolver.defaultsKey).getD .null) := by
    cases found : Entries.find? entries resolver.defaultsKey with
    | none => exact d.hereditary.null
    | some scope => exact each.find? found
  dsimp only
  split
  · exact Keeps.bind (.steady (.snapshot _)) fun _ _ => .throw rfl
  · refine Keeps.bind (.silent (.log _ _)) fun _ _ => ?_
    refine (serves.scopeEntries named).bind fun defaults more => ?_
    refine Keeps.bind (.silent (.makeMap _)) fun rest made => ?_
    obtain ⟨stamp, rfl⟩ := made
    exact .pure ⟨_, _, rfl, d.hereditary.map.2 (each.erase resolver.defaultsKey),
      bindings.child more⟩

theorem Serves.enterDefaults (serves : d.Serves resolution) {node : Node}
    (safe : d.safe node.term) (bindings : node.env.Each d.safe) :
    d.Keeps (resolver.enterDefaults resolution node) d.Leads := by
  cases shape : node.term with
  | map kind stamp entries =>
      refine (serves.enterMapping safe bindings shape).mono ?_
      rintro step ⟨term, env, rfl, kept, each⟩
      exact ⟨kept, each⟩
  | _ =>
      unfold Resolver.enterDefaults
      rw [shape] at safe ⊢
      exact .pure safe

theorem Works.resolveItems (works : d.Works resolution resolver cache)
    {env : Environment Term} (bindings : env.Each d.safe) {items : List Term}
    (safe : ∀ item ∈ items, d.safe item) :
    d.Keeps (resolver.resolveItems resolution cache env items) fun values =>
      ∀ value ∈ values, d.safe value := by
  induction items with
  | nil => exact .pure fun value member => absurd member List.not_mem_nil
  | cons item rest ih =>
      obtain ⟨first, others⟩ := List.forall_mem_cons.1 safe
      refine (works.children first bindings).bind fun value valued => ?_
      refine (ih others).bind fun values more => ?_
      exact .pure (List.forall_mem_cons.2 ⟨valued, more⟩)

theorem Works.resolveEntries (works : d.Works resolution resolver cache)
    {env : Environment Term} (bindings : env.Each d.safe) {entries : Entries}
    (safe : Entries.Each d.safe entries) :
    d.Keeps (resolver.resolveEntries resolution cache env entries) (Entries.Each d.safe) := by
  induction entries with
  | nil => exact .pure Entries.each_nil
  | cons entry rest ih =>
      obtain ⟨first, others⟩ := Entries.each_cons.1 safe
      refine (works.children first.2 bindings).bind fun value valued => ?_
      refine (ih others).bind fun values more => ?_
      exact .pure (Entries.each_cons.2 ⟨⟨first.1, valued⟩, more⟩)

theorem Works.collect (works : d.Works resolution resolver cache) {node : Node}
    (safe : d.safe node.term) (bindings : node.env.Each d.safe) :
    d.Keeps (resolver.collect resolution cache node) d.Leads := by
  unfold Resolver.collect
  split
  · next shape =>
      rw [shape] at safe
      refine (works.resolveEntries bindings (d.hereditary.map.1 safe)).bind fun values each => ?_
      refine Keeps.bind (.make (.makeMap _) fun stamp => d.hereditary.map.2 each) fun made safe => ?_
      exact .pure ⟨safe, bindings⟩
  · next shape =>
      rw [shape] at safe
      refine (works.resolveItems bindings (d.hereditary.tuple.1 safe)).bind fun values each => ?_
      refine Keeps.bind (.make (.makeTuple _) fun stamp => d.hereditary.tuple.2 each)
        fun made safe => ?_
      exact .pure ⟨safe, bindings⟩
  · next shape =>
      rw [shape] at safe
      refine (works.resolveItems bindings (d.hereditary.list.1 safe)).bind fun values each => ?_
      refine Keeps.bind (.make (.makeList _) fun stamp => d.hereditary.list.2 each)
        fun made safe => ?_
      exact .pure ⟨safe, bindings⟩
  · exact .pure ⟨safe, bindings⟩

theorem prune_keeps {term : Term} (safe : d.safe term) :
    d.Keeps (resolver.prune term) d.Leads := by
  have fewer : ∀ {items : List Term} (keep : Term → Bool),
      (∀ item ∈ items, d.safe item) → ∀ item ∈ items.filter keep, d.safe item :=
    fun keep each item member => each item (List.mem_filter.1 member).1
  have checks : ∀ values, d.Keeps (ofResult (resolver.checkValues values)) fun _ => True :=
    fun values => .steady (resolver.checkValues_steady values)
  unfold Resolver.prune
  split
  · refine (checks _).bind fun _ _ => ?_
    refine Keeps.bind (.make (.makeMap _) fun stamp => d.hereditary.map.2
      ((d.hereditary.map.1 safe).sublist List.filter_sublist)) fun made kept => ?_
    exact .pure kept
  · refine (checks _).bind fun _ _ => ?_
    refine Keeps.bind (.make (.makeTuple _) fun stamp => d.hereditary.tuple.2
      (fewer _ (d.hereditary.tuple.1 safe))) fun made kept => ?_
    exact .pure kept
  · refine (checks _).bind fun _ _ => ?_
    refine Keeps.bind (.make (.makeTuple _) fun stamp => d.hereditary.tuple.2
      (fewer _ (d.hereditary.elements? safe rfl))) fun made kept => ?_
    exact .pure kept
  · split
    · next items found =>
        refine (checks _).bind fun _ _ => ?_
        refine Keeps.bind (.make (.makeList _) fun stamp => d.hereditary.list.2
          (fewer _ (d.hereditary.elements? safe found))) fun made kept => ?_
        exact .pure kept
    · exact .throw rfl

/-! ## Nodes -/

theorem Works.act (works : d.Works resolution resolver cache) {node : Node}
    (safe : d.safe node.term) (bindings : node.env.Each d.safe) {action : Action Term}
    (replaced : d.safe action.term) :
    d.Keeps (resolver.act resolution cache node action) d.safe := by
  unfold Resolver.act
  split
  · exact .pure replaced
  · refine Keeps.bind (.silent (.takeStamps 1)) fun stamp _ => ?_
    have given := works.views stamp bindings
    exact works.evalBody given _ (works.acts replaced safe given)
  · exact .pure replaced

theorem Works.transform (works : d.Works resolution resolver cache) {node : Node}
    (safe : d.safe node.term) (bindings : node.env.Each d.safe) {rule : Rule Term}
    (among : rule ∈ resolver.rules) :
    d.Keeps (resolver.transform resolution cache node rule) d.Leads := by
  cases rule with
  | lookup => exact (works.looksUp _ bindings).bind fun value valued => .pure valued
  | fixpoint => exact (works.notes rfl).bind fun _ _ => .pure safe
  | application => exact works.applyFunction safe bindings
  | callable => exact works.applyCallable safe bindings
  | nestedDefaults => exact works.enterDefaults safe bindings
  | collection => exact works.collect safe bindings
  | removal => exact prune_keeps safe
  | passThrough => exact .pure safe
  | custom rule =>
      have replaced := works.replacements _ (List.mem_filterMap.2 ⟨_, among, rfl⟩)
      refine (works.act safe bindings replaced).bind fun result made => ?_
      cases rule.finishes with
      | true => exact .pure made
      | false => exact .pure ⟨made, bindings⟩

theorem Works.reduce (works : d.Works resolution resolver cache) (steps : Nat) {node : Node}
    (safe : d.safe node.term) (bindings : node.env.Each d.safe) :
    d.Keeps (resolver.reduce resolution cache steps node) d.safe := by
  induction steps generalizing node with
  | zero => exact Keeps.bind (.steady (.chain cache)) fun _ _ => .throw rfl
  | succ steps ih =>
      refine Keeps.bind (.ofResult (fun rule selected => selected)
        (resolver.select_plainly node _)) fun rule selected => ?_
      split
      · exact Keeps.bind (.steady (.snapshot _)) fun _ _ => .throw rfl
      · next rule =>
          refine (works.transform safe bindings (Resolver.mem_of_select selected)).bind
            fun step led => ?_
          split
          · exact .pure led
          · refine Keeps.bind (.ofResult (fun _ _ => trivial)
              (resolver.classifier.classify_plainly _)) fun kind (_ : True) => ?_
            exact ih led.1 led.2

theorem Works.resolveNode (works : d.Works resolution resolver cache) {term : Term}
    {env : Environment Term} (safe : d.safe term) (bindings : env.Each d.safe) :
    d.Keeps (resolver.resolveNode resolution cache term env) d.safe :=
  Keeps.bind (.ofResult (fun _ _ => trivial) (resolver.classifier.classify_plainly term))
    fun _ (_ : True) => works.reduce _ safe bindings

end Discipline

end ScopedTemplate
