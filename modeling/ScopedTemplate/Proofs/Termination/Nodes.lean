import ScopedTemplate.Proofs.Termination.Lookups

/-!
# Nodes that are reduced in the end

A node has a bounded number of steps, and each of them ends if the children of the node are resolved
in the end.  A call may put anything in the place of the node but a collection of functions, so the
children that come after a call are resolved in the end if all inert terms are.
-/

namespace ScopedTemplate

open Run

namespace Ensemble

open Resolver

variable {ensemble : Ensemble} {depth : Nat}

/-! ## Pruning -/

/-- A collection of values that is pruned is a value. -/
theorem Value.prune {t : Term} (value : ensemble.Value t) (gathered : ensemble.resolver.Gathered t) :
    Steady (ensemble.resolver.prune t) fun step => ∃ pruned, step = .finish pruned ∧
      ensemble.Value pruned := by
  have checked := ensemble.resolver.checkValues_steady
  cases gathered with
  | @list stamp items =>
      refine (checked items).bind fun _ _ => (Silent.makeList _).steady.bind ?_
      rintro _ ⟨stamp', rfl⟩
      refine .pure ⟨_, rfl, knows_list.2 fun item member => ?_, Contained.inert ?_ rfl⟩
      · exact knows_list.1 value.knows item (List.mem_filter.1 member).1
      · rintro _ (_ | ⟨looked, member⟩)
        exact value.inert.contained _
          (.element (Classifier.kind_plainList looked) (List.mem_filter.1 member).1)
  | @tuple stamp items =>
      refine (checked items).bind fun _ _ => (Silent.makeTuple _).steady.bind ?_
      rintro _ ⟨stamp', rfl⟩
      refine .pure ⟨_, rfl, knows_tuple.2 fun item member => ?_, Contained.inert ?_ rfl⟩
      · exact knows_tuple.1 value.knows item (List.mem_filter.1 member).1
      · rintro _ (_ | _ | ⟨looked, member⟩)
        exact value.inert.contained _ (.component looked (List.mem_filter.1 member).1)
  | @map stamp entries noDefaults =>
      refine (checked _).bind fun _ _ => (Silent.makeMap _).steady.bind ?_
      rintro _ ⟨stamp', rfl⟩
      refine .pure ⟨_, rfl, knows_map.2 ?_, Contained.inert ?_ rfl⟩
      · exact (knows_map.1 value.knows).sublist List.filter_sublist
      · rintro _ ⟨looked, member, outside⟩
        exact value.inert.contained _
          (.value (Classifier.kind_plainMap looked) (List.mem_filter.1 member).1 outside)

/-! ## Children -/

section Children

variable {env : Environment Term}

theorem resolveItems_ends (bindings : env.Each ensemble.Knows) {items : List Term}
    (resolves : ∀ item ∈ items, ensemble.Resolves depth item) : ensemble.Ends depth
      (fun levels =>
        ensemble.resolver.resolveItems (resolveTerm ensemble.ceiling levels) ensemble.cache env items)
      fun values => ∀ value ∈ values, ensemble.Value value := by
  induction items with
  | nil => exact .pure fun value member => absurd member List.not_mem_nil
  | cons item rest ih =>
      obtain ⟨first, others⟩ := List.forall_mem_cons.1 resolves
      refine (first env bindings).bind fun value valued => ?_
      refine (ih others).bind fun values each => ?_
      exact .pure (List.forall_mem_cons.2 ⟨valued, each⟩)

theorem resolveEntries_ends (bindings : env.Each ensemble.Knows) {entries : Entries}
    (resolves : ∀ entry ∈ entries, ensemble.Knows entry.1 ∧ ensemble.Resolves depth entry.2) :
    ensemble.Ends depth
      (fun levels =>
        ensemble.resolver.resolveEntries (resolveTerm ensemble.ceiling levels) ensemble.cache env entries)
      fun values => Entries.keys values = Entries.keys entries ∧
        ∀ entry ∈ values, ensemble.Knows entry.1 ∧ ensemble.Value entry.2 := by
  induction entries with
  | nil => exact .pure ⟨rfl, fun entry member => absurd member List.not_mem_nil⟩
  | cons entry rest ih =>
      obtain ⟨first, others⟩ := List.forall_mem_cons.1 resolves
      refine (first.2 env bindings).bind fun value valued => ?_
      refine (ih others).bind fun values resolved => ?_
      obtain ⟨keys, each⟩ := resolved
      refine .pure ⟨?_, List.forall_mem_cons.2 ⟨⟨first.1, valued⟩, each⟩⟩
      unfold Entries.keys at keys ⊢
      rw [List.map_cons, List.map_cons, keys]

theorem resolveDependencies_ends (deepens : ensemble.Deepens depth)
    (bindings : env.Each ensemble.Knows) (function : String) (deps : List String) :
    ensemble.Ends depth
      (fun levels => ensemble.resolver.resolveDependencies (resolveTerm ensemble.ceiling levels) ensemble.cache
        function env deps)
      (Entries.Each ensemble.Value) := by
  induction deps with
  | nil => exact .pure Entries.each_nil
  | cons dep rest ih =>
      refine (deepens.lookup bindings (.ref dep)).bind fun value valued => ?_
      have checks := ensemble.resolver.checkDependency_steady function dep env value
      refine (Ends.steady checks).bind fun _ _ => ?_
      refine ih.bind fun entries each => ?_
      exact .pure (Entries.each_cons.2 ⟨⟨.text _ _, valued⟩, each⟩)

end Children

/-! ## Steps -/

variable (ensemble) (depth) in
/-- What a node on its way to a value keeps. -/
structure Ready (node : Node) : Prop where
  kind : node.kind = ensemble.resolver.classifier.kind node.term
  knows : ensemble.Knows node.term
  bindings : node.env.Each ensemble.Knows
  children : node.collected = false → ∀ s, ensemble.resolver.Exposes node.term s →
    ensemble.Resolves depth s
  gathered : node.collected = true →
    ensemble.resolver.Gathered node.term ∧ ensemble.resolver.Inert node.term
  /-- Nothing will be called in the place of the node, or what calls leave behind is resolved. -/
  inert : ensemble.resolver.Inert node.term ∨
    ∀ t, ensemble.resolver.Inert t → ensemble.Knows t → ensemble.Resolves depth t

variable (ensemble) (depth) in
def Leads : Step → Prop
  | .finish value => ensemble.Value value
  | .again t env collected =>
    ensemble.Ready depth ⟨t, ensemble.resolver.classifier.kind t, env, collected⟩

variable {node : Node}

/-- What is called is not collected, and what calls leave behind is resolved. -/
theorem Ready.of_call (ready : ensemble.Ready depth node) (call : node.kind = .function ∨
    node.kind = .callable) :
    node.collected = false ∧ ∀ t, ensemble.resolver.Inert t → ensemble.Knows t →
      ensemble.Resolves depth t := by
  have notInert : ¬ ensemble.resolver.Inert node.term := by
    rintro ⟨noFunction, noCallable, _⟩
    rw [ready.kind] at call
    exact call.elim noFunction noCallable
  constructor
  · cases collected : node.collected with
    | true => exact absurd (ready.gathered collected).2 notInert
    | false => rfl
  · exact ready.inert.resolve_left notInert

/-- What a call returns is ready to be reduced. -/
theorem Ready.result (ready : ensemble.Ready depth node) (call : node.kind = .function ∨
    node.kind = .callable) {result : Term} (returned : ensemble.Returned result) :
    ensemble.Leads depth (.again result node.env node.collected) := by
  obtain ⟨fresh, resolves⟩ := ready.of_call call
  refine ⟨rfl, returned.knows, ready.bindings, fun _ s exposes => ?_, fun collected => ?_,
    .inr resolves⟩
  · exact resolves s (returned.contained s exposes) (returned.knows.exposed exposes)
  · exact absurd (collected.symm.trans fresh) (by decide)

theorem Ready.applyFunction (ready : ensemble.Ready depth node) (deepens : ensemble.Deepens depth)
    (responds : ensemble.Responds) (isFunction : node.kind = .function) : ensemble.Ends depth
      (fun levels => ensemble.resolver.applyFunction (resolveTerm ensemble.ceiling levels) ensemble.cache node)
      (ensemble.Leads depth) := by
  obtain ⟨stamp, name, deps, doc, callee, shape⟩ :=
    Classifier.function_of_kind (ready.kind.symm.trans isFunction)
  have plays : ensemble.plays (.function stamp name deps doc callee) := by
    rw [← knows_called rfl, ← shape]
    exact ready.knows
  unfold Resolver.applyFunction
  rw [shape]
  refine (resolveDependencies_ends deepens ready.bindings name deps).bind fun values each => ?_
  refine (Ends.silent (Silent.log _ _)).bind fun _ _ => ?_
  refine (Ends.record _).bind fun _ _ => ?_
  have args := arguments_each .null each deps
  refine (responds.functions plays (List.length_map _) args deepens.reads).bind
    fun result returned => ?_
  exact .pure (ready.result (.inl isFunction) returned)

theorem Ready.applyCallable (ready : ensemble.Ready depth node) (deepens : ensemble.Deepens depth)
    (responds : ensemble.Responds) (isCallable : node.kind = .callable) : ensemble.Ends depth
      (fun levels => ensemble.resolver.applyCallable (resolveTerm ensemble.ceiling levels) ensemble.cache node)
      (ensemble.Leads depth) := by
  obtain ⟨kind, stamp, label, name, body, shape⟩ :=
    Classifier.callable_of_kind (ready.kind.symm.trans isCallable)
  have plays : ensemble.plays (.callable kind stamp label name body) := by
    rw [← knows_called rfl, ← shape]
    exact ready.knows
  unfold Resolver.applyCallable
  rw [shape]
  refine (Ends.silent (Silent.log _ _)).bind fun _ _ => ?_
  refine (Ends.silent (Silent.takeStamps 1)).bind fun own _ => ?_
  refine (responds.callables plays ready.bindings deepens.reads).bind fun result returned => ?_
  exact .pure (ready.result (.inr isCallable) returned)

theorem Ready.enterDefaults (ready : ensemble.Ready depth node) (deepens : ensemble.Deepens depth)
    (responds : ensemble.Responds) (isMapping : node.kind = .mapping)
    (defaults : ensemble.resolver.isScoped node = true) : ensemble.Ends depth
      (fun levels => ensemble.resolver.enterDefaults (resolveTerm ensemble.ceiling levels) node)
      (ensemble.Leads depth) := by
  have looked := ready.kind.symm.trans isMapping
  obtain ⟨kind, stamp, entries, shape⟩ := Classifier.map_of_kind looked
  have each : Entries.Each ensemble.Knows entries := by
    rw [← knows_map, ← shape]
    exact ready.knows
  have fresh : node.collected = false := by
    cases collected : node.collected with
    | false => rfl
    | true =>
        have gathered := (ready.gathered collected).1
        rw [shape] at gathered
        unfold isScoped at defaults
        rw [shape] at defaults
        cases gathered with
        | map noDefaults => exact absurd (noDefaults.symm.trans defaults) (by decide)
  have scope : ensemble.Knows ((Entries.find? entries ensemble.resolver.defaultsKey).getD .null) := by
    cases found : Entries.find? entries ensemble.resolver.defaultsKey with
    | none => exact knows_null
    | some scope => exact each.find? found
  have fewer : ∀ {stamp' s}, ensemble.resolver.Exposes
      (.map .plain stamp' (Entries.erase entries ensemble.resolver.defaultsKey)) s →
        ensemble.resolver.Exposes node.term s := by
    rintro stamp' s ⟨_, member, outside⟩
    rw [shape] at looked ⊢
    exact .value looked (List.mem_filter.1 member).1 outside
  unfold Resolver.enterDefaults
  rw [shape]
  dsimp only
  split
  · exact (Ends.steady (Steady.snapshot _)).bind fun _ _ => .throw rfl
  · refine (Ends.silent (Silent.log _ _)).bind fun _ _ => ?_
    refine (responds.scopeEntries deepens.reads scope).bind fun bindings more => ?_
    refine (Ends.silent (Silent.makeMap _)).bind ?_
    rintro _ ⟨stamp', rfl⟩
    refine .pure ⟨rfl, ?_, ready.bindings.child more, ?_, ?_, ?_⟩
    · exact knows_map.2 (each.erase _)
    · exact fun _ s exposes => ready.children fresh s (fewer exposes)
    · exact fun collected => absurd (collected.symm.trans fresh) (by decide)
    · refine ready.inert.imp_left fun inert => Contained.inert ?_ rfl
      exact fun s exposes => inert.contained s (fewer exposes)

/-- Collected values are ready to be pruned. -/
theorem Value.leads {t : Term} (value : ensemble.Value t) (gathered : ensemble.resolver.Gathered t)
    {env : Environment Term} (bindings : env.Each ensemble.Knows) :
    ensemble.Leads depth (.again t env true) where
  kind := rfl
  knows := value.knows
  bindings := bindings
  children := nofun
  gathered := fun _ => ⟨gathered, value.inert⟩
  inert := .inl value.inert

theorem Ready.collect (ready : ensemble.Ready depth node)
    (isCollection : node.kind.isCollection = true) (fresh : node.collected = false)
    (unscoped : node.kind = .mapping → ensemble.resolver.isScoped node = false) :
    ensemble.Ends depth
      (fun levels => ensemble.resolver.collect (resolveTerm ensemble.ceiling levels) ensemble.cache node)
      (ensemble.Leads depth) := by
  have resolves := ready.children fresh
  have knows := ready.knows
  unfold Resolver.collect
  cases kind : node.kind with
  | mapping =>
      have looked := ready.kind.symm.trans kind
      obtain ⟨own, stamp, entries, shape⟩ := Classifier.map_of_kind looked
      have noDefaults : Entries.has entries ensemble.resolver.defaultsKey = false := by
        have unscoped := unscoped kind
        unfold isScoped at unscoped
        rw [shape] at unscoped
        exact unscoped
      rw [shape] at looked resolves knows ⊢
      refine (resolveEntries_ends ready.bindings fun entry member => ⟨?_, ?_⟩).bind ?_
      · exact (knows_map.1 knows entry member).1
      · rw [Entries.has_eq_any, List.any_eq_false] at noDefaults
        exact resolves _ (.value looked member (Bool.eq_false_iff.2 (noDefaults entry member)))
      · rintro values ⟨keys, each⟩
        refine (Ends.silent (Silent.makeMap values)).bind ?_
        rintro _ ⟨stamp', rfl⟩
        refine .pure ((Value.map each).leads (.map ?_) ready.bindings)
        rw [Custody.has_of_keys keys]
        exact noDefaults
  | sequence =>
      have looked := ready.kind.symm.trans kind
      rcases Classifier.items_of_kind looked with ⟨own, stamp, items, shape⟩ | ⟨stamp, items, shape⟩
      all_goals rw [shape] at looked resolves ⊢
      · refine (resolveItems_ends ready.bindings fun item member =>
          resolves item (.element looked member)).bind fun values each => ?_
        refine (Ends.silent (Silent.makeList values)).bind ?_
        rintro _ ⟨stamp', rfl⟩
        exact .pure ((Value.list each).leads .list ready.bindings)
      · refine (resolveItems_ends ready.bindings fun item member =>
          resolves item (.component looked member)).bind fun values each => ?_
        refine (Ends.silent (Silent.makeTuple values)).bind ?_
        rintro _ ⟨stamp', rfl⟩
        exact .pure ((Value.tuple each).leads .tuple ready.bindings)
  | _ =>
      rw [kind] at isCollection
      cases isCollection

/-- Each step of a node that is ready ends and leads on. -/
theorem Ready.step (ready : ensemble.Ready depth node) (deepens : ensemble.Deepens depth)
    (responds : ensemble.Responds) : ensemble.Ends depth
      (fun levels => ensemble.resolver.transform (resolveTerm ensemble.ceiling levels) ensemble.cache node
        (ensemble.resolver.ruleFor node))
      (ensemble.Leads depth) := by
  have finishes : (node.kind = .scalar ∨ node.kind = .removed ∨ node.kind = .ref) →
      ensemble.Leads depth (.finish node.term) := by
    intro kind
    rw [ready.kind] at kind
    exact ⟨ready.knows, inert_of_kind kind⟩
  have applies := ensemble.resolver.applies_ruleFor node
  generalize ensemble.resolver.ruleFor node = rule at applies
  cases applies with
  | lookup => exact (deepens.lookup ready.bindings node.term).bind fun _ valued => .pure valued
  | fixpoint kind unbound =>
      exact (Ends.record _).bind fun _ _ => .pure (finishes (.inr (.inr kind)))
  | application kind => exact ready.applyFunction deepens responds kind
  | callable kind => exact ready.applyCallable deepens responds kind
  | nestedDefaults kind defaults =>
      exact ready.enterDefaults deepens responds kind defaults
  | collection kind fresh unscoped => exact ready.collect kind fresh unscoped
  | removal collected =>
      obtain ⟨gathered, inert⟩ := ready.gathered collected
      refine (Ends.steady (Value.prune ⟨ready.knows, inert⟩ gathered)).mono ?_
      rintro _ ⟨value, rfl, valued⟩
      exact valued
  | passThrough kind fresh =>
      exact .pure (finishes (kind.imp_right .inl))

/-- A node that is ready is reduced to a value in the end, or has no steps left. -/
theorem Ready.reduce (rules : ensemble.resolver.rules = Rule.standard)
    (deepens : ensemble.Deepens depth) (responds : ensemble.Responds) (steps : Nat)
    (ready : ensemble.Ready depth node) : ensemble.Ends depth
      (fun levels => ensemble.resolver.reduce (resolveTerm ensemble.ceiling levels) ensemble.cache steps node)
      ensemble.Value := by
  induction steps generalizing node with
  | zero => exact (Ends.steady (Steady.chain _)).bind fun _ _ => .throw rfl
  | succ steps ih =>
      simp only [reduce_succ rules]
      refine (ready.step deepens responds).bind fun step leads => ?_
      cases step with
      | finish value => exact .pure leads
      | again t env collected =>
          refine (Ends.classify t).bind ?_
          rintro kind rfl
          exact ih leads

end Ensemble

end ScopedTemplate
