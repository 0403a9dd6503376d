import ScopedTemplate.Proofs.Lockstep.Dependencies
import ScopedTemplate.Proofs.Resolver.Nodes

/-!
# Reductions in lockstep

Every rule takes a node to alike ends in both runs, and so resolution at every level does.
-/

namespace ScopedTemplate

variable {ceiling : Int}

open Run Term

namespace Pairing

variable {p : Pairing} {resolver resolver' : Resolver Term} {cache : CacheId}
  {resolution : Resolution}

/-- Nodes that are reduced with a table in two runs. -/
structure AlikeNode (p : Pairing) (cache : CacheId) (resolver resolver' : Resolver Term)
    (node node' : Node) : Prop where
  term : p.Alike node.term node'.term
  kind : node.kind = node'.kind
  viewed : p.Viewed cache resolver resolver' node.env node'.env
  collected : node.collected = node'.collected

/-- Steps to alike values, or on to alike nodes. -/
inductive AlikeStep (p : Pairing) (cache : CacheId) (resolver resolver' : Resolver Term) :
    Step → Step → Prop where
  | finish {value value' : Term} (values : p.Alike value value') :
      AlikeStep p cache resolver resolver' (.finish value) (.finish value')
  | again {term term' : Term} {env env' : Environment Term} (collected : Bool)
      (terms : p.Alike term term') (viewed : p.Viewed cache resolver resolver' env env') :
      AlikeStep p cache resolver resolver' (.again term env collected) (.again term' env' collected)

/-! ## Which rule applies -/

theorem AlikeNode.passes {node node' : Node} (nodes : p.AlikeNode cache resolver resolver' node node')
    (test : Test) : test.passes node = test.passes node' := by
  induction test with
  | bound => exact (nodes.viewed.envs.target? nodes.term).isSome_eq
  | no test ih => simp only [Test.passes, ih]
  | both first second first_ih second_ih => simp only [Test.passes, first_ih, second_ih]
  | _ => simp only [Test.passes, nodes.kind, nodes.collected, nodes.term.tagged, nodes.term.text?]

theorem AlikeNode.testFails {node node' : Node}
    (nodes : p.AlikeNode cache resolver resolver' node node') (test : Test) :
    test.fails node = test.fails node' := by
  induction test with
  | written form => simp only [Test.fails, nodes.term.isWritable]
  | no test ih => exact ih
  | both first second first_ih second_ih =>
      simp only [Test.fails, first_ih, second_ih, nodes.passes]
  | _ => rfl

theorem AlikeNode.fails {node node' : Node} (nodes : p.AlikeNode cache resolver resolver' node node')
    (rule : Rule Term) : rule.fails node = rule.fails node' := by
  cases rule with
  | custom rule => exact nodes.testFails rule.test
  | _ => rfl

theorem AlikeNode.applies {node node' : Node}
    (nodes : p.AlikeNode cache resolver resolver' node node') (rule : Rule Term) :
    resolver.applies node rule = resolver'.applies node' rule := by
  have defaultsKey : resolver'.defaultsKey = resolver.defaultsKey :=
    congrArg Term.str nodes.viewed.paired.defaultsKey
  have defaults : (node.term.entries?.any fun entries => Entries.has entries resolver.defaultsKey) =
      node'.term.entries?.any fun entries => Entries.has entries resolver.defaultsKey := by
    rcases nodes.term.entries?.cases_eq with
      ⟨missing, missing'⟩ | ⟨entries, entries', found, found', each⟩
    · rw [missing, missing']
    · rw [found, found', Option.any_some, Option.any_some]
      exact each.has (alike_text _ _)
  unfold Resolver.applies
  cases rule <;>
    simp only [nodes.kind, nodes.collected, nodes.passes, defaults,
      (nodes.viewed.envs.target? nodes.term).isSome_eq, defaultsKey]

theorem AlikeNode.select {node node' : Node}
    (nodes : p.AlikeNode cache resolver resolver' node node') (rules : List (Rule Term)) :
    resolver.select node rules = resolver'.select node' rules := by
  induction rules with
  | nil => rfl
  | cons rule rest ih =>
      unfold Resolver.select
      rw [nodes.fails rule, nodes.applies rule, ih]

/-! ## Rules -/

namespace Resolves

variable [below : ∀ resolver t env cache, Grows (resolution resolver t env cache)]
  (resolves : p.Resolves resolution)

section Scopes

variable {node node' : Node} (nodes : p.AlikeNode cache resolver resolver' node node')

include resolves nodes

theorem applyCallable :
    p.Lockstep (p.AlikeStep cache resolver resolver')
      (resolver.applyCallable resolution cache node)
      (resolver'.applyCallable resolution cache node') := by
  obtain ⟨term, kind, env, collected⟩ := node
  obtain ⟨term', kind', env', collected'⟩ := node'
  obtain ⟨terms, kinds, viewed, same⟩ := nodes
  dsimp only at terms kinds viewed same
  subst same
  have stays : p.Lockstep (p.AlikeStep cache resolver resolver') (pure (.finish term))
      (pure (.finish term')) := .pure (.finish terms)
  unfold Resolver.applyCallable
  cases terms.shape with
  | callable kind stamp label name permitted =>
      refine .afterLog ?_
      refine (Lockstep.takeStamps 1).bind ?_
      rintro own _ rfl
      have sources : List.Forall₂ p.AlikeSource [.view own resolver env cache]
          [.view own resolver' env' cache] := .cons (.view own viewed) .nil
      have kept : (p.merges → false = true) → List.Forall₂ p.Alike [.view own resolver env cache]
          [.view own resolver' env' cache] := fun keeps =>
        .cons ((AlikeSource.view own viewed).alike fun merges => nomatch keeps merges) .nil
      refine (resolves.invokeCallable permitted (alike_callable.1 terms).2 (fun _ => terms) terms
        kept sources).bind fun result result' results => ?_
      exact .pure (.again _ results viewed)
  | atom simple =>
      cases term with
      | list | tuple | map | set | point | function | callable | view => cases simple
      | _ => exact stays
  | _ => exact stays

theorem enterDefaults :
    p.Lockstep (p.AlikeStep cache resolver resolver') (resolver.enterDefaults resolution node)
      (resolver'.enterDefaults resolution node') := by
  obtain ⟨term, kind, env, collected⟩ := node
  obtain ⟨term', kind', env', collected'⟩ := node'
  obtain ⟨terms, kinds, viewed, same⟩ := nodes
  dsimp only at terms kinds viewed same
  subst same
  have stays : p.Lockstep (p.AlikeStep cache resolver resolver') (pure (.finish term))
      (pure (.finish term')) := .pure (.finish terms)
  have key : resolver'.defaultsKey = resolver.defaultsKey :=
    congrArg Term.str viewed.paired.defaultsKey
  have keys : p.Alike resolver.defaultsKey resolver.defaultsKey := alike_text _ _
  unfold Resolver.enterDefaults
  cases terms.shape with
  | @map kind stamp entries entries' size =>
      have each := alike_map.1 terms
      dsimp only
      rw [key, viewed.paired.defaultsKey]
      have named : p.Alike ((Entries.find? entries resolver.defaultsKey).getD .null)
          ((Entries.find? entries' resolver.defaultsKey).getD .null) := by
        rcases (each.find? keys).cases_eq with
          ⟨missing, missing'⟩ | ⟨scope, scope', found, found', scopes⟩
        · rw [missing, missing']
          exact alike_null
        · rw [found, found']
          exact scopes
      generalize (Entries.find? entries resolver.defaultsKey).getD .null = scope,
        (Entries.find? entries' resolver.defaultsKey).getD .null = scope' at named
      rw [named.scopeSize?, named.typeName]
      cases scope'.scopeSize? with
      | none =>
          refine (Lockstep.snapshot viewed.envs).bind ?_
          rintro shown _ rfl
          exact .fail _
      | some size =>
          refine .afterLog ?_
          refine (resolves.scopeEntries named).bind fun defaults defaults' more => ?_
          refine (Lockstep.makeMap (each.erase keys)).bind fun rest rest' rests => ?_
          exact .pure (.again _ rests { viewed with
            admitted := fun own => p.enters _ _ (viewed.admitted own)
            envs := viewed.envs.child more })
  | atom simple =>
      cases term with
      | list | tuple | map | set | point | function | callable | view => cases simple
      | _ => exact stays
  | _ => exact stays

end Scopes

section Collections

variable {env env' : Environment Term} (viewed : p.Viewed cache resolver resolver' env env')

include resolves viewed

theorem resolveItems {items items' : List Term} (each : List.Forall₂ p.Alike items items') :
    p.Lockstep (List.Forall₂ p.Alike) (resolver.resolveItems resolution cache env items)
      (resolver'.resolveItems resolution cache env' items') := by
  induction each with
  | nil => exact .pure .nil
  | cons first _ ih =>
      refine (resolves viewed first).bind fun value value' values => ?_
      exact ih.bind fun more more' others => .pure (.cons values others)

theorem resolveEntries {entries entries' : Entries} (each : p.AlikeEntries entries entries') :
    p.Lockstep p.AlikeEntries (resolver.resolveEntries resolution cache env entries)
      (resolver'.resolveEntries resolution cache env' entries') := by
  induction each with
  | nil => exact .pure .nil
  | cons first _ ih =>
      refine (resolves viewed first.2).bind fun value value' values => ?_
      exact ih.bind fun more more' others => .pure (.cons ⟨first.1, values⟩ others)

end Collections

theorem collect {node node' : Node} (resolves : p.Resolves resolution)
    (nodes : p.AlikeNode cache resolver resolver' node node') :
    p.Lockstep (p.AlikeStep cache resolver resolver') (resolver.collect resolution cache node)
      (resolver'.collect resolution cache node') := by
  obtain ⟨term, kind, env, collected⟩ := node
  obtain ⟨term', kind', env', collected'⟩ := node'
  obtain ⟨terms, kinds, viewed, same⟩ := nodes
  dsimp only at terms kinds viewed same
  have goesOn : p.Lockstep (p.AlikeStep cache resolver resolver') (pure (.again term env true))
      (pure (.again term' env' true)) := .pure (.again _ terms viewed)
  unfold Resolver.collect
  cases terms.shape with
  | map =>
      refine (resolves.resolveEntries viewed (alike_map.1 terms)).bind fun _ _ each => ?_
      exact (Lockstep.makeMap each).bind fun _ _ made => .pure (.again _ made viewed)
  | tuple =>
      refine (resolves.resolveItems viewed (alike_tuple.1 terms)).bind fun _ _ each => ?_
      exact (Lockstep.makeTuple each).bind fun _ _ made => .pure (.again _ made viewed)
  | list =>
      refine (resolves.resolveItems viewed (alike_list.1 terms)).bind fun _ _ each => ?_
      exact (Lockstep.makeList each).bind fun _ _ made => .pure (.again _ made viewed)
  | atom simple =>
      cases term with
      | list | tuple | map | set | point | function | callable | view => cases simple
      | _ => exact goesOn
  | _ => exact goesOn

end Resolves

theorem filter_alike {items items' : List Term} (each : List.Forall₂ p.Alike items items')
    {keep keep' : Term → Bool} (same : ∀ {t t'}, p.Alike t t' → keep t = keep' t') :
    List.Forall₂ p.Alike (items.filter keep) (items'.filter keep') := by
  induction each with
  | nil => exact .nil
  | cons first _ ih =>
      rw [List.filter_cons, List.filter_cons, same first]
      split
      · exact .cons first ih
      · exact ih

/-- What is left out is left out in both runs. -/
theorem prune_lockstep {t t' : Term} (alike : p.Alike t t')
    (similar : resolver.Similar resolver') :
    p.Lockstep (p.AlikeStep cache resolver resolver') (resolver.prune t) (resolver'.prune t') := by
  have keeps : ∀ {t t'}, p.Alike t t' → (!resolver.drops t) = !resolver'.drops t' :=
    fun alike => congrArg Bool.not (alike.drops similar)
  have walked : ∀ {items items' : List Term} {make : List Term → Run Term},
      List.Forall₂ p.Alike items items' →
        (∀ {items items'}, List.Forall₂ p.Alike items items' →
          p.Lockstep p.Alike (make items) (make items')) →
            (∀ items, Grows (make items)) →
              p.Lockstep (p.AlikeStep cache resolver resolver')
        (do Run.ofResult (resolver.checkValues items)
            return .finish (← make (items.filter (!resolver.drops ·))))
        (do Run.ofResult (resolver'.checkValues items')
            return .finish (← make (items'.filter (!resolver'.drops ·)))) := by
    intro items items' make each makes grows
    rw [checkValues_alike each similar]
    refine (Lockstep.ofResult (.of_eq rfl)).bind fun _ _ _ => ?_
    exact (makes (filter_alike each keeps)).bind fun _ _ made => .pure (.finish made)
  have others : p.Lockstep (p.AlikeStep cache resolver resolver')
      (t.elements?.elim (throw (.type (.notIterable t.typeName))) fun items => do
        Run.ofResult (resolver.checkValues items)
        return .finish (← Run.makeList (items.filter (!resolver.drops ·))))
      (t'.elements?.elim (throw (.type (.notIterable t'.typeName))) fun items => do
        Run.ofResult (resolver'.checkValues items)
        return .finish (← Run.makeList (items.filter (!resolver'.drops ·)))) := by
    rcases alike.elements?.cases_eq with ⟨missing, missing'⟩ | ⟨items, items', found, found', each⟩
    · rw [missing, missing', alike.typeName]
      exact .fail _
    · rw [found, found']
      exact walked each .makeList inferInstance
  unfold Resolver.prune
  cases alike.shape with
  | map =>
      have each := alike_map.1 alike
      dsimp only
      rw [checkValues_alike each.values similar]
      refine (Lockstep.ofResult (.of_eq rfl)).bind fun _ _ _ => ?_
      exact (Lockstep.makeMap (each.filter keeps)).bind fun _ _ made => .pure (.finish made)
  | tuple => exact walked (alike_tuple.1 alike) .makeTuple inferInstance
  | point => exact walked (alike_point.1 alike) .makeTuple inferInstance
  | atom simple =>
      cases t with
      | list | tuple | map | set | point | function | callable | view => cases simple
      | _ => exact others
  | _ => exact others

/-! ## Functions -/

/-- An argument that is a reference is noted when the function is applied. -/
theorem Parted.strays {deps : List String} {failure : Failure} {values : Entries} {world : World}
    (parted : p.Parted cache deps failure values world) (function : Term) :
    p.Strays (world.change cache
      (Cache.record · (.applied function (Resolver.arguments deps values)))) := by
  obtain ⟨dep, member, value, found, reference⟩ := parted.found
  refine ⟨parted.caught, .inl ⟨function, Resolver.arguments deps values, ?_, value, ?_, reference⟩⟩
  · rw [parted.own, world.cache_change parted.inside]
    exact List.mem_cons_self
  · refine List.mem_map.2 ⟨dep, member, ?_⟩
    unfold Entries.ofPairs
    rw [Entries.find?_update, found]
    rfl

namespace Resolves

variable [below : ∀ resolver t env cache, Grows (resolution resolver t env cache)]

/-- A function is applied to its arguments in lockstep. -/
theorem applyTo (resolves : p.Resolves resolution) {env env' : Environment Term}
    (viewed : p.Viewed cache resolver resolver' env env') {function function' : Term}
    (functions : p.Alike function function') {callee callee' : Term}
    (callees : p.AlikeCallee callee callee') {args args' : List Term}
    (each : List.Forall₂ p.Alike args args') (message message' : String) (collected : Bool) :
    p.Lockstep (p.AlikeStep cache resolver resolver')
      (do
        Run.log .debug message
        Run.record cache (.applied function args)
        let result ← ScopedTemplate.invoke resolution callee function args
        return .again result env collected)
      (do
        Run.log .debug message'
        Run.record cache (.applied function' args')
        let result ← ScopedTemplate.invoke resolution callee' function' args'
        return .again result env' collected) := by
  have notes : p.Lockstep (fun _ _ => True) (Run.record cache (.applied function args))
      (Run.record cache (.applied function' args')) := .record _ fun _ _ => nofun
  refine .afterLog (notes.bind fun _ _ _ => ?_)
  refine (resolves.invoke callees functions each).bind fun result result' results => ?_
  exact .pure (.again _ results viewed)

theorem applyFunction (resolves : p.Resolves resolution) {node node' : Node}
    (nodes : p.AlikeNode cache resolver resolver' node node') :
    p.Lockstep (p.AlikeStep cache resolver resolver') (resolver.applyFunction resolution cache node)
      (resolver'.applyFunction resolution cache node') := by
  obtain ⟨term, kind, env, collected⟩ := node
  obtain ⟨term', kind', env', collected'⟩ := node'
  obtain ⟨terms, kinds, viewed, same⟩ := nodes
  dsimp only at terms kinds viewed same
  subst same
  have stays : p.Lockstep (p.AlikeStep cache resolver resolver') (pure (.finish term))
      (pure (.finish term')) := .pure (.finish terms)
  unfold Resolver.applyFunction
  cases terms.shape with
  | @function stamp name deps doc callee callee' called =>
      intro world world' worlds
      have ends := resolves.resolveDependencies viewed name deps worlds
      refine ends.andThen inferInstance (fun values values' each => ?_) ?_
      · exact resolves.applyTo viewed terms (alike_function.1 terms) (arguments_alike each deps) _ _ _
      · intro failure values' done parted
        refine after_bind.2 (after_modify.2 (after_bind.2 (after_changeCache.2 ?_)))
        have logged : p.Parted cache deps failure values' { done with
            trace := ⟨.debug, "Invoking " ++ name ++ "(" ++ Term.commas deps ++ ")"⟩ :: done.trace } :=
          { parted with }
        refine Strays.after (logged.strays _) ?_
        infer_instance
  | atom simple =>
      cases term with
      | list | tuple | map | set | point | function | callable | view => cases simple
      | _ => exact stays
  | _ => exact stays

/-! ## Reductions -/

theorem act (resolves : p.Resolves resolution) {node node' : Node}
    (nodes : p.AlikeNode cache resolver resolver' node node') {action : Action Term}
    (replaced : p.Alike action.term action.term) :
    p.Lockstep p.Alike (resolver.act resolution cache node action)
      (resolver'.act resolution cache node' action) := by
  cases action with
  | put term => exact .pure replaced
  | call callable =>
      cases callable with
      | callable kind stamp label name body =>
          unfold Resolver.act
          refine (Lockstep.takeStamps 1).bind ?_
          rintro own _ rfl
          cases replaced.shape with
          | callable _ _ _ _ permitted =>
              have calls : p.AlikeCall false
                  ⟨node.term, stamp, [], .view own resolver node.env cache⟩
                  ⟨node'.term, stamp, [], .view own resolver' node'.env cache⟩ :=
                ⟨nodes.term, rfl, fun _ => .nil, .view own nodes.viewed⟩
              exact resolves.evalBody calls body permitted (alike_callable.1 replaced).2
          | atom simple => cases simple
      | _ => exact .pure replaced

theorem transform (resolves : p.Resolves resolution) {node node' : Node}
    (nodes : p.AlikeNode cache resolver resolver' node node') {rule : Rule Term}
    (among : rule ∈ resolver.rules) :
    p.Lockstep (p.AlikeStep cache resolver resolver')
      (resolver.transform resolution cache node rule)
      (resolver'.transform resolution cache node' rule) := by
  cases rule with
  | lookup =>
      exact (resolves.lookupName nodes.viewed nodes.term).bind fun _ _ values =>
        .pure (.finish values)
  | fixpoint =>
      exact (Lockstep.recordLeft _ _ nodes.viewed.admitted).bind fun _ _ _ =>
        .pure (.finish nodes.term)
  | application => exact resolves.applyFunction nodes
  | callable => exact resolves.applyCallable nodes
  | nestedDefaults => exact resolves.enterDefaults nodes
  | collection => exact resolves.collect nodes
  | removal => exact prune_lockstep nodes.term nodes.viewed.paired.toSimilar
  | passThrough => exact .pure (.finish nodes.term)
  | custom rule =>
      have replaced := nodes.viewed.replacements _ (List.mem_filterMap.2 ⟨_, among, rfl⟩)
      unfold Resolver.transform
      refine (resolves.act nodes replaced).bind_of_grows (fun result => ?_)
        fun result result' results => ?_
      · split <;> infer_instance
      rw [nodes.collected]
      cases rule.finishes with
      | true => exact .pure (.finish results)
      | false => exact .pure (.again _ results nodes.viewed)

theorem reduce (resolves : p.Resolves resolution) (steps : Nat) {node node' : Node}
    (nodes : p.AlikeNode cache resolver resolver' node node') :
    p.Lockstep p.Alike (resolver.reduce resolution cache steps node)
      (resolver'.reduce resolution cache steps node') := by
  induction steps generalizing node node' with
  | zero =>
      unfold Resolver.reduce
      rw [nodes.viewed.paired.maxDepth, nodes.term.label]
      refine (Lockstep.chain cache).bind ?_
      rintro names _ rfl
      exact .fail _
  | succ steps ih =>
      unfold Resolver.reduce
      rw [nodes.select, nodes.viewed.paired.rules]
      cases selected : resolver'.select node' resolver.rules with
      | error failure => exact .fail failure
      | ok selection =>
          rw [Run.ofResult, pure_bind, pure_bind]
          cases selection with
          | none =>
              dsimp only
              rw [nodes.term.label, nodes.kind]
              refine (Lockstep.snapshot nodes.viewed.envs).bind ?_
              rintro shown _ rfl
              exact .fail _
          | some rule =>
              refine (resolves.transform nodes (Resolver.mem_of_select selected)).bind_of_grows
                (fun step => ?_) fun step step' steps => ?_
              · split <;> infer_instance
              cases steps with
              | finish values => exact .pure values
              | again collected terms viewed =>
                  dsimp only
                  rw [viewed.paired.classifier, terms.classify]
                  refine (Lockstep.ofResult (.of_eq rfl)).bind ?_
                  rintro kind _ rfl
                  exact ih ⟨terms, rfl, viewed, rfl⟩

theorem resolveNode (resolves : p.Resolves resolution) {env env' : Environment Term}
    (viewed : p.Viewed cache resolver resolver' env env') {t t' : Term} (alike : p.Alike t t') :
    p.Lockstep p.Alike (resolver.resolveNode resolution cache t env)
      (resolver'.resolveNode resolution cache t' env') := by
  unfold Resolver.resolveNode
  rw [viewed.paired.classifier, alike.classify, viewed.paired.maxDepth]
  refine (Lockstep.ofResult (.of_eq rfl)).bind ?_
  rintro kind _ rfl
  exact resolves.reduce _ ⟨alike, rfl, viewed, rfl⟩

end Resolves

/-- Resolutions go in lockstep at every level. -/
theorem resolves_resolveTerm (p : Pairing) (levels : Nat) : p.Resolves (resolveTerm ceiling levels) := by
  induction levels with
  | zero => exact fun _ _ => .fail _
  | succ levels ih => exact fun viewed alike => ih.resolveNode viewed alike

end Pairing

end ScopedTemplate
