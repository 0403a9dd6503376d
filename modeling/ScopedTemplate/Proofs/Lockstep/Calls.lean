import ScopedTemplate.Proofs.Lockstep.Run

/-!
# Calls in lockstep

Whatever a function computes, it reads tables and environments through resolutions and views only.
So two calls go in lockstep if the resolutions that are made for them do.
-/

namespace ScopedTemplate

open Run Term

theorem Term.ne_view {t : Term} (other : t.isView = false) (stamp : Stamp)
    (resolver : Resolver Term) (env : Environment Term) (cache : CacheId) :
    t ≠ .view stamp resolver env cache := by
  rintro rfl
  cases other

namespace Pairing

variable {p : Pairing} {t t' : Term} {resolver resolver' : Resolver Term}
  {env env' : Environment Term} {cache : CacheId}

/-- Resolvers and environments with which two runs use a table. -/
structure Viewed (p : Pairing) (cache : CacheId) (resolver resolver' : Resolver Term)
    (env env' : Environment Term) : Prop where
  paired : p.Paired cache resolver resolver'
  admitted : cache = p.cache → p.admits env env'
  replacements : ∀ t ∈ resolver.replacements, p.Alike t t
  envs : p.AlikeEnv env env'

/-- What a body reads from: terms that are alike, or views, which need not be alike as terms. -/
inductive AlikeSource (p : Pairing) : Term → Term → Prop where
  | term {t t' : Term} (alike : p.Alike t t') : AlikeSource p t t'
  | view (stamp : Stamp) {resolver resolver' : Resolver Term} {env env' : Environment Term}
      {cache : CacheId} (viewed : p.Viewed cache resolver resolver' env env') :
      AlikeSource p (.view stamp resolver env cache) (.view stamp resolver' env' cache)

/-- Where views may be handed on, what a body reads from is alike. -/
theorem AlikeSource.alike (source : p.AlikeSource t t') (kept : ¬ p.merges) : p.Alike t t' := by
  cases source with
  | term alike => exact alike
  | view stamp viewed =>
      exact alike_view_iff.2 ⟨kept, viewed.paired, viewed.admitted, viewed.replacements, viewed.envs⟩

/-- What a body reads from is a view in both runs, or in neither. -/
theorem AlikeSource.cases_eq (source : p.AlikeSource t t') :
    (∃ stamp resolver resolver' env env' cache, t = .view stamp resolver env cache ∧
      t' = .view stamp resolver' env' cache ∧ p.Viewed cache resolver resolver' env env') ∨
    p.Alike t t' ∧ t.isView = false ∧ t'.isView = false := by
  cases source with
  | view stamp viewed => exact .inl ⟨stamp, _, _, _, _, _, rfl, rfl, viewed⟩
  | term alike =>
      cases alike.shape with
      | atom simple =>
          have other : t.isView = false := by
            cases t with
            | view => cases simple
            | _ => rfl
          exact .inr ⟨alike, other, other⟩
      | view stamp =>
          obtain ⟨_, paired, admitted, replacements, envs⟩ := alike_view_iff.1 alike
          exact .inl ⟨stamp, _, _, _, _, _, rfl, rfl, ⟨paired, admitted, replacements, envs⟩⟩
      | _ => exact .inr ⟨alike, rfl, rfl⟩

theorem Alike.withoutField (alike : p.Alike t t') (name : String) :
    p.AlikeFailure (t.withoutField name) (t'.withoutField name) := by
  unfold Term.withoutField
  rw [alike.typeName]
  exact .same _

/-- The counts are reported in lockstep. -/
theorem resolveIn_lockstep {resolution resolution' : Resolution}
    (same : resolution.ceiling = resolution'.ceiling)
    (first : p.Lockstep p.Alike (resolution resolver t env cache)
      (resolution' resolver' t' env' cache)) :
    p.Lockstep p.Alike (resolveIn resolution resolver t env cache)
      (resolveIn resolution' resolver' t' env' cache) := by
  unfold resolveIn
  rw [same]
  refine .reportEndless (first.bind fun value value' values => ?_)
  refine .readTable fun table table' tables => .afterCheck tables ?_
  exact .afterLog (.pure values)

def Resolves (p : Pairing) (resolution : Resolution) : Prop :=
  ∀ {resolver resolver' t t' env env' cache}, p.Viewed cache resolver resolver' env env' →
    p.Alike t t' →
      p.Lockstep p.Alike (resolution resolver t env cache) (resolution resolver' t' env' cache)

namespace Resolves

variable {resolution : Resolution}
  [below : ∀ resolver t env cache, Grows (resolution resolver t env cache)]

/-! ## Views -/

section Views

variable (resolves : p.Resolves resolution) (viewed : p.Viewed cache resolver resolver' env env')

include resolves viewed

omit below in
theorem lookupName {name name' : Term} (names : p.Alike name name') :
    p.Lockstep p.Alike (lookupName resolution resolver env cache name)
      (ScopedTemplate.lookupName resolution resolver' env' cache name') := by
  unfold ScopedTemplate.lookupName
  rw [viewed.paired.detectCycles, viewed.paired.maxDepth]
  rcases (viewed.envs.target? names).cases_eq with
    ⟨missing, missing'⟩ | ⟨binding, binding', found, found', bindings⟩
  · rw [missing, missing']
    refine (Lockstep.recordLeft _ _ viewed.admitted).bind fun _ _ _ => ?_
    unfold Term.asRef
    rw [names.nameText]
    exact .pure (alike_text _ _)
  · rw [found, found']
    exact .memoize names viewed.envs _ _ (resolves viewed bindings)

omit below in
theorem item {name name' : Term} (names : p.Alike name name') :
    p.Lockstep p.Alike (View.item resolution resolver env cache name)
      (View.item resolution resolver' env' cache name') := by
  unfold View.item View.has
  rw [names.text?, viewed.envs.binds names]
  split
  · refine (resolves.lookupName viewed names).bind fun value value' values => ?_
    have reads : p.Lockstep (fun _ _ => True) (Run.record cache (.read value))
        (Run.record cache (.read value')) := .record _ fun _ _ => nofun
    exact reads.bind fun _ _ _ => .pure values
  · exact .throw (.missingKey names)

omit below in
theorem itemOr {name name' fallback fallback' : Term} (names : p.Alike name name')
    (fallbacks : p.Alike fallback fallback') :
    p.Lockstep p.Alike (View.itemOr resolution resolver env cache name fallback)
      (View.itemOr resolution resolver' env' cache name' fallback') := by
  have has : View.has env name = View.has env' name' := by
    unfold View.has
    rw [names.text?, viewed.envs.binds names]
  unfold View.itemOr
  cases bound : View.has env' name' with
  | false =>
      unfold View.item
      rw [has, bound]
      exact Lockstep.pure fallbacks
  | true =>
      rw [has, bound]
      refine (resolves.item viewed names).recover ?_ ?_ ?_
      · intro failure failure' alike
        rw [alike.isMissingKey]
        split
        · exact .inr ⟨_, _, rfl, rfl, (Lockstep.noteCaught _ _).bind fun _ _ _ => .pure fallbacks⟩
        · exact .inl ⟨rfl, rfl⟩
      · intro _ failure refusal
        rw [refusal.1]
        rfl
      · intro _ failure next handled world caught
        split at handled
        · cases handled
          exact ⟨Nat.le_succ_of_le caught, .inr (Nat.lt_succ_of_le caught)⟩
        · cases handled

omit below in
theorem field (name : String) :
    p.Lockstep p.Alike (View.field resolution resolver env cache name)
      (View.field resolution resolver' env' cache name) := by
  unfold View.field
  split
  · exact .fail _
  · exact resolves.itemOr viewed (alike_text _ _) alike_null

theorem itemsOf {names names' : List Term} (each : List.Forall₂ p.Alike names names') :
    p.Lockstep p.AlikeEntries (View.itemsOf resolution resolver env cache names)
      (View.itemsOf resolution resolver' env' cache names') := by
  induction each with
  | nil => exact .pure .nil
  | cons first _ ih =>
      refine (resolves.item viewed first).bind fun value value' values => ?_
      exact ih.bind fun entries entries' more => .pure (.cons ⟨first, values⟩ more)

theorem items : p.Lockstep p.AlikeEntries (View.items resolution resolver env cache)
    (View.items resolution resolver' env' cache) :=
  resolves.itemsOf viewed viewed.envs.names

end Views

variable (resolves : p.Resolves resolution)

include resolves

theorem scopeEntries (alike : p.Alike t t') :
    p.Lockstep p.AlikeEntries (t.scopeEntries resolution) (t'.scopeEntries resolution) := by
  rcases (AlikeSource.term alike).cases_eq with
    ⟨stamp, resolver, resolver', env, env', cache, rfl, rfl, viewed⟩ | ⟨_, noView, noView'⟩
  · exact resolves.items viewed
  · cases alike.shape with
    | map => exact .pure (alike_map.1 alike)
    | view stamp => cases noView
    | atom simple =>
        cases t with
        | list | tuple | map | set | point | function | callable | view => cases simple
        | _ => exact .pure .nil
    | _ => exact .pure .nil

/-! ## Reads of any source -/

section Readings

variable (source : p.AlikeSource t t')

include source

omit below in
theorem readItem {name name' : Term} (names : p.Alike name name') :
    p.Lockstep p.Alike (Reading.item resolution t name) (Reading.item resolution t' name') := by
  rcases source.cases_eq with
    ⟨stamp, resolver, resolver', env, env', cache, rfl, rfl, viewed⟩ | ⟨alike, noView, noView'⟩
  · exact resolves.item viewed names
  · rw [Reading.item.eq_2 _ _ _ (ne_view noView), Reading.item.eq_2 _ _ _ (ne_view noView')]
    exact .ofResult (alike.subscript names)

omit below in
theorem readItemOr {name name' fallback fallback' : Term} (names : p.Alike name name')
    (fallbacks : p.Alike fallback fallback') :
    p.Lockstep p.Alike (Reading.itemOr resolution t name fallback)
      (Reading.itemOr resolution t' name' fallback') := by
  rcases source.cases_eq with
    ⟨stamp, resolver, resolver', env, env', cache, rfl, rfl, viewed⟩ | ⟨alike, noView, noView'⟩
  · exact resolves.itemOr viewed names fallbacks
  · have missing := alike.withoutField "get"
    unfold Reading.itemOr
    cases alike.shape with
    | map =>
        refine .ofResult ?_
        rw [names.checkKey]
        refine (AlikeResult.of_eq rfl).bind fun _ _ _ => ?_
        rcases ((alike_map.1 alike).find? names).cases_eq with
          ⟨missing, missing'⟩ | ⟨value, value', found, found', values⟩
        · rw [missing, missing']
          exact .ok fallbacks
        · rw [found, found']
          exact .ok values
    | view => cases noView
    | atom simple =>
        cases t with
        | list | tuple | map | set | point | function | callable | view => cases simple
        | _ => exact .fail _
    | _ => exact .throw missing

theorem readField {name : String}
    (foreign : p.merges → ∀ shown stamp, View.member? name shown stamp = none) :
    p.Lockstep p.Alike (Reading.field resolution t name) (Reading.field resolution t' name) := by
  rcases source.cases_eq with
    ⟨stamp, resolver, resolver', env, env', cache, rfl, rfl, viewed⟩ | ⟨alike, noView, noView'⟩
  · refine (Lockstep.takeStamps 1).bind_of_grows (fun own => ?_) ?_
    · split <;> infer_instance
    rintro own _ rfl
    by_cases kept : p.merges
    · rw [foreign kept, foreign kept]
      exact resolves.field viewed name
    · rw [(source.alike kept).display]
      split
      · next member found => exact .pure (member?_alike kept found)
      · exact resolves.field viewed name
  · rw [Reading.field.eq_2 _ _ _ (ne_view noView), Reading.field.eq_2 _ _ _ (ne_view noView')]
    exact .throw (alike.withoutField name)

omit resolves in
theorem readHas {name name' : Term} (names : p.Alike name name') :
    p.Lockstep Eq (Reading.has t name) (Reading.has t' name') := by
  rcases source.cases_eq with
    ⟨stamp, resolver, resolver', env, env', cache, rfl, rfl, viewed⟩ | ⟨alike, noView, noView'⟩
  · refine .pure ?_
    unfold View.has
    rw [names.text?, viewed.envs.binds names]
  · rw [Reading.has.eq_2 _ _ (ne_view noView), Reading.has.eq_2 _ _ (ne_view noView'),
      alike.contains names]
    exact .ofResult (.of_eq rfl)

omit resolves in
theorem readNames :
    p.Lockstep (List.Forall₂ p.Alike) (Reading.names t) (Reading.names t') := by
  rcases source.cases_eq with
    ⟨stamp, resolver, resolver', env, env', cache, rfl, rfl, viewed⟩ | ⟨alike, noView, noView'⟩
  · exact .pure viewed.envs.names
  · exact .ofResult (elements_alike alike)

omit resolves in
theorem readSize : p.Lockstep p.Alike (Reading.size t) (Reading.size t') := by
  have sizes : Standard.sizeOf t = Standard.sizeOf t' := by
    rcases source.cases_eq with
      ⟨stamp, resolver, resolver', env, env', cache, rfl, rfl, viewed⟩ | ⟨alike, noView, noView'⟩
    · simp only [Standard.sizeOf, viewed.envs.size]
    · exact sizeOf_alike alike
  exact .ofResult (alike_of_sizeOf sizes)

theorem readItems :
    p.Lockstep p.AlikeEntries (Reading.items resolution t) (Reading.items resolution t') := by
  rcases source.cases_eq with
    ⟨stamp, resolver, resolver', env, env', cache, rfl, rfl, viewed⟩ | ⟨alike, noView, noView'⟩
  · exact resolves.items viewed
  · have missing := alike.withoutField "items"
    unfold Reading.items
    cases alike.shape with
    | map => exact .pure (alike_map.1 alike)
    | view => cases noView
    | atom simple =>
        cases t with
        | list | tuple | map | set | point | function | callable | view => cases simple
        | _ => exact .fail _
    | _ => exact .throw missing

omit resolves in
theorem write (name : String) :
    p.Lockstep p.Alike (Reading.write t name) (Reading.write t' name) := by
  rcases source.cases_eq with
    ⟨stamp, resolver, resolver', env, env', cache, rfl, rfl, viewed⟩ | ⟨alike, noView, noView'⟩
  · exact .fail _
  · rw [Reading.write.eq_2 _ _ (ne_view noView), Reading.write.eq_2 _ _ (ne_view noView')]
    exact .throw (alike.withoutField name)

theorem readEnvironment :
    p.Lockstep p.AlikeEnv (Reading.environment resolution t)
      (Reading.environment resolution t') := by
  rcases source.cases_eq with
    ⟨stamp, resolver, resolver', env, env', cache, rfl, rfl, viewed⟩ | ⟨alike, noView, noView'⟩
  · exact (resolves.items viewed).bind fun entries entries' each => .pure (.ofBindings each .nil)
  · rw [Reading.environment.eq_2 _ _ (ne_view noView),
      Reading.environment.eq_2 _ _ (ne_view noView'), alike.isFalsy]
    split
    · exact .pure .empty
    · exact (Lockstep.ofResult (entriesOf_alike alike)).bind fun entries entries' each =>
        .pure (.ofBindings each .nil)

end Readings

/-! ## Resolutions that are asked for -/

omit resolves in
theorem checkResult (resolver : Resolver Term) (alike : p.Alike t t') (envs : p.AlikeEnv env env') :
    p.Lockstep (fun _ _ => True) (resolver.checkResult env t) (resolver.checkResult env' t') := by
  unfold Resolver.checkResult
  rw [alike.check, alike.referenceNames]
  split
  · refine (Lockstep.ofResult (.of_eq rfl)).bind_of_grows (fun _ => ?_) fun _ _ _ => ?_
    · split <;> infer_instance
    split
    · exact .pure trivial
    · refine (Lockstep.snapshot envs).bind ?_
      rintro shown _ rfl
      exact .fail _
  · exact .pure trivial

omit below in
theorem resolveIn (viewed : p.Viewed cache resolver resolver' env env') (alike : p.Alike t t') :
    p.Lockstep p.Alike (resolveIn resolution resolver t env cache)
      (ScopedTemplate.resolveIn resolution resolver' t' env' cache) :=
  resolveIn_lockstep rfl (resolves viewed alike)

/-- A resolution uses the table that it is given, else the one that is shared, else its own. -/
theorem resolveLeniently {config : Option Config} {given : Option CacheId}
    (permitted : given = some p.cache ∨ given = none ∧ p.shared →
      ∀ resolver, Resolver.MadeWith config resolver → ∀ env env', p.admits env env')
    (made : Resolver.MadeWith config resolver) (alike : p.Alike t t') (envs : p.AlikeEnv env env') :
    p.Lockstep p.Alike (resolveLeniently resolution resolver t env given)
      (ScopedTemplate.resolveLeniently resolution resolver t' env' given) := by
  have noTerms : ∀ t ∈ resolver.replacements, p.Alike t t := by
    rw [made.replacements]
    exact fun t member => absurd member List.not_mem_nil
  refine Lockstep.get.bind_of_grows (fun world => ?_) fun world world' worlds => ?_
  · split <;> infer_instance
  rw [worlds.active]
  cases used : given <|> world'.active with
  | some cache =>
      refine resolves.resolveIn ⟨.refl p _ _, fun same => ?_, noTerms, envs⟩ alike
      subst same
      refine permitted ?_ resolver made env env'
      cases given with
      | some given => exact .inl used
      | none => exact .inr ⟨rfl, worlds.shared (worlds.active.trans used)⟩
  | none =>
      refine Lockstep.newCache.bind ?_
      rintro own _ ⟨rfl, other⟩
      have viewed : p.Viewed own resolver resolver env env' :=
        ⟨.refl p _ _, fun same => absurd same.symm other, noTerms, envs⟩
      exact (resolves.resolveIn viewed alike).andThen (.closeCache own) fun world => ⟨_, rfl⟩

theorem resolveWith {config : Option Config} {given : Option CacheId}
    (permitted : given = some p.cache ∨ given = none ∧ p.shared →
      ∀ resolver, Resolver.MadeWith config resolver → ∀ env env', p.admits env env')
    (made : Resolver.MadeWith config resolver) (alike : p.Alike t t') (envs : p.AlikeEnv env env') :
    p.Lockstep p.Alike (resolveWith resolution resolver t env given)
      (ScopedTemplate.resolveWith resolution resolver t' env' given) := by
  refine (resolves.resolveLeniently permitted made alike envs).bind fun value value' values => ?_
  exact (checkResult resolver values envs).bind fun _ _ _ => .pure values

omit below resolves in
theorem loadTypes (types : List LeafType) :
    p.Lockstep Eq (LeafType.load types) (LeafType.load types) := by
  induction types with
  | nil => exact .pure rfl
  | cons first rest ih =>
      have after : ∀ found : ValueType,
          p.Lockstep Eq (do return found :: (← LeafType.load rest))
            (do return found :: (← LeafType.load rest)) := fun found =>
        ih.map fun _ _ same => congrArg (found :: ·) same
      unfold LeafType.load
      cases first with
      | known found => exact after found
      | path dotted =>
          refine (Lockstep.ofResult (.of_eq rfl)).bind_of_grows (fun found => ?_) ?_
          · split <;> infer_instance
          rintro found _ rfl
          split
          · exact after _
          · exact .afterLog ih

omit below resolves in
/-- A resolver is made from settings alone. -/
theorem ofConfig (config : Option Config) :
    p.Lockstep (fun resolver resolver' => resolver = resolver' ∧ Resolver.MadeWith config resolver)
      (Resolver.ofConfig config) (Resolver.ofConfig config) := by
  have same : p.Lockstep Eq (Resolver.ofConfig config) (Resolver.ofConfig config) := by
    cases config with
    | none => exact .pure rfl
    | some config =>
        refine Lockstep.map (R := Eq) ?_ ?_
        · exact (loadTypes _).map fun _ _ same => congrArg (Classifier.ofPrefix · _) same
        · rintro classifier _ rfl
          rfl
  intro world world' worlds
  have ends := same world world' worlds
  cases made : Resolver.ofConfig config world with
  | ok resolver done =>
      rw [made] at ends
      generalize Resolver.ofConfig config world' = result at ends
      cases ends with
      | ok same worlds => exact .ok ⟨same, world, _, made⟩ worlds
  | error failure done =>
      rw [made] at ends
      generalize Resolver.ofConfig config world' = result at ends
      cases ends with
      | error failures worlds => exact .error failures worlds
      | refused diverges refusal caught => exact .refused diverges refusal caught
      | strayed diverges refusal strays => exact .strayed diverges refusal strays

theorem resolveFor {config : Option Config} {given : Option CacheId}
    (permitted : given = some p.cache ∨ given = none ∧ p.shared →
      ∀ resolver, Resolver.MadeWith config resolver → ∀ env env', p.admits env env')
    (alike : p.Alike t t') {source source' : Term} (sources : p.AlikeSource source source')
    {overrides overrides' : Entries} (overridden : p.AlikeEntries overrides overrides') :
    p.Lockstep p.Alike (resolveFor resolution config given t source overrides)
      (ScopedTemplate.resolveFor resolution config given t' source' overrides') := by
  unfold ScopedTemplate.resolveFor Resolver.checkOverrides
  rw [overridden.checkNames]
  refine (Lockstep.ofResult (.of_eq rfl)).bind fun _ _ _ => ?_
  refine (ofConfig config).bind ?_
  rintro resolver _ ⟨rfl, made⟩
  refine (resolves.readEnvironment sources).bind fun env env' envs => ?_
  exact resolves.resolveWith permitted made alike (envs.withOverrides overridden)

end Resolves

/-! ## Bodies -/

/-- What bodies are given in two calls; a body that is not called with values may get a view. -/
structure AlikeCall (p : Pairing) (values : Bool) (call call' : Call) : Prop where
  self : p.Alike call.self call'.self
  stamp : call.stamp = call'.stamp
  args : (p.merges → values = true) → List.Forall₂ p.Alike call.args call'.args
  env : p.AlikeSource call.env call'.env

namespace Resolves

variable {resolution : Resolution}
  [below : ∀ resolver t env cache, Grows (resolution resolver t env cache)]
  {values : Bool} {call call' : Call}

set_option linter.unusedSectionVars false in
mutual

theorem evalBody (resolves : p.Resolves resolution) (given : p.AlikeCall values call call') :
    (body : Body) → body.Every (p.Permits values) → (∀ t ∈ body.constants, p.Alike t t) →
      p.Lockstep p.Alike (evalBody resolution call body) (ScopedTemplate.evalBody resolution call' body)
  | .arg index, permitted, _ => by
      unfold ScopedTemplate.evalBody
      rcases (atIndex?_rel (given.args permitted.here) index).cases_eq with
        ⟨missing, missing'⟩ | ⟨arg, arg', found, found', args⟩
      · rw [missing, missing']
        exact .fail _
      · rw [found, found']
        exact .pure args
  | .const value, _, constants => by
      unfold ScopedTemplate.evalBody
      exact .pure (constants value List.mem_cons_self)
  | .fresh first last value, _, constants => by
      unfold ScopedTemplate.evalBody
      refine (Lockstep.takeStamps _).bind ?_
      rintro base _ rfl
      exact .pure ((constants value List.mem_cons_self).renew _)
  | .self, _, _ => by
      unfold ScopedTemplate.evalBody
      exact .pure given.self
  | .count, _, _ => by
      unfold ScopedTemplate.evalBody
      refine Lockstep.get.bind fun world world' worlds => ?_
      unfold World.callCount
      rw [worlds.counts, given.stamp]
      exact .pure (alike_int _)
  | .list items, permitted, constants => by
      unfold ScopedTemplate.evalBody
      refine (Resolves.evalBodies resolves given items permitted.parts constants).bind ?_
      exact fun values values' each => .makeList each
  | .tuple items, permitted, constants => by
      unfold ScopedTemplate.evalBody
      refine (Resolves.evalBodies resolves given items permitted.parts constants).bind ?_
      exact fun values values' each => .makeTuple each
  | .map entries, permitted, constants => by
      unfold ScopedTemplate.evalBody
      refine (Resolves.evalFields resolves given entries permitted.parts constants).bind ?_
      exact fun fields fields' each => .makeMap each.ofPairs
  | .ref name, permitted, constants => by
      unfold ScopedTemplate.evalBody
      have part := permitted.parts _ List.mem_cons_self
      refine (Resolves.evalBody resolves given name part constants).bind fun value value' values => ?_
      refine (Lockstep.inlineText values).bind ?_
      rintro shown _ rfl
      exact .pure (alike_text _ _)
  | .concat items, permitted, constants => by
      unfold ScopedTemplate.evalBody
      refine (Resolves.evalTexts resolves given items permitted.parts constants).bind ?_
      rintro texts _ rfl
      exact .pure (alike_text _ _)
  | .add items, permitted, constants => by
      unfold ScopedTemplate.evalBody
      refine (Resolves.evalSum resolves given items permitted.parts constants 0).bind ?_
      rintro sum _ rfl
      exact .pure (alike_int _)
  | .mul items, permitted, constants => by
      unfold ScopedTemplate.evalBody
      refine (Resolves.evalBodies resolves given items permitted.parts constants).bind_of_grows
        (fun values => ?_) fun values values' each => ?_
      · split <;> infer_instance
      rw [integers?_eq each]
      split
      · exact .pure (alike_int _)
      · exact .fail _
  | .size of, permitted, constants => by
      unfold ScopedTemplate.evalBody
      have part := permitted.parts _ List.mem_cons_self
      refine (Resolves.evalBody resolves given of part constants).bind_of_grows
        (fun value => ?_) fun value value' values => ?_
      · split <;> infer_instance
      rw [values.size?]
      split
      · exact .pure (alike_int _)
      · exact .fail _
  | .item of key, permitted, constants => by
      unfold ScopedTemplate.evalBody
      obtain ⟨here, there⟩ := List.forall_mem_cons.1 permitted.parts
      obtain ⟨first, second⟩ := List.forall_mem_append.1 constants
      refine (Resolves.evalBody resolves given of here first).bind fun value value' values => ?_
      refine (Resolves.evalBody resolves given key
        (List.forall_mem_singleton.1 there) second).bind fun key key' keys => ?_
      exact .ofResult (values.item keys)
  | .choose condition yes no, permitted, constants => by
      unfold ScopedTemplate.evalBody
      obtain ⟨here, others⟩ := List.forall_mem_cons.1 permitted.parts
      obtain ⟨there, last⟩ := List.forall_mem_cons.1 others
      obtain ⟨first, more⟩ := List.forall_mem_append.1 constants
      obtain ⟨second, third⟩ := List.forall_mem_append.1 more
      refine (Resolves.evalBody resolves given condition here first).bind_of_grows
        (fun value => ?_) fun value value' values => ?_
      · split <;> infer_instance
      rw [values.isFalsy]
      split
      · exact Resolves.evalBody resolves given no (List.forall_mem_singleton.1 last) third
      · exact Resolves.evalBody resolves given yes there second
  | .same left right, permitted, constants => by
      unfold ScopedTemplate.evalBody
      obtain ⟨here, there⟩ := List.forall_mem_cons.1 permitted.parts
      obtain ⟨first, second⟩ := List.forall_mem_append.1 constants
      refine (Resolves.evalBody resolves given left here first).bind fun value value' values => ?_
      refine (Lockstep.written values).bind ?_
      rintro shown _ rfl
      refine (Resolves.evalBody resolves given right
        (List.forall_mem_singleton.1 there) second).bind fun other other' others => ?_
      refine (Lockstep.written others).bind ?_
      rintro shown' _ rfl
      exact .pure (alike_bool _)
  | .typeOf of, permitted, constants => by
      unfold ScopedTemplate.evalBody
      have part := permitted.parts _ List.mem_cons_self
      refine (Resolves.evalBody resolves given of part constants).bind fun value value' values => ?_
      rw [values.typeName]
      exact .pure (alike_text _ _)
  | .raise kind message, _, _ => by
      unfold ScopedTemplate.evalBody
      exact .fail _
  | .attempt body, permitted, constants => by
      unfold ScopedTemplate.evalBody
      have part := permitted.parts _ List.mem_cons_self
      have never : ¬ p.diverges := permitted.here
      refine (Resolves.evalBody resolves given body part constants).recover ?_
        (fun diverges => absurd diverges never) fun diverges => absurd diverges never
      intro failure failure' alike
      rw [alike.isExhaustion, alike.name, alike.message]
      split
      · exact .inl ⟨rfl, rfl⟩
      · refine .inr ⟨_, _, rfl, rfl, (Lockstep.noteCaught _ _).bind fun _ _ _ => .makeList ?_⟩
        exact .cons (alike_text _ _) (.cons (alike_text _ _) (.cons (alike_text _ _) .nil))
  | .sequence items, permitted, constants => by
      unfold ScopedTemplate.evalBody
      refine (Resolves.evalBodies resolves given items permitted.parts constants).bind ?_
      exact fun values values' each => .pure (getLastD_alike each alike_null)
  | .note message, _, _ => by
      unfold ScopedTemplate.evalBody
      exact (Lockstep.note message).bind fun _ _ _ => .pure alike_null
  | .edit how of, permitted, constants => by
      unfold ScopedTemplate.evalBody
      have part := permitted.parts _ List.mem_cons_self
      refine (Resolves.evalBody resolves given of part constants).bind fun value value' values => ?_
      refine (Lockstep.inlineText values).bind ?_
      rintro shown _ rfl
      exact .pure (alike_text _ _)
  | .ask config cache template inView env overrides, permitted, constants => by
      unfold ScopedTemplate.evalBody
      obtain ⟨here, others⟩ := List.forall_mem_cons.1 permitted.parts
      obtain ⟨there, fields⟩ := List.forall_mem_cons.1 others
      obtain ⟨first, more⟩ := List.forall_mem_append.1 constants
      obtain ⟨second, third⟩ := List.forall_mem_append.1 more
      have sources : p.Lockstep p.AlikeSource
          (if inView then pure call.env else ScopedTemplate.evalBody resolution call env)
          (if inView then pure call'.env else ScopedTemplate.evalBody resolution call' env) := by
        split
        · exact .pure given.env
        · exact (Resolves.evalBody resolves given env there second).mono fun _ _ => .term
      refine (Resolves.evalBody resolves given template here first).bind_of_grows (fun value => ?_)
        fun value value' values => ?_
      · have source : Grows
            (if inView then pure call'.env else ScopedTemplate.evalBody resolution call' env) := by
          split <;> infer_instance
        infer_instance
      refine sources.bind fun source source' sources => ?_
      refine (Resolves.evalFields resolves given overrides fields third).bind fun _ _ each => ?_
      exact resolves.resolveFor permitted.here values sources each.ofPairs
  | .block body, permitted, constants => by
      unfold ScopedTemplate.evalBody
      have part := permitted.parts _ List.mem_cons_self
      exact (Resolves.evalBody resolves given body part constants).within
  | .readView, permitted, _ => by
      unfold ScopedTemplate.evalBody
      exact .pure (given.env.alike permitted.here)
  | .readItem name, permitted, constants => by
      unfold ScopedTemplate.evalBody
      have part := permitted.parts _ List.mem_cons_self
      refine (Resolves.evalBody resolves given name part constants).bind fun name name' names => ?_
      exact resolves.readItem given.env names
  | .readOr name fallback, permitted, constants => by
      unfold ScopedTemplate.evalBody
      obtain ⟨here, there⟩ := List.forall_mem_cons.1 permitted.parts
      obtain ⟨first, second⟩ := List.forall_mem_append.1 constants
      refine (Resolves.evalBody resolves given name here first).bind fun name name' names => ?_
      refine (Resolves.evalBody resolves given fallback
        (List.forall_mem_singleton.1 there) second).bind fun spare spare' spares => ?_
      exact resolves.readItemOr given.env names spares
  | .readField name, permitted, _ => by
      unfold ScopedTemplate.evalBody
      exact resolves.readField given.env permitted.here
  | .readHas name, permitted, constants => by
      unfold ScopedTemplate.evalBody
      have part := permitted.parts _ List.mem_cons_self
      refine (Resolves.evalBody resolves given name part constants).bind fun name name' names => ?_
      refine (readHas given.env names).bind ?_
      rintro has _ rfl
      exact .pure (alike_bool _)
  | .readNames, _, _ => by
      unfold ScopedTemplate.evalBody
      exact (readNames given.env).bind fun names names' each => .makeList each
  | .readItems, _, _ => by
      unfold ScopedTemplate.evalBody
      exact (resolves.readItems given.env).bind fun entries entries' each => .makeMap each
  | .readSize, _, _ => by
      unfold ScopedTemplate.evalBody
      exact readSize given.env
  | .readText, permitted, _ => by
      unfold ScopedTemplate.evalBody
      rw [(given.env.alike permitted.here).display]
      exact .pure (alike_text _ _)
  | .setField name, _, _ => by
      unfold ScopedTemplate.evalBody
      exact write given.env name
  | .dropField name, _, _ => by
      unfold ScopedTemplate.evalBody
      exact write given.env name

theorem evalBodies (resolves : p.Resolves resolution) (given : p.AlikeCall values call call') :
    (bodies : List Body) → (∀ body ∈ bodies, body.Every (p.Permits values)) →
      (∀ t ∈ Body.constantsOfItems bodies, p.Alike t t) →
        p.Lockstep (List.Forall₂ p.Alike) (evalBodies resolution call bodies)
          (ScopedTemplate.evalBodies resolution call' bodies)
  | [], _, _ => by
      unfold ScopedTemplate.evalBodies
      exact .pure .nil
  | body :: rest, permitted, constants => by
      unfold ScopedTemplate.evalBodies
      obtain ⟨here, others⟩ := List.forall_mem_cons.1 permitted
      obtain ⟨first, more⟩ := List.forall_mem_append.1 constants
      refine (Resolves.evalBody resolves given body here first).bind fun value value' values => ?_
      refine (Resolves.evalBodies resolves given rest others more).bind fun _ _ each => ?_
      exact .pure (.cons values each)

theorem evalTexts (resolves : p.Resolves resolution) (given : p.AlikeCall values call call') :
    (bodies : List Body) → (∀ body ∈ bodies, body.Every (p.Permits values)) →
      (∀ t ∈ Body.constantsOfItems bodies, p.Alike t t) →
        p.Lockstep Eq (evalTexts resolution call bodies)
          (ScopedTemplate.evalTexts resolution call' bodies)
  | [], _, _ => by
      unfold ScopedTemplate.evalTexts
      exact .pure rfl
  | body :: rest, permitted, constants => by
      unfold ScopedTemplate.evalTexts
      obtain ⟨here, others⟩ := List.forall_mem_cons.1 permitted
      obtain ⟨first, more⟩ := List.forall_mem_append.1 constants
      refine (Resolves.evalBody resolves given body here first).bind fun value value' values => ?_
      refine (Lockstep.inlineText values).bind ?_
      rintro shown _ rfl
      refine (Resolves.evalTexts resolves given rest others more).bind ?_
      rintro texts _ rfl
      exact .pure rfl

theorem evalFields (resolves : p.Resolves resolution) (given : p.AlikeCall values call call') :
    (fields : List (Body × Body)) →
      (∀ body ∈ Body.partsOfFields fields, body.Every (p.Permits values)) →
        (∀ t ∈ Body.constantsOfFields fields, p.Alike t t) →
          p.Lockstep p.AlikeEntries (evalFields resolution call fields)
            (ScopedTemplate.evalFields resolution call' fields)
  | [], _, _ => by
      unfold ScopedTemplate.evalFields
      exact .pure .nil
  | (key, body) :: rest, permitted, constants => by
      unfold ScopedTemplate.evalFields
      rw [Body.partsOfFields, List.flatMap_cons] at permitted
      obtain ⟨here, others⟩ := List.forall_mem_append.1 permitted
      obtain ⟨here, there⟩ := List.forall_mem_cons.1 here
      obtain ⟨first, more⟩ := List.forall_mem_append.1 constants
      obtain ⟨second, third⟩ := List.forall_mem_append.1 more
      refine (Resolves.evalBody resolves given key here first).bind fun key key' keys => ?_
      refine (Resolves.evalBody resolves given body
        (List.forall_mem_singleton.1 there) second).bind fun value value' values => ?_
      rw [keys.checkKey]
      refine (Lockstep.ofResult (.of_eq rfl)).bind fun _ _ _ => ?_
      refine (Resolves.evalFields resolves given rest others third).bind fun _ _ each => ?_
      exact .pure (.cons ⟨keys, values⟩ each)

theorem evalSum (resolves : p.Resolves resolution) (given : p.AlikeCall values call call') :
    (bodies : List Body) → (∀ body ∈ bodies, body.Every (p.Permits values)) →
      (∀ t ∈ Body.constantsOfItems bodies, p.Alike t t) → (total : Int) →
        p.Lockstep Eq (evalSum resolution call bodies total)
          (ScopedTemplate.evalSum resolution call' bodies total)
  | [], _, _, total => by
      unfold ScopedTemplate.evalSum
      exact .pure rfl
  | body :: rest, permitted, constants, total => by
      unfold ScopedTemplate.evalSum
      obtain ⟨here, others⟩ := List.forall_mem_cons.1 permitted
      obtain ⟨first, more⟩ := List.forall_mem_append.1 constants
      refine (Resolves.evalBody resolves given body here first).bind_of_grows
        (fun value => ?_) fun value value' values => ?_
      · split <;> infer_instance
      rcases values.eq_or_notInt with rfl | ⟨noInt, noInt'⟩
      · split
        · exact Resolves.evalSum resolves given rest others more _
        · exact .fail _
      · split
        · exact absurd rfl (noInt _)
        · exact .fail _

end

end Resolves

/-! ## Calls -/

theorem call_lockstep {callee callee' : Term} (callees : p.Alike callee callee')
    {args args' : List Term} (each : List.Forall₂ p.Alike args args') :
    p.Lockstep p.Alike (Standard.call callee args) (Standard.call callee' args') := by
  have counted := each.length_eq
  have typed := callees.typeName
  unfold Standard.call
  cases callees.shape with
  | atom simple =>
      split
      · rcases each with _ | ⟨first, _ | ⟨second, others⟩⟩
        · exact .fail _
        · exact .ofResult (alike_of_sizeOf (sizeOf_alike first))
        · dsimp only
          rw [counted]
          exact .fail _
      · exact .ofResult (leastOf_alike each)
      · rw [text_alike each]
        refine .ofResult ?_
        cases found : Standard.text args' with
        | ok value =>
            obtain ⟨s, rfl⟩ := Standard.text_of_text found
            exact .ok (alike_text _ _)
        | error failure => exact .fail _
      · exact (Lockstep.ofResult (entries_alike each)).bind fun _ _ made => .makeCollection made
      · exact (Lockstep.ofResult (entries_alike each)).bind fun _ _ made => .makeCollection made
      · exact .fail _
  | _ => exact .throw (typed ▸ .same _)

theorem environmentOf_alike {args args' : List Term}
    (sources : List.Forall₂ p.AlikeSource args args') (callee : String) (bound : Nat) :
    p.AlikeResult p.AlikeSource (environmentOf callee bound args)
      (environmentOf callee bound args') := by
  have counted := sources.length_eq
  rcases sources with _ | ⟨first, _ | ⟨second, others⟩⟩
  · exact .fail _
  · exact .ok first
  · unfold environmentOf
    dsimp only
    rw [counted]
    exact .fail _

namespace Resolves

variable {resolution : Resolution}
  [below : ∀ resolver t env cache, Grows (resolution resolver t env cache)]

/--
Calls of one body go in lockstep.  A body that takes the arguments itself sees the function that was
called, and any other body sees the callable.
-/
theorem invokeCallable (resolves : p.Resolves resolution) {values : Bool} {kind : CallableKind}
    {stamp : Stamp} {label name : String} {body : Body} (permitted : body.Every (p.Permits values))
    (constants : ∀ t ∈ body.constants, p.Alike t t)
    (seen : (Term.callable kind stamp label name body).appliedBody? = none →
      p.Alike (.callable kind stamp label name body) (.callable kind stamp label name body))
    (self : p.Alike t t') {args args' : List Term}
    (each : (p.merges → values = true) → List.Forall₂ p.Alike args args')
    (sources : List.Forall₂ p.AlikeSource args args') :
    p.Lockstep p.Alike (invoke resolution (.callable kind stamp label name body) t args)
      (invoke resolution (.callable kind stamp label name body) t' args') := by
  have reading : ∀ {env env' : Term}, p.AlikeSource env env' →
      (Term.callable kind stamp label name body).appliedBody? = none →
        p.AlikeCall values ⟨.callable kind stamp label name body, stamp, [], env⟩
          ⟨.callable kind stamp label name body, stamp, [], env'⟩ :=
    fun envs other => ⟨seen other, rfl, fun _ => .nil, envs⟩
  have taking : p.AlikeCall values ⟨t, stamp, args, .null⟩ ⟨t', stamp, args', .null⟩ :=
    ⟨self, rfl, each, .term alike_null⟩
  cases kind with
  | accessor =>
      unfold ScopedTemplate.invoke
      refine (Lockstep.ofResult (environmentOf_alike sources name 1)).bind fun env env' envs => ?_
      exact resolves.evalBody (reading envs rfl) body permitted constants
  | method =>
      unfold ScopedTemplate.invoke
      refine (Lockstep.ofResult (environmentOf_alike sources _ 1)).bind fun env env' envs => ?_
      refine (Lockstep.recordCall stamp label).bind fun _ _ _ => ?_
      exact resolves.evalBody (reading envs rfl) body permitted constants
  | function =>
      unfold ScopedTemplate.invoke
      refine (Lockstep.ofResult (environmentOf_alike sources name 0)).bind fun env env' envs => ?_
      refine (Lockstep.recordCall stamp label).bind fun _ _ _ => ?_
      exact resolves.evalBody (reading envs rfl) body permitted constants
  | object | procedure =>
      unfold ScopedTemplate.invoke
      refine (Lockstep.recordCall stamp label).bind fun _ _ _ => ?_
      exact resolves.evalBody taking body permitted constants

/-- A call of what is alike goes in lockstep, if the calls of what a function calls do. -/
theorem invokeAlike (resolves : p.Resolves resolution) {callee callee' : Term}
    (callees : p.Alike callee callee') (self : p.Alike t t') {args args' : List Term}
    (each : List.Forall₂ p.Alike args args')
    (inside : ∀ stamp name deps doc inner inner', callee = .function stamp name deps doc inner →
      p.AlikeCallee inner inner' →
        p.Lockstep p.Alike (ScopedTemplate.invoke resolution inner callee args)
          (ScopedTemplate.invoke resolution inner' callee' args')) :
    p.Lockstep p.Alike (ScopedTemplate.invoke resolution callee t args)
      (ScopedTemplate.invoke resolution callee' t' args') := by
  have sources : List.Forall₂ p.AlikeSource args args' := each.imp fun _ _ => .term
  have called : p.Lockstep p.Alike (Standard.call callee args) (Standard.call callee' args') :=
    call_lockstep callees each
  cases callees.shape with
  | callable kind stamp label name permitted =>
      exact resolves.invokeCallable permitted (alike_callable.1 callees).2 (fun _ => callees) self
        (fun _ => each) sources
  | function stamp name deps doc inner =>
      unfold ScopedTemplate.invoke
      exact inside _ _ _ _ _ _ rfl (alike_function.1 callees)
  | atom simple =>
      cases callee with
      | list | tuple | map | set | point | function | callable | view => cases simple
      | _ => exact called
  | _ => exact called

/-- Calls of what functions call go in lockstep. -/
theorem invoke (resolves : p.Resolves resolution) {callee callee' : Term}
    (callees : p.AlikeCallee callee callee') {own own' : Term} (self : p.Alike own own')
    {args args' : List Term} (each : List.Forall₂ p.Alike args args') :
    p.Lockstep p.Alike (invoke resolution callee own args)
      (ScopedTemplate.invoke resolution callee' own' args') := by
  have sources : List.Forall₂ p.AlikeSource args args' := each.imp fun _ _ => .term
  rcases callees.cases_eq with alike | ⟨rfl, body, applied, permitted, constants⟩
  · refine resolves.invokeAlike alike self each ?_
    rintro stamp name deps doc inner inner' rfl inside
    exact resolves.invoke inside alike each
  · cases callee with
    | callable kind stamp label name body' =>
        have same : (Term.callable kind stamp label name body').appliedBody? = none → False := by
          intro other
          rw [applied] at other
          cases other
        cases kind with
        | object | procedure =>
            cases applied
            exact resolves.invokeCallable permitted constants (fun other => absurd other same) self
              (fun _ => each) sources
        | _ => cases applied
    | _ => cases applied
termination_by callee

end Resolves

end Pairing

end ScopedTemplate
