import ScopedTemplate.Proofs.Bindings.Scopes
import ScopedTemplate.Proofs.Resolver.Rewriting

/-!
# Layers do not matter

A resolution depends on the overrides and on the merge of the scopes, and not on how the scopes are
layered, as long as functions look at environments by their names and bindings.  So defaults at the
top of a template are the same as bindings of the caller.
-/

namespace ScopedTemplate

variable {ceiling : Int} {stack : Stack}

open Run

/-! ## What functions read -/

/--
A body looks at the names and the bindings of an environment, and does nothing else with the view of
it; `values` says that it is called with values.
-/
def Body.ReadsBindings (values : Bool) : Body → Prop
  | .arg _ => values = true
  | .readView | .readText => False
  | .readField name => ∀ shown stamp, View.member? name shown stamp = none
  | _ => True

/-- A term without views, whose functions look at names and bindings only. -/
structure Term.ReadsBindings (t : Term) : Prop where
  noView : t.OnlyViews fun _ _ => False
  bodies : t.OnlyBodies Body.ReadsBindings

theorem Term.readsBindings_atom {t : Term} (simple : t.isAtom = true) : t.ReadsBindings := by
  have noParts : t.isView = false ∧ t.parts = [] := by
    cases t with
    | list | tuple | map | set | point | function | callable | view => cases simple
    | _ => exact ⟨rfl, rfl⟩
  exact ⟨Term.onlyViews_of_parts noParts.1 noParts.2, Term.onlyBodies_atom simple⟩

theorem Term.readsBindings_map {kind : MapKind} {stamp : Option Stamp} {entries : Entries} :
    (Term.map kind stamp entries).ReadsBindings ↔ Entries.Each Term.ReadsBindings entries := by
  constructor
  · rintro ⟨views, bodies⟩
    have each := Entries.each_iff_terms.1 (Term.onlyViews_map.1 views)
    exact Entries.each_iff_terms.2 fun t member => ⟨each t member, bodies.pieces t member⟩
  · intro each
    refine ⟨Term.onlyViews_map.2 (each.mono fun _ reads => reads.noView), .node nofun ?_⟩
    exact fun t member => (Entries.each_iff_terms.1 each t member).bodies

/-! ## Ends -/

/-- The same calls so far, and the same hits and misses in a table. -/
structure World.SameCounts (id : CacheId) (world world' : World) : Prop where
  calls : world.calls = world'.calls
  hits : (world.cache id).hits = (world'.cache id).hits
  misses : (world.cache id).misses = (world'.cache id).misses

/-- Two runs end with one value, or with failures that are the same, and with the same counts. -/
inductive Run.SameEnd (id : CacheId) (same : Failure → Failure → Prop) :
    EStateM.Result Failure World Term → EStateM.Result Failure World Term → Prop where
  | ok {value : Term} {world world' : World} (counts : World.SameCounts id world world') :
      SameEnd id same (.ok value world) (.ok value world')
  | error {failure failure' : Failure} {world world' : World} (failures : same failure failure')
      (counts : World.SameCounts id world world') :
      SameEnd id same (.error failure world) (.error failure' world')

/-- Failures are equal, but for the bindings that one about references left over shows. -/
inductive Failure.SameReport : Failure → Failure → Prop where
  | same (failure : Failure) : SameReport failure failure
  | unresolved (refs : List String) (shown shown' : Snapshot) :
      SameReport (.unresolved refs shown) (.unresolved refs shown')

namespace Pairing

variable {p : Pairing} {t t' : Term} {world world' : World}

/-- If views are read from only, terms that are alike are equal. -/
theorem Alike.eq (alike : p.Alike t t') (merges : p.merges) : t = t' := by
  refine alike.eq_of_pieces (P := fun _ => True) trivial (fun _ _ _ _ => trivial) ?_
  intro s s' both isView _
  cases both.shape with
  | view _ kept => exact kept merges
  | atom simple =>
      cases s with
      | view => cases simple
      | _ => cases isView
  | _ => cases isView

theorem AlikeFailure.eq {failure failure' : Failure} (alike : p.AlikeFailure failure failure')
    (merges : p.merges) : failure = failure' := by
  cases alike with
  | same => rfl
  | missingKey keys => rw [keys.eq merges]

theorem AlikeWorld.sameCounts (alike : p.AlikeWorld world world') (id : CacheId) :
    World.SameCounts id world world' :=
  ⟨alike.calls, (alike.cache id).hits, (alike.cache id).misses⟩

/-- Environments with one merge are alike if layers do not matter. -/
theorem AlikeEnv.of_merged {env env' : Environment Term} (merges : p.merges)
    (layered : env.Layered) (layered' : env'.Layered) (overrides : env.overrides = env'.overrides)
    (merged : env.merged = env'.merged) (overridden : Entries.Each p.Admits env.overrides)
    (bound : Entries.Each p.Admits env.merged) : p.AlikeEnv env env' where
  overrides := overrides ▸ alikeEntries_self overridden
  merged := merged ▸ alikeEntries_self bound
  bound := by
    intro name name' names
    rw [← names.eq merges, layered.bound?_eq, layered'.bound?_eq, ← merged]
    exact (alikeEntries_self bound).find? (names.eq merges ▸ names)
  blank := by rw [← layered.merged_eq_nil, merged, layered'.merged_eq_nil]
  layers kept := absurd merges kept

def layering (cache : CacheId) : Pairing where
  cache := cache
  shared := True
  merges := True
  diverges := False
  admits _ _ := True
  enters _ _ _ := trivial
  classifier := .standard
  caught := 0

theorem admits_layering (cache : CacheId) (reads : t.ReadsBindings) :
    (layering cache).Admits t := by
  refine ⟨reads.noView.mono fun _ _ impossible => impossible.elim, reads.bodies.mono ?_⟩
  intro values body reads
  cases body with
  | arg index => exact fun _ => reads
  | readView => exact reads.elim
  | readText => exact reads.elim
  | readField name => exact fun _ => reads
  | attempt body => exact not_false
  | ask => exact fun _ _ _ _ _ => trivial
  | _ => trivial

theorem Ends.sameEnd {cache : CacheId} {result result' : EStateM.Result Failure World Term}
    (ends : (layering cache).Ends (layering cache).Alike result result') (id : CacheId) :
    SameEnd id Eq result result' := by
  cases ends with
  | ok rel alike =>
      cases rel.eq trivial
      exact .ok (alike.sameCounts id)
  | error failures alike =>
      cases failures.eq trivial
      exact .error rfl (alike.sameCounts id)
  | refused diverges => exact diverges.elim
  | strayed diverges => exact diverges.elim

end Pairing

/-! ## Resolutions under layers -/

theorem Environment.Each.merged {P : Term → Prop} {env : Environment Term} (each : env.Each P) :
    Entries.Each P env.merged := by
  obtain ⟨_, scopes⟩ := Environment.each_iff.1 each
  unfold Environment.merged
  generalize env.scopes = layers at scopes
  cases layers with
  | nil => exact Entries.each_nil
  | cons outermost inner =>
      obtain ⟨first, others⟩ := List.forall_mem_cons.1 scopes
      exact Environment.each_foldl_update first others

namespace Resolver

variable {resolver : Resolver Term} {env env' : Environment Term} {t : Term} {cache : CacheId}
  {world : World}

open Pairing

/-- What two resolutions read and begin with, whichever layers they have. -/
structure Readable (resolver : Resolver Term) (env : Environment Term) (t : Term) (world : World) :
    Prop where
  term : t.ReadsBindings
  bindings : env.Each Term.ReadsBindings
  replacements : ∀ t ∈ resolver.replacements, t.ReadsBindings
  stored : ∀ table ∈ world.caches, ∀ entry ∈ table.entries, entry.2.ReadsBindings

theorem Readable.viewed (readable : resolver.Readable env t world) (layered : env.Layered)
    (layered' : env'.Layered) (overrides : env.overrides = env'.overrides)
    (merged : env.merged = env'.merged) :
    (layering cache).Viewed cache resolver resolver env env' := by
  have each := readable.bindings.mono fun t reads => admits_layering cache reads
  refine ⟨.refl _ _ _, fun _ => trivial, fun t member => ?_, ?_⟩
  · exact (admits_layering _ (readable.replacements t member)).alike
  · exact .of_merged trivial layered layered' overrides merged (Environment.each_iff.1 each).1
      each.merged

/-- Resolutions under environments with one merge end in the same way. -/
theorem sameEnd_of_merged (levels : Nat) (readable : resolver.Readable env t world)
    (layered : env.Layered) (layered' : env'.Layered)
    (overrides : env.overrides = env'.overrides) (merged : env.merged = env'.merged)
    (inside : cache < world.caches.length) (new : world.cache cache = .empty) :
    SameEnd cache Eq (resolveTerm ceiling levels resolver t env cache world)
      (resolveTerm ceiling levels resolver t env' cache world) := by
  have worlds : (layering cache).AlikeWorld world world := by
    refine alikeWorld_self inside (congrArg Cache.events new) ?_ (fun _ => trivial)
      (Nat.zero_le _)
    exact fun table member entry among => admits_layering _ (readable.stored table member entry among)
  exact (resolves_resolveTerm _ levels (readable.viewed layered layered' overrides merged)
    (admits_layering _ readable.term).alike world world worlds).sameEnd cache

/-! ## Defaults at the top -/

section Defaults

variable {entries bindings defaults overrides : Entries} {given : Option CacheId}
  {resolution : Resolution}

theorem Entries.erase_insert (entries : Entries) (key value : Term)
    (hashable : key.sameKey key = true) :
    Entries.erase (Entries.insert entries key value) key = Entries.erase entries key := by
  unfold Entries.erase
  induction entries with
  | nil => simp [Entries.insert, hashable]
  | cons entry rest ih =>
      rw [Entries.insert_cons]
      split
      · next same => simp [same]
      · next different => simp [different, ih]

theorem makeMap_run (entries : Entries) (world : World) : ∃ stamp next, ∀ world' : World,
    world'.nextStamp = world.nextStamp →
      makeMap entries world' = .ok (.map .plain stamp entries) { world' with nextStamp := next } := by
  unfold makeMap collectionStamp
  split
  · refine ⟨some world.nextStamp, world.nextStamp + 1, fun world' same => ?_⟩
    rw [← same]
    rfl
  · refine ⟨none, world.nextStamp, fun world' same => ?_⟩
    rw [← same]
    rfl

/-- A template may be made before there is a table for it, or after. -/
theorem makeMap_resolveLeniently (entries : Entries) (t : Term) (env : Environment Term)
    (given : Option CacheId) (world : World) :
    (makeMap entries >>= fun rest => resolveLeniently resolution resolver rest env given) world =
      resolveLeniently ⟨resolution.ceiling, fun resolver _ env cache =>
        makeMap entries >>= fun rest => resolution resolver rest env cache⟩ resolver t env given
          world := by
  obtain ⟨stamp, next, made⟩ := makeMap_run entries world
  have inTable : ∀ id (world' : World), world'.nextStamp = world.nextStamp →
      resolveIn ⟨resolution.ceiling, fun resolver _ env cache =>
        makeMap entries >>= fun rest => resolution resolver rest env cache⟩ resolver t env id world' =
      resolveIn resolution resolver (.map .plain stamp entries) env id
        { world' with nextStamp := next } := by
    intro id world' same
    unfold resolveIn reportEndless recover
    simp only [bind_assoc]
    simp only [Bind.bind, EStateM.bind, made world' same]
  simp only [Bind.bind, EStateM.bind, made world rfl]
  cases found : given <|> world.active with
  | some id =>
      have found' : (given <|> { world with nextStamp := next }.active) = some id := found
      rw [resolveLeniently_given found', resolveLeniently_given found]
      exact (inTable id world rfl).symm
  | none =>
      have found' : (given <|> { world with nextStamp := next }.active) = none := found
      rw [resolveLeniently_own found', resolveLeniently_own found]
      unfold andThen
      rw [← inTable world.caches.length { world with caches := world.caches ++ [.empty] } rfl]
      rfl

/-- Defaults at the top do what bindings of the caller do. -/
theorem defaults_lockstep {resolver : Resolver Term} (rules : resolver.rules = Rule.standard)
    (enough : 3 ≤ resolver.config.maxDepth)
    (looked : resolver.classifier.classify (.map .plain none []) = .ok .mapping)
    (entered : Entries.Each Term.ReadsBindings entries)
    (bound : Entries.Each Term.ReadsBindings bindings)
    (defaulted : Entries.Each Term.ReadsBindings defaults)
    (overridden : Entries.Each Term.ReadsBindings overrides)
    (distinct : Entries.Distinct bindings) (distinct' : Entries.Distinct defaults)
    (stamp : Option Stamp) (levels : Nat) :
    (layering cache).Lockstep (layering cache).Alike
      (resolveTerm ceiling (levels + 1) resolver (.map .plain stamp
        (Entries.insert entries resolver.defaultsKey (.map .plain none defaults)))
          (.ofBindings bindings overrides) cache)
      (makeMap (Entries.erase entries resolver.defaultsKey) >>= fun rest =>
        resolveTerm ceiling (levels + 1) resolver rest
          (.ofBindings (Entries.update bindings defaults) overrides) cache) := by
  obtain ⟨steps, deep⟩ := Nat.exists_eq_add_of_le' enough
  have hashable : resolver.defaultsKey.sameKey resolver.defaultsKey = true := by
    unfold defaultsKey
    simp
  have found : Entries.find? (Entries.insert entries resolver.defaultsKey
      (.map .plain none defaults)) resolver.defaultsKey = some (.map .plain none defaults) := by
    rw [Entries.find?_insert, if_pos hashable]
  have classified : ∀ stamp entries, resolver.classifier.classify (.map .plain stamp entries) =
      .ok .mapping :=
    fun stamp entries => (resolver.classifier.classify_plainMap _ _ _ _).trans looked
  have absent : Entries.has (Entries.erase entries resolver.defaultsKey) resolver.defaultsKey =
      false := by
    rw [Entries.has_eq_any, List.any_eq_false]
    intro entry member
    simpa using (List.mem_filter.1 member).2
  have admits : ∀ {entries : Entries}, Entries.Each Term.ReadsBindings entries →
      Entries.Each (layering cache).Admits entries :=
    fun each => each.mono fun t reads => admits_layering _ reads
  have viewed : (layering cache).Viewed cache resolver resolver
      ((Environment.ofBindings bindings overrides).child defaults)
      (.ofBindings (Entries.update bindings defaults) overrides) := by
    refine ⟨.refl _ _ _, fun _ => trivial, fun t member => ?_, ?_⟩
    · unfold replacements at member
      rw [rules] at member
      exact absurd member List.not_mem_nil
    · have layered := Environment.layered_ofBindings distinct overrides
      have merge : ((Environment.ofBindings bindings overrides).child defaults).merged =
          Entries.update bindings defaults := by
        rw [Environment.merged_child_eq distinct', Environment.merged_ofBindings]
      have above : ((Environment.ofBindings bindings overrides).child defaults).overrides =
          overrides := by
        unfold Environment.child
        split <;> rfl
      refine .of_merged trivial (layered.child distinct')
        (Environment.layered_ofBindings (distinct.update defaults) overrides) above ?_ ?_ ?_
      · rw [merge, Environment.merged_ofBindings]
      · rw [above]
        exact admits overridden
      · rw [merge]
        exact (admits bound).update (admits defaulted)
  rw [resolveTerm_succ]
  unfold resolveNode
  rw [classified, deep]
  change (layering cache).Lockstep _ (resolver.reduce _ cache (steps + 2 + 1) _) _
  rw [reduce_scoped rules found looked, Entries.erase_insert _ _ _ hashable]
  unfold makeMap
  simp only [bind_assoc, pure_bind]
  refine .afterOwnLog ?_
  refine (Lockstep.collectionStamp rfl).bind ?_
  rintro stamp' _ rfl
  rw [resolveTerm_succ]
  unfold resolveNode
  rw [classified, deep]
  change (layering cache).Lockstep _ _ (resolver.reduce _ cache (steps + 1 + 2) _)
  rw [reduce_unscoped rules absent (steps + 1) steps]
  have resolves : (layering cache).Resolves (resolveTerm ceiling levels) := resolves_resolveTerm _ levels
  refine resolves.reduce (steps + 2) ⟨?_, rfl, viewed, rfl⟩
  exact alike_map.2 (alikeEntries_self ((admits entered).erase _))

/-- What is refused at once with a new table leaves the counts as they are. -/
theorem resolveLeniently_refused {failure : Failure}
    (refuses : ∀ id world, resolution resolver t env id world = .error failure world)
    (new : ∀ id, (given <|> world.active) = some id →
      id < world.caches.length ∧ world.cache id = .empty) :
    ∃ world', resolveLeniently resolution resolver t env given world =
        .error (if failure.isExhaustion then .endless resolution.ceiling [] else failure) world' ∧
      World.SameCounts (world.tableFor given) world world' := by
  have inTable : ∀ id world, world.cache id = .empty → resolveIn resolution resolver t env id world =
      .error (if failure.isExhaustion then .endless resolution.ceiling [] else failure) world := by
    intro id world empty
    have chain : Run.chain id world = .ok [] world := by
      have found : Run.cache id world = .ok .empty world := congrArg (EStateM.Result.ok · world) empty
      simp only [Run.chain, bind, EStateM.bind, found]
      rfl
    unfold resolveIn reportEndless recover
    simp only [Bind.bind, EStateM.bind, refuses]
    cases failure.isExhaustion with
    | false => rfl
    | true =>
        change EStateM.bind (Run.chain id) _ world = _
        simp only [EStateM.bind, chain]
        rfl
  unfold World.tableFor
  cases found : given <|> world.active with
  | some id =>
      exact ⟨world, (resolveLeniently_given found).trans (inTable id world (new id found).2),
        rfl, rfl, rfl⟩
  | none =>
      rw [resolveLeniently_own found]
      unfold andThen
      rw [inTable _ _ (by simp [World.cache])]
      refine ⟨_, rfl, rfl, ?_, ?_⟩ <;> simp [World.cache, World.setCache, Cache.empty, Cache.close]

/-- A result is accepted, or refused for the same under all environments that can be shown. -/
theorem checkResult_cases (resolver : Resolver Term) (value : Term) :
    (∀ env, resolver.checkResult env value = pure ()) ∨
    (∃ failure, ∀ env, resolver.checkResult env value = throw failure) ∨
    resolver.config.strict = true ∧ ∃ refs, ∀ env,
      Term.areWritableEntries env.flatten = true →
        resolver.checkResult env value = throw (.unresolved refs env.snapshot) := by
  unfold checkResult
  cases resolver.config.strict with
  | false => exact .inl fun _ => rfl
  | true =>
      cases resolver.classifier.check value with
      | error failure => exact .inr (.inl ⟨failure, fun _ => rfl⟩)
      | ok _ =>
          cases value.referenceNames resolver.classifier resolver.config.defaultsKey with
          | nil => exact .inl fun _ => rfl
          | cons first rest =>
              refine .inr (.inr ⟨rfl, first :: rest, fun env writable => ?_⟩)
              unfold Run.snapshot
              rw [if_pos rfl, if_pos writable]
              rfl

/-- A result is checked under environments that can be shown. -/
theorem sameEnd_resolveWith {resolution' : Resolution} {t' : Term} {world' : World} {id : CacheId}
    (same : SameEnd id Eq (resolveLeniently resolution resolver t env given world)
      (resolveLeniently resolution' resolver t' env' given world'))
    (shown : resolver.config.strict = true → Term.areWritableEntries env.flatten = true)
    (shown' : resolver.config.strict = true → Term.areWritableEntries env'.flatten = true) :
    SameEnd id Failure.SameReport (resolveWith resolution resolver t env given world)
      (resolveWith resolution' resolver t' env' given world') := by
  unfold resolveWith
  simp only [Bind.bind, EStateM.bind]
  generalize resolveLeniently resolution resolver t env given world = result,
    resolveLeniently resolution' resolver t' env' given world' = result' at same
  cases same with
  | error failures counts => exact .error (failures ▸ .same _) counts
  | @ok value done done' counts =>
      dsimp only
      rcases resolver.checkResult_cases value with
        accepts | ⟨failure, refuses⟩ | ⟨strict, refs, refuses⟩
      · rw [accepts, accepts]
        exact .ok counts
      · rw [refuses, refuses]
        exact .error (.same failure) counts
      · rw [refuses env (shown strict), refuses env' (shown' strict)]
        exact .error (.unresolved refs _ _) counts

/-- Where a mapping is refused when it is classified, every mapping is. -/
theorem resolveTerm_refused {failure : Failure}
    (checked : resolver.classifier.check (.map .plain none []) = .error failure)
    (stamp : Option Stamp) (entries : Entries) (env : Environment Term) (levels : Nat)
    (id : CacheId) (world : World) :
    resolveTerm ceiling (levels + 1) resolver (.map .plain stamp entries) env id world =
      .error failure world := by
  have classified : resolver.classifier.classify (.map .plain stamp entries) = .error failure := by
    rw [resolver.classifier.classify_plainMap stamp none entries []]
    unfold Classifier.classify
    rw [checked]
    rfl
  rw [resolveTerm_succ]
  unfold resolveNode
  rw [classified]
  rfl

/-- Two terms that are refused for the same end alike. -/
theorem sameEnd_refused {t' : Term} {env' : Environment Term} {failure : Failure}
    (refuses : ∀ id world, resolution resolver t env id world = .error failure world)
    (refuses' : ∀ id world, resolution resolver t' env' id world = .error failure world)
    (new : ∀ id, (given <|> world.active) = some id →
      id < world.caches.length ∧ world.cache id = .empty) (next : Stamp) :
    SameEnd (world.tableFor given) Eq (resolveLeniently resolution resolver t env given world)
      (resolveLeniently resolution resolver t' env' given { world with nextStamp := next }) := by
  obtain ⟨done, ends, counts⟩ := resolveLeniently_refused refuses new
  have new' : ∀ id, (given <|> World.active { world with nextStamp := next }) = some id →
      id < world.caches.length ∧ World.cache { world with nextStamp := next } id = .empty := new
  obtain ⟨done', ends', counts'⟩ := resolveLeniently_refused refuses' new'
  rw [ends, ends']
  exact .error rfl ⟨counts.calls.symm.trans counts'.calls, counts.hits.symm.trans counts'.hits,
    counts.misses.symm.trans counts'.misses⟩

/-- A template with defaults ends like its rest under bindings that the defaults update. -/
theorem sameEnd_defaults (rules : resolver.rules = Rule.standard)
    (enough : 3 ≤ resolver.config.maxDepth)
    (looked : resolver.classifier.isLeaf (.map .plain none []) = false)
    (entered : Entries.Each Term.ReadsBindings entries)
    (bound : Entries.Each Term.ReadsBindings bindings)
    (defaulted : Entries.Each Term.ReadsBindings defaults)
    (overridden : Entries.Each Term.ReadsBindings overrides)
    (distinct : Entries.Distinct bindings) (distinct' : Entries.Distinct defaults)
    (new : ∀ id, (given <|> world.active) = some id →
      id < world.caches.length ∧ world.cache id = .empty)
    (stored : ∀ table ∈ world.caches, ∀ entry ∈ table.entries, entry.2.ReadsBindings)
    (stamp : Option Stamp)
    (shown : resolver.config.strict = true →
      Term.areWritableEntries (Environment.ofBindings bindings overrides).flatten = true ∧
        Term.areWritableEntries (Environment.ofBindings (Entries.update bindings defaults)
          overrides).flatten = true) :
    SameEnd (world.tableFor given) Failure.SameReport
      (resolver.resolve (.map .plain stamp
        (Entries.insert entries resolver.defaultsKey (.map .plain none defaults)))
        (.ofBindings bindings overrides) given stack world)
      ((makeMap (Entries.erase entries resolver.defaultsKey) >>= fun rest =>
        resolver.resolve rest (.ofBindings (Entries.update bindings defaults) overrides) given stack)
          world) := by
  obtain ⟨made, next, makes⟩ := makeMap_run (Entries.erase entries resolver.defaultsKey) world
  have second : (makeMap (Entries.erase entries resolver.defaultsKey) >>= fun rest =>
      resolver.resolve rest (.ofBindings (Entries.update bindings defaults) overrides) given stack) world =
        resolver.resolve (.map .plain made (Entries.erase entries resolver.defaultsKey))
          (.ofBindings (Entries.update bindings defaults) overrides) given stack
          { world with nextStamp := next } := by
    simp only [Bind.bind, EStateM.bind, makes world rfl]
  rw [second]
  refine sameEnd_resolveWith ?_ (fun strict => (shown strict).1) fun strict => (shown strict).2
  have kind : resolver.classifier.kind (.map .plain none []) = .mapping := by
    simp [Classifier.kind, looked, Term.isRemoved, Classifier.isRef, Classifier.shapeKind]
  obtain ⟨levels, ceiling⟩ := stack
  cases levels with
  | zero => exact sameEnd_refused (fun _ _ => rfl) (fun _ _ => rfl) new next
  | succ levels =>
  cases checked : resolver.classifier.check (.map .plain none []) with
  | ok _ =>
      have classified : resolver.classifier.classify (.map .plain none []) = .ok .mapping :=
        Classifier.classify_eq_ok.2 ⟨fun _ => checked, kind⟩
      let makesFirst : Resolution := ⟨ceiling, fun resolver _ env cache =>
        makeMap (Entries.erase entries resolver.defaultsKey) >>= fun rest =>
          resolveTerm ceiling (levels + 1) resolver rest env cache⟩
      have both : (layering (world.tableFor given)).Ends (layering (world.tableFor given)).Alike
          (resolveLeniently (resolveTerm ceiling (levels + 1)) resolver (.map .plain stamp
            (Entries.insert entries resolver.defaultsKey (.map .plain none defaults)))
            (.ofBindings bindings overrides) given world)
          (resolveLeniently makesFirst resolver .null
            (.ofBindings (Entries.update bindings defaults) overrides) given world) :=
        ends_resolveLeniently rfl new
          (fun table member entry among => admits_layering _ (stored table member entry among))
          (fun _ => trivial) (Nat.zero_le _) rfl
          (defaults_lockstep rules enough classified entered bound defaulted overridden distinct
            distinct' stamp levels)
      have before : resolveLeniently makesFirst resolver .null
          (.ofBindings (Entries.update bindings defaults) overrides) given world =
            resolveLeniently (resolveTerm ceiling (levels + 1)) resolver
              (.map .plain made (Entries.erase entries resolver.defaultsKey))
              (.ofBindings (Entries.update bindings defaults) overrides) given
              { world with nextStamp := next } := by
        refine (makeMap_resolveLeniently _ .null _ _ _).symm.trans ?_
        simp only [Bind.bind, EStateM.bind, makes world rfl]
      rw [← before]
      exact both.sameEnd _
  | error failure =>
      exact sameEnd_refused (resolveTerm_refused checked stamp _ _ levels)
        (resolveTerm_refused checked made _ _ levels) new next

theorem scopeOr_map {kind : MapKind} {fault : TypeFault} :
    (Term.map kind stamp entries).scopeOr fault = .ok entries := by
  unfold Term.scopeOr Term.isFalsy
  cases entries <;> rfl

theorem reads_of_scopeOr {scope : Term} {fault : TypeFault} (reads : scope.ReadsBindings)
    (found : scope.scopeOr fault = .ok entries) : Entries.Each Term.ReadsBindings entries := by
  unfold Term.scopeOr at found
  split at found
  · cases found
    exact Entries.each_nil
  · cases scope with
    | map kind stamp entries =>
        cases found
        exact Term.readsBindings_map.1 reads
    | _ => cases found

end Defaults

/-- A template with a scope of defaults at its top, or none, and a mapping with more of them. -/
structure Defaults (template mapping : Term) (entries existing more : Entries) : Prop where
  isTemplate : template.entries? = some entries
  isScope : ((Entries.find? entries Term.defaultsKey).getD .null).scopeOr
    (.defaultsNotMapping Config.standardDefaultsKey) = .ok existing
  isMapping : mapping.entries? = some more
  distinct : Entries.Distinct existing

/-- The built-in rules with enough steps to enter a scope under the usual key. -/
structure EntersDefaults (resolver : Resolver Term) : Prop where
  rules : resolver.rules = Rule.standard
  steps : 3 ≤ resolver.config.maxDepth
  key : resolver.config.defaultsKey = Config.standardDefaultsKey
  looked : resolver.classifier.isLeaf (.map .plain none []) = false

/--
Layers do not matter: resolutions under environments with the same overrides and the same merge of
scopes end in the same way.  So a template with defaults ends like the rest of it under the bindings
of the caller, updated by the defaults that the template had and then by those that were added.
-/
theorem layers_irrelevant (stack : Stack) (resolver : Resolver Term) (world : World) :
    (∀ env env' t cache levels, resolver.Readable env t world → env.Layered → env'.Layered →
      env.overrides = env'.overrides → env.merged = env'.merged →
        cache < world.caches.length → world.cache cache = .empty →
          SameEnd cache Eq (resolveTerm stack.ceiling levels resolver t env cache world)
            (resolveTerm stack.ceiling levels resolver t env' cache world)) ∧
    ∀ template mapping entries existing more bindings overrides given, resolver.EntersDefaults →
      Defaults template mapping entries existing more → Entries.Distinct bindings →
        resolver.Readable (.ofBindings bindings overrides) template world →
        mapping.ReadsBindings →
        (∀ id, (given <|> world.active) = some id →
          id < world.caches.length ∧ world.cache id = .empty) →
        (resolver.config.strict = true →
          Term.areWritableEntries (Environment.ofBindings bindings overrides).flatten = true ∧
            Term.areWritableEntries (Environment.ofBindings
              (Entries.update (Entries.update bindings existing) more) overrides).flatten = true) →
        ∃ defaulted, template.withDefaults mapping [] = .ok defaulted ∧
          ∀ stamp, SameEnd (world.tableFor given) Failure.SameReport
            (resolver.resolve (.map .plain stamp defaulted) (.ofBindings bindings overrides) given stack
              world)
            ((makeMap (Entries.erase entries Term.defaultsKey) >>= fun rest =>
              resolver.resolve rest (.ofBindings
                (Entries.update (Entries.update bindings existing) more) overrides) given stack)
              world) := by
  refine ⟨?_, ?_⟩
  · intro env env' t cache levels readable layered layered' overrides merged inside new
    exact sameEnd_of_merged levels readable layered layered' overrides merged inside new
  · intro template mapping entries existing more bindings overrides given enters defaults distinct
      readable reads new shown
    obtain ⟨isTemplate, isScope, isMapping, distinct'⟩ := defaults
    have key : resolver.defaultsKey = Term.defaultsKey := congrArg Term.str enters.key
    have readsEntries : Entries.Each Term.ReadsBindings entries := by
      cases template with
      | map kind stamp entries =>
          cases isTemplate
          exact Term.readsBindings_map.1 readable.term
      | _ => cases isTemplate
    have readsMore : Entries.Each Term.ReadsBindings more := by
      cases mapping with
      | map kind stamp entries =>
          cases isMapping
          exact Term.readsBindings_map.1 reads
      | _ => cases isMapping
    have readsExisting : Entries.Each Term.ReadsBindings existing := by
      refine reads_of_scopeOr ?_ isScope
      cases found : Entries.find? entries Term.defaultsKey with
      | none => exact ⟨Term.onlyViews_null, .node nofun fun _ member => absurd member List.not_mem_nil⟩
      | some scope => exact readsEntries.find? found
    obtain ⟨overridden, scopes⟩ := Environment.each_iff.1 readable.bindings
    have bound : Entries.Each Term.ReadsBindings bindings := by
      have each := readable.bindings.merged
      rwa [Environment.merged_ofBindings] at each
    refine ⟨Entries.insert entries Term.defaultsKey
      (.map .plain none (Entries.update existing more)), ?_, fun stamp => ?_⟩
    · cases mapping with
      | map kind stamp entries =>
          cases isMapping
          unfold Term.withDefaults
          rw [isTemplate]
          dsimp only
          rw [isScope, scopeOr_map]
          rfl
      | _ => cases isMapping
    · rw [← Entries.update_update distinct'] at shown ⊢
      rw [← key]
      exact sameEnd_defaults enters.rules enters.steps enters.looked readsEntries bound
        (readsExisting.update readsMore) overridden distinct (distinct'.update more) new
        readable.stored stamp shown

/-- A function that reads a binding by its name, under two scopes and under their merge. -/
theorem reader_layers_irrelevant :
    SameEnd 0 Eq
      (resolveTerm 20000 9 standard (.callable .method 0 "f" "f" (.readItem (.const (.str "B"))))
        ⟨[[(.str "A", .int 1)], [(.str "B", .ref "A")]], []⟩ 0 { World.empty with caches := [.empty] })
      (resolveTerm 20000 9 standard (.callable .method 0 "f" "f" (.readItem (.const (.str "B"))))
        ⟨[[(.str "A", .int 1), (.str "B", .ref "A")]], []⟩ 0 { World.empty with caches := [.empty] }) ∧
    ∃ defaulted, (Term.map .plain none [(.str "v", .ref "A")]).withDefaults
        (.map .plain none [(.str "A", .int 2)]) [] = .ok defaulted ∧
      ∀ stamp, SameEnd 1 Failure.SameReport
        (standard.resolve (.map .plain stamp defaulted) (.ofBindings [(.str "A", .int 1)] []) none .usual
          { World.empty with caches := [.empty] })
        ((makeMap [(.str "v", .ref "A")] >>= fun rest =>
          standard.resolve rest (.ofBindings [(.str "A", .int 2)] []) none .usual)
            { World.empty with caches := [.empty] }) := by
  have text : ∀ s, (Term.str s).ReadsBindings := fun _ => Term.readsBindings_atom rfl
  have reference : (Term.ref "A").ReadsBindings := Term.readsBindings_atom rfl
  have number : ∀ n, (Term.int n).ReadsBindings := fun _ => Term.readsBindings_atom rfl
  have constant : ∀ body ∈ (Body.const (.str "B")).parts,
      Body.Every (Body.ReadsBindings false) body := fun _ member => absurd member List.not_mem_nil
  have reader : (Term.callable .method 0 "f" "f" (.readItem (.const (.str "B")))).ReadsBindings := by
    refine ⟨Term.onlyViews_callable.2 (by simp [Body.constants]), .node ?_ ?_⟩
    · rintro _ _ ⟨⟩
      exact .intro trivial (List.forall_mem_singleton.2 (.intro trivial constant))
    · exact List.forall_mem_singleton.2 (text "B").bodies
  have stored : ∀ table ∈ [Cache.empty], ∀ entry ∈ table.entries, entry.2.ReadsBindings :=
    List.forall_mem_singleton.2 fun _ member => absurd member List.not_mem_nil
  have noRules : ∀ t ∈ standard.replacements, t.ReadsBindings :=
    fun _ member => absurd member List.not_mem_nil
  refine ⟨(layers_irrelevant .usual standard _).1 _ _ _ 0 9 ⟨reader, ?_, noRules, stored⟩ ?_ ?_ rfl rfl
    (by decide) rfl, ?_⟩
  · simp [Environment.each_iff, text, reference, number]
  · exact ⟨by simp [Entries.Distinct], by simp⟩
  · exact ⟨by simp [Entries.Distinct], by simp⟩
  · have ends := (layers_irrelevant .usual standard { World.empty with caches := [.empty] }).2
      (.map .plain none [(.str "v", .ref "A")]) (.map .plain none [(.str "A", .int 2)])
      [(.str "v", .ref "A")] [] [(.str "A", .int 2)] [(.str "A", .int 1)] [] none
      ⟨rfl, by decide, rfl, rfl⟩ ⟨rfl, rfl, rfl, by simp [Entries.Distinct]⟩
      (by simp [Entries.Distinct]) ⟨?_, ?_, noRules, stored⟩ ?_ (fun _ found => by cases found)
      (fun strict => by cases strict)
    · exact ends
    · exact Term.readsBindings_map.2 (by simp [text, reference])
    · exact Environment.each_ofBindings (by simp [text, number]) Entries.each_nil
    · exact Term.readsBindings_map.2 (by simp [text, number])

/--
What layers show where more is read than bindings: a function that lists the names sees the order of
the scopes, one that hands its view on hands on the layers, a template is a leaf if plain mappings
are, and an error shows the bindings of the caller only.
-/
theorem layers_shown :
    ((∀ name, Entries.find? (Environment.mk [[(.str "A", .int 1)], [(.str "B", .int 2)]] []).merged
        name = Entries.find? (Environment.mk [[(.str "B", .int 2)], [(.str "A", .int 1)]] []).merged
          name) ∧
      ∃ done done',
        resolveTerm 20000 9 standard (.callable .method 0 "f" "f" .readNames)
          ⟨[[(.str "A", .int 1)], [(.str "B", .int 2)]], []⟩ 0
          { World.empty with caches := [.empty] } =
            .ok (.list .plain none [.str "A", .str "B"]) done ∧
        resolveTerm 20000 9 standard (.callable .method 0 "f" "f" .readNames)
          ⟨[[(.str "B", .int 2)], [(.str "A", .int 1)]], []⟩ 0
          { World.empty with caches := [.empty] } =
            .ok (.list .plain none [.str "B", .str "A"]) done') ∧
    (∃ done done',
      resolveTerm 20000 9 standard (.callable .method 0 "f" "f" .readView)
        ⟨[[(.str "A", .int 1)], [(.str "A", .int 2)]], []⟩ 0
        { World.empty with caches := [.empty] } =
          .ok (.view 0 standard ⟨[[(.str "A", .int 1)], [(.str "A", .int 2)]], []⟩ 0) done ∧
      resolveTerm 20000 9 standard (.callable .method 0 "f" "f" .readView)
        ⟨[[(.str "A", .int 2)]], []⟩ 0 { World.empty with caches := [.empty] } =
          .ok (.view 0 standard ⟨[[(.str "A", .int 2)]], []⟩ 0) done') ∧
    (∃ done done',
      Resolver.resolve { standard with classifier := ⟨[.core "dict"], none⟩ }
        (.map .plain none [(.str "::defaults", .map .plain none [(.str "A", .int 1)])]) .empty none .usual
        .empty =
          .ok (.map .plain none [(.str "::defaults", .map .plain none [(.str "A", .int 1)])]) done ∧
      Resolver.resolve { standard with classifier := ⟨[.core "dict"], none⟩ } (.map .plain none [])
        (.ofBindings [(.str "A", .int 1)] []) none .usual .empty = .ok (.map .plain none []) done') ∧
    ∃ done done',
      Resolver.resolve { standard with config := { Config.standard with strict := true } }
        (.map .plain none [(.str "::defaults", .map .plain none [(.str "A", .int Numeral.writtenBound)]),
          (.str "v", .ref "B")]) .empty none .usual .empty = .error (.unresolved ["B"] []) done ∧
      Resolver.resolve { standard with config := { Config.standard with strict := true } }
        (.map .plain none [(.str "v", .ref "B")]) (.ofBindings [(.str "A", .int Numeral.writtenBound)] []) none .usual
        .empty = .error (.value .tooManyDigits) done' := by
  refine ⟨⟨fun name => ?_, _, _, rfl, rfl⟩, ⟨_, _, rfl, rfl⟩, ⟨_, _, rfl, rfl⟩, ?_⟩
  · simp only [Environment.merged, List.foldl_cons, List.foldl_nil, Entries.update_cons,
      Entries.update_nil, Entries.find?_insert, Entries.find?_cons, Entries.find?_nil]
    have apart : (Term.str "A").sameKey name = true → (Term.str "B").sameKey name = false := by
      intro same
      rw [Term.sameKey_comm, ← Term.sameKey_congr same, Term.sameKey_text]
      decide
    cases same : (Term.str "A").sameKey name with
    | true => rw [apart same]; rfl
    | false => rfl
  · let strict : Resolver Term := { standard with config := { Config.standard with strict := true } }
    have refused : strict.checkResult (.ofBindings [(.str "A", .int Numeral.writtenBound)] [])
        (.map .plain none [(.str "v", .ref "B")]) = throw (.value .tooManyDigits) := by
      have unwritable : Term.areWritableEntries (Environment.ofBindings
          [(.str "A", .int Numeral.writtenBound)] []).flatten = false := by
        change Term.areWritableEntries [(.str "A", .int Numeral.writtenBound)] = false
        simp only [Term.areWritableEntries, Term.isWritable, Numeral.isTooLong, Int.natAbs_natCast,
          Nat.le_refl, decide_true, Bool.not_true, Bool.and_false, Bool.false_and]
      have accepts : ∀ env, strict.checkResult env (.map .plain none [(.str "v", .ref "B")]) =
          Run.snapshot env >>= fun shown => throw (.unresolved ["B"] shown) := fun _ => rfl
      rw [accepts]
      unfold Run.snapshot
      rw [unwritable]
      rfl
    obtain ⟨done, resolved⟩ : ∃ done, resolveLeniently (resolveTerm Stack.usual.ceiling Stack.usual.levels) strict
        (.map .plain none [(.str "v", .ref "B")])
        (.ofBindings [(.str "A", .int Numeral.writtenBound)] []) none .empty =
          .ok (.map .plain none [(.str "v", .ref "B")]) done := ⟨_, rfl⟩
    refine ⟨_, done, rfl, ?_⟩
    unfold Resolver.resolve resolveWith
    simp only [Bind.bind, EStateM.bind]
    rw [show resolveLeniently (resolveTerm Stack.usual.ceiling Stack.usual.levels) _ _ _ none World.empty = _ from resolved]
    dsimp only
    rw [show Resolver.checkResult _ _ _ = _ from refused]
    rfl

end Resolver

end ScopedTemplate
