import ScopedTemplate.Proofs.Bindings.Descent
import ScopedTemplate.Proofs.Cycles.Exact
import ScopedTemplate.Proofs.Sharing.Answers

/-!
# Values resolve to themselves

A value in normal form is left as it is by another resolution under the environment of the first:
its references have no bindings there, nothing in it is called, and nothing is left out of it.
-/

namespace ScopedTemplate

variable {ceiling : Int} {stack : Stack}

open Run

/-! ## Calm runs -/

/-- What a run did that changed nothing of a table but for what it noted. -/
structure World.Undisturbed (cache : CacheId) (before after : World) : Prop where
  size : after.caches.length = before.caches.length
  calls : after.calls = before.calls
  table : ∃ events, after.cache cache = { before.cache cache with events := events }

def Event.leftUnder? : Event → Option (Environment Term)
  | .left env _ => some env
  | _ => none

namespace World.Undisturbed

variable {cache : CacheId} {first second third : World}

theorem of_same (caches : second.caches = first.caches) (calls : second.calls = first.calls) :
    World.Undisturbed cache first second := by
  refine ⟨congrArg List.length caches, calls, (first.cache cache).events, ?_⟩
  unfold World.cache
  rw [caches]

theorem trans (before : World.Undisturbed cache first second)
    (after : World.Undisturbed cache second third) : World.Undisturbed cache first third := by
  obtain ⟨size, calls, events, table⟩ := before
  obtain ⟨size', calls', events', table'⟩ := after
  refine ⟨size'.trans size, calls'.trans calls, events', ?_⟩
  rw [table', table]

end World.Undisturbed

namespace Run

/-- A run ends with a value, calls nothing, and at most notes something in a table. -/
def Calm {α : Type} (cache : CacheId) (run : Run α) (post : α → Prop) : Prop :=
  ∀ world, cache < world.caches.length → After run world
    (fun value world' => World.Undisturbed cache world world' ∧ post value) fun _ _ => False

namespace Calm

variable {α β : Type} {cache : CacheId} {post : α → Prop} {post' : β → Prop}

theorem pure {value : α} (holds : post value) : Calm cache (pure value) post :=
  fun _ _ => after_pure.2 ⟨.of_same rfl rfl, holds⟩

theorem bind {first : Run α} {next : α → Run β} (calm : Calm cache first post)
    (then_calm : ∀ value, post value → Calm cache (next value) post') :
    Calm cache (first >>= next) post' := by
  intro world inside
  refine after_bind.2 ((calm world inside).mono ?_ fun _ _ => False.elim)
  rintro value world' ⟨undisturbed, holds⟩
  refine (then_calm value holds world' (undisturbed.size ▸ inside)).mono ?_ fun _ _ => False.elim
  rintro value' world'' ⟨undisturbed', holds'⟩
  exact ⟨undisturbed.trans undisturbed', holds'⟩

theorem mono {run : Run α} {weaker : α → Prop} (calm : Calm cache run post)
    (imp : ∀ value, post value → weaker value) : Calm cache run weaker :=
  fun world inside => (calm world inside).mono (fun value _ ends => ⟨ends.1, imp value ends.2⟩)
    fun _ _ => False.elim

theorem ofResult {result : Except Failure α} {value : α} (same : result = .ok value)
    (holds : post value) : Calm cache (Run.ofResult result) post := by
  rw [same]
  exact pure holds

theorem record (event : Event) : Calm cache (Run.record cache event) fun _ => True := by
  intro world inside
  refine after_changeCache.2 ⟨⟨?_, rfl, ?_⟩, trivial⟩
  · exact world.length_change _ _
  · exact ⟨_, world.cache_change inside _⟩

theorem collectionStamp (size : Nat) : Calm cache (Run.collectionStamp size) fun _ => True := by
  intro world inside
  unfold Run.collectionStamp
  split
  · exact ⟨.of_same rfl rfl, trivial⟩
  · exact ⟨.of_same rfl rfl, trivial⟩

theorem makeList (items : List Term) :
    Calm cache (Run.makeList items) fun made => ∃ stamp, made = .list .plain stamp items :=
  (collectionStamp items.length).bind fun stamp _ => pure ⟨stamp, rfl⟩

theorem makeTuple (items : List Term) :
    Calm cache (Run.makeTuple items) fun made => ∃ stamp, made = .tuple stamp items :=
  (collectionStamp items.length).bind fun stamp _ => pure ⟨stamp, rfl⟩

theorem makeMap (entries : Entries) :
    Calm cache (Run.makeMap entries) fun made => ∃ stamp, made = .map .plain stamp entries :=
  (collectionStamp entries.length).bind fun stamp _ => pure ⟨stamp, rfl⟩

end Calm

end Run

namespace Resolver

variable {resolver : Resolver Term} {resolution : Resolution} {env : Environment Term}
  {cache : CacheId} {t : Term} {left : Term → Prop}

/-! ## Collections -/

/-- A collection of resolved children, none of which is left out. -/
inductive Complete (resolver : Resolver Term) : Term → Prop where
  | list {stamp : Option Stamp} {items : List Term}
      (kept : ∀ item ∈ items, resolver.drops item = false) :
      Complete resolver (.list .plain stamp items)
  | tuple {stamp : Option Stamp} {items : List Term}
      (kept : ∀ item ∈ items, resolver.drops item = false) :
      Complete resolver (.tuple stamp items)
  | map {stamp : Option Stamp} {entries : Entries}
      (noDefaults : Entries.has entries resolver.defaultsKey = false)
      (kept : ∀ entry ∈ entries, resolver.drops entry.2 = false) :
      Complete resolver (.map .plain stamp entries)

theorem Complete.gathered (complete : resolver.Complete t) : resolver.Gathered t := by
  cases complete with
  | list kept => exact .list
  | tuple kept => exact .tuple
  | map noDefaults kept => exact .map noDefaults

/-- Nothing is left out of a complete collection. -/
theorem Complete.prune (complete : resolver.Complete t) (tells : resolver.Tells) :
    Calm cache (resolver.prune t) fun step =>
      ∃ value, step = .finish value ∧ value.outline false = t.outline false := by
  have all : ∀ items : List Term, (∀ item ∈ items, resolver.drops item = false) →
      items.filter (!resolver.drops ·) = items := by
    intro items kept
    exact List.filter_eq_self.2 fun item member => by rw [kept item member]; rfl
  cases complete with
  | @list stamp items kept =>
      refine (Calm.ofResult (tells.checkValues items) trivial).bind fun _ (_ : True) => ?_
      rw [all items kept]
      refine (Calm.makeList items).bind ?_
      rintro _ ⟨stamp', rfl⟩
      exact .pure ⟨_, rfl, by simp⟩
  | @tuple stamp items kept =>
      refine (Calm.ofResult (tells.checkValues items) trivial).bind fun _ (_ : True) => ?_
      rw [all items kept]
      refine (Calm.makeTuple items).bind ?_
      rintro _ ⟨stamp', rfl⟩
      exact .pure ⟨_, rfl, by simp⟩
  | @map stamp entries noDefaults kept =>
      refine (Calm.ofResult (tells.checkValues _) trivial).bind fun _ (_ : True) => ?_
      have same : entries.filter (!resolver.drops ·.2) = entries :=
        List.filter_eq_self.2 fun entry member => by rw [kept entry member]; rfl
      rw [same]
      refine (Calm.makeMap entries).bind ?_
      rintro _ ⟨stamp', rfl⟩
      exact .pure ⟨_, rfl, by simp⟩

/-- A complete collection is finished in one more step. -/
theorem Complete.follow (complete : resolver.Complete t) (rules : resolver.rules = Rule.standard)
    (tells : resolver.Tells) (steps : Nat) :
    Calm cache (resolver.follow resolution cache (steps + 1) (.again t env true)) fun value =>
      value.outline false = t.outline false := by
  refine (Calm.ofResult (tells.classify t) rfl).bind fun kind same => ?_
  subst same
  rw [reduce_succ rules, complete.gathered.ruleFor]
  change Calm cache (resolver.prune t >>= resolver.follow resolution cache steps) _
  refine (complete.prune tells).bind ?_
  rintro _ ⟨value, rfl, same⟩
  exact .pure same

/-- Elements that resolve to themselves do so one after the other. -/
theorem items_calm {items : List Term}
    (each : ∀ item ∈ items, Calm cache (resolution resolver item env cache) fun value =>
      value.outline false = item.outline false) :
    Calm cache (resolver.resolveItems resolution cache env items) fun values =>
      values.map (Term.outline false) = items.map (Term.outline false) := by
  induction items with
  | nil => exact .pure rfl
  | cons item rest ih =>
      obtain ⟨first, others⟩ := List.forall_mem_cons.1 each
      refine first.bind fun value same => (ih others).bind fun values more => .pure ?_
      rw [List.map_cons, List.map_cons, same, more]

/-- What is kept does not depend on more than the outline. -/
theorem kept_of_outlines {items values : List Term}
    (same : values.map (Term.outline false) = items.map (Term.outline false))
    (kept : ∀ item ∈ items, resolver.drops item = false) :
    ∀ value ∈ values, resolver.drops value = false := by
  intro value member
  have inside : value.outline false ∈ items.map (Term.outline false) :=
    same ▸ List.mem_map_of_mem member
  obtain ⟨item, among, outline⟩ := List.mem_map.1 inside
  have outlined : ∀ t : Term, resolver.drops (t.outline false) = resolver.drops t :=
    fun t => drops_outline t
  rw [← outlined value, ← outline, outlined item, kept item among]

/-- The children of a collection in normal form are gathered again if they resolve to themselves. -/
theorem collect_calm (normal : Normal resolver left t)
    (isCollection : (resolver.classifier.kind t).isCollection = true)
    (each : ∀ s, Term.Child resolver.classifier t s →
      Calm cache (resolution resolver s env cache) fun value =>
        value.outline false = s.outline false) :
    Calm cache (resolver.collect resolution cache ⟨t, resolver.classifier.kind t, env, false⟩)
      fun step => ∃ made, step = .again made env true ∧ resolver.Complete made ∧
        made.outline false = t.outline false := by
  cases normal with
  | removed => cases isCollection
  | scalar kind =>
      rw [kind] at isCollection
      cases isCollection
  | ref kind isLeft =>
      rw [kind] at isCollection
      cases isCollection
  | @map stamp entries kind deep noDefaults kept values =>
      unfold collect
      dsimp only
      rw [resolveEntries_eq, bind_assoc]
      refine (items_calm fun item member => ?_).bind fun found same => ?_
      · obtain ⟨entry, among, rfl⟩ := List.mem_map.1 member
        exact each _ (.value kind among)
      · refine (Calm.makeMap _).bind ?_
        rintro _ ⟨stamp', rfl⟩
        refine .pure ⟨_, rfl, .map (Entries.has_zip noDefaults found) fun entry member => ?_, ?_⟩
        · refine kept_of_outlines same (fun item inside => ?_) _ (List.of_mem_zip member).2
          obtain ⟨original, among, rfl⟩ := List.mem_map.1 inside
          exact kept original among
        · rw [Term.outline_map, Term.outline_map]
          exact congrArg _ (Entries.mapValues_zip same)
  | @list stamp items kind deep kept values =>
      refine (items_calm fun item member => each _ (.element kind member)).bind fun found same => ?_
      refine (Calm.makeList found).bind ?_
      rintro _ ⟨stamp', rfl⟩
      refine .pure ⟨_, rfl, .list (kept_of_outlines same kept), ?_⟩
      rw [Term.outline_list, Term.outline_list, same]
  | @tuple stamp items kind deep kept values =>
      refine (items_calm fun item member => each _ (.component kind member)).bind
        fun found same => ?_
      refine (Calm.makeTuple found).bind ?_
      rintro _ ⟨stamp', rfl⟩
      refine .pure ⟨_, rfl, .tuple (kept_of_outlines same kept), ?_⟩
      rw [Term.outline_tuple, Term.outline_tuple, same]

/-! ## Values in normal form -/

/-- A collection in normal form took two steps to make. -/
theorem Normal.deep (normal : Normal resolver left t)
    (isCollection : (resolver.classifier.kind t).isCollection = true) :
    2 ≤ resolver.config.maxDepth := by
  cases normal with
  | removed => cases isCollection
  | scalar kind =>
      rw [kind] at isCollection
      cases isCollection
  | ref kind isLeft =>
      rw [kind] at isCollection
      cases isCollection
  | map kind deep noDefaults kept values => exact deep
  | list kind deep kept values => exact deep
  | tuple kind deep kept values => exact deep

/-- A collection has more levels than what is in it. -/
theorem levels_lt_of_child {s : Term} (child : Term.Child resolver.classifier t s) :
    Graph.levels s < Graph.levels t := by
  cases child with
  | value looked member => exact Nat.lt_succ_of_le (Graph.levels_le_entries member)
  | element looked member => exact Nat.lt_succ_of_le (Graph.levels_le_items member)
  | component looked member => exact Nat.lt_succ_of_le (Graph.levels_le_items member)

/-- A value in normal form resolves to itself where what was left in it has no bindings. -/
theorem Normal.calm (rules : resolver.rules = Rule.standard) (tells : resolver.Tells)
    (unbound : ∀ s, left s → env.target? s = none) (normal : Normal resolver left t)
    (steps : 1 ≤ resolver.config.maxDepth) {levels : Nat} (enough : Graph.levels t ≤ levels) :
    Calm cache (resolveTerm ceiling levels resolver t env cache) fun value =>
      value.outline false = t.outline false := by
  induction levels generalizing t with
  | zero =>
      exfalso
      have positive := Graph.levels_pos t
      omega
  | succ levels ih =>
      obtain ⟨most, limit⟩ : ∃ most, resolver.config.maxDepth = most + 1 :=
        ⟨resolver.config.maxDepth - 1, by omega⟩
      rw [resolveTerm_succ]
      unfold resolveNode
      rw [tells.classify t]
      change Calm cache (resolver.reduce (resolveTerm ceiling levels) cache resolver.config.maxDepth
        ⟨t, resolver.classifier.kind t, env, false⟩) _
      rw [limit, reduce_succ rules]
      have applies := resolver.applies_ruleFor ⟨t, resolver.classifier.kind t, env, false⟩
      generalize resolver.ruleFor ⟨t, resolver.classifier.kind t, env, false⟩ = rule at applies
      cases applies with
      | lookup isRef bound =>
          cases normal with
          | ref _ isLeft => exact absurd ((unbound t isLeft).symm.trans bound) (by simp)
          | _ => simp_all
      | fixpoint isRef _ =>
          change Calm cache ((Run.record cache (.left env t) >>= fun _ => pure (.finish t)) >>=
            resolver.follow (resolveTerm ceiling levels) cache most) _
          rw [bind_assoc]
          exact (Calm.record _).bind fun _ (_ : True) => .pure rfl
      | application isFunction => exact absurd isFunction normal.kind_ne.1
      | callable isCallable => exact absurd isCallable normal.kind_ne.2
      | nestedDefaults isMapping defaults =>
          cases normal with
          | map kind deep noDefaults kept values =>
              exact absurd (noDefaults.symm.trans defaults) (by decide)
          | _ => simp_all
      | collection isCollection _ _ =>
          have deep := normal.deep isCollection
          obtain ⟨more, rfl⟩ : ∃ more, most = more + 1 := ⟨most - 1, by omega⟩
          refine (collect_calm normal isCollection fun s child => ?_).bind ?_
          · have lower := levels_lt_of_child child
            exact ih (normal.child child).1 (by omega)
          · rintro _ ⟨made, rfl, complete, same⟩
            exact (complete.follow rules tells more).mono fun value outline => outline.trans same
      | removal collected => cases collected
      | passThrough _ _ => exact .pure rfl

/-! ## Whole resolutions -/

variable {resolver' : Resolver Term} {given : Option CacheId} {world done : World} {value : Term}

/-- A resolution that returns a value found it with some table. -/
theorem found_of_resolveLeniently
    (run : resolveLeniently resolution resolver t env given world = .ok value done) :
    ∃ id before after, resolution resolver t env id before = .ok value after := by
  let Found (value : Term) (_ : World) : Prop :=
    ∃ id before after, resolution resolver t env id before = .ok value after
  have inTable : ∀ id before,
      After (resolveIn resolution resolver t env id) before Found fun _ _ => True := by
    intro id before
    refine Custody.after_resolveIn (fun _ _ _ _ holds => holds) ?_
    unfold After
    cases ran : resolution resolver t env id before with
    | ok value after => exact ⟨id, before, after, ran⟩
    | error failure after => trivial
  cases table : given <|> world.active with
  | some id =>
      rw [Pairing.resolveLeniently_given table] at run
      exact (inTable id world).of_ok run
  | none =>
      rw [Pairing.resolveLeniently_own table] at run
      have ends : After (andThen (resolveIn resolution resolver t env world.caches.length)
          (closeCache world.caches.length)) { world with caches := world.caches ++ [.empty] } Found
          fun _ _ => True := by
        refine after_andThen.2 ((inTable _ _).mono (fun value after found => ?_) fun _ _ _ => ?_)
        · exact after_closeCache fun _ _ _ => found
        · exact after_closeCache fun _ _ _ => trivial
      exact ends.of_ok run

/-- A calm run stays calm when the counts of its table are reported. -/
theorem resolveIn_calm {post : Term → Prop} {id : CacheId}
    (calm : Calm id (resolution resolver t env id) post) (inside : id < world.caches.length)
    (isTable : (world.cache id).standIn = none) :
    After (resolveIn resolution resolver t env id) world
      (fun value after => World.Undisturbed id world after ∧ post value) fun _ _ => False := by
  unfold resolveIn reportEndless
  refine after_recover.2 (after_bind.2 ((calm world inside).mono ?_ fun _ _ => False.elim))
  rintro value after ⟨undisturbed, holds⟩
  have table : (after.cache id).standIn = none := by
    obtain ⟨events, same⟩ := undisturbed.table
    rw [same]
    exact isTable
  refine after_bind.2 (after_cache.2 (after_bind.2 ?_))
  unfold checkTable
  rw [table]
  exact ⟨undisturbed.trans (.of_same rfl rfl), holds⟩

/-- A calm run with a new table leaves nothing in it, and calls nothing. -/
theorem resolveLeniently_calm {post : Term → Prop}
    (calm : ∀ id, Calm id (resolution resolver t env id) post)
    (new : ∀ id, (given <|> world.active) = some id →
      id < world.caches.length ∧ world.cache id = .empty) :
    ∃ value done, resolveLeniently resolution resolver t env given world = .ok value done ∧
      post value ∧ done.calls = world.calls ∧
        (done.cache (world.tableFor given)).hits = 0 ∧
          (done.cache (world.tableFor given)).misses = 0 := by
  have counted : ∀ {id : CacheId} {before after : World}, before.cache id = .empty →
      World.Undisturbed id before after →
        (after.cache id).hits = 0 ∧ (after.cache id).misses = 0 := by
    intro id before after empty undisturbed
    obtain ⟨events, same⟩ := undisturbed.table
    rw [same, empty]
    exact ⟨rfl, rfl⟩
  unfold World.tableFor
  cases table : given <|> world.active with
  | some id =>
      obtain ⟨inside, empty⟩ := new id table
      have ends := resolveIn_calm (calm id) inside (by rw [empty]; rfl)
      rw [Pairing.resolveLeniently_given table]
      unfold After at ends
      cases ran : resolveIn resolution resolver t env id world with
      | error failure after =>
          rw [ran] at ends
          exact ends.elim
      | ok value after =>
          rw [ran] at ends
          exact ⟨value, after, rfl, ends.2, ends.1.calls, counted empty ends.1⟩
  | none =>
      have appended : World.cache { world with caches := world.caches ++ [.empty] }
          world.caches.length = .empty := by
        simp [World.cache]
      have inside : world.caches.length <
          (World.caches { world with caches := world.caches ++ [.empty] }).length := by
        simp
      have ends := resolveIn_calm (calm world.caches.length) inside (by rw [appended]; rfl)
      have closes : After (andThen (resolveIn resolution resolver t env world.caches.length)
          (closeCache world.caches.length)) { world with caches := world.caches ++ [.empty] }
          (fun value done => post value ∧ done.calls = world.calls ∧
            (done.cache world.caches.length).hits = 0 ∧
              (done.cache world.caches.length).misses = 0) fun _ _ => False := by
        refine after_andThen.2 (ends.mono ?_ fun _ _ => False.elim)
        rintro value after ⟨undisturbed, holds⟩
        refine after_closeCache fun noted same calls => ?_
        have stays : world.caches.length < noted.caches.length := by
          rw [same.caches, undisturbed.size]
          exact inside
        rw [noted.cache_change stays, same.cache_eq]
        exact ⟨holds, calls.trans undisturbed.calls, counted appended undisturbed⟩
      rw [Pairing.resolveLeniently_own table]
      unfold After at closes
      split at closes
      · next value done ran => exact ⟨value, done, ran, closes⟩
      · exact closes.elim

/-! ## Idempotence -/

/-- A leaf and the removal mark are returned in one step. -/
theorem resolveTerm_single (rules : resolver.rules = Rule.standard) {kind : Kind}
    (classified : resolver.classifier.classify t = .ok kind)
    (single : kind = .scalar ∨ kind = .removed) (steps : 1 ≤ resolver.config.maxDepth)
    {levels : Nat} (enough : 1 ≤ levels) : resolveTerm ceiling levels resolver t env cache = pure t := by
  obtain ⟨below, rfl⟩ : ∃ below, levels = below + 1 := ⟨levels - 1, by omega⟩
  obtain ⟨most, limit⟩ : ∃ most, resolver.config.maxDepth = most + 1 :=
    ⟨resolver.config.maxDepth - 1, by omega⟩
  rw [resolveTerm_succ]
  unfold resolveNode
  rw [classified, limit]
  change resolver.reduce (resolveTerm ceiling below) cache (most + 1) ⟨t, kind, env, false⟩ = _
  rw [reduce_succ rules]
  have applies := resolver.applies_ruleFor ⟨t, kind, env, false⟩
  generalize resolver.ruleFor ⟨t, kind, env, false⟩ = rule at applies
  cases applies with
  | passThrough _ _ => rfl
  | removal collected => cases collected
  | _ => rcases single with rfl | rfl <;> contradiction

/-- A resolver that cannot ask some leaf type for its instances accepts leaves and the mark only. -/
theorem single_of_classify (untold : ¬ resolver.Tells) {kind : Kind}
    (classified : resolver.classifier.classify t = .ok kind) : kind = .scalar ∨ kind = .removed := by
  obtain ⟨checked, rfl⟩ := Classifier.classify_eq_ok.1 classified
  cases removed : t.isRemoved with
  | true =>
      right
      unfold Classifier.kind
      rw [removed, if_pos rfl]
  | false =>
      left
      refine Classifier.kind_of_isLeaf ?_ removed
      have accepted := checked removed
      by_contra notLeaf
      refine untold fun type member => ?_
      unfold Classifier.check Classifier.refusal? at accepted
      rw [Classifier.refusalAmong?_of_notLeaf (Bool.eq_false_iff.2 notLeaf)] at accepted
      cases refused : resolver.classifier.leafTypes.findSome? Classifier.refusalOf? with
      | some reason =>
          rw [refused] at accepted
          cases accepted
      | none => exact List.findSome?_eq_none_iff.1 refused type member

/-- A resolution that ends with a value takes at least one step. -/
theorem steps_of_ok {levels : Nat} {id : CacheId} {before after : World}
    (ran : resolveTerm ceiling levels resolver t env id before = .ok value after) :
    1 ≤ levels ∧ 1 ≤ resolver.config.maxDepth ∧
      ∃ kind, resolver.classifier.classify t = .ok kind := by
  cases levels with
  | zero => cases ran
  | succ levels =>
      rw [resolveTerm_succ] at ran
      unfold resolveNode at ran
      cases classified : resolver.classifier.classify t with
      | error failure =>
          rw [classified] at ran
          cases ran
      | ok kind =>
          refine ⟨Nat.le_add_left 1 levels, Nat.one_le_iff_ne_zero.2 fun none => ?_, kind, rfl⟩
          rw [classified, none] at ran
          have fails : After (resolver.reduce (resolveTerm ceiling levels) id 0 ⟨t, kind, env, false⟩)
              before (fun _ _ => False) fun _ _ => True :=
            after_bind.2 ((Quiet.chain id before).mono (fun _ _ _ => trivial) fun _ _ _ => trivial)
          exact fails.of_ok ran

/-- A function that gives back a reference, and a scope in which one is left and one is removed. -/
def leaving : Term := .map .plain none [
  (.str "a", .keeper "A"),
  (.str "b", .map .plain none [
    (.str "::defaults", .map .plain none [(.str "X", .removed)]),
    (.str "x", .ref "X"), (.str "y", .ref "Y")])]

/-- A resolver for which text that starts with a sign is a reference. -/
def sigilled : Resolver Term :=
  { standard with
    config := { Config.standard with refPrefix := some "=" }
    classifier := ⟨[], some "="⟩ }

/-- A function that asks the usual resolver for a name, under bindings of its own. -/
def meddler : Term :=
  .callable .function 0 "f" "f" (.sequence [
    .ask none none (.const (.ref "A")) false
      (.const (.map .plain none [(.str "A", .str "=B"), (.str "=B", .str "b")])) [],
    .const (.int 0)])

end Resolver

end ScopedTemplate
