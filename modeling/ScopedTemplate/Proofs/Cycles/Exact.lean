import Mathlib.Data.List.TakeWhile
import ScopedTemplate.Proofs.Cycles.Tracing
import ScopedTemplate.Proofs.Resolver.Refinement

/-!
# Failures for cycles are exact

Without functions and defaults a resolution fails exactly if its references go in a circle or along
a path that is too long, and the failure shows that path.  Nesting beyond the levels that there are
is reported as a cycle, too.
-/

namespace ScopedTemplate.Resolver

variable {ceiling : Int}

open Run Relation

variable {resolver : Resolver Term} {env : Environment Term} {roots : List String} {cache : CacheId}
  {template : Term} {given : Option CacheId} {world : World}

/-! ## What failures show -/

theorem Shows.isCyclic {failure : Failure} (shown : resolver.Shows env roots failure) :
    ∃ key chain limit, failure = .cyclic key chain limit := by
  cases shown with
  | circle _ _ _ => exact ⟨_, _, _, rfl⟩
  | length _ _ _ => exact ⟨_, _, _, rfl⟩

/-- The chain of a name that is met again is a circle of references through it. -/
theorem Shows.circular {key : String} {chain : List String}
    (shown : resolver.Shows env roots (.cyclic key chain none)) :
    chain.head? = some key ∧ (chain ++ [key]).IsChain (resolver.RefersTo env) := by
  cases shown with
  | @circle flight _ _ path again =>
      constructor
      · have kept : flight.dropWhile (· ≠ key) ≠ [] := by
          rw [Ne, List.dropWhile_eq_nil_iff]
          exact fun skips => by simpa using skips key again
        rw [List.head?_eq_some_head kept]
        have stops := List.head_dropWhile_not (fun name : String => decide (name ≠ key)) kept
        simpa using stops
      · obtain ⟨skipped, same⟩ :=
          List.dropWhile_suffix (fun name => decide (name ≠ key)) (l := flight)
        refine path.linked.suffix ⟨skipped, ?_⟩
        rw [← List.append_assoc, same]

/-- The chain of names that are too many is a path of references that goes on to one more name. -/
theorem Shows.tooLong {key : String} {chain : List String} {limit : Int}
    (shown : resolver.Shows env roots (.cyclic key chain (some limit))) :
    limit = resolver.config.maxDepth ∧ chain.length = resolver.config.maxDepth ∧
      (chain ++ [key]).IsChain (resolver.RefersTo env) := by
  cases shown with
  | length path bound full => exact ⟨rfl, full, path.linked⟩

/-- Where references do not go in circles and paths are short enough, no failure is shown. -/
theorem not_shows (noCircle : ¬ resolver.Circles env roots)
    (short : ∀ names, resolver.Path env roots names → names.Nodup →
      (∀ name ∈ names, (env.target? (.ref name)).isSome = true) →
        names.length ≤ resolver.config.maxDepth) (failure : Failure) :
    ¬ resolver.Shows env roots failure := by
  intro shown
  cases shown with
  | circle _ path again => exact noCircle (path.circles again)
  | length path bound full =>
      have most := short _ path (path.nodup noCircle) bound
      rw [List.length_append, List.length_singleton] at most
      omega

/-! ## Resolutions -/

/-- Plain terms are traced at all levels. -/
theorem follows (rules : resolver.rules = Rule.standard) (tells : resolver.Tells)
    (deep : 2 ≤ resolver.config.maxDepth) (bindings : env.EachBinding (Term.Plain resolver))
    {most height : Nat} (tall : ∀ name binding, env.target? (.ref name) = some binding →
      Graph.levels binding ≤ height)
    (wide : ∀ flight, resolver.Waiting env flight → flight.length ≤ most) (ceiling : Int) (levels : Nat) :
    resolver.Follows env roots cache most height levels (resolveTerm ceiling levels) := by
  induction levels with
  | zero =>
      intro t flight room _ _ _ _
      refine .exhausted ?_
      have positive := Graph.levels_pos t
      omega
  | succ levels ih => exact follows_succ rules tells deep bindings tall wide ih

/-- What a plain template is resolved to in a table in use. -/
theorem after_resolveIn_plain (rules : resolver.rules = Rule.standard) (tells : resolver.Tells)
    (deep : 2 ≤ resolver.config.maxDepth) (bindings : env.EachBinding (Term.Plain resolver))
    (plain : template.Plain resolver) {most height : Nat}
    (tall : ∀ name binding, env.target? (.ref name) = some binding →
      Graph.levels binding ≤ height)
    (wide : ∀ flight, resolver.Waiting env flight → flight.length ≤ most) (levels : Nat)
    (flying : resolver.Flying env cache [] world) :
    After (resolveIn (resolveTerm ceiling levels) resolver template env cache) world
      (fun _ _ => ∀ root ∈ resolver.referencesOf template, resolver.Ends env root)
      (fun failure _ => resolver.Shows env (resolver.referencesOf template) failure ∨
        failure = .endless ceiling [] ∧
          levels < Graph.levels template + most * height) := by
  have none : resolver.Waiting env [] :=
    ⟨fun _ member => absurd member List.not_mem_nil, fun _ => .nil, Nat.zero_le _⟩
  have traces := follows rules tells deep bindings tall wide ceiling levels plain none (Nat.zero_add _)
    (fun name among => Path.root among) world flying
  unfold resolveIn
  rw [ceiling_resolveTerm]
  refine after_recover.2 (after_bind.2 (traces.mono ?_ ?_))
  · rintro value world' ⟨flying', _, ends⟩
    refine after_bind.2 (after_cache.2 ?_)
    unfold Run.checkTable
    rw [flying'.isTable]
    exact ends
  · rintro failure world' ⟨flying', shown | ⟨rfl, short⟩⟩
    · obtain ⟨key, chain, limit, rfl⟩ := shown.isCyclic
      exact .inl shown
    · have reports : After (do throw (.endless ceiling (← Run.chain cache)) : Run Term) world'
          (fun _ _ => False) fun failure _ => failure = .endless ceiling [] := by
        unfold Run.chain
        refine after_bind.2 (after_bind.2 (after_cache.2 ?_))
        unfold Run.checkTable
        rw [flying'.isTable]
        exact congrArg (Failure.endless ceiling) (chain_flight flying'.pending)
      refine reports.mono (fun _ _ => False.elim) ?_
      rintro failure _ rfl
      exact .inr ⟨rfl, short⟩

/-- A new table has no names in flight. -/
theorem flying_new (inside : cache < world.caches.length) (new : world.cache cache = .empty) :
    resolver.Flying env cache [] world := by
  refine ⟨inside, ?_, ?_, ?_, ?_⟩
  all_goals rw [new]
  · rfl
  · rfl
  · rfl
  · exact fun entry member => absurd member List.not_mem_nil

/-- What a plain template is resolved to with a new table, at any levels. -/
theorem after_plain (rules : resolver.rules = Rule.standard)
    (lenient : resolver.config.strict = false) (tells : resolver.Tells)
    (deep : 2 ≤ resolver.config.maxDepth) (bindings : env.EachBinding (Term.Plain resolver))
    (plain : template.Plain resolver) {most height : Nat}
    (tall : ∀ name binding, env.target? (.ref name) = some binding →
      Graph.levels binding ≤ height)
    (wide : ∀ flight, resolver.Waiting env flight → flight.length ≤ most) (stack : Stack)
    (new : ∀ id, (given <|> world.active) = some id →
      id < world.caches.length ∧ world.cache id = .empty) :
    After (resolver.resolve template env given stack) world
      (fun _ _ => ∀ root ∈ resolver.referencesOf template, resolver.Ends env root)
      (fun failure _ => resolver.Shows env (resolver.referencesOf template) failure ∨
        failure = .endless stack.ceiling [] ∧
          stack.levels < Graph.levels template + most * height) := by
  refine after_lenient lenient (after_bind.2 (after_get.2 ?_))
  cases table : given <|> world.active with
  | some id =>
      obtain ⟨inside, new⟩ := new id table
      exact after_resolveIn_plain rules tells deep bindings plain tall wide stack.levels
        (flying_new inside new)
  | none =>
      have flying : resolver.Flying env world.caches.length []
          { world with caches := world.caches ++ [.empty] } := by
        refine flying_new ?_ ?_
        · rw [List.length_append]
          exact Nat.lt_succ_self _
        · simp [World.cache]
      refine after_bind.2 (after_andThen.2 ?_)
      exact (after_resolveIn_plain rules tells deep bindings plain tall wide stack.levels flying).mono
        (fun _ _ ends => ends) fun _ _ failed => failed

def looped : Environment Term :=
  ⟨[[(.str "A", .map .plain none [(.str "k", .list .plain none [.ref "B"])]),
      (.str "B", .ref "A")]], []⟩

def nested : Nat → Term
  | 0 => .removed
  | depth + 1 => .list .plain none [nested depth]

theorem plain_nested (depth : Nat) : (nested depth).Plain standard := by
  induction depth with
  | zero => exact .data (.inr rfl)
  | succ depth ih => exact .list rfl (List.forall_mem_singleton.2 ih)

theorem referencesOf_nested (depth : Nat) : standard.referencesOf (nested depth) = [] := by
  induction depth with
  | zero => exact Term.references_data (.inr rfl)
  | succ depth ih =>
      refine (Term.references_list rfl).trans ?_
      unfold referencesOf at ih
      rw [Term.referencesInItems, ih, Term.referencesInItems]
      rfl

/-- Deeper nesting than there are levels cannot be resolved. -/
theorem resolveTerm_nested {levels depth : Nat} (le : levels ≤ depth) (env : Environment Term)
    (cache : CacheId) :
    resolveTerm ceiling levels standard (nested depth) env cache = throw .exhausted := by
  induction levels generalizing depth with
  | zero => rfl
  | succ levels ih =>
      obtain ⟨inner, rfl⟩ : ∃ inner, depth = inner + 1 := ⟨depth - 1, by omega⟩
      have children : standard.resolveItems (resolveTerm ceiling levels) cache env [nested inner] =
          throw .exhausted := by
        rw [resolveItems, ih (by omega)]
        rfl
      have collects : standard.collect (resolveTerm ceiling levels) cache
          ⟨nested (inner + 1), .sequence, env, false⟩ = throw .exhausted := by
        change (standard.resolveItems (resolveTerm ceiling levels) cache env [nested inner] >>= _) = _
        rw [children]
        rfl
      change standard.reduce (resolveTerm ceiling levels) cache (99 + 1)
        ⟨nested (inner + 1), .sequence, env, false⟩ = _
      rw [reduce_succ rfl]
      change standard.collect (resolveTerm ceiling levels) cache
        ⟨nested (inner + 1), .sequence, env, false⟩ >>= _ = _
      rw [collects]
      rfl

def opened : World := { World.empty with caches := [.empty] }

/-- What exhausts the levels is reported as nesting without end. -/
theorem resolveWith_exhausted {resolution : Resolution} {done : World}
    (exhausts : resolution resolver template env 0 opened = .error .exhausted done)
    (isTable : (done.cache 0).standIn = none) (idle : (done.cache 0).pending = []) : ∃ world',
      resolveWith resolution resolver template env none .empty = .error (.endless resolution.ceiling []) world' := by
  have chain : Run.chain 0 done = .ok [] done := by
    have found : Run.cache 0 done = .ok (done.cache 0) done := rfl
    simp only [Run.chain, bind, EStateM.bind, found, checkTable, isTable, Cache.chain, idle]
    rfl
  have inside : resolveIn resolution resolver template env 0 opened =
      .error (.endless resolution.ceiling []) done := by
    unfold resolveIn reportEndless recover
    simp only [bind, EStateM.bind, exhausts]
    change EStateM.bind (Run.chain 0) _ done = _
    simp only [EStateM.bind, chain]
    rfl
  obtain ⟨world', ran⟩ : ∃ world', resolveLeniently resolution resolver template env none .empty =
      .error (.endless resolution.ceiling []) world' := by
    change ∃ world', andThen (resolveIn resolution resolver template env 0) (closeCache 0) opened =
      .error (.endless resolution.ceiling []) world'
    unfold andThen
    rw [inside]
    exact ⟨_, rfl⟩
  refine ⟨world', ?_⟩
  unfold resolveWith
  simp only [bind, EStateM.bind, ran]

/-- So is a name whose binding exhausts them. -/
theorem resolveNode_exhausted {below : Resolution} {binding : Term}
    (target : env.target? (.ref "A") = some binding)
    (exhausts : below standard binding env 0 = throw .exhausted) : ∃ done,
      standard.resolveNode below 0 (.ref "A") env opened = .error .exhausted done ∧
        (done.cache 0).standIn = none ∧ (done.cache 0).pending = [] := by
  have looks : lookupName below standard env 0 (.ref "A") =
      memoize 0 (.ref "A") env true (some 100) (throw .exhausted) := by
    unfold lookupName
    simp only [target, exhausts]
    rfl
  obtain ⟨done, ran, idle⟩ : ∃ done,
      memoize 0 (.ref "A") env true (some 100) (throw .exhausted) opened =
        .error .exhausted done ∧
          (done.cache 0).standIn = none ∧ (done.cache 0).pending = [] := ⟨_, rfl, rfl, rfl⟩
  refine ⟨done, ?_, idle⟩
  change standard.reduce below 0 (99 + 1) ⟨.ref "A", .ref, env, false⟩ opened = _
  rw [reduce_succ rfl]
  have applies := standard.applies_ruleFor ⟨.ref "A", .ref, env, false⟩
  generalize standard.ruleFor ⟨.ref "A", .ref, env, false⟩ = rule at applies
  cases applies with
  | lookup _ _ =>
      change ((lookupName below standard env 0 (.ref "A") >>= _) >>= _) opened = _
      rw [looks]
      simp only [bind, EStateM.bind, ran]
  | collection isCollection _ _ => cases isCollection
  | _ => simp_all

end ScopedTemplate.Resolver
