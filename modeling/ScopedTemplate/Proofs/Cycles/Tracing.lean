import ScopedTemplate.Graph
import ScopedTemplate.Proofs.Cycles.Reference
import ScopedTemplate.Proofs.Evaluation.Lookup
import ScopedTemplate.Proofs.Resolver.Rewriting

/-!
# Tracing references

While data and references are resolved, the names in flight are a path of references.  A value is
reached only if all references in a term end; a failure shows a path that comes back to a name or is
too long, unless the levels of nesting do not suffice.
-/

namespace ScopedTemplate

variable {ceiling : Int}

open Run

namespace Resolver

variable (resolver : Resolver Term) (env : Environment Term) (roots : List String) (cache : CacheId)

/-- The names in flight are those of a table in use, and the references of stored names end. -/
structure Flying (flight : List String) (world : World) : Prop where
  inside : cache < world.caches.length
  isOpen : (world.cache cache).closed = false
  isTable : (world.cache cache).standIn = none
  pending : (world.cache cache).pending = flight.map fun name => CacheKey.of (.ref name) env
  stored : ∀ entry ∈ (world.cache cache).entries, ∀ name,
    entry.1 = CacheKey.of (.ref name) env → resolver.Ends env name

inductive Shows : Failure → Prop where
  | circle {flight : List String} {name : String} (detects : resolver.config.detectCycles = true)
      (path : resolver.Path env roots (flight ++ [name])) (again : name ∈ flight) :
      Shows (.cyclic name (flight.dropWhile (· ≠ name)) none)
  | length {flight : List String} {name : String}
      (path : resolver.Path env roots (flight ++ [name]))
      (bound : ∀ other ∈ flight ++ [name], (env.target? (.ref other)).isSome = true)
      (full : flight.length = resolver.config.maxDepth) :
      Shows (.cyclic name flight (some resolver.config.maxDepth))

/-- Names that can be in flight at once: bound, apart if that is checked, and not too many. -/
structure Waiting (flight : List String) : Prop where
  bound : ∀ name ∈ flight, (env.target? (.ref name)).isSome = true
  apart : resolver.config.detectCycles = true → flight.Nodup
  few : flight.length ≤ resolver.config.maxDepth

/-- A run has a value only if some references end; `short` if the levels do not suffice. -/
def Traces {α : Type} (flight : List String) (short : Prop) (references : List String)
    (post : α → Prop) (run : Run α) : Prop :=
  ∀ world, resolver.Flying env cache flight world → After run world
    (fun value world' => resolver.Flying env cache flight world' ∧ post value ∧
      ∀ name ∈ references, resolver.Ends env name)
    (fun failure world' => resolver.Flying env cache flight world' ∧
      (resolver.Shows env roots failure ∨ failure = .exhausted ∧ short))

/-- Every leaf type can be asked whether a term is one of its instances. -/
def Tells : Prop := ∀ type ∈ resolver.classifier.leafTypes, Classifier.refusalOf? type = none

variable {resolver} {env} {roots} {cache} {flight : List String} {short : Prop}

theorem Flying.of_same {world world' : World} (flying : resolver.Flying env cache flight world)
    (same : World.SameTables world world') : resolver.Flying env cache flight world' := by
  have table := same.cache_eq cache
  refine ⟨?_, ?_, ?_, ?_, ?_⟩
  · rw [same.caches]
    exact flying.inside
  all_goals rw [table]
  · exact flying.isOpen
  · exact flying.isTable
  · exact flying.pending
  · exact flying.stored

/-- The table may be changed if it stays in use. -/
theorem Flying.change {world : World} (flying : resolver.Flying env cache flight world)
    {change : Cache → Cache} {flight' : List String}
    (isOpen : (change (world.cache cache)).closed = (world.cache cache).closed)
    (isTable : (change (world.cache cache)).standIn = (world.cache cache).standIn)
    (pending : (change (world.cache cache)).pending =
      flight'.map fun name => CacheKey.of (.ref name) env)
    (stored : ∀ entry ∈ (change (world.cache cache)).entries, ∀ name,
      entry.1 = CacheKey.of (.ref name) env → resolver.Ends env name) :
    resolver.Flying env cache flight' (world.change cache change) := by
  have table := world.cache_change flying.inside change
  refine ⟨?_, ?_, ?_, ?_, ?_⟩
  · rw [World.length_change]
    exact flying.inside
  all_goals rw [table]
  · exact isOpen.trans flying.isOpen
  · exact isTable.trans flying.isTable
  · exact pending
  · exact stored

theorem Flying.enter {world : World} (flying : resolver.Flying env cache flight world)
    (kind : TextKind) (name : String) :
    resolver.Flying env cache (flight ++ [name])
      (world.change cache (Cache.enter · (.of (.text kind name) env) env)) := by
  refine flying.change rfl rfl ?_ flying.stored
  unfold Cache.enter
  rw [flying.pending, List.map_append]
  rfl

theorem Flying.leave {world : World} {name : String}
    (flying : resolver.Flying env cache (flight ++ [name]) world) :
    resolver.Flying env cache flight (world.change cache Cache.leave) :=
  flying.change rfl rfl (Cache.pending_leave (flying.pending.trans List.map_append)) flying.stored

/-- A name whose references end may be stored. -/
theorem Flying.put {world : World} (flying : resolver.Flying env cache flight world)
    {name : String} (ends : resolver.Ends env name) (kind : TextKind) (value : Term) :
    resolver.Flying env cache flight
      (world.change cache (Cache.put · (.of (.text kind name) env) value)) := by
  refine flying.change rfl rfl flying.pending fun entry member other key => ?_
  rcases Cache.mem_store member with rfl | before
  · have same : name = other := congrArg CacheKey.name key
    rw [← same]
    exact ends
  · exact flying.stored entry before other key

/-- A name that a table begins to compute can be in flight after the others. -/
theorem Waiting.extend {table : Cache} {name : String} (waiting : resolver.Waiting env flight)
    (pending : table.pending = flight.map fun name => CacheKey.of (.ref name) env)
    (bound : ∀ other ∈ flight ++ [name], (env.target? (.ref other)).isSome = true)
    (begins : table.Begins (.of (.ref name) env) resolver.config.detectCycles
      (some resolver.config.maxDepth)) :
    resolver.Waiting env (flight ++ [name]) := by
  refine ⟨bound, fun detects => ?_, ?_⟩
  · refine List.nodup_append.2 ⟨waiting.apart detects, List.pairwise_singleton _ _, ?_⟩
    rintro other before _ last rfl
    apply begins.notInFlight detects
    rw [pending]
    rw [List.mem_singleton.1 last] at before
    exact List.mem_map_of_mem before
  · have shallow := begins.shallow resolver.config.maxDepth rfl
    rw [pending, List.length_map] at shallow
    rw [List.length_append, List.length_singleton]
    omega

namespace Traces

variable {α β : Type} {references references' : List String} {post : α → Prop} {post' : β → Prop}

theorem silent {run : Run α} (silent : Silent run post) :
    resolver.Traces env roots cache flight short [] post run := by
  intro world flying
  refine (silent world).mono ?_ fun _ _ => False.elim
  rintro value world' ⟨same, holds⟩
  exact ⟨flying.of_same same, holds, fun name member => absurd member List.not_mem_nil⟩

theorem bind {first : Run α} {next : α → Run β}
    (traces : resolver.Traces env roots cache flight short references post first)
    (then_traces : ∀ value, post value →
      resolver.Traces env roots cache flight short references' post' (next value)) :
    resolver.Traces env roots cache flight short (references ++ references') post'
      (first >>= next) := by
  intro world flying
  refine after_bind.2 ((traces world flying).mono ?_ fun _ _ ends => ends)
  rintro value world' ⟨flying', holds, ends⟩
  refine (then_traces value holds world' flying').mono ?_ fun _ _ ends => ends
  rintro value' world'' ⟨flying'', holds', ends'⟩
  refine ⟨flying'', holds', fun name member => ?_⟩
  exact (List.mem_append.1 member).elim (ends name) (ends' name)

/-- What follows silently adds no references. -/
theorem then_silent {first : Run α} {next : α → Run β}
    (traces : resolver.Traces env roots cache flight short references post first)
    (silent : ∀ value, post value → Silent (next value) post') :
    resolver.Traces env roots cache flight short references post' (first >>= next) := by
  rw [← List.append_nil references]
  exact traces.bind fun value holds => .silent (silent value holds)

theorem mono {run : Run α} {short' : Prop} {weaker : α → Prop}
    (traces : resolver.Traces env roots cache flight short references post run)
    (fewer : ∀ name ∈ references', name ∈ references) (imp : ∀ value, post value → weaker value)
    (shorter : short → short') :
    resolver.Traces env roots cache flight short' references' weaker run := by
  intro world flying
  refine (traces world flying).mono ?_ ?_
  · rintro value world' ⟨flying', holds, ends⟩
    exact ⟨flying', imp value holds, fun name member => ends name (fewer name member)⟩
  · rintro failure world' ⟨flying', shows | ⟨exhausted, isShort⟩⟩
    · exact ⟨flying', .inl shows⟩
    · exact ⟨flying', .inr ⟨exhausted, shorter isShort⟩⟩

theorem exhausted (isShort : short) :
    resolver.Traces env roots cache flight short references post (throw .exhausted : Run α) :=
  fun _ flying => after_throw.2 ⟨flying, .inr ⟨rfl, isShort⟩⟩

end Traces

/-! ## Lookups -/

variable (resolver) (env) (roots) (cache) in
/-- A resolution of plain terms traces their references, with a bound on what levels suffice. -/
def Follows (most height levels : Nat) (resolution : Resolution) : Prop :=
  ∀ {t flight room}, t.Plain resolver → resolver.Waiting env flight → flight.length + room = most →
    (∀ name ∈ resolver.referencesOf t, resolver.Path env roots (flight ++ [name])) →
      resolver.Traces env roots cache flight (levels < Graph.levels t + room * height)
        (resolver.referencesOf t) (fun _ => True) (resolution resolver t env cache)

theorem chainFrom_flight {table : Cache}
    (pending : table.pending = flight.map fun name => CacheKey.of (.ref name) env) (name : String) :
    table.chainFrom (.of (.ref name) env) = flight.dropWhile (· ≠ name) := by
  have same : ∀ other, CacheKey.of (.ref other) env = .of (.ref name) env ↔ other = name := by
    intro other
    refine ⟨fun keys => congrArg CacheKey.name keys, ?_⟩
    rintro rfl
    rfl
  unfold Cache.chainFrom
  rw [pending, List.dropWhile_map, List.map_map]
  simp only [Function.comp_def, ne_eq, same]
  exact List.map_id _

theorem chain_flight {table : Cache}
    (pending : table.pending = flight.map fun name => CacheKey.of (.ref name) env) :
    table.chain = flight := by
  unfold Cache.chain
  rw [pending, List.map_map]
  exact List.map_id _

theorem target?_ref (env : Environment Term) (kind : TextKind) (name : String) :
    env.target? (.text kind name) = env.target? (.ref name) :=
  (Custody.target?_asRef rfl : env.target? (Term.text kind name).asRef = _).symm

/-- A lookup that is refused shows a path that comes back to its name or is too long. -/
theorem shows_of_refuses {table : Cache} {name : String} {failure : Failure}
    (pending : table.pending = flight.map fun name => CacheKey.of (.ref name) env)
    (few : flight.length ≤ resolver.config.maxDepth)
    (path : resolver.Path env roots (flight ++ [name]))
    (bound : ∀ other ∈ flight ++ [name], (env.target? (.ref other)).isSome = true)
    (refuses : table.Refuses (.of (.ref name) env) resolver.config.detectCycles
      (some resolver.config.maxDepth) failure) : resolver.Shows env roots failure := by
  cases refuses with
  | inFlight detects again =>
      rw [pending] at again
      obtain ⟨other, among, same⟩ := List.mem_map.1 again
      have same : other = name := congrArg CacheKey.name same
      subst same
      rw [chainFrom_flight pending]
      exact .circle detects path among
  | tooDeep limited deep =>
      cases limited
      rw [pending, List.length_map] at deep
      rw [chain_flight pending]
      exact .length path bound (by omega)

theorem lookup_traces {resolution : Resolution} {most height levels room : Nat}
    (follows : resolver.Follows env roots cache most height levels resolution)
    (bindings : env.EachBinding (Term.Plain resolver))
    (tall : ∀ name binding, env.target? (.ref name) = some binding →
      Graph.levels binding ≤ height)
    (wide : ∀ flight, resolver.Waiting env flight → flight.length ≤ most)
    (waiting : resolver.Waiting env flight) (space : flight.length + room = most) (kind : TextKind)
    {name : String} (path : resolver.Path env roots (flight ++ [name])) :
    resolver.Traces env roots cache flight (levels < room * height) [name] (fun _ => True)
      (lookupName resolution resolver env cache (.text kind name)) := by
  unfold lookupName
  rw [target?_ref]
  cases target : env.target? (.ref name) with
  | none =>
      intro world flying
      refine after_bind.2 (after_changeCache.2 (after_pure.2 ⟨?_, trivial, ?_⟩))
      · exact flying.change rfl rfl flying.pending flying.stored
      · exact List.forall_mem_singleton.2 (ends_of_unbound target)
  | some binding =>
      intro world flying
      have plain : binding.Plain resolver :=
        bindings.lookup? (Option.eq_some_of_filter_eq_some target)
      have bound : ∀ other ∈ flight ++ [name], (env.target? (.ref other)).isSome = true := by
        refine List.forall_mem_append.2 ⟨waiting.bound, List.forall_mem_singleton.2 ?_⟩
        rw [target]
        rfl
      apply after_memoize
      · rintro value world' world'' same ⟨flying', holds⟩
        exact ⟨flying'.of_same same, holds⟩
      · exact fun _ unusable => absurd unusable (Cache.not_unusable flying.isOpen flying.isTable)
      · intro failure refuses
        refine ⟨flying.change rfl rfl flying.pending flying.stored, .inl ?_⟩
        exact shows_of_refuses flying.pending waiting.few path bound refuses
      · intro value found next
        refine ⟨flying.change rfl rfl flying.pending flying.stored, trivial, ?_⟩
        exact List.forall_mem_singleton.2 (flying.stored _ (Cache.mem_of_find? found) name rfl)
      · intro begins entered same
        have waiting' := waiting.extend flying.pending bound begins
        have enters := (flying.enter kind name).of_same same
        -- one name more in flight leaves room for one less
        have fits := wide _ waiting'
        rw [List.length_append, List.length_singleton] at fits
        obtain ⟨room, rfl⟩ : ∃ less, room = less + 1 := ⟨room - 1, by omega⟩
        have space' : (flight ++ [name]).length + room = most := by
          rw [List.length_append, List.length_singleton]
          omega
        have paths : ∀ other ∈ resolver.referencesOf binding,
            resolver.Path env roots (flight ++ [name] ++ [other]) :=
          fun other among => path.extend ⟨binding, target, among⟩
        refine (follows plain waiting' space' paths entered enters).mono ?_ ?_
        · rintro value done ⟨flying', _, ends⟩ next
          have named : resolver.Ends env name := ends_of_binding target ends
          exact ⟨flying'.leave.put named kind _, trivial, List.forall_mem_singleton.2 named⟩
        · rintro failure done ⟨flying', failed⟩
          refine ⟨flying'.leave, failed.imp_right ?_⟩
          rintro ⟨exhausted, short⟩
          have fits := tall name binding target
          refine ⟨exhausted, ?_⟩
          rw [Nat.add_mul, Nat.one_mul]
          omega

/-! ## Nodes -/

/-- Without leaf types there is nothing to ask. -/
theorem tells_of_nil (noLeafTypes : resolver.classifier.leafTypes = []) : resolver.Tells := by
  unfold Tells
  rw [noLeafTypes]
  exact fun _ among => absurd among List.not_mem_nil

theorem Tells.check (tells : resolver.Tells) (t : Term) : resolver.classifier.check t = .ok () := by
  have among : ∀ types : List ValueType, (∀ type ∈ types, Classifier.refusalOf? type = none) →
      Classifier.refusalAmong? t types = none := by
    intro types told
    induction types with
    | nil => rfl
    | cons type rest ih =>
        obtain ⟨first, others⟩ := List.forall_mem_cons.1 told
        unfold Classifier.refusalAmong?
        rw [first, ih others]
        split <;> rfl
  unfold Classifier.check Classifier.refusal?
  rw [among _ tells]

theorem Tells.classify (tells : resolver.Tells) (t : Term) :
    resolver.classifier.classify t = .ok (resolver.classifier.kind t) :=
  Classifier.classify_eq_ok.2 ⟨fun _ => tells.check t, rfl⟩

theorem Tells.checkValues (tells : resolver.Tells) (values : List Term) :
    resolver.checkValues values = .ok () :=
  checkValues_eq_ok.2 fun _ value _ _ => tells.check value

theorem items_trace {resolution : Resolution} {most height levels room : Nat}
    (follows : resolver.Follows env roots cache most height levels resolution)
    (waiting : resolver.Waiting env flight) (space : flight.length + room = most)
    {items : List Term}
    (plain : ∀ item ∈ items, item.Plain resolver)
    (paths : ∀ item ∈ items, ∀ name ∈ resolver.referencesOf item,
      resolver.Path env roots (flight ++ [name])) :
    resolver.Traces env roots cache flight (levels < Graph.levelsInItems items + room * height)
      (Term.referencesInItems resolver.classifier resolver.config.defaultsKey items) (fun _ => True)
      (resolver.resolveItems resolution cache env items) := by
  induction items with
  | nil => exact .silent (.pure trivial)
  | cons item rest ih =>
      obtain ⟨first, others⟩ := List.forall_mem_cons.1 plain
      obtain ⟨here, there⟩ := List.forall_mem_cons.1 paths
      rw [Graph.levelsInItems, Term.referencesInItems]
      refine Traces.bind ((follows first waiting space here).mono (fun _ member => member)
        (fun _ _ => trivial) fun short => by omega) fun value (_ : True) => ?_
      exact ((ih others there).mono (fun _ member => member) (fun _ _ => trivial)
        fun short => by omega).then_silent fun values (_ : True) => .pure trivial

theorem entries_trace {resolution : Resolution} {most height levels room : Nat}
    (follows : resolver.Follows env roots cache most height levels resolution)
    (waiting : resolver.Waiting env flight) (space : flight.length + room = most)
    {entries : Entries}
    (plain : ∀ entry ∈ entries, entry.2.Plain resolver)
    (paths : ∀ entry ∈ entries, ∀ name ∈ resolver.referencesOf entry.2,
      resolver.Path env roots (flight ++ [name])) :
    resolver.Traces env roots cache flight (levels < Graph.levelsInEntries entries + room * height)
      (entries.flatMap fun entry => resolver.referencesOf entry.2)
      (fun values => Entries.keys values = Entries.keys entries)
      (resolver.resolveEntries resolution cache env entries) := by
  induction entries with
  | nil => exact .silent (.pure rfl)
  | cons entry rest ih =>
      obtain ⟨first, others⟩ := List.forall_mem_cons.1 plain
      obtain ⟨here, there⟩ := List.forall_mem_cons.1 paths
      rw [Graph.levelsInEntries, List.flatMap_cons]
      refine Traces.bind ((follows first waiting space here).mono (fun _ member => member)
        (fun _ _ => trivial) fun short => by omega) fun value (_ : True) => ?_
      refine ((ih others there).mono (fun _ member => member) (fun _ keys => keys)
        fun short => by omega).then_silent fun values keys => .pure ?_
      unfold Entries.keys at keys ⊢
      rw [List.map_cons, List.map_cons, keys]

/-- A mapping without defaults has no more references than its values. -/
theorem mem_referencesOf_map {entries : Entries}
    (noDefaults : Entries.has entries resolver.defaultsKey = false) {name : String} :
    name ∈ Term.referencesInEntries resolver.classifier resolver.config.defaultsKey entries ↔
      ∃ entry ∈ entries, name ∈ resolver.referencesOf entry.2 := by
  rw [Term.mem_referencesInEntries]
  refine exists_congr fun entry => and_congr_right fun member => ?_
  rw [Entries.has_eq_any, List.any_eq_false] at noDefaults
  have differs : entry.1.sameKey (.str resolver.config.defaultsKey) = false :=
    Bool.eq_false_iff.2 (noDefaults entry member)
  simp [differs, referencesOf]

/-- Resolved children are pruned silently. -/
theorem prune_silent (tells : resolver.Tells) {t : Term} (gathered : resolver.Gathered t) :
    Silent (resolver.prune t) fun step => ∃ value, step = .finish value ∧ True := by
  cases gathered with
  | @list stamp items =>
      refine (Silent.ofResult (tells.checkValues items) trivial).bind fun _ (_ : True) => ?_
      exact (Silent.makeList _).bind fun made _ => .pure ⟨made, rfl, trivial⟩
  | @tuple stamp items =>
      refine (Silent.ofResult (tells.checkValues items) trivial).bind fun _ (_ : True) => ?_
      exact (Silent.makeTuple _).bind fun made _ => .pure ⟨made, rfl, trivial⟩
  | map noDefaults =>
      refine (Silent.ofResult (tells.checkValues _) trivial).bind fun _ (_ : True) => ?_
      exact (Silent.makeMap _).bind fun made _ => .pure ⟨made, rfl, trivial⟩

/-- A collection of resolved children is finished in one more step, with what it is pruned to. -/
theorem Gathered.follow_silent (rules : resolver.rules = Rule.standard) (tells : resolver.Tells)
    {resolution : Resolution} (steps : Nat) {t : Term} (gathered : resolver.Gathered t)
    {post : Term → Prop}
    (prunes : Silent (resolver.prune t) fun step => ∃ value, step = .finish value ∧ post value) :
    Silent (resolver.follow resolution cache (steps + 1) (.again t env true)) post := by
  refine (Silent.ofResult (tells.classify t) rfl).bind fun kind same => ?_
  subst same
  rw [reduce_succ rules, gathered.ruleFor]
  change Silent (resolver.prune t >>= resolver.follow resolution cache steps) _
  refine prunes.bind ?_
  rintro _ ⟨value, rfl, holds⟩
  exact .pure holds

/-- The children of a plain collection are traced. -/
theorem collect_traces {resolution : Resolution} {most height levels room : Nat}
    (follows : resolver.Follows env roots cache most height levels resolution)
    (waiting : resolver.Waiting env flight) (space : flight.length + room = most) {t : Term}
    (plain : t.Plain resolver) (paths : ∀ name ∈ resolver.referencesOf t,
      resolver.Path env roots (flight ++ [name]))
    (isCollection : (resolver.classifier.kind t).isCollection = true) :
    resolver.Traces env roots cache flight (levels + 1 < Graph.levels t + room * height)
      (resolver.referencesOf t)
      (fun step => ∃ made, step = .again made env true ∧ resolver.Gathered made)
      (resolver.collect resolution cache ⟨t, resolver.classifier.kind t, env, false⟩) := by
  unfold referencesOf at paths ⊢
  cases plain with
  | data looked =>
      rcases looked with looked | looked <;> rw [looked] at isCollection <;> cases isCollection
  | reference looked =>
      rw [looked] at isCollection
      cases isCollection
  | @map kind stamp entries looked noDefaults values =>
      rw [Term.references_map looked] at paths ⊢
      rw [Graph.levels]
      refine Traces.then_silent ((entries_trace follows waiting space values
        fun entry member name among => paths name ?_).mono ?_ (fun _ keys => keys)
          fun short => by omega) fun values keys => ?_
      · exact (mem_referencesOf_map noDefaults).2 ⟨entry, member, among⟩
      · exact fun name among => List.mem_flatMap.2 ((mem_referencesOf_map noDefaults).1 among)
      · refine (Silent.makeMap values).bind ?_
        rintro _ ⟨stamp', rfl⟩
        refine .pure ⟨_, rfl, .map ?_⟩
        rw [Custody.has_of_keys keys]
        exact noDefaults
  | @list kind stamp items looked each =>
      rw [Term.references_list looked] at paths ⊢
      rw [Graph.levels]
      refine Traces.then_silent ((items_trace follows waiting space each
        fun item member name among => paths name ?_).mono (fun _ among => among)
          (fun _ _ => trivial) fun short => by omega) fun values (_ : True) => ?_
      · exact Term.mem_referencesInItems.2 ⟨item, member, among⟩
      · refine (Silent.makeList values).bind ?_
        rintro _ ⟨stamp', rfl⟩
        exact .pure ⟨_, rfl, .list⟩
  | @tuple stamp items looked each =>
      rw [Term.references_tuple looked] at paths ⊢
      rw [Graph.levels]
      refine Traces.then_silent ((items_trace follows waiting space each
        fun item member name among => paths name ?_).mono (fun _ among => among)
          (fun _ _ => trivial) fun short => by omega) fun values (_ : True) => ?_
      · exact Term.mem_referencesInItems.2 ⟨item, member, among⟩
      · refine (Silent.makeTuple values).bind ?_
        rintro _ ⟨stamp', rfl⟩
        exact .pure ⟨_, rfl, .tuple⟩

/-- Reductions of plain terms are traced if there are two steps for each. -/
theorem follows_succ (rules : resolver.rules = Rule.standard) (tells : resolver.Tells)
    (deep : 2 ≤ resolver.config.maxDepth) {most height levels : Nat}
    (bindings : env.EachBinding (Term.Plain resolver))
    (tall : ∀ name binding, env.target? (.ref name) = some binding →
      Graph.levels binding ≤ height)
    (wide : ∀ flight, resolver.Waiting env flight → flight.length ≤ most)
    (follows : resolver.Follows env roots cache most height levels (resolveTerm ceiling levels)) :
    resolver.Follows env roots cache most height (levels + 1) (resolveTerm ceiling (levels + 1)) := by
  intro t flight room plain waiting space paths
  obtain ⟨steps, limit⟩ : ∃ steps, resolver.config.maxDepth = steps + 2 :=
    ⟨resolver.config.maxDepth - 2, by omega⟩
  have classified := tells.classify t
  rw [resolveTerm_succ]
  unfold resolveNode
  rw [classified]
  change resolver.Traces env roots cache flight _ _ _ (resolver.reduce (resolveTerm ceiling levels) cache
    resolver.config.maxDepth ⟨t, resolver.classifier.kind t, env, false⟩)
  rw [limit, reduce_succ rules]
  have applies := resolver.applies_ruleFor ⟨t, resolver.classifier.kind t, env, false⟩
  generalize resolver.ruleFor ⟨t, resolver.classifier.kind t, env, false⟩ = rule at applies
  cases applies with
  | lookup isRef target =>
      obtain ⟨kind, s, rfl⟩ := Classifier.text_of_ref isRef
      have references : resolver.referencesOf (.text kind s) = [s] := Term.references_text isRef
      rw [references] at paths ⊢
      change resolver.Traces env roots cache flight _ _ _
        ((lookupName (resolveTerm ceiling levels) resolver env cache (.text kind s) >>=
          fun value => pure (.finish value)) >>= resolver.follow (resolveTerm ceiling levels) cache _)
      rw [bind_assoc]
      refine Traces.then_silent ((lookup_traces follows bindings tall wide waiting space kind
        (paths s List.mem_cons_self)).mono (fun _ member => member) (fun _ holds => holds) ?_)
        fun value (_ : True) => .pure trivial
      intro short
      have positive := Graph.levels_pos (.text kind s)
      omega
  | fixpoint isRef unbound =>
      obtain ⟨kind, s, rfl⟩ := Classifier.text_of_ref isRef
      have references : resolver.referencesOf (.text kind s) = [s] := Term.references_text isRef
      rw [references]
      rw [target?_ref] at unbound
      intro world flying
      have noted : resolver.Flying env cache flight
          (world.change cache (Cache.record · (.left env (.text kind s)))) :=
        flying.change rfl rfl flying.pending flying.stored
      exact ⟨noted, trivial, List.forall_mem_singleton.2 (ends_of_unbound unbound)⟩
  | application isFunction => exact absurd isFunction plain.kind_ne.1
  | callable isCallable => exact absurd isCallable plain.kind_ne.2
  | nestedDefaults isMapping defaults =>
      have noDefaults : resolver.isScoped ⟨t, resolver.classifier.kind t, env, false⟩ = false := by
        cases plain with
        | map _ noDefaults _ => exact noDefaults
        | data looked => simp_all
        | _ => simp_all
      rw [noDefaults] at defaults
      cases defaults
  | collection isCollection fresh unscoped =>
      refine (collect_traces follows waiting space plain paths isCollection).then_silent ?_
      rintro _ ⟨made, rfl, gathered⟩
      exact gathered.follow_silent rules tells steps (prune_silent tells gathered)
  | removal isCollected => cases isCollected
  | passThrough passes fresh =>
      have references : resolver.referencesOf t = [] := Term.references_data passes
      rw [references]
      exact .silent (.pure trivial)

end Resolver

end ScopedTemplate
