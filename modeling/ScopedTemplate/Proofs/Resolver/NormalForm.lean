import ScopedTemplate.Proofs.Resolver.Selection
import ScopedTemplate.Proofs.Resolver.Settled

/-!
# Values in normal form

What a resolution with the built-in rules gives is in normal form, and so is everything that it
stores, passes to functions, or shows through views, whatever the functions do.
-/

namespace ScopedTemplate

variable {ceiling : Int}

open Run Resolver

namespace Custody

variable {cache : CacheId} {shared : Prop} {resolver : Resolver Term} {since : List Event}
  {resolution : Resolution} {env : Environment Term}

/-! ## Notes and lookups -/

theorem held_note {world : World} (held : (normal cache shared resolver).Held since world)
    {event : Event}
    (normal : ∀ later, since <:+ later → event.IsNormal resolver (Left later)) :
    (Custody.normal cache shared resolver).Held since (world.change cache (Cache.record · event)) := by
  have settled := held.holds
  refine held.heldAfter (held.entries cache) (settled.add rfl ?_ fun _ member => member)
  refine normal _ (settled.grown.trans ?_)
  exact List.suffix_cons _ _

theorem note_yields {event : Event}
    (normal : ∀ later, since <:+ later → event.IsNormal resolver (Left later)) :
    Yields cache shared resolver since (record cache event) fun _ later => event ∈ later := by
  intro world held
  have inside : cache < world.caches.length := held.inside
  refine after_changeCache.2 ⟨held_note held normal, ?_⟩
  rw [world.cache_change inside]
  exact List.mem_cons_self

theorem target?_asRef {name : Term} (named : name.text?.isSome = true) :
    env.target? name.asRef = env.target? name := by
  cases name with
  | text kind s =>
      have same : (Term.text kind s).asRef.sameKey (.text kind s) = true := by simp
      unfold Environment.target? Environment.lookup?
      have finds : ∀ layer : Entries,
          Entries.find? layer (Term.text kind s).asRef = Entries.find? layer (.text kind s) := by
        intro layer
        induction layer with
        | nil => rfl
        | cons entry rest ih =>
            rw [Entries.find?_cons, Entries.find?_cons, ih, Term.sameKey_comm,
              Term.sameKey_congr same, Term.sameKey_comm]
      rw [funext finds]
      rfl
  | _ => cases named

theorem normal_asRef {name : Term} (named : name.text?.isSome = true)
    (unbound : env.target? name = none) {events : List Event}
    (noted : Event.left env name.asRef ∈ events) :
    Normal resolver (Left events) name.asRef := by
  rw [← target?_asRef named] at unbound
  cases leaf : resolver.classifier.isLeaf name.asRef with
  | true => exact .scalar (Classifier.kind_of_isLeaf leaf rfl)
  | false =>
      refine .ref ?_ ⟨env, noted, unbound⟩
      unfold Term.asRef at leaf ⊢
      simp [Classifier.kind, leaf, Term.isRemoved, Classifier.isRef]

/-- A value in normal form may be stored. -/
theorem settled_store {world : World} (held : (normal cache shared resolver).Held since world)
    {key : CacheKey} {value : Term} (good : Good cache shared resolver value (world.cache cache).events) :
    (normal cache shared resolver).Held since
        ((world.change cache Cache.leave).change cache (Cache.put · key value)) ∧
      (((world.change cache Cache.leave).change cache (Cache.put · key value)).cache cache).events =
        (world.cache cache).events := by
  have inside : cache < world.caches.length := held.inside
  have leaves : (world.change cache Cache.leave).cache cache = (world.cache cache).leave :=
    world.cache_change inside Cache.leave
  have left : (normal cache shared resolver).SafeWorld (world.change cache Cache.leave) :=
    held.change (held.entries cache)
  have puts : ((world.change cache Cache.leave).change cache (Cache.put · key value)).cache cache =
      (world.cache cache).leave.put key value := by
    refine (World.cache_change _ left.inside _).trans ?_
    exact congrArg (Cache.put · key value) leaves
  refine ⟨⟨left.change (Cache.forall_put (left.entries cache) good.1), ?_⟩, ?_⟩
  · change (((world.change cache Cache.leave).change cache
      (Cache.put · key value)).cache cache).Settled resolver since
    rw [puts]
    have settled : (world.cache cache).leave.Settled resolver since :=
      ⟨held.holds.grown, held.holds.entries, held.holds.events⟩
    exact settled.put good.2
  · rw [puts]
    rfl

theorem lookup_yields (normalizes : Normalizes cache shared resolver resolution)
    (bindings : env.Each (normal cache shared resolver).Safe) {name : Term}
    (named : name.text?.isSome = true) :
    Yields cache shared resolver since (lookupName resolution resolver env cache name)
      (Good cache shared resolver) := by
  unfold lookupName
  split
  · next unbound =>
      have noted : Yields cache shared resolver since (record cache (.left env name.asRef))
          fun _ later => Event.left env name.asRef ∈ later := note_yields fun _ _ => trivial
      refine noted.bind fun _ later _ inside => ?_
      refine .pure fun later' suffix => ⟨(normal cache shared resolver).safe_hereditary.text _ _, ?_⟩
      exact normal_asRef named unbound (suffix.subset inside)
  · next binding found =>
      intro world held
      have inside : cache < world.caches.length := held.inside
      apply after_memoize
      · rintro value world' world'' same ⟨held', good⟩
        refine ⟨held'.of_same same, ?_⟩
        rw [same.cache_eq]
        exact good
      · intro failure _
        exact held.toBroken
      · intro failure _
        have notes : (normal cache shared resolver).Held since
            (world.change cache (Cache.record · (.refused (.of name env) env))) :=
          held_note held fun _ _ => trivial
        exact notes.toBroken
      · intro value stored next
        have settled := held.holds
        have served : ((world.cache cache).hit (.of name env) env).Settled resolver since :=
          settled.add rfl trivial fun _ member => member
        refine ⟨held.heldAfter (held.entries cache) served, ?_, ?_⟩
        · exact (Cache.of_find? (held.entries cache) stored).detach next
        · rw [world.cache_change inside]
          exact (Cache.Settled.find? served stored).detach next
      · intro _ entered same
        have settled := held.holds
        have enters : ((world.cache cache).enter (.of name env) env).Settled resolver since :=
          settled.add rfl trivial fun _ member => member
        have begins : (normal cache shared resolver).Held since
            (world.change cache (Cache.enter · (.of name env) env)) :=
          held.heldAfter (held.entries cache) enters
        have resolved := normalizes.yields (.refl _) since (bindings.target? found) bindings
        refine (resolved entered (begins.of_same same)).mono ?_ ?_
        · rintro value done ⟨held', good⟩ next
          obtain ⟨stored, events⟩ := settled_store held' ⟨good.1.detach next, good.2.detach next⟩
          refine ⟨stored, ?_⟩
          rw [events]
          exact good
        · intro failure done left
          refine left.brokenAfter (left.entries cache) ?_
          exact ⟨left.broken.grown, left.broken.entries, left.broken.events⟩

/-! ## Views and functions -/

theorem Normalizes.item (normalizes : Normalizes cache shared resolver resolution)
    (bindings : env.Each (normal cache shared resolver).Safe) (name : Term) :
    (normal cache shared resolver).Keeps (View.item resolution resolver env cache name)
      (normal cache shared resolver).Safe := by
  refine Yields.toKeeps (fun value _ => (normal cache shared resolver).Safe value) (fun since => ?_)
    fun _ _ safe => safe
  unfold View.item
  split
  · next bound =>
      unfold View.has at bound
      rw [Bool.and_eq_true] at bound
      refine (lookup_yields normalizes bindings bound.1).bind fun value later _ good => ?_
      refine Yields.bind (note_yields fun later' suffix => good.2.suffix suffix)
        fun _ later' _ _ => ?_
      exact .pure fun _ _ => good.1
  · exact .throw _

theorem Normalizes.serves (normalizes : Normalizes cache shared resolver resolution) :
    (normal cache shared resolver).Serves resolution where
  resolves := normalizes.resolves
  reads := by
    intro resolver' env cache' name fits bindings
    by_cases own : cache' = cache
    · subst own
      have similar : resolver.Similar resolver' := fits.admits rfl
      rw [normal_eq_of_similar similar] at bindings ⊢
      exact (normalizes.of_similar similar).item bindings name
    · exact item_keeps name (lookupOther_keeps normalizes.resolves fits own bindings name)
        fun _ => .recordOther own _

theorem normal_null {left : Term → Prop} : Normal resolver left .null := by
  refine .scalar ?_
  cases leaf : resolver.classifier.isLeaf .null <;>
    simp [Classifier.kind, leaf, Term.isRemoved, Classifier.isRef, Classifier.shapeKind]

theorem dependencies_yield (normalizes : Normalizes cache shared resolver resolution)
    (bindings : env.Each (normal cache shared resolver).Safe) (function : String) (deps : List String) :
    Yields cache shared resolver since (resolver.resolveDependencies resolution cache function env deps)
      fun values later => ∀ entry ∈ values, Good cache shared resolver entry.2 later := by
  induction deps generalizing since with
  | nil => exact .pure fun _ _ entry member => absurd member List.not_mem_nil
  | cons dep rest ih =>
      refine (lookup_yields normalizes bindings rfl).bind fun value later _ good => ?_
      have checks := (resolver.checkDependency_steady function dep env value).quiet
      refine (Yields.ofKeeps (.quiet checks)).bind
        fun _ later' suffix _ => ?_
      refine ih.bind fun entries later'' suffix' others => ?_
      refine .pure fun end_ suffix'' => List.forall_mem_cons.2 ⟨?_, ?_⟩
      · exact good.suffix ((suffix.trans suffix').trans suffix'')
      · exact fun entry member => (others entry member).suffix suffix''

theorem arguments_good {values : Entries} {events : List Event}
    (good : ∀ entry ∈ values, Good cache shared resolver entry.2 events) (deps : List String) :
    ∀ arg ∈ arguments deps values, Good cache shared resolver arg events := by
  intro arg member
  obtain ⟨dep, _, rfl⟩ := List.mem_map.1 member
  cases found : Entries.find? (Entries.ofPairs values) (.ref dep) with
  | none => exact ⟨(normal cache shared resolver).safe_hereditary.null, normal_null⟩
  | some value =>
      unfold Entries.ofPairs at found
      rw [Entries.find?_update, Entries.find?_nil, Option.orElse_eq_orElse,
        Option.orElse_eq_or, Option.or_none] at found
      obtain ⟨key, inside, _⟩ := Entries.mem_of_find? found
      exact good _ (List.mem_reverse.1 inside)

/-! ## Nodes -/

/-- Children that are resolved, in a plain collection. -/
inductive Collected (resolver : Resolver Term) (left : Term → Prop) : Term → Prop where
  | map {stamp : Option Stamp} {entries : Entries}
      (kind : resolver.classifier.kind (.map .plain stamp entries) = .mapping)
      (noDefaults : Entries.has entries resolver.defaultsKey = false)
      (values : ∀ entry ∈ entries, Normal resolver left entry.2) :
      Collected resolver left (.map .plain stamp entries)
  | list {stamp : Option Stamp} {items : List Term}
      (kind : resolver.classifier.kind (.list .plain stamp items) = .sequence)
      (values : ∀ item ∈ items, Normal resolver left item) :
      Collected resolver left (.list .plain stamp items)
  | tuple {stamp : Option Stamp} {items : List Term}
      (kind : resolver.classifier.kind (.tuple stamp items) = .sequence)
      (values : ∀ item ∈ items, Normal resolver left item) :
      Collected resolver left (.tuple stamp items)

/-- What is known of a node on its way to a value. -/
structure Sound (cache : CacheId) (shared : Prop) (resolver : Resolver Term) (node : Node) (events : List Event) :
    Prop where
  safe : (normal cache shared resolver).Safe node.term
  bindings : node.env.Each (normal cache shared resolver).Safe
  kind : node.kind = resolver.classifier.kind node.term
  collected : node.collected = true → Collected resolver (Left events) node.term

def SoundStep (cache : CacheId) (shared : Prop) (resolver : Resolver Term) (step : Step) (events : List Event) :
    Prop :=
  match step with
  | .finish value => Good cache shared resolver value events
  | .again term env collected =>
    (normal cache shared resolver).Safe term ∧ env.Each (normal cache shared resolver).Safe ∧
      (collected = true → Collected resolver (Left events) term)

variable {node : Node}

theorem Sound.notCollected {events : List Event} (sound : Sound cache shared resolver node events)
    (noMap : node.kind ≠ .mapping) (noItems : node.kind ≠ .sequence) : node.collected = false := by
  rw [sound.kind] at noMap noItems
  refine Bool.eq_false_iff.2 fun collected => ?_
  have inside := sound.collected collected
  generalize node.term = t at inside noMap noItems
  cases inside with
  | map looked _ _ => exact noMap looked
  | list looked _ => exact noItems looked
  | tuple looked _ => exact noItems looked

/-- Children that are resolved have no scope of defaults. -/
theorem Sound.unscoped {events : List Event} (sound : Sound cache shared resolver node events)
    (collected : node.collected = true) : resolver.isScoped node = false := by
  have inside := sound.collected collected
  unfold isScoped
  generalize node.term = t at inside
  cases inside with
  | map _ noDefaults _ => exact noDefaults
  | list => rfl
  | tuple => rfl

theorem fixpoint_yields (sound : Sound cache shared resolver node since) (kind : node.kind = .ref)
    (unbound : node.env.target? node.term = none) :
    Yields cache shared resolver since (resolver.transform resolution cache node .fixpoint)
      (SoundStep cache shared resolver) := by
  have noted : Yields cache shared resolver since (record cache (.left node.env node.term))
      fun _ later => Event.left node.env node.term ∈ later := note_yields fun _ _ => trivial
  refine noted.bind fun _ later _ inside => ?_
  refine .pure fun later' suffix => ⟨sound.safe, .ref ?_ ?_⟩
  · exact sound.kind.symm.trans kind
  · exact ⟨node.env, suffix.subset inside, unbound⟩

theorem application_yields (normalizes : Normalizes cache shared resolver resolution)
    (sound : Sound cache shared resolver node since) (kind : node.kind = .function) :
    Yields cache shared resolver since (resolver.applyFunction resolution cache node)
      (SoundStep cache shared resolver) := by
  have fresh : node.collected = false :=
    sound.notCollected (by rw [kind]; decide) (by rw [kind]; decide)
  obtain ⟨stamp, name, deps, doc, callee, shape⟩ :=
    Classifier.function_of_kind (sound.kind.symm.trans kind)
  have called : (normal cache shared resolver).Safe callee := by
    have safe := sound.safe
    rw [shape] at safe
    exact (normal cache shared resolver).lax.callee safe
  unfold Resolver.applyFunction
  rw [shape]
  refine (dependencies_yield normalizes sound.bindings name deps).bind
    fun values later _ good => ?_
  refine (Yields.ofKeeps (.quiet (.log _ _))).bind fun _ later' suffix _ => ?_
  have args : ∀ arg ∈ arguments deps values, Good cache shared resolver arg later' :=
    arguments_good (fun entry member => (good entry member).suffix suffix) deps
  refine Yields.bind (note_yields fun later'' suffix' arg member =>
    (args arg member).2.suffix suffix') fun _ _ _ _ => ?_
  have safe := sound.safe
  rw [shape] at safe
  have invoked := normalizes.serves.invoke called safe fun arg member => (args arg member).1
  refine (Yields.ofKeeps invoked).bind fun result _ _ made => ?_
  refine .pure fun _ _ => ⟨made, sound.bindings, fun collected => ?_⟩
  rw [fresh] at collected
  cases collected

theorem callable_yields (normalizes : Normalizes cache shared resolver resolution)
    (sound : Sound cache shared resolver node since) (fits : (normal cache shared resolver).Fits resolver cache)
    (kind : node.kind = .callable) :
    Yields cache shared resolver since (resolver.applyCallable resolution cache node)
      (SoundStep cache shared resolver) := by
  have fresh : node.collected = false :=
    sound.notCollected (by rw [kind]; decide) (by rw [kind]; decide)
  obtain ⟨callKind, stamp, label, name, body, shape⟩ :=
    Classifier.callable_of_kind (sound.kind.symm.trans kind)
  have safe := sound.safe
  unfold Resolver.applyCallable
  rw [shape] at safe ⊢
  refine (Yields.ofKeeps (.quiet (.log _ _))).bind fun _ _ _ _ => ?_
  refine (Yields.ofKeeps (.quiet (.takeStamps 1))).bind fun own _ _ _ => ?_
  have view : ∀ arg ∈ [Term.view own resolver node.env cache], (normal cache shared resolver).Safe arg :=
    List.forall_mem_singleton.2 (view_of_fits fits own sound.bindings)
  have invoked := normalizes.serves.invoke safe safe view
  refine (Yields.ofKeeps invoked).bind fun result _ _ made => ?_
  refine .pure fun _ _ => ⟨made, sound.bindings, fun collected => ?_⟩
  rw [fresh] at collected
  cases collected

theorem defaults_yield (normalizes : Normalizes cache shared resolver resolution)
    (sound : Sound cache shared resolver node since) (kind : node.kind = .mapping)
    (fresh : node.collected = false) :
    Yields cache shared resolver since (resolver.enterDefaults resolution node)
      (SoundStep cache shared resolver) := by
  obtain ⟨mapKind, stamp, entries, shape⟩ :=
    Classifier.map_of_kind (sound.kind.symm.trans kind)
  have keeps : (normal cache shared resolver).Keeps (resolver.enterDefaults resolution node) _ :=
    normalizes.serves.enterMapping sound.safe sound.bindings shape
  refine (Yields.ofKeeps keeps).mono ?_
  rintro step later _ ⟨term, env, rfl, safe, bindings⟩
  refine ⟨safe, bindings, fun collected => ?_⟩
  rw [fresh] at collected
  cases collected

theorem items_yield (normalizes : Normalizes cache shared resolver resolution)
    (bindings : env.Each (normal cache shared resolver).Safe) {items : List Term}
    (safe : ∀ item ∈ items, (normal cache shared resolver).Safe item) :
    Yields cache shared resolver since (resolver.resolveItems resolution cache env items)
      fun values later => ∀ value ∈ values, Good cache shared resolver value later := by
  induction items generalizing since with
  | nil => exact .pure fun _ _ value member => absurd member List.not_mem_nil
  | cons item rest ih =>
      obtain ⟨first, others⟩ := List.forall_mem_cons.1 safe
      refine (normalizes.yields (.refl _) since first bindings).bind fun value later _ good => ?_
      refine (ih others).bind fun values later' suffix more => ?_
      refine .pure fun later'' suffix' => List.forall_mem_cons.2 ⟨?_, ?_⟩
      · exact good.suffix (suffix.trans suffix')
      · exact fun value member => (more value member).suffix suffix'

/-- The values of entries are resolved under their keys. -/
theorem entries_yield (normalizes : Normalizes cache shared resolver resolution)
    (bindings : env.Each (normal cache shared resolver).Safe) {entries : Entries}
    (safe : Entries.Each (normal cache shared resolver).Safe entries) :
    Yields cache shared resolver since (resolver.resolveEntries resolution cache env entries)
      fun values later => (∀ entry ∈ values, (normal cache shared resolver).Safe entry.1 ∧
        Good cache shared resolver entry.2 later) ∧ Entries.keys values = Entries.keys entries := by
  induction entries generalizing since with
  | nil => exact .pure fun _ _ => ⟨fun entry member => absurd member List.not_mem_nil, rfl⟩
  | cons entry rest ih =>
      obtain ⟨first, others⟩ := Entries.each_cons.1 safe
      refine (normalizes.yields (.refl _) since first.2 bindings).bind fun value later _ good => ?_
      refine (ih others).bind fun values later' suffix more => ?_
      refine .pure fun later'' suffix' => ⟨List.forall_mem_cons.2 ⟨⟨first.1, ?_⟩, ?_⟩, ?_⟩
      · exact good.suffix (suffix.trans suffix')
      · exact fun entry member => ⟨(more.1 entry member).1, (more.1 entry member).2.suffix suffix'⟩
      · unfold Entries.keys at more ⊢
        rw [List.map_cons, List.map_cons, more.2]

theorem has_of_keys {entries others : Entries} (same : Entries.keys entries = Entries.keys others)
    (key : Term) : Entries.has entries key = Entries.has others key := by
  have any_keys : ∀ entries : Entries,
      Entries.has entries key = (Entries.keys entries).any (·.sameKey key) := by
    intro entries
    rw [Entries.has_eq_any, Entries.keys, List.any_map]
    rfl
  rw [any_keys, any_keys, same]

theorem Collected.suffix {events later : List Event} {t : Term}
    (collected : Collected resolver (Left events) t) (suffix : events <:+ later) :
    Collected resolver (Left later) t := by
  cases collected with
  | map kind noDefaults values =>
      exact .map kind noDefaults fun entry member => (values entry member).suffix suffix
  | list kind values => exact .list kind fun item member => (values item member).suffix suffix
  | tuple kind values => exact .tuple kind fun item member => (values item member).suffix suffix

/-- A collection that is made of resolved children is a node of its own. -/
theorem gathered_yields {make : Run Term} (bindings : env.Each (normal cache shared resolver).Safe)
    (gathered : Quiet make fun made =>
      (normal cache shared resolver).Safe made ∧ Collected resolver (Left since) made) :
    Yields cache shared resolver since (do return Step.again (← make) env true)
      (SoundStep cache shared resolver) := by
  refine (Yields.ofKeeps (.quiet gathered)).bind fun made later suffix holds => ?_
  refine .pure fun later' suffix' => ⟨holds.1, bindings, fun _ => ?_⟩
  exact holds.2.suffix (suffix.trans suffix')

theorem collect_yields (normalizes : Normalizes cache shared resolver resolution)
    (sound : Sound cache shared resolver node since) (isCollection : node.kind.isCollection = true)
    (noDefaults : ∀ entries, node.term.entries? = some entries → node.kind = .mapping →
      Entries.has entries resolver.defaultsKey = false) :
    Yields cache shared resolver since (resolver.collect resolution cache node)
      (SoundStep cache shared resolver) := by
  have cases_of : node.kind = .mapping ∨ node.kind = .sequence := by
    simpa [Kind.isCollection] using isCollection
  have safe := sound.safe
  unfold Resolver.collect
  rcases cases_of with kind | kind
  · obtain ⟨mapKind, stamp, entries, shape⟩ :=
      Classifier.map_of_kind (sound.kind.symm.trans kind)
    have looked := sound.kind.symm.trans kind
    have unscoped := noDefaults entries (by rw [shape]; rfl) kind
    rw [shape] at safe looked ⊢
    refine (entries_yield normalizes sound.bindings ((normal cache shared resolver).safe_hereditary.map.1 safe)).bind
      fun values later _ resolved => ?_
    refine gathered_yields sound.bindings (.makeMap fun stamp' => ⟨?_, .map ?_ ?_ ?_⟩)
    · refine (normal cache shared resolver).safe_hereditary.map.2 fun entry member => ?_
      exact ⟨(resolved.1 entry member).1, (resolved.1 entry member).2.1⟩
    · exact Classifier.kind_plainMap looked
    · rw [has_of_keys resolved.2]
      exact unscoped
    · exact fun entry member => (resolved.1 entry member).2.2
  · rcases Classifier.items_of_kind (sound.kind.symm.trans kind) with
      ⟨listKind, stamp, items, shape⟩ | ⟨stamp, items, shape⟩
    · have looked := sound.kind.symm.trans kind
      rw [shape] at safe looked ⊢
      refine (items_yield normalizes sound.bindings ((normal cache shared resolver).safe_hereditary.list.1 safe)).bind
        fun values later _ resolved => ?_
      refine gathered_yields sound.bindings (.makeList fun stamp' => ⟨?_, .list ?_ ?_⟩)
      · exact (normal cache shared resolver).safe_hereditary.list.2 fun item member => (resolved item member).1
      · exact Classifier.kind_plainList looked
      · exact fun item member => (resolved item member).2
    · have looked := sound.kind.symm.trans kind
      rw [shape] at safe looked ⊢
      refine (items_yield normalizes sound.bindings ((normal cache shared resolver).safe_hereditary.tuple.1 safe)).bind
        fun values later _ resolved => ?_
      refine gathered_yields sound.bindings (.makeTuple fun stamp' => ⟨?_, .tuple ?_ ?_⟩)
      · exact (normal cache shared resolver).safe_hereditary.tuple.2 fun item member => (resolved item member).1
      · exact looked
      · exact fun item member => (resolved item member).2

/-- Only what is kept stays in a collection of resolved children. -/
theorem removal_quiet {term : Term} {events : List Event}
    (safe : (normal cache shared resolver).Safe term)
    (collected : Collected resolver (Left events) term) (deep : 2 ≤ resolver.config.maxDepth) :
    Quiet (resolver.prune term) fun step => ∃ value, step = .finish value ∧
      Good cache shared resolver value events := by
  have kept : ∀ value, (!resolver.drops value) = true → resolver.drops value = false :=
    fun value keeps => by simpa using keeps
  cases collected with
  | @map stamp entries kind noDefaults values =>
      refine Quiet.bind (.ofResult fun _ _ => trivial) fun _ (_ : True) => ?_
      have each := ((normal cache shared resolver).safe_hereditary.map.1 safe).sublist
        (List.filter_sublist (p := fun entry => !resolver.drops entry.2))
      refine Quiet.bind (Quiet.makeMap fun stamp =>
        ⟨(normal cache shared resolver).safe_hereditary.map.2 each, .map kind deep ?_ ?_ ?_⟩) fun made good => .pure ⟨made, rfl, good⟩
      · exact Entries.has_of_sublist List.filter_sublist noDefaults
      · exact fun entry member => kept _ (List.mem_filter.1 member).2
      · exact fun entry member => values entry (List.mem_filter.1 member).1
  | @list stamp items kind values =>
      refine Quiet.bind (.ofResult fun _ _ => trivial) fun _ (_ : True) => ?_
      refine Quiet.bind (Quiet.makeList fun stamp =>
        ⟨(normal cache shared resolver).safe_hereditary.list.2 ?_, .list kind deep ?_ ?_⟩) fun made good => .pure ⟨made, rfl, good⟩
      · exact fun item member => (normal cache shared resolver).safe_hereditary.list.1 safe item (List.mem_filter.1 member).1
      · exact fun item member => kept _ (List.mem_filter.1 member).2
      · exact fun item member => values item (List.mem_filter.1 member).1
  | @tuple stamp items kind values =>
      refine Quiet.bind (.ofResult fun _ _ => trivial) fun _ (_ : True) => ?_
      refine Quiet.bind (Quiet.makeTuple fun stamp =>
        ⟨(normal cache shared resolver).safe_hereditary.tuple.2 ?_, .tuple kind deep ?_ ?_⟩) fun made good => .pure ⟨made, rfl, good⟩
      · exact fun item member => (normal cache shared resolver).safe_hereditary.tuple.1 safe item (List.mem_filter.1 member).1
      · exact fun item member => kept _ (List.mem_filter.1 member).2
      · exact fun item member => values item (List.mem_filter.1 member).1

/-- What a built-in rule makes of a node that it applies to. -/
theorem transform_yields (normalizes : Normalizes cache shared resolver resolution)
    (fits : (normal cache shared resolver).Fits resolver cache) (sound : Sound cache shared resolver node since)
    (deep : node.collected = true → 2 ≤ resolver.config.maxDepth) {rule : Rule Term}
    (applies : resolver.Applies node rule) :
    Yields cache shared resolver since (resolver.transform resolution cache node rule)
      (SoundStep cache shared resolver) := by
  cases applies with
  | lookup isRef bound =>
      obtain ⟨textKind, s, shape⟩ := Classifier.text_of_ref (sound.kind.symm.trans isRef)
      have named : node.term.text?.isSome = true := by
        rw [shape]
        rfl
      refine (lookup_yields normalizes sound.bindings named).bind fun value later _ good => ?_
      exact .pure fun later' suffix => good.suffix suffix
  | fixpoint isRef unbound => exact fixpoint_yields sound isRef unbound
  | application isFunction => exact application_yields normalizes sound isFunction
  | callable isCallable => exact callable_yields normalizes sound fits isCallable
  | nestedDefaults isMapping defaults =>
      refine defaults_yield normalizes sound isMapping ?_
      cases collected : node.collected with
      | false => rfl
      | true =>
          rw [sound.unscoped collected] at defaults
          cases defaults
  | collection isCollection fresh unscoped =>
      refine collect_yields normalizes sound isCollection fun entries found isMapping => ?_
      simpa [isScoped, found] using unscoped isMapping
  | removal collected =>
      have quiet := removal_quiet sound.safe (sound.collected collected) (deep collected)
      refine (Yields.ofKeeps (.quiet quiet)).mono ?_
      rintro step later suffix ⟨value, rfl, good⟩
      exact good.suffix suffix
  | passThrough passes fresh =>
      refine .pure fun later suffix => ⟨sound.safe, ?_⟩
      rcases passes with isScalar | isRemoved
      · exact .scalar (sound.kind.symm.trans isScalar)
      · rw [Classifier.removed_of_kind (sound.kind.symm.trans isRemoved)]
        exact .removed

theorem reduce_yields (normalizes : Normalizes cache shared resolver resolution)
    (fits : (normal cache shared resolver).Fits resolver cache) (rules : resolver.rules = Rule.standard)
    (steps : Nat) {node : Node} (sound : Sound cache shared resolver node since)
    (within : steps ≤ resolver.config.maxDepth)
    (deep : node.collected = true → steps < resolver.config.maxDepth) :
    Yields cache shared resolver since (resolver.reduce resolution cache steps node)
      (Good cache shared resolver) := by
  induction steps generalizing node since with
  | zero =>
      exact (Yields.ofKeeps (.quiet (.chain cache))).bind fun _ _ _ _ => .throw _
  | succ steps ih =>
      have deep' : node.collected = true → 2 ≤ resolver.config.maxDepth := by
        intro collected
        have := deep collected
        omega
      rw [reduce_succ rules]
      refine (transform_yields normalizes fits sound deep' (resolver.applies_ruleFor node)).bind
        fun step later _ leads => ?_
      cases step with
      | finish value => exact .pure fun later' suffix => Good.suffix leads suffix
      | again term env collected =>
          refine (Yields.ofKeeps (.ofResult fun _ found => found)).bind
            fun kind later' suffix classified => ?_
          refine ih ⟨leads.1, leads.2.1, Classifier.kind_of_classify classified, ?_⟩
            (Nat.le_of_succ_le within) fun _ => within
          exact fun collected => (leads.2.2 collected).suffix suffix

/-! ## Levels -/

theorem Normalizes.resolveNode (normalizes : Normalizes cache shared resolver resolution)
    (rules : resolver.rules = Rule.standard) {t : Term}
    (safe : (normal cache shared resolver).Safe t)
    (bindings : env.Each (normal cache shared resolver).Safe) :
    Yields cache shared resolver since (resolver.resolveNode resolution cache t env)
      (Good cache shared resolver) := by
  have fits : (normal cache shared resolver).Fits resolver cache := by
    refine ⟨fun _ => .refl _, fun t member => ?_⟩
    unfold replacements at member
    rw [rules] at member
    exact absurd member List.not_mem_nil
  refine (Yields.ofKeeps (.ofResult fun _ found => found)).bind fun kind later suffix classified => ?_
  refine reduce_yields normalizes fits rules _
    ⟨safe, bindings, Classifier.kind_of_classify classified, fun collected => ?_⟩
    (Nat.le_refl _) fun collected => ?_
  · cases collected
  · cases collected

/-- Resolution at every level gives values in normal form. -/
theorem normalizes_resolveTerm (rules : resolver.rules = Rule.standard) (levels : Nat) :
    Normalizes cache shared resolver (resolveTerm ceiling levels) := by
  induction levels with
  | zero =>
      refine ⟨fun _ _ _ => .throw _, fun _ _ _ _ _ _ => .throw _⟩
  | succ levels ih =>
      have yields : ∀ {other}, resolver.Similar other → ∀ {t env} since,
          (normal cache shared resolver).Safe t → env.Each (normal cache shared resolver).Safe →
            Yields cache shared resolver since (resolveTerm ceiling (levels + 1) other t env cache)
              (Good cache shared resolver) := by
        intro other similar t env since safe bindings
        rw [normal_eq_of_similar similar] at safe bindings
        exact ((ih.of_similar similar).resolveNode (similar.rules.trans rules) safe
          bindings).of_similar similar.symm
      refine ⟨?_, yields⟩
      intro resolver' t env cache' fits' safe bindings
      by_cases own : cache' = cache
      · subst own
        exact Yields.toKeeps (Good cache' shared resolver)
          (fun since => yields (fits'.admits rfl) since safe bindings) fun _ _ good => good.1
      · exact (ih.serves.worksOther fits' own).resolveNode safe bindings

end Custody

namespace Resolver

variable {resolver : Resolver Term} {template : Term} {env : Environment Term}
  {given : Option CacheId} {world world' : World} {value : Term}

/-- What a resolution with a fresh table leaves in it, and the value, are in normal form. -/
theorem resolve_settled {stack : Stack} (rules : resolver.rules = Rule.standard)
    (fresh : Fresh resolver.Similar resolver template env given world)
    (run : resolver.resolve template env given stack world = .ok value world') :
    ∃ table : Cache, table.Settled resolver [] ∧ Normal resolver (Left table.events) value ∧
      (world'.cache (world.tableFor given)).events = table.events := by
  let shared : Prop := world.active = some (world.tableFor given)
  let custody := Custody.normal (world.tableFor given) shared resolver
  have normalizes : Custody.Normalizes (world.tableFor given) shared resolver
      (resolveTerm stack.ceiling stack.levels) :=
    Custody.normalizes_resolveTerm rules stack.levels
  have begins : custody.holds [] .empty world.caught := by
    refine ⟨List.suffix_refl _, ?_, ?_⟩
    · exact fun entry member => absurd member List.not_mem_nil
    · exact fun event member => absurd member List.not_mem_nil
  have ends := Custody.after_fresh custody
    (fun value table => Normal resolver (Left table.events) value) fresh rfl (.refl resolver) rfl
    begins fun safe bindings _ world held =>
      (normalizes.yields (.refl _) [] safe bindings world held).mono
        (fun _ _ ends => ⟨ends.1, ends.2.2⟩) fun _ _ _ => trivial
  have checked := after_resolveWith (fun value world world' same holds => by
    rw [same.caught, same.cache_eq]
    exact holds) (fun _ _ _ _ _ _ _ => trivial) ends
  obtain ⟨table, settled, normal, found⟩ := checked.of_ok run
  refine ⟨table, settled, normal, ?_⟩
  rw [show world'.cache (world.tableFor given) = _ from found]
  split <;> rfl

def scopedBy (key : String) : Resolver Term :=
  { standard with config := { Config.standard with defaultsKey := key } }

/-- A mapping with a scope of defaults for resolvers that look for it under another key. -/
def foreignScope : Term :=
  .map .plain none [(.str "D", .map .plain none [(.str "z", .null)]), (.str "k", .null)]

end Resolver

end ScopedTemplate
