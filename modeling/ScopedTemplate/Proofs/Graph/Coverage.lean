import ScopedTemplate.Proofs.Graph.Agreement
import ScopedTemplate.Proofs.Graph.Reads
import ScopedTemplate.Proofs.Relevance.Agreement

/-!
# What the graph foresees

The names that are looked up while a binding is computed are its references and the dependencies of the
functions in it.  The graph has all of them but the dependencies of functions inside of collections.
-/

namespace ScopedTemplate

variable {ceiling : Int} {stack : Stack}

open Run

namespace Resolver

variable (resolver : Resolver Term) (env : Environment Term)

/-- A name can be looked up while the innermost of some keys is computed: its binding mentions it. -/
def Foresees (pending : List CacheKey) (name : String) : Prop :=
  ∀ outer, pending.getLast? = some outer → ∃ binding,
    env.target? (.ref outer.name) = some binding ∧ resolver.Mentions name binding

def Foreseen (events : List Event) : Prop :=
  ∀ key scope pending served, .lookup key scope pending served ∈ events →
    resolver.Foresees env pending key.name

def Unbound (name : String) : Prop := env.target? (.ref name) = none

/-- The worlds in which keys are in flight, where all lookups were foreseen. -/
structure Watched (cache : CacheId) (pending : List CacheKey) (world : World) : Prop where
  inside : cache < world.caches.length
  pending : (world.cache cache).pending = pending
  foreseen : resolver.Foreseen env (world.cache cache).events
  stored : ∀ {key value}, (world.cache cache).find? key = some value →
    resolver.IsValue (Unbound env) value

def watch (cache : CacheId) (pending : List CacheKey) : Watch where
  resolver := resolver
  env := env
  cache := cache
  names name := Unbound env name ∨ resolver.Foresees env pending name
  free := Unbound env
  holds := resolver.Watched env cache pending

variable {resolver env} {cache : CacheId} {pending : List CacheKey} {world : World}

theorem Foreseen.cons {events : List Event} (foreseen : resolver.Foreseen env events) {event : Event}
    (here : ∀ key scope pending served, event = .lookup key scope pending served →
      resolver.Foresees env pending key.name) : resolver.Foreseen env (event :: events) := by
  intro key scope pending served member
  rcases List.mem_cons.1 member with same | later
  · exact here key scope pending served same.symm
  · exact foreseen key scope pending served later

theorem Watched.change (watched : resolver.Watched env cache pending world) {pending' : List CacheKey}
    {change : Cache → Cache} (inFlight : (change (world.cache cache)).pending = pending')
    (foreseen : resolver.Foreseen env (change (world.cache cache)).events)
    (stored : ∀ {key value}, (change (world.cache cache)).find? key = some value →
      resolver.IsValue (Unbound env) value) :
    resolver.Watched env cache pending' (world.change cache change) where
  inside := (world.length_change cache change).symm ▸ watched.inside
  pending := by rw [world.cache_change watched.inside]; exact inFlight
  foreseen := by rw [world.cache_change watched.inside]; exact foreseen
  stored := by rw [world.cache_change watched.inside]; exact stored

theorem Watched.of_same {after : World} (same : World.SameTables world after)
    (watched : resolver.Watched env cache pending world) : resolver.Watched env cache pending after where
  inside := same.caches ▸ watched.inside
  pending := same.cache_eq cache ▸ watched.pending
  foreseen := same.cache_eq cache ▸ watched.foreseen
  stored := same.cache_eq cache ▸ watched.stored

/-- What is foreseen may be looked up. -/
theorem Watched.looks (watched : resolver.Watched env cache pending world) {name : String}
    (foreseen : resolver.Foresees env pending name) (scope : Environment Term) (served : Bool) :
    resolver.Foreseen env (.lookup (env.keyOf name) scope (world.cache cache).pending served ::
      (world.cache cache).events) := by
  refine watched.foreseen.cons ?_
  rintro key scope' pending' served' ⟨⟩
  rw [watched.pending]
  exact foreseen

theorem watch_lawful (rules : resolver.rules = Rule.standard) :
    (resolver.watch env cache pending).Lawful where
  rules := rules
  grows grows watched := by
    refine ⟨watched.inside.trans_le grows.caches.length_le, ?_, ?_, ?_⟩
    · rw [grows.cache watched.inside]; exact watched.pending
    · rw [grows.cache watched.inside]; exact watched.foreseen
    · rw [grows.cache watched.inside]; exact watched.stored
  noted {world event} noted watched := by
    refine watched.change watched.pending (watched.foreseen.cons ?_) watched.stored
    rintro key scope pending served rfl
    cases noted
  unbound {kind s} missing := (target?_ref env kind s).symm.trans missing
  among := .inl

/-- A name that is foreseen is looked up, if all terms of the binding are resolved under watch. -/
theorem lookup_watched {levels : Nat} (kind : TextKind) {name : String}
    (among : (resolver.watch env cache pending).names name)
    (rules : resolver.rules = Rule.standard)
    (child : ∀ binding, env.target? (.ref name) = some binding →
      (resolver.watch env cache (pending ++ [env.keyOf name])).Keeps
        (resolveTerm ceiling levels resolver binding env cache) (resolver.IsValue (Unbound env))) :
    (resolver.watch env cache pending).Keeps
      (lookupName (resolveTerm ceiling levels) resolver env cache (.text kind name))
      (resolver.IsValue (Unbound env)) := by
  unfold lookupName
  cases bound : env.target? (.text kind name) with
  | none =>
      have unbound : Unbound env name := (target?_ref env kind name).symm.trans bound
      exact (Watch.Keeps.record (watch_lawful rules) rfl).bind fun _ _ => .pure (isValue_text unbound)
  | some binding =>
      have target : env.target? (.ref name) = some binding := (target?_ref env kind name).symm.trans bound
      have foreseen : resolver.Foresees env pending name := by
        refine among.resolve_left fun unbound => ?_
        cases (show env.target? (.ref name) = none from unbound).symm.trans target
      intro world (watched : resolver.Watched env cache pending world)
      refine after_memoize ?_ ?_ ?_ ?_ ?_
      · exact fun value world world' same holds => ⟨holds.1.of_same same, holds.2⟩
      · exact fun failure _ => watched
      · exact fun failure _ => (watch_lawful rules).noted rfl watched
      · exact fun value found next =>
          ⟨watched.change watched.pending (watched.looks foreseen env true) watched.stored,
            (watched.stored found).of_resembles (Term.outline_detach _ _).symm⟩
      · intro begins entered enters
        have inFlight : ((world.cache cache).enter (env.keyOf name) env).pending =
            pending ++ [env.keyOf name] := congrArg (· ++ [env.keyOf name]) watched.pending
        have enteredWatched := (watched.change inFlight (watched.looks foreseen env false)
          watched.stored).of_same enters
        have left : ∀ {done}, resolver.Watched env cache (pending ++ [env.keyOf name]) done →
            resolver.Watched env cache pending (done.change cache Cache.leave) := by
          exact fun holds =>
            holds.change (Cache.pending_leave holds.pending) holds.foreseen holds.stored
        refine (child binding target entered enteredWatched).mono ?_ fun _ _ holds => left holds
        rintro value done ⟨holds, isValue⟩ next
        refine ⟨(left holds).change (left holds).pending (left holds).foreseen fun {key held} found => ?_,
          isValue⟩
        rw [Cache.find?_put] at found
        split at found
        · cases found
          exact isValue.of_resembles (Term.outline_detach _ _).symm
        · exact (left holds).stored found

/-- Bindings without scopes of defaults and callables, with functions that return plain data. -/
def Declares (resolver : Resolver Term) (env : Environment Term) : Prop :=
  ∀ {name binding}, env.target? (.ref name) = some binding →
    resolver.Scopeless (fun f => f.SparesTables ∧ f.GivesData resolver) binding

/-- Terms that mention what is foreseen are resolved under watch. -/
theorem keeps_watch (rules : resolver.rules = Rule.standard) (declares : resolver.Declares env)
    (ceiling : Int) (levels : Nat) (pending : List CacheKey) {t : Term}
    (knows : (resolver.watch env cache pending).Knows t) :
    (resolver.watch env cache pending).Keeps (resolveTerm ceiling levels resolver t env cache)
      (resolver.IsValue (Unbound env)) := by
  induction levels generalizing pending t with
  | zero => exact fun world watched => watched
  | succ levels ih =>
      refine Watch.Below.resolveNode ⟨?_, fun knows => ih pending knows, ?_⟩ (watch_lawful rules) knows
      · intro kind name among
        refine lookup_watched kind among rules fun binding bound => ih _ ?_
        refine (declares bound).restrict (fun _ known => known) fun other mentions => ?_
        refine .inr fun outer last => ?_
        rw [List.getLast?_concat] at last
        cases last
        exact ⟨binding, bound, mentions⟩
      · exact Watch.keeps_invoke (watch_lawful rules) levels

/-! ## Bindings -/

variable (resolver) in
/-- A function somewhere in a term depends on a name, outside of leaves. -/
inductive Depends (name : String) : Term → Prop where
  | function {stamp : Stamp} {label : String} {deps : List String} {doc : Option String}
      {callee : Term}
      (looked : resolver.classifier.kind (.function stamp label deps doc callee) = .function)
      (among : name ∈ deps) : Depends name (.function stamp label deps doc callee)
  | part {t s : Term} (looked : resolver.classifier.isCollection t = true) (inside : s ∈ t.inner)
      (depends : Depends name s) : Depends name t

/-- A term mentions what it refers to and what functions in it depend on. -/
theorem Mentions.cases {name : String} {t : Term} {known : Term → Prop}
    (mentions : resolver.Mentions name t) (scopeless : resolver.Scopeless known t) :
    name ∈ resolver.referencesOf t ∨ resolver.Depends name t := by
  induction mentions with
  | reference looked =>
      left
      unfold referencesOf
      rw [Term.references_text looked]
      exact List.mem_singleton_self name
  | dependency looked among => exact .inr (.function looked among)
  | part isCollection inside _ ih =>
      have found := isCollection
      unfold Classifier.isCollection at found
      cases scopeless with
      | data looked => rcases looked with looked | looked <;> rw [looked] at found <;> cases found
      | reference looked => rw [looked] at found; cases found
      | function looked => rw [looked] at found; cases found
      | callable looked => rw [looked] at found; cases found
      | map looked noDefaults each =>
          obtain ⟨entry, member, rfl⟩ := List.mem_map.1 inside
          refine (ih (each entry member)).imp (fun among => ?_) (.part isCollection inside)
          unfold referencesOf
          rw [Term.references_map looked]
          exact (mem_referencesOf_map noDefaults).2 ⟨entry, member, among⟩
      | list looked each =>
          refine (ih (each _ inside)).imp (fun among => ?_) (.part isCollection inside)
          unfold referencesOf
          rw [Term.references_list looked]
          exact Term.mem_referencesInItems.2 ⟨_, inside, among⟩
      | tuple looked each =>
          refine (ih (each _ inside)).imp (fun among => ?_) (.part isCollection inside)
          unfold referencesOf
          rw [Term.references_tuple looked]
          exact Term.mem_referencesInItems.2 ⟨_, inside, among⟩

/-- The graph has what a binding mentions, but for dependencies of functions inside of collections. -/
theorem mem_dependencies_of_mentions {bindings : Entries} (isScope : bindings.IsScope)
    {binding : Term × Term} (member : binding ∈ bindings) {known : Term → Prop}
    (scopeless : resolver.Scopeless known binding.2) {name : String}
    (mentions : resolver.Mentions name binding.2) (other : name ≠ binding.1.nameText) :
    name ∈ (resolver.graphOf bindings).dependencies binding.1.nameText ∨
      binding.2.dependencies? = none ∧ resolver.Depends name binding.2 := by
  have declared : name ∈ Graph.declared resolver.classifier resolver.config.defaultsKey
      binding.1.nameText binding.2 →
      name ∈ (resolver.graphOf bindings).dependencies binding.1.nameText := by
    intro among
    rw [(graphOf_proper bindings).mem_dependencies, graphOf_table isScope]
    exact ⟨_, List.mem_map_of_mem member, rfl, among⟩
  cases data : binding.2.dependencies? with
  | none =>
      refine (mentions.cases scopeless).imp (fun among => declared ?_) fun depends => ⟨rfl, depends⟩
      exact (mem_declared data).2 ⟨among, other⟩
  | some deps =>
      left
      refine declared ?_
      cases binding with
      | mk key value =>
          cases value with
          | function stamp label deps doc callee =>
              cases mentions with
              | dependency _ among => exact Text.mem_distinct.2 among
              | part _ inside => cases inside
          | _ => cases data

/-! ## Whole resolutions -/

/-- All lookups of a resolution with a new table are foreseen, whether it fails or not. -/
theorem foreseen_resolve (rules : resolver.rules = Rule.standard) (declares : resolver.Declares env)
    {template : Term} (scopeless : resolver.Scopeless (fun f => f.SparesTables ∧ f.GivesData resolver) template)
    {given : Option CacheId} (new : ∀ id, (given <|> world.active) = some id →
      id < world.caches.length ∧ world.cache id = .empty) :
    resolver.Foreseen env
      ((left (resolver.resolve template env given stack world)).cache (world.tableFor given)).events := by
  obtain ⟨start, isNew, -, close, closing, begun⟩ := World.resolveLeniently_begun new
    (resolveTerm stack.ceiling stack.levels) resolver template env
  have watched : resolver.Watched env (world.tableFor given) [] start :=
    ⟨isNew.inside, isNew.empty ▸ rfl, isNew.empty ▸ nofun, isNew.empty ▸ nofun⟩
  have knows : (resolver.watch env (world.tableFor given) []).Knows template :=
    scopeless.restrict (fun _ known => known) fun _ _ => .inr nofun
  have inTable := left_resolveIn Watched.of_same
    (after_left.1 ((keeps_watch rules declares stack.ceiling stack.levels [] knows start watched).mono
      (fun _ _ holds => holds.1) fun _ _ holds => holds))
  unfold resolve resolveWith
  refine left_bind (P := fun after => resolver.Foreseen env (after.cache (world.tableFor given)).events)
    (fun same holds => same.cache_eq _ ▸ holds) ?_
    fun value => ((resolver.checkResult_steady env value).quiet).bind fun _ _ => .pure trivial
  rw [begun]
  generalize resolveIn (resolveTerm stack.ceiling stack.levels) resolver template env (world.tableFor given) start =
    result at inTable
  cases result with
  | ok value done =>
      show resolver.Foreseen env ((close done).cache (world.tableFor given)).events
      rw [(closing done inTable.inside).events]
      exact inTable.foreseen
  | error failure done =>
      show resolver.Foreseen env ((close done).cache (world.tableFor given)).events
      rw [(closing done inTable.inside).events]
      exact inTable.foreseen

/--
With the built-in rules and a new table, without scopes of defaults and callables, and with functions that
return plain data: whatever else is looked up while the binding of a name is computed is among its
dependencies in the graph, and comes before it if the graph has an order, unless a function inside a
collection depends on it.
-/
theorem lookups_foreseen {bindings : Entries} {template : Term} {given : Option CacheId} {world : World}
    (rules : resolver.rules = Rule.standard) (isScope : bindings.IsScope)
    (declares : ∀ binding ∈ bindings, resolver.Scopeless (fun f => f.SparesTables ∧ f.GivesData resolver) binding.2)
    (scopeless : resolver.Scopeless (fun f => f.SparesTables ∧ f.GivesData resolver) template)
    (new : ∀ id, (given <|> world.active) = some id →
      id < world.caches.length ∧ world.cache id = .empty)
    {key outer : CacheKey} {scope : Environment Term} {pending : List CacheKey} {served : Bool}
    (looked : .lookup key scope pending served ∈ ((left (resolver.resolve template
      (.ofBindings bindings []) given stack world)).cache (world.tableFor given)).events)
    (innermost : pending.getLast? = some outer) (other : key.name ≠ outer.name) :
    (key.name ∈ (resolver.graphOf bindings).dependencies outer.name ∧
      ∀ order, (resolver.graphOf bindings).topologicalOrder.value = some order →
        [key.name, outer.name].Sublist order) ∨
    ∃ binding ∈ bindings, binding.1.nameText = outer.name ∧ binding.2.dependencies? = none ∧
      resolver.Depends key.name binding.2 := by
  have targets : resolver.Declares (.ofBindings bindings []) := by
    intro name binding bound
    obtain ⟨⟨entry, member, -, rfl⟩, -⟩ := (target?_ofBindings isScope).1 bound
    exact declares entry member
  obtain ⟨_, bound, mentions⟩ :=
    foreseen_resolve rules targets scopeless new key scope pending served looked outer innermost
  obtain ⟨⟨binding, member, same, rfl⟩, -⟩ := (target?_ofBindings isScope).1 bound
  rw [← same] at other ⊢
  refine (mem_dependencies_of_mentions isScope member (declares binding member) mentions other).imp ?_ ?_
  · exact fun needs => ⟨needs, fun order found => (graphOf_proper bindings).before found needs⟩
  · exact fun depends => ⟨binding, member, rfl, depends⟩

theorem sparesTables_keeper (name : String) : (Term.keeper name).SparesTables := by
  intro ceiling levels args world
  cases args with
  | nil => exact ⟨List.prefix_refl _, rfl⟩
  | cons arg rest => exact ⟨List.prefix_refl _, rfl⟩

/-- A name that is bound to a term, and one that is bound to data. -/
def above (t : Term) : Entries := [(.str "A", t), (.str "B", .str "b")]

theorem above_isScope (t : Term) : (above t).IsScope :=
  ⟨List.forall_mem_cons.2 ⟨⟨_, _, rfl⟩, List.forall_mem_singleton.2 ⟨_, _, rfl⟩⟩,
    show ["A", "B"].Nodup by decide⟩

/-- The dependency of a function is looked up while the function is applied, and comes before it. -/
theorem keeper_foreseen :
    ∃ key outer scope pending served, Event.lookup key scope pending served ∈
        ((left (standard.resolve (.ref "A") (.ofBindings (above (.keeper "B")) []) none .usual .empty)).cache
          0).events ∧
      pending.getLast? = some outer ∧ key.name = "B" ∧ outer.name = "A" ∧
      "B" ∈ (standard.graphOf (above (.keeper "B"))).dependencies "A" ∧
      ∀ order, (standard.graphOf (above (.keeper "B"))).topologicalOrder.value = some order →
        ["B", "A"].Sublist order := by
  have known : standard.Scopeless (fun f => f.SparesTables ∧ f.GivesData standard) (.keeper "B") :=
    .function rfl (fun _ _ => trivial) ⟨sparesTables_keeper "B", Term.givesData_keeper standard "B"⟩
  have declares : ∀ binding ∈ above (.keeper "B"),
      standard.Scopeless (fun f => f.SparesTables ∧ f.GivesData standard) binding.2 :=
    List.forall_mem_cons.2 ⟨known, List.forall_mem_singleton.2 (.data (.inl rfl))⟩
  have looked := List.mem_iff_getElem?.2 ⟨1, (rfl : ((left (standard.resolve (.ref "A")
    (.ofBindings (above (.keeper "B")) []) none .usual .empty)).cache 0).events[1]? = some _)⟩
  refine ⟨_, _, _, _, _, looked, rfl, rfl, rfl, ?_⟩
  refine (lookups_foreseen rfl (above_isScope _) declares (.reference rfl trivial)
    (World.new_of_idle rfl) looked rfl (by decide)).resolve_right ?_
  rintro ⟨binding, member, name, data, -⟩
  rcases List.mem_cons.1 member with rfl | member
  · cases data
  · rw [List.mem_singleton.1 member] at name
    exact absurd (name : "B" = "A") (by decide)

/-- The dependency of a function in a list is looked up while the list is computed, and comes after it. -/
theorem buried_unforeseen :
    ∃ key outer scope pending served, Event.lookup key scope pending served ∈
        ((left (standard.resolve (.ref "A") (.ofBindings (above (.list .plain none [Term.keeper "B"])) [])
          none .usual .empty)).cache 0).events ∧
      pending.getLast? = some outer ∧ key.name = "B" ∧ outer.name = "A" ∧
      "B" ∉ (standard.graphOf (above (.list .plain none [Term.keeper "B"]))).dependencies "A" ∧
      (standard.graphOf (above (.list .plain none [Term.keeper "B"]))).topologicalOrder.value =
        some ["A", "B"] := by
  have looked := List.mem_iff_getElem?.2 ⟨1, (rfl : ((left (standard.resolve (.ref "A")
    (.ofBindings (above (.list .plain none [Term.keeper "B"])) []) none .usual .empty)).cache 0).events[1]? =
      some _)⟩
  exact ⟨_, _, _, _, _, looked, rfl, rfl, rfl, by decide, by decide⟩

end Resolver

end ScopedTemplate
