import ScopedTemplate.Proofs.Relevance.Names

/-!
# What a resolution reads

In a term without scopes of defaults and callables, the names that are looked up are those that the term
mentions, and those that stand unbound in values.  So what holds of a table as long as such names are
looked up holds until the term is resolved, whether this fails or not.
-/

namespace ScopedTemplate

variable {ceiling : Int}

open Run

/-- A function that leaves all tables alone, whether it fails or not. -/
def Term.SparesTables : Term → Prop
  | .function stamp name deps doc callee => ∀ ceiling levels args world,
      After (invoke (resolveTerm ceiling levels) callee (.function stamp name deps doc callee) args) world
        (fun _ after => world.Grows after) fun _ after => world.Grows after
  | _ => False

/-- What is to hold of the worlds of a resolution that looks up some names. -/
structure Watch where
  resolver : Resolver Term
  env : Environment Term
  cache : CacheId
  names : String → Prop
  /-- Names that values may refer to. -/
  free : String → Prop
  holds : World → Prop

namespace Watch

variable (w : Watch)

/-- A run goes on from worlds of the watch to such worlds, and `post` holds of its values. -/
def Keeps {α : Type} (run : Run α) (post : α → Prop) : Prop :=
  ∀ world, w.holds world → After run world (fun value after => w.holds after ∧ post value)
    fun _ after => w.holds after

/-- What is asked of a watch: notes in the table and other tables make no difference. -/
structure Lawful : Prop where
  rules : w.resolver.rules = Rule.standard
  grows : ∀ {world after}, world.Grows after → w.holds world → w.holds after
  noted : ∀ {world} {event : Event}, event.isNote = true → w.holds world →
    w.holds (world.change w.cache (Cache.record · event))
  /-- What is not bound may stand in values. -/
  unbound : ∀ {kind s}, w.env.target? (.text kind s) = none → w.free s
  among : ∀ {s}, w.free s → w.names s

abbrev Gives (f : Term) : Prop := f.SparesTables ∧ f.GivesData w.resolver

/-- Terms that only mention names of the watch, with functions that return plain data. -/
abbrev Knows : Term → Prop := w.resolver.Confined w.names w.Gives

abbrev Value : Term → Prop := w.resolver.IsValue w.free

/-- What is done below a node keeps the watch. -/
structure Below (resolution : Resolution) : Prop where
  lookup : ∀ kind s, w.names s →
    w.Keeps (lookupName resolution w.resolver w.env w.cache (.text kind s)) w.Value
  child : ∀ {t}, w.Knows t → w.Keeps (resolution w.resolver t w.env w.cache) w.Value
  function : ∀ {stamp name deps doc callee args},
    w.Gives (.function stamp name deps doc callee) →
      (∀ arg ∈ args, w.Value arg) →
        w.Keeps (invoke resolution callee (.function stamp name deps doc callee) args) w.Knows

variable {w} {α β : Type} {post : α → Prop} {post' : β → Prop}

namespace Keeps

theorem mono {run : Run α} {weaker : α → Prop} (keeps : w.Keeps run post)
    (imp : ∀ value, post value → weaker value) : w.Keeps run weaker :=
  fun world holds => (keeps world holds).mono (fun value _ ends => ⟨ends.1, imp value ends.2⟩)
    fun _ _ ends => ends

theorem pure {value : α} (holds : post value) : w.Keeps (pure value) post :=
  fun _ watched => ⟨watched, holds⟩

theorem bind {first : Run α} {next : α → Run β} (keeps : w.Keeps first post)
    (later : ∀ value, post value → w.Keeps (next value) post') : w.Keeps (first >>= next) post' := by
  intro world holds
  refine after_bind.2 ((keeps world holds).mono ?_ fun _ _ ends => ends)
  exact fun value after ends => later value ends.2 after ends.1

variable (lawful : w.Lawful)

include lawful

theorem quiet {run : Run α} (quiet : Quiet run post) : w.Keeps run post := by
  have same : ∀ {world after}, World.SameTables world after → w.holds world → w.holds after :=
    fun same => lawful.grows ⟨same.caches ▸ List.prefix_refl _, same.active⟩
  intro world holds
  refine (quiet world).mono ?_ fun _ _ ends => same ends holds
  exact fun _ _ ends => ⟨same ends.1 holds, ends.2⟩

theorem record {event : Event} (noted : event.isNote = true) :
    w.Keeps (record w.cache event) fun _ => True :=
  fun _ holds => ⟨lawful.noted noted holds, trivial⟩

end Keeps

/-! ## Collected children -/

variable (w) in
/-- Collections of resolved children. -/
inductive Gathers : Term → Prop where
  | list {stamp : Option Stamp} {items : List Term} (each : ∀ item ∈ items, w.Value item) :
      Gathers (.list .plain stamp items)
  | tuple {stamp : Option Stamp} {items : List Term} (each : ∀ item ∈ items, w.Value item) :
      Gathers (.tuple stamp items)
  | map {stamp : Option Stamp} {entries : Entries}
      (noDefaults : Entries.has entries w.resolver.defaultsKey = false)
      (each : ∀ entry ∈ entries, w.Value entry.2) : Gathers (.map .plain stamp entries)

theorem Gathers.gathered {t : Term} (gathers : w.Gathers t) : w.resolver.Gathered t := by
  cases gathers with
  | list => exact .list
  | tuple => exact .tuple
  | map noDefaults => exact .map noDefaults

/-- What is left of a collection is a value. -/
theorem Gathers.prune {t : Term} (gathers : w.Gathers t) :
    Quiet (w.resolver.prune t) fun step => ∃ value, step = .finish value ∧ w.Value value := by
  unfold Resolver.prune
  cases gathers with
  | list each =>
      dsimp only [Term.elements?]
      refine Quiet.bind (.ofResult fun _ _ => trivial) fun _ (_ : True) => ?_
      refine (Silent.makeList _).quiet.bind ?_
      rintro _ ⟨stamp, rfl⟩
      exact .pure ⟨_, rfl, Resolver.isValue_list fun item member => each item (List.mem_filter.1 member).1⟩
  | tuple each =>
      dsimp only
      refine Quiet.bind (.ofResult fun _ _ => trivial) fun _ (_ : True) => ?_
      refine (Silent.makeTuple _).quiet.bind ?_
      rintro _ ⟨stamp, rfl⟩
      exact .pure ⟨_, rfl, Resolver.isValue_tuple fun item member => each item (List.mem_filter.1 member).1⟩
  | map noDefaults each =>
      dsimp only
      refine Quiet.bind (.ofResult fun _ _ => trivial) fun _ (_ : True) => ?_
      refine (Silent.makeMap _).quiet.bind ?_
      rintro _ ⟨stamp, rfl⟩
      exact .pure ⟨_, rfl, Resolver.isValue_map (Entries.has_of_sublist List.filter_sublist noDefaults)
        fun entry member => each entry (List.mem_filter.1 member).1⟩

/-! ## Nodes -/

namespace Below

variable {resolution : Resolution} (below : w.Below resolution)

include below

theorem resolveItems {items : List Term} (each : ∀ item ∈ items, w.Knows item) :
    w.Keeps (w.resolver.resolveItems resolution w.cache w.env items)
      fun values => ∀ value ∈ values, w.Value value := by
  induction items with
  | nil => exact .pure nofun
  | cons item rest ih =>
      obtain ⟨first, others⟩ := List.forall_mem_cons.1 each
      refine (below.child first).bind fun value holds => ?_
      exact (ih others).bind fun values more => .pure (List.forall_mem_cons.2 ⟨holds, more⟩)

theorem resolveEntries {entries : Entries} (each : ∀ entry ∈ entries, w.Knows entry.2) :
    w.Keeps (w.resolver.resolveEntries resolution w.cache w.env entries)
      fun values => Entries.keys values = Entries.keys entries ∧ ∀ entry ∈ values, w.Value entry.2 := by
  induction entries with
  | nil => exact .pure ⟨rfl, nofun⟩
  | cons entry rest ih =>
      obtain ⟨first, others⟩ := List.forall_mem_cons.1 each
      refine (below.child first).bind fun value holds => ?_
      refine (ih others).bind fun values more => .pure ?_
      exact ⟨congrArg (entry.1 :: ·) more.1, List.forall_mem_cons.2 ⟨holds, more.2⟩⟩

variable (lawful : w.Lawful)

include lawful

theorem resolveDependencies (function : String) {deps : List String}
    (among : ∀ dep ∈ deps, w.names dep) :
    w.Keeps (w.resolver.resolveDependencies resolution w.cache function w.env deps)
      fun values => ∀ entry ∈ values, w.Value entry.2 := by
  induction deps with
  | nil => exact .pure nofun
  | cons dep rest ih =>
      obtain ⟨first, others⟩ := List.forall_mem_cons.1 among
      refine (below.lookup .ref dep first).bind fun value holds => ?_
      refine Keeps.bind (.quiet lawful
        (w.resolver.checkDependency_steady function dep w.env value).quiet) fun _ _ => ?_
      exact (ih others).bind fun values more => .pure (List.forall_mem_cons.2 ⟨holds, more⟩)

theorem applyFunction {stamp : Stamp} {name : String} {deps : List String} {doc : Option String}
    {callee : Term} {kind : Kind} (among : ∀ dep ∈ deps, w.names dep)
    (known : w.Gives (.function stamp name deps doc callee)) :
    w.Keeps (w.resolver.applyFunction resolution w.cache
        ⟨.function stamp name deps doc callee, kind, w.env, false⟩)
      fun step => ∃ result, step = .again result w.env false ∧ w.Knows result := by
  unfold Resolver.applyFunction
  refine (below.resolveDependencies lawful name among).bind fun values each => ?_
  refine Keeps.bind (.quiet lawful (Quiet.log _ _)) fun _ _ => ?_
  refine Keeps.bind (.record lawful rfl) fun _ _ => ?_
  have args : ∀ arg ∈ Resolver.arguments deps values, w.resolver.IsValue w.free arg :=
    Resolver.mem_arguments (Resolver.isValue_null w.resolver w.free) each
  exact (below.function known args).bind fun result knows => .pure ⟨result, rfl, knows⟩

/-- The children of a collection are gathered. -/
theorem collect {t : Term} {kind : Kind} (knows : w.Knows t)
    (isCollection : (w.resolver.classifier.kind t).isCollection = true) :
    w.Keeps (w.resolver.collect resolution w.cache ⟨t, kind, w.env, false⟩)
      fun step => ∃ made, step = .again made w.env true ∧ w.Gathers made := by
  unfold Resolver.collect
  cases knows with
  | data looked =>
      rcases looked with looked | looked <;> rw [looked] at isCollection <;> cases isCollection
  | reference looked => rw [looked] at isCollection; cases isCollection
  | function looked => rw [looked] at isCollection; cases isCollection
  | callable looked => rw [looked] at isCollection; cases isCollection
  | map looked noDefaults each =>
      refine (below.resolveEntries each).bind fun values more => ?_
      refine Keeps.bind (.quiet lawful (Silent.makeMap values).quiet) ?_
      rintro _ ⟨stamp, rfl⟩
      exact .pure ⟨_, rfl, .map ((Custody.has_of_keys more.1 _).trans noDefaults) more.2⟩
  | list looked each =>
      refine (below.resolveItems each).bind fun values more => ?_
      refine Keeps.bind (.quiet lawful (Silent.makeList values).quiet) ?_
      rintro _ ⟨stamp, rfl⟩
      exact .pure ⟨_, rfl, .list more⟩
  | tuple looked each =>
      refine (below.resolveItems each).bind fun values more => ?_
      refine Keeps.bind (.quiet lawful (Silent.makeTuple values).quiet) ?_
      rintro _ ⟨stamp, rfl⟩
      exact .pure ⟨_, rfl, .tuple more⟩

omit below in
/-- A node without steps left is reported. -/
theorem reduce_zero (node : Node) :
    w.Keeps (w.resolver.reduce resolution w.cache 0 node) w.Value := by
  unfold Resolver.reduce
  exact .quiet lawful ((Quiet.chain w.cache).bind fun _ _ => .throw _)

omit below in
/-- A collection of resolved children is finished. -/
theorem follow {t : Term} (gathers : w.Gathers t) (steps : Nat) :
    w.Keeps (w.resolver.follow resolution w.cache steps (.again t w.env true)) w.Value := by
  unfold Resolver.follow
  refine Keeps.bind (.quiet lawful (Quiet.ofResult fun _ classified => classified))
    fun kind classified => ?_
  rw [Classifier.kind_of_classify classified]
  cases steps with
  | zero => exact reduce_zero lawful _
  | succ steps =>
      rw [Resolver.reduce_succ lawful.rules, gathers.gathered.ruleFor]
      refine Keeps.bind (.quiet lawful gathers.prune) ?_
      rintro _ ⟨value, rfl, holds⟩
      exact .pure holds

/-- A node is reduced: the induction is on the steps that are left. -/
theorem reduce (steps : Nat) {t : Term} (knows : w.Knows t) :
    w.Keeps (w.resolver.reduce resolution w.cache steps
      ⟨t, w.resolver.classifier.kind t, w.env, false⟩) w.Value := by
  induction steps generalizing t with
  | zero => exact reduce_zero lawful _
  | succ steps ih =>
      rw [Resolver.reduce_succ lawful.rules]
      have gathers : (w.resolver.classifier.kind t).isCollection = true →
          w.Keeps (w.resolver.transform resolution w.cache
              ⟨t, w.resolver.classifier.kind t, w.env, false⟩ .collection >>=
            w.resolver.follow resolution w.cache steps) w.Value := by
        intro isCollection
        refine (below.collect lawful knows isCollection).bind ?_
        rintro _ ⟨made, rfl, gathers⟩
        exact follow lawful gathers steps
      cases knows with
      | data looked =>
          rw [Resolver.ruleFor_single looked]
          exact .pure (.data looked)
      | @reference kind s looked among =>
          rw [looked, Resolver.ruleFor_ref]
          split
          · simp only [Resolver.transform, bind_assoc, pure_bind]
            exact (below.lookup _ _ among).bind fun _ holds => .pure holds
          · next missing =>
              have free : w.free s := lawful.unbound (Option.not_isSome_iff_eq_none.1 missing)
              simp only [Resolver.transform, bind_assoc, pure_bind]
              exact Keeps.bind (.record lawful rfl) fun _ _ => .pure (.reference looked free)
      | function looked among known =>
          rw [looked, Resolver.ruleFor_function]
          refine (below.applyFunction lawful among known).bind ?_
          rintro _ ⟨result, rfl, knows⟩
          unfold Resolver.follow
          refine Keeps.bind (.quiet lawful (Quiet.ofResult fun _ classified => classified))
            fun kind classified => ?_
          rw [Classifier.kind_of_classify classified]
          exact ih knows
      | callable looked known =>
          obtain ⟨_, _, _, _, _, rfl⟩ := Classifier.callable_of_kind looked
          exact known.1.elim
      | map looked noDefaults values =>
          rw [looked, Resolver.ruleFor_mapping, noDefaults, if_neg Bool.false_ne_true, ← looked]
          exact gathers (by rw [looked]; rfl)
      | list looked each =>
          rw [looked, Resolver.ruleFor_sequence, ← looked]
          exact gathers (by rw [looked]; rfl)
      | tuple looked each =>
          rw [looked, Resolver.ruleFor_sequence, ← looked]
          exact gathers (by rw [looked]; rfl)

/-- A term is resolved one level up. -/
theorem resolveNode {t : Term} (knows : w.Knows t) :
    w.Keeps (w.resolver.resolveNode resolution w.cache t w.env) w.Value := by
  unfold Resolver.resolveNode
  refine Keeps.bind (.quiet lawful (Quiet.ofResult fun _ classified => classified))
    fun kind classified => ?_
  rw [Classifier.kind_of_classify classified]
  exact below.reduce lawful _ knows

end Below

/-- What a function returns refers to what its arguments refer to. -/
theorem keeps_invoke (lawful : w.Lawful) {stamp : Stamp} {name : String} {deps : List String}
    {doc : Option String} {callee : Term} (levels : Nat) {args : List Term}
    (gives : w.Gives (.function stamp name deps doc callee))
    (each : ∀ arg ∈ args, w.Value arg) :
    w.Keeps (invoke (resolveTerm ceiling levels) callee (.function stamp name deps doc callee) args)
      w.Knows := by
  intro world holds
  have spares := gives.1 ceiling levels args world
  unfold After at spares ⊢
  cases ended : invoke (resolveTerm ceiling levels) callee (.function stamp name deps doc callee) args world with
  | error failure after =>
      rw [ended] at spares
      exact lawful.grows spares holds
  | ok value after =>
      rw [ended] at spares
      have made := gives.2 args value ⟨ceiling, levels, world, after, ended⟩
      exact ⟨lawful.grows spares holds, (made w.free each).mono (fun _ => lawful.among) fun _ => False.elim⟩

end Watch

end ScopedTemplate
