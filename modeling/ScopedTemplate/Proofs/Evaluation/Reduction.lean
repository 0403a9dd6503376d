import ScopedTemplate.Proofs.Evaluation.Lookup
import ScopedTemplate.Proofs.Resolver.Rewriting

/-!
# Reductions compute values

A rule that finishes a node gives the value of its term, and one that goes on leads to a term with
the same value under the bindings that it leads to.
-/

namespace ScopedTemplate

variable {ceiling : Int}

open Run

namespace Domain

variable {domain : Domain} {cache : CacheId} {resolution : Resolution} {env : Environment Term}
  {stage : domain.Stage} {flight : Flight} {t : Term} {kind : Kind}

/-! ## Values by kind -/

theorem evaluate_classified (classified : domain.meaning.resolver.classifier.classify t = .ok kind)
    (depth : Nat) :
    domain.meaning.evaluate (depth + 1) (env.bindings domain.sorts) (t.outline domain.sorts) =
      domain.meaning.valueOf (domain.meaning.evaluate depth) (env.bindings domain.sorts)
        (t.outline domain.sorts) kind := by
  rw [Meaning.evaluate, Classifier.classify_outline, classified]
  rfl

theorem valued_of (classified : domain.meaning.resolver.classifier.classify t = .ok kind)
    (depth : Nat) {value : Term}
    (found : domain.meaning.valueOf (domain.meaning.evaluate depth) (env.bindings domain.sorts)
      (t.outline domain.sorts) kind = some (value.outline domain.sorts)) :
    domain.Valued env t value :=
  ⟨depth + 1, (evaluate_classified classified depth).trans found⟩

theorem fails_of (classified : domain.meaning.resolver.classifier.classify t = .ok kind)
    {failure : Failure} (fails : ∀ depth value,
      domain.meaning.valueOf (domain.meaning.evaluate depth) (env.bindings domain.sorts)
        (t.outline domain.sorts) kind = some value →
      domain.Undecided flight (depth + 1) → failure.isLimit = true) :
    domain.Fails flight env t failure := by
  intro depth value found undecided
  cases depth with
  | zero => cases found
  | succ depth =>
      rw [evaluate_classified classified] at found
      exact fails depth value found undecided

theorem nameValue_unique {depth depth' : Nat} {name : String} {value value' : Term}
    (first : domain.nameValue depth env name = some value)
    (second : domain.nameValue depth' env name = some value') : value = value' := by
  have later := nameValue_mono (Nat.le_max_left depth depth') first
  have later' := nameValue_mono (Nat.le_max_right depth depth') second
  exact Option.some.inj (later.symm.trans later')

/-! ## Functions -/

/-- Arguments that are references are refused under strict settings. -/
def Accepts (domain : Domain) (args : List Term) : Prop :=
  (domain.meaning.resolver.config.checkDependencies &&
    args.any domain.meaning.resolver.classifier.isRef) = false

theorem accepts_cons {arg : Term} {args : List Term} :
    domain.Accepts (arg :: args) ↔ domain.Accepts [arg] ∧ domain.Accepts args := by
  unfold Accepts
  cases domain.meaning.resolver.config.checkDependencies <;> simp

theorem accepts_outline {args : List Term} :
    domain.Accepts (args.map (Term.outline domain.sorts)) ↔ domain.Accepts args := by
  unfold Accepts
  rw [List.any_map]
  simp [Function.comp_def]

theorem Lawful.checkDependency (lawful : domain.Lawful) (function dep : String) (value : Term) :
    domain.Computes cache stage flight
      (domain.meaning.resolver.checkDependency function dep env value) (fun _ _ => True)
      (fun _ => domain.Accepts [value]) (fun _ => ¬ domain.Accepts [value]) := by
  unfold Resolver.checkDependency
  split
  · next refused =>
      have refuses : ¬ domain.Accepts [value] := by
        unfold Accepts
        rw [List.any_cons, List.any_nil, Bool.or_false, refused]
        decide
      exact (Computes.snapshot lawful env refuses).seq lawful fun _ _ _ _ => .throw lawful refuses
  · next accepted =>
      refine .pure lawful trivial ?_
      unfold Accepts
      rw [List.any_cons, List.any_nil, Bool.or_false]
      exact Bool.eq_false_iff.2 accepted

/-- Dependencies have the values that are found for them. -/
theorem Lawful.dependencies (lawful : domain.Lawful) (refines : domain.Refines cache resolution)
    (admits : domain.admits stage env) (function : String) (deps : List String) :
    domain.Computes cache stage flight
      (domain.meaning.resolver.resolveDependencies resolution cache function env deps)
      (fun stage values => Entries.keys values = deps.map Term.ref ∧
        ∀ entry ∈ values, domain.Holds stage entry.2)
      (fun values => domain.Accepts (Entries.values values) ∧
        ∃ depth, deps.mapM (domain.nameValue depth env) =
          some ((Entries.values values).map (Term.outline domain.sorts)))
      (fun failure => ∀ depth args, deps.mapM (domain.nameValue depth env) = some args →
        domain.Accepts args → domain.Undecided flight (depth + 1) → failure.isLimit = true) := by
  induction deps generalizing stage with
  | nil =>
      refine .pure lawful ⟨rfl, fun entry member => absurd member List.not_mem_nil⟩ ⟨?_, 0, rfl⟩
      unfold Accepts
      exact Bool.and_false _
  | cons dep rest ih =>
      have looksUp : domain.Computes cache stage flight _ _ _ _ :=
        lawful.lookup refines admits .ref dep
      refine Computes.bind lawful (looksUp.mono (fun _ _ holds => holds) (fun _ named => named) ?_)
        fun stage' value later holds => ?_
      · intro failure fails depth args found _ undecided
        obtain ⟨first, others, here, _, rfl⟩ := mapM_cons_eq_some.1 found
        exact fails depth first here undecided
      refine Computes.bind lawful ((lawful.checkDependency function dep value).mono
        (fun _ _ holds => holds) (fun _ accepts => accepts) ?_) fun stage'' _ later' _ => ?_
      · rintro failure refuses ⟨depth, named⟩ depth' args found accepts _
        obtain ⟨first, others, here, _, rfl⟩ := mapM_cons_eq_some.1 found
        have same := nameValue_unique named here
        subst same
        have accepted := (accepts_cons.1 accepts).1
        exact absurd (accepts_outline.1 accepted) refuses
      have admits'' := lawful.admits_later (lawful.trans later later') admits
      refine Computes.bind lawful ((ih admits'').mono (fun _ _ holds => holds)
        (fun _ named => named) ?_) fun stage3 values later'' resolved => ?_
      · intro failure fails _ _ depth args found accepts undecided
        obtain ⟨first, others, _, later, rfl⟩ := mapM_cons_eq_some.1 found
        exact fails depth others later (accepts_cons.1 accepts).2 undecided
      refine .pure lawful ⟨?_, List.forall_mem_cons.2 ⟨?_, resolved.2⟩⟩ ?_
      · rw [List.map_cons, ← resolved.1]
        rfl
      · exact lawful.holds_later later'' (lawful.holds_later later' holds)
      · rintro ⟨accepts, depth, found⟩ accepted ⟨depth', named⟩
        refine ⟨accepts_cons.2 ⟨accepted, accepts⟩, max depth depth', ?_⟩
        refine mapM_cons_eq_some.2 ⟨_, _, nameValue_mono (Nat.le_max_right _ _) named, ?_, rfl⟩
        exact mapM_mono (fun _ _ _ => nameValue_mono (Nat.le_max_left _ _)) found

theorem mapM_eq_map {α β : Type} {change : α → Option β} {result : α → β} {items : List α}
    (each : ∀ item ∈ items, change item = some (result item)) :
    items.mapM change = some (items.map result) := by
  induction items with
  | nil => rfl
  | cons item rest ih =>
      obtain ⟨first, others⟩ := List.forall_mem_cons.1 each
      exact mapM_cons_eq_some.2 ⟨_, _, first, ih others, rfl⟩

theorem named_unique {depth depth' : Nat} {names : List String} {values values' : List Term}
    (first : names.mapM (domain.nameValue depth env) = some values)
    (second : names.mapM (domain.nameValue depth' env) = some values') : values = values' := by
  have later := mapM_mono (fun _ _ _ => nameValue_mono (Nat.le_max_left depth depth')) first
  have later' := mapM_mono (fun _ _ _ => nameValue_mono (Nat.le_max_right depth depth')) second
  exact Option.some.inj (later.symm.trans later')

/-- What is resolved for a dependency is the value of its name. -/
theorem named_of_mem {change : String → Option Term} {result : Term → Term} {deps : List String}
    {values : Entries} (keys : Entries.keys values = deps.map Term.ref)
    (found : deps.mapM change = some ((Entries.values values).map result)) {entry : Term × Term}
    (member : entry ∈ values) :
    ∃ dep ∈ deps, entry.1 = .ref dep ∧ change dep = some (result entry.2) := by
  induction deps generalizing values with
  | nil =>
      cases values with
      | nil => cases member
      | cons _ _ => cases keys
  | cons dep rest ih =>
      cases values with
      | nil => cases member
      | cons first others =>
          obtain ⟨value, later, here, found, same⟩ := mapM_cons_eq_some.1 found
          obtain ⟨value_eq, later_eq⟩ := List.cons.inj same
          obtain ⟨key_eq, keys_eq⟩ := List.cons.inj keys
          rcases List.mem_cons.1 member with rfl | last
          · refine ⟨dep, List.mem_cons_self, key_eq, ?_⟩
            rw [here, ← value_eq]
          · rw [← later_eq] at found
            obtain ⟨name, inside, named, valued⟩ := ih keys_eq found last
            exact ⟨name, List.mem_cons_of_mem _ inside, named, valued⟩

/-- The argument for a dependency is one of the values found for it. -/
theorem argument_of_dep {deps : List String} {values : Entries}
    (keys : Entries.keys values = deps.map Term.ref) {dep : String} (member : dep ∈ deps) :
    ∃ value, Entries.find? (Entries.ofPairs values) (.ref dep) = some value ∧
      (.ref dep, value) ∈ values := by
  have latest : Entries.find? (Entries.ofPairs values) (.ref dep) =
      Entries.find? values.reverse (.ref dep) := by
    unfold Entries.ofPairs
    rw [Entries.find?_update, Entries.find?_nil]
    cases Entries.find? values.reverse (.ref dep) <;> rfl
  have is_ref : ∀ entry ∈ values, ∃ name, entry.1 = .ref name := by
    intro entry inside
    have among : entry.1 ∈ Entries.keys values := List.mem_map.2 ⟨entry, inside, rfl⟩
    rw [keys] at among
    obtain ⟨name, _, named⟩ := List.mem_map.1 among
    exact ⟨name, named.symm⟩
  have among : Term.ref dep ∈ Entries.keys values := by
    rw [keys]
    exact List.mem_map.2 ⟨dep, member, rfl⟩
  obtain ⟨entry, inside, named⟩ := List.mem_map.1 among
  have has : Entries.has values.reverse (.ref dep) = true := by
    rw [Entries.has_eq_any]
    refine List.any_eq_true.2 ⟨entry, List.mem_reverse.2 inside, ?_⟩
    rw [named]
    simp
  obtain ⟨value, found⟩ := Entries.has_iff.1 has
  obtain ⟨key, stored, same⟩ := Entries.mem_of_find? found
  have stored := List.mem_reverse.1 stored
  obtain ⟨name, rfl⟩ := is_ref _ stored
  have same : name = dep := by simpa using same
  subst same
  exact ⟨value, latest.trans found, stored⟩

/-- Repeated dependencies have one value, so each argument is the value of its name. -/
theorem arguments_outline {depth : Nat} {deps : List String} {values : Entries}
    (keys : Entries.keys values = deps.map Term.ref)
    (found : deps.mapM (domain.nameValue depth env) =
      some ((Entries.values values).map (Term.outline domain.sorts))) :
    (Resolver.arguments deps values).map (Term.outline domain.sorts) =
      (Entries.values values).map (Term.outline domain.sorts) := by
  have each : ∀ dep ∈ deps, domain.nameValue depth env dep = some (Term.outline domain.sorts
      ((Entries.find? (Entries.ofPairs values) (.ref dep)).getD .null)) := by
    intro dep member
    obtain ⟨value, latest, stored⟩ := argument_of_dep keys member
    obtain ⟨name, _, named, valued⟩ := named_of_mem keys found stored
    cases named
    rw [latest]
    exact valued
  have again := (mapM_eq_map each).symm.trans found
  have same := Option.some.inj again
  rw [← same]
  unfold Resolver.arguments
  rw [List.map_map]
  rfl

theorem arguments_hold {deps : List String} {values : Entries}
    (keys : Entries.keys values = deps.map Term.ref)
    (holds : ∀ entry ∈ values, domain.Holds stage entry.2) :
    ∀ arg ∈ Resolver.arguments deps values, domain.Holds stage arg := by
  intro arg member
  obtain ⟨dep, inside, rfl⟩ := List.mem_map.1 member
  obtain ⟨value, latest, stored⟩ := argument_of_dep keys inside
  rw [latest]
  exact holds _ stored

theorem Lawful.invoke (lawful : domain.Lawful) (levels : Nat) {stamp : Stamp} {name : String}
    {deps : List String} {doc : Option String} {callee : Term} {args : List Term}
    (holds : domain.Holds stage (.function stamp name deps doc callee))
    (valued : ∀ arg ∈ args, domain.Holds stage arg) :
    domain.Computes cache stage flight
      (invoke (resolveTerm ceiling levels) callee (.function stamp name deps doc callee) args) domain.Holds
      (fun result => domain.meaning.apply (.function stamp name deps doc callee)
        (args.map (Term.outline domain.sorts)) = some (result.outline domain.sorts))
      (fun failure => failure.isLimit = false →
        domain.meaning.apply (.function stamp name deps doc callee)
          (args.map (Term.outline domain.sorts)) = none) := by
  intro world sane
  refine (lawful.applied levels sane.reached holds valued).mono ?_ ?_
  · rintro result world' ⟨grows, ⟨stage', later, reached, made⟩, gives⟩
    exact ⟨stage', .grows lawful sane later grows reached, made, fun _ => gives⟩
  · rintro failure world' ⟨grows, ⟨stage', later, reached⟩, fails⟩
    exact ⟨stage', .grows lawful sane later grows reached, fun _ => fails⟩

/-- A function is called with the values of its dependencies. -/
theorem Lawful.application (lawful : domain.Lawful) {levels : Nat}
    (refines : domain.Refines cache (resolveTerm ceiling levels)) (admits : domain.admits stage env)
    {stamp : Stamp} {name : String} {deps : List String} {doc : Option String} {callee : Term}
    (holds : domain.Holds stage (.function stamp name deps doc callee)) (collected : Bool) :
    domain.Computes cache stage flight
      (domain.meaning.resolver.applyFunction (resolveTerm ceiling levels) cache
        ⟨.function stamp name deps doc callee, .function, env, collected⟩)
      (fun stage step => ∃ result, step = .again result env collected ∧ domain.Holds stage result)
      (fun step => ∀ result, step = .again result env collected → ∃ depth args,
        deps.mapM (domain.nameValue depth env) = some args ∧ domain.Accepts args ∧
          domain.meaning.apply (.function stamp name deps doc callee) args =
            some (result.outline domain.sorts))
      (fun failure => ∀ depth args, deps.mapM (domain.nameValue depth env) = some args →
        domain.Accepts args →
        (domain.meaning.apply (.function stamp name deps doc callee) args).isSome = true →
        domain.Undecided flight (depth + 1) → failure.isLimit = true) := by
  unfold Resolver.applyFunction
  refine Computes.bind lawful ((lawful.dependencies refines admits name deps).mono
    (fun _ _ resolved => resolved) (fun _ named => named) ?_) fun stage' values later resolved => ?_
  · exact fun failure fails depth args found accepts _ => fails depth args found accepts
  refine (Computes.log lawful _ _).seq lawful fun stage'' _ later' _ => ?_
  refine (Computes.record lawful rfl).seq lawful fun stage3 _ later'' _ => ?_
  have later := lawful.trans later (lawful.trans later' later'')
  have args : ∀ arg ∈ Resolver.arguments deps values, domain.Holds stage3 arg :=
    arguments_hold resolved.1 fun entry member => lawful.holds_later
      (lawful.trans later' later'') (resolved.2 entry member)
  refine Computes.bind lawful ((lawful.invoke levels (lawful.holds_later later holds) args).mono
    (fun _ _ made => made) (fun _ gives => gives) ?_) fun stage4 result _ made => ?_
  · rintro failure fails ⟨accepts, depth, found⟩ depth' args' found' _ given _
    rw [arguments_outline resolved.1 found, named_unique found found'] at fails
    cases limit : failure.isLimit with
    | true => rfl
    | false =>
        rw [fails limit] at given
        cases given
  · refine .pure lawful ⟨result, rfl, made⟩ ?_
    rintro gives ⟨accepts, depth, found⟩ result' same
    cases same
    rw [arguments_outline resolved.1 found] at gives
    exact ⟨depth, _, found, accepts_outline.2 accepts, gives⟩

/-! ## Children -/

theorem Lawful.items (lawful : domain.Lawful) (refines : domain.Refines cache resolution)
    (admits : domain.admits stage env) {items : List Term}
    (holds : ∀ item ∈ items, domain.Holds stage item) :
    domain.Computes cache stage flight
      (domain.meaning.resolver.resolveItems resolution cache env items)
      (fun stage values => ∀ value ∈ values, domain.Holds stage value)
      (fun values => ∃ depth, (items.map (Term.outline domain.sorts)).mapM
        (domain.meaning.evaluate depth (env.bindings domain.sorts)) =
          some (values.map (Term.outline domain.sorts)))
      (fun failure => ∀ depth results, (items.map (Term.outline domain.sorts)).mapM
          (domain.meaning.evaluate depth (env.bindings domain.sorts)) = some results →
        domain.Undecided flight depth → failure.isLimit = true) := by
  induction items generalizing stage with
  | nil => exact .pure lawful (fun value member => absurd member List.not_mem_nil) ⟨0, rfl⟩
  | cons item rest ih =>
      obtain ⟨first, others⟩ := List.forall_mem_cons.1 holds
      refine Computes.bind lawful ((refines first admits).mono (fun _ _ holds => holds)
        (fun _ valued => valued) ?_) fun stage' value later valued => ?_
      · intro failure fails depth results found undecided
        obtain ⟨value, _, here, _, _⟩ := mapM_cons_eq_some.1 found
        exact fails depth value here undecided
      have more := ih (lawful.admits_later later admits) fun item member =>
        lawful.holds_later later (others item member)
      refine Computes.bind lawful (more.mono (fun _ _ holds => holds) (fun _ valued => valued) ?_)
        fun stage'' values later' resolved => ?_
      · intro failure fails _ depth results found undecided
        obtain ⟨_, values, _, later, _⟩ := mapM_cons_eq_some.1 found
        exact fails depth values later undecided
      refine .pure lawful (List.forall_mem_cons.2 ⟨lawful.holds_later later' valued, resolved⟩) ?_
      rintro ⟨depth, found⟩ ⟨depth', here⟩
      refine ⟨max depth depth', mapM_cons_eq_some.2 ⟨_, _, ?_, ?_, rfl⟩⟩
      · exact Meaning.evaluate_mono (Nat.le_max_right _ _) here
      · exact mapM_mono (fun _ _ _ => Meaning.evaluate_mono (Nat.le_max_left _ _)) found

theorem Lawful.entries (lawful : domain.Lawful) (refines : domain.Refines cache resolution)
    (admits : domain.admits stage env) {entries : Entries}
    (holds : ∀ entry ∈ entries, domain.Holds stage entry.2) :
    domain.Computes cache stage flight
      (domain.meaning.resolver.resolveEntries resolution cache env entries)
      (fun stage values => Entries.keys values = Entries.keys entries ∧
        ∀ entry ∈ values, domain.Holds stage entry.2)
      (fun values => ∃ depth, (Entries.mapValues (Term.outline domain.sorts) entries).traverse
        (domain.meaning.evaluate depth (env.bindings domain.sorts)) =
          some (Entries.mapValues (Term.outline domain.sorts) values))
      (fun failure => ∀ depth results,
        (Entries.mapValues (Term.outline domain.sorts) entries).traverse
          (domain.meaning.evaluate depth (env.bindings domain.sorts)) = some results →
        domain.Undecided flight depth → failure.isLimit = true) := by
  induction entries generalizing stage with
  | nil =>
      exact .pure lawful ⟨rfl, fun entry member => absurd member List.not_mem_nil⟩ ⟨0, rfl⟩
  | cons entry rest ih =>
      obtain ⟨first, others⟩ := List.forall_mem_cons.1 holds
      refine Computes.bind lawful ((refines first admits).mono (fun _ _ holds => holds)
        (fun _ valued => valued) ?_) fun stage' value later valued => ?_
      · intro failure fails depth results found undecided
        obtain ⟨value, _, here, _, _⟩ := Entries.traverse_cons_eq_some.1 found
        exact fails depth value here undecided
      have more := ih (lawful.admits_later later admits) fun entry member =>
        lawful.holds_later later (others entry member)
      refine Computes.bind lawful (more.mono (fun _ _ holds => holds) (fun _ valued => valued) ?_)
        fun stage'' values later' resolved => ?_
      · intro failure fails _ depth results found undecided
        obtain ⟨_, values, _, later, _⟩ := Entries.traverse_cons_eq_some.1 found
        exact fails depth values later undecided
      refine .pure lawful ⟨?_, List.forall_mem_cons.2
        ⟨lawful.holds_later later' valued, resolved.2⟩⟩ ?_
      · have keys := resolved.1
        unfold Entries.keys at keys ⊢
        rw [List.map_cons, List.map_cons, keys]
      · rintro ⟨depth, found⟩ ⟨depth', here⟩
        refine ⟨max depth depth', Entries.traverse_cons_eq_some.2 ⟨_, _, ?_, ?_, rfl⟩⟩
        · exact Meaning.evaluate_mono (Nat.le_max_right _ _) here
        · exact Entries.traverse_mono (fun _ _ => Meaning.evaluate_mono (Nat.le_max_left _ _)) found

/-! ## Rules -/

/-- Without steps left a reduction meets its limit. -/
theorem Lawful.reduce_zero (lawful : domain.Lawful) {node : Node}
    {safe : domain.Stage → Term → Prop} {right : Term → Prop} {wrong : Failure → Prop}
    (limit : ∀ failure, failure.isLimit = true → wrong failure) :
    domain.Computes cache stage flight (domain.meaning.resolver.reduce resolution cache 0 node)
      safe right wrong :=
  (Computes.chain lawful).seq lawful fun _ _ _ _ => .throw lawful (limit _ rfl)

/-- Values that cannot be told apart from leaves are refused when they are pruned. -/
theorem Lawful.checkValues (lawful : domain.Lawful) (values : List Term) :
    domain.Computes cache stage flight (ofResult (domain.meaning.resolver.checkValues values))
      (fun _ _ => domain.meaning.resolver.checkValues values = .ok ()) (fun _ => True)
      (fun _ => domain.meaning.resolver.checkValues values ≠ .ok ()) := by
  refine .ofResult lawful (fun value passes => ⟨passes, trivial⟩) fun failure refused => ?_
  rw [refused]
  exact nofun

/-- What holds when a rule finishes a node. -/
theorem Lawful.finishes (lawful : domain.Lawful) (rule : Rule Term) {node : Node} {steps : Nat}
    {safe : domain.Stage → Term → Prop} {right : Term → Prop} {wrong : Failure → Prop}
    (selected : domain.meaning.resolver.ruleFor node = rule)
    (computes : domain.Computes cache stage flight
      (domain.meaning.resolver.transform resolution cache node rule)
      (fun stage step => ∃ value, step = .finish value ∧ safe stage value)
      (fun step => ∀ value, step = .finish value → right value) wrong) :
    domain.Computes cache stage flight
      (domain.meaning.resolver.reduce resolution cache (steps + 1) node) safe right wrong := by
  rw [Resolver.reduce_succ lawful.rules, selected]
  refine computes.bind lawful ?_
  rintro stage' _ _ ⟨value, rfl, holds⟩
  exact .pure lawful holds fun valued => valued value rfl

/-- What holds when a rule goes on. -/
theorem Lawful.goesOn (lawful : domain.Lawful) (rule : Rule Term)
    (led : domain.Stage → Term → Environment Term → Bool → Prop) (leads : Step → Prop)
    {node : Node} {steps : Nat} {safe : domain.Stage → Term → Prop} {right : Term → Prop}
    {wrong : Failure → Prop}
    (selected : domain.meaning.resolver.ruleFor node = rule)
    (computes : domain.Computes cache stage flight
      (domain.meaning.resolver.transform resolution cache node rule)
      (fun stage step => ∃ t env collected, step = .again t env collected ∧ led stage t env collected)
      leads wrong)
    (then_computes : ∀ stage' t env collected, domain.Later stage stage' →
      led stage' t env collected → domain.Computes cache stage' flight (do
          let kind ← ofResult (domain.meaning.resolver.classifier.classify t)
          domain.meaning.resolver.reduce resolution cache steps ⟨t, kind, env, collected⟩) safe
        (fun value => leads (.again t env collected) → right value)
        (fun failure => leads (.again t env collected) → wrong failure)) :
    domain.Computes cache stage flight
      (domain.meaning.resolver.reduce resolution cache (steps + 1) node) safe right wrong := by
  rw [Resolver.reduce_succ lawful.rules, selected]
  refine computes.bind lawful ?_
  rintro stage' _ later ⟨t, env, collected, rfl, holds⟩
  exact then_computes stage' t env collected later holds

/-- A term whose kind is known is reduced as a node of that kind. -/
theorem reduce_classified {run : Kind → Run Term} {safe : domain.Stage → Term → Prop}
    {right : Term → Prop} {wrong : Failure → Prop}
    (classified : domain.meaning.resolver.classifier.classify t = .ok kind)
    (computes : domain.Computes cache stage flight (run kind) safe right wrong) :
    domain.Computes cache stage flight (do
      let kind ← ofResult (domain.meaning.resolver.classifier.classify t)
      run kind) safe right wrong := by
  rw [classified]
  exact computes

/-! ## Removal -/

/-- Values that are left out leave a reduced mapping. -/
theorem reduced_filter (key : Term) {values : Entries} (noDefaults : Entries.has values key = false)
    (keep : Term × Term → Bool) : Entries.Reduced key values (values.filter keep) := by
  refine ⟨List.filter_sublist.map _, fun kind stamp scope found => ?_⟩
  have missing := Entries.has_of_sublist (List.filter_sublist (p := keep)) noDefaults
  cases (Entries.has_eq_false_iff.1 missing).symm.trans found

/-- The resolved children of a mapping are pruned. -/
theorem Lawful.pruneMap (lawful : domain.Lawful) (steps : Nat) {stamp : Option Stamp}
    {values : Entries} (noDefaults : Entries.has values domain.meaning.resolver.defaultsKey = false)
    (holds : domain.Holds stage (.map .plain stamp values)) :
    domain.Computes cache stage flight
      (domain.meaning.resolver.reduce resolution cache steps
        ⟨.map .plain stamp values, .mapping, env, true⟩)
      (fun stage result => domain.Holds stage result ∧
        domain.meaning.resolver.checkValues (Entries.values values) = .ok () ∧
        ∃ stamp', result =
          .map .plain stamp' (values.filter (!domain.meaning.resolver.drops ·.2)))
      (fun _ => True) (fun failure => failure.isLimit = true ∨
        domain.meaning.resolver.checkValues (Entries.values values) ≠ .ok ()) := by
  cases steps with
  | zero => exact lawful.reduce_zero fun _ => .inl
  | succ steps =>
      refine lawful.finishes .removal ?_ ?_
      · exact Resolver.ruleFor_collected rfl fun _ => noDefaults
      obtain ⟨here, inner⟩ := Term.everywhere_map.1 holds
      refine Computes.seq lawful ((lawful.checkValues _).mono (fun _ _ passes => passes)
        (fun _ _ => trivial) fun _ => .inr) fun stage' _ later passes => ?_
      refine Computes.seq lawful (Computes.makeMap lawful (lawful.fits_later later here)
        (reduced_filter _ noDefaults _) fun entry member => lawful.holds_later later
          (inner entry (List.mem_filter.1 member).1)) fun stage'' made _ makes => ?_
      exact .pure lawful ⟨made, rfl, makes.1, passes, makes.2⟩ fun _ _ => trivial

/-- The resolved elements of a list or tuple are pruned. -/
theorem Lawful.pruneItems (lawful : domain.Lawful) (steps : Nat) {build : Option Stamp → List Term → Term}
    (builds : build = Term.list .plain ∨ build = Term.tuple) {stamp : Option Stamp}
    {values : List Term} (holds : ∀ value ∈ values, domain.Holds stage value) :
    domain.Computes cache stage flight
      (domain.meaning.resolver.reduce resolution cache steps
        ⟨build stamp values, .sequence, env, true⟩)
      (fun stage result => domain.Holds stage result ∧
        domain.meaning.resolver.checkValues values = .ok () ∧
        ∃ stamp', result = build stamp' (values.filter (!domain.meaning.resolver.drops ·)))
      (fun _ => True) (fun failure => failure.isLimit = true ∨
        domain.meaning.resolver.checkValues values ≠ .ok ()) := by
  cases steps with
  | zero => exact lawful.reduce_zero fun _ => .inl
  | succ steps =>
      refine lawful.finishes .removal ?_ ?_
      · exact Resolver.ruleFor_collected rfl nofun
      have kept : ∀ {stage'}, domain.Later stage stage' →
          ∀ value ∈ values.filter (!domain.meaning.resolver.drops ·), domain.Holds stage' value :=
        fun later value member => lawful.holds_later later
          (holds value (List.mem_filter.1 member).1)
      rcases builds with rfl | rfl
      · refine Computes.seq lawful ((lawful.checkValues _).mono (fun _ _ passes => passes)
          (fun _ _ => trivial) fun _ => .inr) fun stage' _ later passes => ?_
        refine Computes.seq lawful (Computes.makeList lawful (kept later))
          fun stage'' made _ makes => ?_
        exact .pure lawful ⟨made, rfl, makes.1, passes, makes.2⟩ fun _ _ => trivial
      · refine Computes.seq lawful ((lawful.checkValues _).mono (fun _ _ passes => passes)
          (fun _ _ => trivial) fun _ => .inr) fun stage' _ later passes => ?_
        refine Computes.seq lawful (Computes.makeTuple lawful (kept later))
          fun stage'' made _ makes => ?_
        exact .pure lawful ⟨made, rfl, makes.1, passes, makes.2⟩ fun _ _ => trivial

/-! ## Collections -/

theorem traverse_unique {bindings : Bindings} {depth depth' : Nat} {entries values values' : Entries}
    (first : entries.traverse (domain.meaning.evaluate depth bindings) = some values)
    (second : entries.traverse (domain.meaning.evaluate depth' bindings) = some values') :
    values = values' := by
  have later := Entries.traverse_mono
    (fun _ _ => Meaning.evaluate_mono (Nat.le_max_left depth depth')) first
  have later' := Entries.traverse_mono
    (fun _ _ => Meaning.evaluate_mono (Nat.le_max_right depth depth')) second
  exact Option.some.inj (later.symm.trans later')

theorem results_unique {bindings : Bindings} {depth depth' : Nat} {items values values' : List Term}
    (first : items.mapM (domain.meaning.evaluate depth bindings) = some values)
    (second : items.mapM (domain.meaning.evaluate depth' bindings) = some values') :
    values = values' := by
  have later := mapM_mono
    (fun _ _ _ => Meaning.evaluate_mono (Nat.le_max_left depth depth')) first
  have later' := mapM_mono
    (fun _ _ _ => Meaning.evaluate_mono (Nat.le_max_right depth depth')) second
  exact Option.some.inj (later.symm.trans later')

/-- Entries with the same keys are a reduced mapping if there are no defaults. -/
theorem reduced_of_keys {key : Term} {entries values : Entries}
    (keys : Entries.keys values = Entries.keys entries) (noDefaults : Entries.has values key = false) :
    Entries.Reduced key entries values := by
  refine ⟨?_, fun kind stamp scope found => ?_⟩
  · rewrite [keys]
    exact List.Sublist.refl _
  · cases (Entries.has_eq_false_iff.1 noDefaults).symm.trans found

/-- A mapping without defaults is reduced to the values of its entries. -/
theorem Lawful.mapping (lawful : domain.Lawful) (refines : domain.Refines cache resolution)
    (admits : domain.admits stage env) (steps : Nat) {mapKind : MapKind} {stamp : Option Stamp}
    {entries : Entries} (holds : domain.Holds stage (.map mapKind stamp entries))
    (classified : domain.meaning.resolver.classifier.classify (.map mapKind stamp entries) =
      .ok .mapping)
    (noDefaults : Entries.has entries domain.meaning.resolver.defaultsKey = false) :
    domain.Computes cache stage flight
      (domain.meaning.resolver.reduce resolution cache steps
        ⟨.map mapKind stamp entries, .mapping, env, false⟩) domain.Holds
      (fun value => ∃ depth, domain.meaning.gathered (domain.meaning.evaluate depth)
        (env.bindings domain.sorts) (Entries.mapValues (Term.outline domain.sorts)
          (Entries.arrange domain.sorts entries)) = some (value.outline domain.sorts))
      (fun failure => ∀ depth value, domain.meaning.gathered (domain.meaning.evaluate depth)
          (env.bindings domain.sorts) (Entries.mapValues (Term.outline domain.sorts)
            (Entries.arrange domain.sorts entries)) = some value →
        domain.Undecided flight (depth + 1) → failure.isLimit = true) := by
  cases steps with
  | zero => exact lawful.reduce_zero fun _ limit _ _ _ _ => limit
  | succ steps =>
      obtain ⟨here, inner⟩ := Term.everywhere_map.1 holds
      have looked := (Classifier.classify_eq_ok.1 classified).2
      refine lawful.goesOn .collection
        (fun stage t env' collected => env' = env ∧ collected = true ∧
          ∃ stamp' values, t = .map .plain stamp' values ∧ domain.Holds stage t ∧
            Entries.keys values = Entries.keys entries)
        (fun step => ∀ stamp' values, step = .again (.map .plain stamp' values) env true →
          ∃ depth, (Entries.mapValues (Term.outline domain.sorts) entries).traverse
            (domain.meaning.evaluate depth (env.bindings domain.sorts)) =
              some (Entries.mapValues (Term.outline domain.sorts) values)) ?_ ?_ ?_
      · rw [Resolver.ruleFor_mapping, noDefaults, if_neg Bool.false_ne_true]
      · refine Computes.bind lawful ((lawful.entries refines admits inner).mono
          (fun _ _ resolved => resolved) (fun _ valued => valued) ?_)
          fun stage' values later resolved => ?_
        · intro failure fails depth value found undecided
          obtain ⟨values, traversed, _⟩ := Meaning.traverse_of_gathered found
          exact fails depth values traversed (undecided.mono (Nat.le_succ depth))
        have unscoped : Entries.has values domain.meaning.resolver.defaultsKey = false := by
          rw [Custody.has_of_keys resolved.1]
          exact noDefaults
        refine Computes.seq lawful (Computes.makeMap lawful (lawful.fits_later later here)
          (reduced_of_keys resolved.1 unscoped) resolved.2) fun stage'' made _ makes => ?_
        obtain ⟨valued, stamp', rfl⟩ := makes
        refine .pure lawful ⟨_, env, true, rfl, rfl, rfl, stamp', values, rfl, valued,
          resolved.1⟩ ?_
        rintro traversed _ _ ⟨⟩
        exact traversed
      · rintro stage' _ _ _ later ⟨rfl, rfl, stamp', values, rfl, valued, keys⟩
        have unscoped : Entries.has values domain.meaning.resolver.defaultsKey = false := by
          rw [Custody.has_of_keys keys]
          exact noDefaults
        refine reduce_classified (Classifier.classify_of_kind classified (by decide) rfl
          (Classifier.kind_plainMap looked)) ?_
        refine (lawful.pruneMap steps unscoped valued).safely.mono (fun _ _ pruned => pruned.1)
          ?_ ?_
        · rintro _ ⟨_, _, _, passes, stamp'', rfl⟩ leads
          obtain ⟨depth, traversed⟩ := leads stamp' values rfl
          exact ⟨depth, Meaning.gathered_outline traversed passes⟩
        · rintro failure (limit | refused) leads depth value found undecided
          · exact limit
          · obtain ⟨depth', traversed⟩ := leads stamp' values rfl
            obtain ⟨values', traversed', passes⟩ := Meaning.traverse_of_gathered found
            rw [← traverse_unique traversed traversed', Entries.arrange_mapValues] at passes
            exact absurd (Meaning.checkValues_arrange.1 passes) refused

/-- The resolved elements of a list or tuple are reduced to those that are kept. -/
theorem Lawful.gatheredItems (lawful : domain.Lawful) (steps : Nat)
    {build : Option Stamp → List Term → Term}
    (builds : build = Term.list .plain ∨ build = Term.tuple) {stamp : Option Stamp}
    (items : List Term) {values : List Term}
    (classified : domain.meaning.resolver.classifier.classify (build stamp values) = .ok .sequence)
    (valued : ∀ value ∈ values, domain.Holds stage value) :
    domain.Computes cache stage flight (do
        let kind ← ofResult (domain.meaning.resolver.classifier.classify (build stamp values))
        domain.meaning.resolver.reduce resolution cache steps ⟨build stamp values, kind, env, true⟩)
      domain.Holds
      (fun result => (∃ depth, (items.map (Term.outline domain.sorts)).mapM
          (domain.meaning.evaluate depth (env.bindings domain.sorts)) =
            some (values.map (Term.outline domain.sorts))) →
        ∃ depth, (domain.meaning.elements (domain.meaning.evaluate depth)
          (env.bindings domain.sorts) (items.map (Term.outline domain.sorts))).map (build none) =
            some (result.outline domain.sorts))
      (fun failure => (∃ depth, (items.map (Term.outline domain.sorts)).mapM
          (domain.meaning.evaluate depth (env.bindings domain.sorts)) =
            some (values.map (Term.outline domain.sorts))) →
        ∀ depth results, domain.meaning.elements (domain.meaning.evaluate depth)
          (env.bindings domain.sorts) (items.map (Term.outline domain.sorts)) = some results →
        failure.isLimit = true) := by
  refine reduce_classified classified ?_
  refine (lawful.pruneItems steps builds valued).safely.mono (fun _ _ pruned => pruned.1) ?_ ?_
  · rintro _ ⟨_, _, _, passes, stamp', rfl⟩ ⟨depth, found⟩
    refine ⟨depth, Option.map_eq_some_iff.2 ⟨_, Meaning.elements_eq_some.2
      ⟨_, found, Meaning.checkValues_outline.2 passes, rfl⟩, ?_⟩⟩
    rw [List.filter_map]
    rcases builds with rfl | rfl <;> simp [Function.comp_def]
  · rintro failure (limit | refused) ⟨depth', found'⟩ depth results found
    · exact limit
    · obtain ⟨values', traversed, passes, _⟩ := Meaning.elements_eq_some.1 found
      rw [← results_unique found' traversed] at passes
      exact absurd (Meaning.checkValues_outline.1 passes) refused

/-- A list or tuple whose elements are collected is reduced to their values. -/
theorem Lawful.collected (lawful : domain.Lawful) (refines : domain.Refines cache resolution)
    (admits : domain.admits stage env) (steps : Nat) {items : List Term}
    {build : Option Stamp → List Term → Term} {make : List Term → Run Term}
    (builds : build = Term.list .plain ∨ build = Term.tuple)
    (classified : domain.meaning.resolver.classifier.classify t = .ok .sequence)
    (holds : ∀ item ∈ items, domain.Holds stage item)
    (collects : domain.meaning.resolver.collect resolution cache ⟨t, .sequence, env, false⟩ = (do
      let values ← domain.meaning.resolver.resolveItems resolution cache env items
      return Step.again (← make values) env true))
    (makes : ∀ {stage values wrong}, (∀ value ∈ values, domain.Holds stage value) →
      domain.Computes cache stage flight (make values)
        (fun stage made => domain.Holds stage made ∧ ∃ stamp, made = build stamp values)
        (fun _ => True) wrong)
    (means : ∀ depth, domain.meaning.valueOf (domain.meaning.evaluate depth)
        (env.bindings domain.sorts) (t.outline domain.sorts) .sequence =
      (domain.meaning.elements (domain.meaning.evaluate depth) (env.bindings domain.sorts)
        (items.map (Term.outline domain.sorts))).map (build none))
    (plain : ∀ stamp values,
      domain.meaning.resolver.classifier.classify (build stamp values) = .ok .sequence) :
    domain.Computes cache stage flight
      (domain.meaning.resolver.reduce resolution cache steps ⟨t, .sequence, env, false⟩)
      domain.Holds (domain.Valued env t) (domain.Fails flight env t) := by
  cases steps with
  | zero => exact lawful.reduce_zero fun _ limit _ _ _ _ => limit
  | succ steps =>
      refine lawful.goesOn .collection
        (fun stage t env' collected => env' = env ∧ collected = true ∧
          ∃ stamp values, t = build stamp values ∧ ∀ value ∈ values, domain.Holds stage value)
        (fun step => ∀ stamp values, step = .again (build stamp values) env true →
          ∃ depth, (items.map (Term.outline domain.sorts)).mapM
            (domain.meaning.evaluate depth (env.bindings domain.sorts)) =
              some (values.map (Term.outline domain.sorts))) ?_ ?_ ?_
      · exact Resolver.ruleFor_sequence
      · change domain.Computes cache stage flight (domain.meaning.resolver.collect resolution cache
          ⟨t, .sequence, env, false⟩) _ _ _
        rw [collects]
        refine Computes.bind lawful ((lawful.items refines admits holds).mono
          (fun _ _ resolved => resolved) (fun _ valued => valued) ?_)
          fun stage' values later resolved => ?_
        · intro failure fails
          refine fails_of classified fun depth value found undecided => ?_
          rw [means] at found
          obtain ⟨results, gathered, rfl⟩ := Option.map_eq_some_iff.1 found
          obtain ⟨values, traversed, _⟩ := Meaning.elements_eq_some.1 gathered
          exact fails depth values traversed (undecided.mono (Nat.le_succ depth))
        refine Computes.seq lawful (makes resolved) fun stage'' made later' makes => ?_
        obtain ⟨_, stamp, rfl⟩ := makes
        refine .pure lawful ⟨_, env, true, rfl, rfl, rfl, stamp, values, rfl,
          fun value member => lawful.holds_later later' (resolved value member)⟩ ?_
        intro traversed stamp' values' same
        have same : values' = values := by
          rcases builds with rfl | rfl <;> cases same <;> rfl
        rw [same]
        exact traversed
      · rintro stage' _ _ _ later ⟨rfl, rfl, stamp, values, rfl, valued⟩
        refine (lawful.gatheredItems steps builds items (plain stamp values) valued).mono
          (fun _ _ holds => holds) ?_ ?_
        · intro value gathered leads
          obtain ⟨depth, found⟩ := gathered (leads stamp values rfl)
          exact valued_of classified depth ((means depth).trans found)
        · intro failure fails leads
          refine fails_of classified fun depth value found _ => ?_
          rw [means] at found
          obtain ⟨results, gathered, _⟩ := Option.map_eq_some_iff.1 found
          exact fails (leads stamp values rfl) depth results gathered

theorem Lawful.sequence (lawful : domain.Lawful) (refines : domain.Refines cache resolution)
    (admits : domain.admits stage env) (steps : Nat) (holds : domain.Holds stage t)
    (classified : domain.meaning.resolver.classifier.classify t = .ok .sequence) :
    domain.Computes cache stage flight
      (domain.meaning.resolver.reduce resolution cache steps ⟨t, .sequence, env, false⟩)
      domain.Holds (domain.Valued env t) (domain.Fails flight env t) := by
  have looked := (Classifier.classify_eq_ok.1 classified).2
  rcases Classifier.items_of_kind looked with ⟨listKind, stamp, items, rfl⟩ | ⟨stamp, items, rfl⟩
  · refine lawful.collected refines admits steps (.inl rfl) classified
      (Term.everywhere_list.1 holds).2 rfl (Computes.makeList lawful) ?_ ?_
    · intro depth
      rw [Term.outline_list]
      rfl
    · exact fun stamp' values => Classifier.classify_of_kind classified (by decide) rfl
        (Classifier.kind_plainList looked)
  · refine lawful.collected refines admits steps (.inr rfl) classified
      (Term.everywhere_tuple.1 holds).2 rfl (Computes.makeTuple lawful) ?_ ?_
    · intro depth
      rw [Term.outline_tuple]
      rfl
    · exact fun stamp' values => Classifier.classify_of_kind classified (by decide) rfl looked

/-! ## Defaults -/

theorem mapped_plain {entries : Entries} (depth : Nat)
    (noDefaults : Entries.has entries domain.meaning.resolver.defaultsKey = false) :
    domain.meaning.mapped (domain.meaning.evaluate depth) (env.bindings domain.sorts)
        (Entries.mapValues (Term.outline domain.sorts) (Entries.arrange domain.sorts entries)) =
      domain.meaning.gathered (domain.meaning.evaluate depth) (env.bindings domain.sorts)
        (Entries.mapValues (Term.outline domain.sorts) (Entries.arrange domain.sorts entries)) := by
  have missing : Entries.find? entries domain.meaning.resolver.defaultsKey = none :=
    Entries.has_eq_false_iff.1 noDefaults
  unfold Meaning.mapped
  rw [Entries.find?_mapValues, Entries.find?_arrange, missing]
  rfl

/-- A mapping with defaults is the rest of it in the environment that they lead to. -/
theorem mapped_scoped {entries scope : Entries} {kind : MapKind} {stamp : Option Stamp} (depth : Nat)
    (found : Entries.find? entries domain.meaning.resolver.defaultsKey =
      some (.map kind stamp scope))
    (enters : (env.child scope).bindings domain.sorts = (env.bindings domain.sorts).enter
      domain.meaning.pinned (Entries.mapValues (Term.outline domain.sorts) scope)) :
    domain.meaning.mapped (domain.meaning.evaluate depth) (env.bindings domain.sorts)
        (Entries.mapValues (Term.outline domain.sorts) (Entries.arrange domain.sorts entries)) =
      domain.meaning.gathered (domain.meaning.evaluate depth)
        ((env.child scope).bindings domain.sorts) (Entries.mapValues (Term.outline domain.sorts)
          (Entries.arrange domain.sorts
            (Entries.erase entries domain.meaning.resolver.defaultsKey))) := by
  unfold Meaning.mapped
  rw [Entries.find?_mapValues, Entries.find?_arrange, found, Option.map_some, Term.outline_map]
  dsimp only
  rw [← Entries.arrange_mapValues, Environment.enter_arrange, enters, Entries.erase_mapValues,
    Entries.arrange_erase]

/-- What stands in the place of defaults and is no mapping has no meaning. -/
theorem mapped_malformed {entries : Entries} {defaults : Term} (depth : Nat)
    (found : Entries.find? entries domain.meaning.resolver.defaultsKey = some defaults)
    (malformed : defaults.entries? = none) :
    domain.meaning.mapped (domain.meaning.evaluate depth) (env.bindings domain.sorts)
        (Entries.mapValues (Term.outline domain.sorts) (Entries.arrange domain.sorts entries)) =
      none := by
  unfold Meaning.mapped
  rw [Entries.find?_mapValues, Entries.find?_arrange, found, Option.map_some]
  cases defaults with
  | map kind stamp scope => cases malformed
  | _ => rfl

theorem has_erase (entries : Entries) (key : Term) :
    Entries.has (Entries.erase entries key) key = false := by
  rw [Entries.has_eq_any]
  unfold Entries.erase
  rw [List.any_filter]
  simp

theorem reduced_erase (entries : Entries) (key : Term) :
    Entries.Reduced key entries (Entries.erase entries key) := by
  refine ⟨List.filter_sublist.map _, fun kind stamp scope found => ?_⟩
  have missing := has_erase entries key
  cases (Entries.has_eq_false_iff.1 missing).symm.trans found

theorem valueOf_map (depth : Nat) (mapKind : MapKind) (stamp : Option Stamp) (entries : Entries) :
    domain.meaning.valueOf (domain.meaning.evaluate depth) (env.bindings domain.sorts)
        ((Term.map mapKind stamp entries).outline domain.sorts) .mapping =
      domain.meaning.mapped (domain.meaning.evaluate depth) (env.bindings domain.sorts)
        (Entries.mapValues (Term.outline domain.sorts) (Entries.arrange domain.sorts entries)) := by
  rw [Term.outline_map]
  rfl

section

variable {steps : Nat} {mapKind mapKind' : MapKind} {stamp stamp' : Option Stamp}
  {entries scope : Entries} {defaults : Term}

/-- A mapping with something in the place of defaults makes its next step there. -/
theorem ruleFor_defaults
    (found : Entries.find? entries domain.meaning.resolver.defaultsKey = some defaults) :
    domain.meaning.resolver.ruleFor ⟨.map mapKind stamp entries, .mapping, env, false⟩ =
      .nestedDefaults := by
  have bound : Entries.has entries domain.meaning.resolver.defaultsKey = true :=
    Entries.has_iff.2 ⟨defaults, found⟩
  rw [Resolver.ruleFor_mapping, bound, if_pos rfl]

/-- A mapping whose defaults are no mapping is refused, and has no value. -/
theorem Lawful.malformed (lawful : domain.Lawful)
    (holds : domain.Holds stage (.map mapKind stamp entries))
    (classified : domain.meaning.resolver.classifier.classify (.map mapKind stamp entries) =
      .ok .mapping)
    (found : Entries.find? entries domain.meaning.resolver.defaultsKey = some defaults)
    (shape : defaults.entries? = none) :
    domain.Computes cache stage flight
      (domain.meaning.resolver.reduce resolution cache (steps + 1)
        ⟨.map mapKind stamp entries, .mapping, env, false⟩) domain.Holds
      (domain.Valued env (.map mapKind stamp entries))
      (domain.Fails flight env (.map mapKind stamp entries)) := by
  have noView : defaults.isView = false :=
    (lawful.declarative (Term.Everywhere.find? (Term.everywhere_map.1 holds).2 found).here).2
  have noScope : defaults.scopeSize? = none := by
    cases defaults <;> simp [Term.scopeSize?, Term.entries?, Term.isView] at shape noView ⊢
  have fails : ∀ failure, domain.Fails flight env (.map mapKind stamp entries) failure := by
    refine fun failure => fails_of classified fun depth value valued _ => ?_
    rw [valueOf_map, mapped_malformed depth found shape] at valued
    cases valued
  refine lawful.goesOn .nestedDefaults (fun _ _ _ _ => False) (fun _ => True)
    (ruleFor_defaults found) ?_ fun _ _ _ _ _ => False.elim
  unfold Resolver.transform Resolver.enterDefaults
  dsimp only
  rw [found, Option.getD_some, noScope]
  dsimp only
  exact (Computes.snapshot lawful env (fails _)).seq lawful
    fun _ _ _ _ => .throw lawful (fails _)

/-- A scope of defaults leads to what is left of its mapping, in the environment of the scope. -/
theorem Lawful.entered (lawful : domain.Lawful) (admits : domain.admits stage env)
    (holds : domain.Holds stage (.map mapKind stamp entries))
    (found : Entries.find? entries domain.meaning.resolver.defaultsKey =
      some (.map mapKind' stamp' scope)) (collected : Bool) {wrong : Failure → Prop} :
    domain.Computes cache stage flight
      (domain.meaning.resolver.enterDefaults resolution
        ⟨.map mapKind stamp entries, kind, env, collected⟩)
      (fun stage step => ∃ rest stamp'', step = .again rest (env.child scope) collected ∧
        rest = .map .plain stamp'' (Entries.erase entries domain.meaning.resolver.defaultsKey) ∧
          domain.Holds stage rest ∧ domain.admits stage (env.child scope))
      (fun _ => True) wrong := by
  obtain ⟨here, inner⟩ := Term.everywhere_map.1 holds
  obtain ⟨admitted, _⟩ := lawful.child admits holds found
  unfold Resolver.enterDefaults
  dsimp only
  rw [found, Option.getD_some]
  dsimp only [Term.scopeSize?, Term.scopeEntries]
  refine (Computes.log lawful _ _).seq lawful fun stage' _ later _ => ?_
  rw [pure_bind]
  refine Computes.seq lawful (Computes.makeMap lawful (lawful.fits_later later here)
    (reduced_erase entries _) fun entry member => lawful.holds_later later
      (inner entry (List.mem_filter.1 member).1)) fun stage'' rest later' makes => ?_
  obtain ⟨valued, stamp'', same⟩ := makes
  have admitted' := lawful.admits_later (lawful.trans later later') admitted
  exact .pure lawful ⟨rest, stamp'', rfl, same, valued, admitted'⟩ trivial

/-- A mapping with a scope of defaults is reduced to its value in the environment of the scope. -/
theorem Lawful.scoped (lawful : domain.Lawful) (refines : domain.Refines cache resolution)
    (admits : domain.admits stage env) (holds : domain.Holds stage (.map mapKind stamp entries))
    (classified : domain.meaning.resolver.classifier.classify (.map mapKind stamp entries) =
      .ok .mapping)
    (found : Entries.find? entries domain.meaning.resolver.defaultsKey =
      some (.map mapKind' stamp' scope)) :
    domain.Computes cache stage flight
      (domain.meaning.resolver.reduce resolution cache (steps + 1)
        ⟨.map mapKind stamp entries, .mapping, env, false⟩) domain.Holds
      (domain.Valued env (.map mapKind stamp entries))
      (domain.Fails flight env (.map mapKind stamp entries)) := by
  have looked := (Classifier.classify_eq_ok.1 classified).2
  obtain ⟨_, enters⟩ := lawful.child admits holds found
  refine lawful.goesOn .nestedDefaults
    (fun stage t env' collected => env' = env.child scope ∧ collected = false ∧
      ∃ stamp'', t = .map .plain stamp'' (Entries.erase entries
        domain.meaning.resolver.defaultsKey) ∧ domain.Holds stage t ∧ domain.admits stage env')
    (fun _ => True) (ruleFor_defaults found) ?_ ?_
  · refine (lawful.entered admits holds found false).mono ?_ (fun _ leads => leads) fun _ wrong => wrong
    rintro stage' _ ⟨rest, stamp'', rfl, made⟩
    exact ⟨rest, _, _, rfl, rfl, rfl, stamp'', made⟩
  · rintro stage' _ _ _ _ ⟨rfl, rfl, stamp'', rfl, valued, admitted⟩
    have plain : domain.meaning.resolver.classifier.classify (.map .plain stamp''
        (Entries.erase entries domain.meaning.resolver.defaultsKey)) = .ok .mapping :=
      Classifier.classify_of_kind classified (by decide) rfl (Classifier.kind_plainMap looked)
    refine reduce_classified plain ((lawful.mapping refines admitted steps valued plain
      (has_erase entries _)).mono (fun _ _ holds => holds) ?_ ?_)
    · rintro value ⟨depth, gathered⟩ _
      refine valued_of classified depth ?_
      rw [valueOf_map, mapped_scoped depth found enters]
      exact gathered
    · intro failure fails _
      refine fails_of classified fun depth value gathered undecided => ?_
      rw [valueOf_map, mapped_scoped depth found enters] at gathered
      exact fails depth value gathered undecided

end

/-- A mapping with defaults is reduced to its value in the environment that they lead to. -/
theorem Lawful.defaults (lawful : domain.Lawful) (refines : domain.Refines cache resolution)
    (admits : domain.admits stage env) (steps : Nat) {mapKind : MapKind} {stamp : Option Stamp}
    {entries : Entries} (holds : domain.Holds stage (.map mapKind stamp entries))
    (classified : domain.meaning.resolver.classifier.classify (.map mapKind stamp entries) =
      .ok .mapping) {defaults : Term}
    (found : Entries.find? entries domain.meaning.resolver.defaultsKey = some defaults) :
    domain.Computes cache stage flight
      (domain.meaning.resolver.reduce resolution cache steps
        ⟨.map mapKind stamp entries, .mapping, env, false⟩) domain.Holds
      (domain.Valued env (.map mapKind stamp entries))
      (domain.Fails flight env (.map mapKind stamp entries)) := by
  cases steps with
  | zero => exact lawful.reduce_zero fun _ limit _ _ _ _ => limit
  | succ steps =>
      cases defaults with
      | map kind stamp' scope => exact lawful.scoped refines admits holds classified found
      | _ => exact lawful.malformed holds classified found rfl

/-- A mapping without defaults is reduced to what its values are gathered to. -/
theorem Lawful.unscoped (lawful : domain.Lawful) (refines : domain.Refines cache resolution)
    (admits : domain.admits stage env) (steps : Nat) {mapKind : MapKind} {stamp : Option Stamp}
    {entries : Entries} (holds : domain.Holds stage (.map mapKind stamp entries))
    (classified : domain.meaning.resolver.classifier.classify (.map mapKind stamp entries) =
      .ok .mapping)
    (noDefaults : Entries.has entries domain.meaning.resolver.defaultsKey = false) :
    domain.Computes cache stage flight
      (domain.meaning.resolver.reduce resolution cache steps
        ⟨.map mapKind stamp entries, .mapping, env, false⟩) domain.Holds
      (domain.Valued env (.map mapKind stamp entries))
      (domain.Fails flight env (.map mapKind stamp entries)) := by
  refine (lawful.mapping refines admits _ holds classified noDefaults).mono
    (fun _ _ holds => holds) ?_ ?_
  · rintro value ⟨depth, gathered⟩
    refine valued_of classified depth ?_
    rw [valueOf_map, mapped_plain depth noDefaults]
    exact gathered
  · intro failure fails
    refine fails_of classified fun depth value gathered undecided => ?_
    rw [valueOf_map, mapped_plain depth noDefaults] at gathered
    exact fails depth value gathered undecided

/-! ## Nodes -/

theorem Lawful.reference (lawful : domain.Lawful) (refines : domain.Refines cache resolution)
    (admits : domain.admits stage env) (steps : Nat) {textKind : TextKind} {s : String}
    (holds : domain.Holds stage (.text textKind s))
    (classified : domain.meaning.resolver.classifier.classify (.text textKind s) = .ok .ref) :
    domain.Computes cache stage flight
      (domain.meaning.resolver.reduce resolution cache steps ⟨.text textKind s, .ref, env, false⟩)
      domain.Holds (domain.Valued env (.text textKind s)) (domain.Fails flight env (.text textKind s)) := by
  cases steps with
  | zero => exact lawful.reduce_zero fun _ limit _ _ _ _ => limit
  | succ steps =>
      have means : ∀ depth, domain.meaning.valueOf (domain.meaning.evaluate depth)
          (env.bindings domain.sorts) ((Term.text textKind s).outline domain.sorts) .ref =
            ((env.bindings domain.sorts).target? s).elim (some (.text textKind s))
              (domain.meaning.evaluate depth (env.bindings domain.sorts)) := fun _ => rfl
      have target : (env.bindings domain.sorts).target? s =
          (env.target? (.text textKind s)).map (Term.outline domain.sorts) :=
        Environment.target?_bindings env textKind s
      cases bound : env.target? (.text textKind s) with
      | none =>
          rw [bound] at target
          refine lawful.finishes .fixpoint ?_ ?_
          · rw [Resolver.ruleFor_ref, bound]
            rfl
          refine (Computes.record lawful rfl).seq lawful fun stage' _ later _ => ?_
          refine .pure lawful ⟨_, rfl, lawful.holds_later later holds⟩ ?_
          rintro _ ⟨⟩
          refine valued_of classified 0 ?_
          rw [means, target]
          rfl
      | some binding =>
          have names : ∀ depth, domain.meaning.valueOf (domain.meaning.evaluate depth)
              (env.bindings domain.sorts) ((Term.text textKind s).outline domain.sorts) .ref =
                domain.nameValue depth env s := by
            intro depth
            rw [means, target, bound, nameValue_bound bound]
            rfl
          refine lawful.finishes .lookup ?_ ?_
          · rw [Resolver.ruleFor_ref, bound]
            rfl
          refine Computes.bind lawful ((lawful.lookup refines admits textKind s).mono
            (fun _ _ holds => holds) (fun _ named => named) ?_) fun stage' value later holds => ?_
          · intro failure fails
            refine fails_of classified fun depth value found undecided => ?_
            rw [names] at found
            exact fails depth value found undecided
          refine .pure lawful ⟨value, rfl, holds⟩ ?_
          rintro ⟨depth, named⟩ _ ⟨⟩
          exact valued_of classified depth ((names depth).trans named)

/-- What a rule leaves as it is has itself as its value. -/
theorem Lawful.passes (lawful : domain.Lawful) (steps : Nat) (holds : domain.Holds stage t)
    (classified : domain.meaning.resolver.classifier.classify t = .ok kind)
    (constant : kind = .scalar ∨ kind = .removed) :
    domain.Computes cache stage flight
      (domain.meaning.resolver.reduce resolution cache steps ⟨t, kind, env, false⟩)
      domain.Holds (domain.Valued env t) (domain.Fails flight env t) := by
  cases steps with
  | zero => exact lawful.reduce_zero fun _ limit _ _ _ _ => limit
  | succ steps =>
      refine lawful.finishes .passThrough ?_ ?_
      · exact Resolver.ruleFor_single constant
      refine .pure lawful ⟨t, rfl, holds⟩ ?_
      rintro _ ⟨⟩
      refine valued_of classified 0 ?_
      rcases constant with rfl | rfl <;> rfl

theorem applied_eq_some {depth : Nat} {function result : Term} {deps : List String} :
    domain.meaning.applied (domain.meaning.evaluate depth) (env.bindings domain.sorts) function
        deps = some result ↔
      ∃ args, deps.mapM (domain.nameValue depth env) = some args ∧ domain.Accepts args ∧
        ∃ made, domain.meaning.apply function args = some made ∧
          domain.meaning.evaluate depth (env.bindings domain.sorts) made = some result := by
  unfold Meaning.applied Accepts
  constructor
  · intro found
    obtain ⟨args, named, found⟩ := Option.bind_eq_some_iff.1 found
    split at found
    · cases found
    · next accepted =>
        exact ⟨args, named, Bool.eq_false_iff.2 accepted, Option.bind_eq_some_iff.1 found⟩
  · rintro ⟨args, named, accepted, made, given, valued⟩
    refine Option.bind_eq_some_iff.2 ⟨args, named, ?_⟩
    rw [if_neg (Bool.eq_false_iff.1 accepted)]
    exact Option.bind_eq_some_iff.2 ⟨made, given, valued⟩

/-- A node of a term that reductions lead to: without a kind it has no value. -/
theorem Lawful.classified (lawful : domain.Lawful) {run : Kind → Run Term}
    (computes : ∀ kind, domain.meaning.resolver.classifier.classify t = .ok kind →
      domain.Computes cache stage flight (run kind) domain.Holds (domain.Valued env t)
        (domain.Fails flight env t)) :
    domain.Computes cache stage flight (do
      let kind ← ofResult (domain.meaning.resolver.classifier.classify t)
      run kind) domain.Holds (domain.Valued env t) (domain.Fails flight env t) := by
  cases classified : domain.meaning.resolver.classifier.classify t with
  | ok kind => exact computes kind classified
  | error failure =>
      refine .throw lawful fun depth value found _ => ?_
      cases depth with
      | zero => cases found
      | succ depth =>
          rw [Meaning.evaluate, Classifier.classify_outline, classified] at found
          cases found

/-- A function is reduced to the value of its result, if reductions with fewer steps compute values. -/
theorem Lawful.function (lawful : domain.Lawful) {levels steps : Nat}
    (refines : domain.Refines cache (resolveTerm ceiling levels)) {stamp : Stamp} {name : String}
    {deps : List String} {doc : Option String} {callee : Term}
    (holds : domain.Holds stage (.function stamp name deps doc callee))
    (admits : domain.admits stage env)
    (classified : domain.meaning.resolver.classifier.classify (.function stamp name deps doc callee) =
      .ok .function)
    (reduces : ∀ {stage result kind}, domain.Holds stage result → domain.admits stage env →
      domain.meaning.resolver.classifier.classify result = .ok kind →
        domain.Computes cache stage flight
          (domain.meaning.resolver.reduce (resolveTerm ceiling levels) cache steps
            ⟨result, kind, env, false⟩)
          domain.Holds (domain.Valued env result) (domain.Fails flight env result)) :
    domain.Computes cache stage flight
      (domain.meaning.resolver.reduce (resolveTerm ceiling levels) cache (steps + 1)
        ⟨.function stamp name deps doc callee, .function, env, false⟩) domain.Holds
      (domain.Valued env (.function stamp name deps doc callee))
      (domain.Fails flight env (.function stamp name deps doc callee)) := by
  have means : ∀ depth, domain.meaning.valueOf (domain.meaning.evaluate depth)
      (env.bindings domain.sorts)
      ((Term.function stamp name deps doc callee).outline domain.sorts) .function =
        domain.meaning.applied (domain.meaning.evaluate depth) (env.bindings domain.sorts)
          (.function stamp name deps doc callee) deps := fun _ => rfl
  refine lawful.goesOn .application
    (fun stage t env' collected => env' = env ∧ collected = false ∧ domain.Holds stage t)
    (fun step => ∀ result, step = .again result env false → ∃ depth args,
      deps.mapM (domain.nameValue depth env) = some args ∧ domain.Accepts args ∧
        domain.meaning.apply (.function stamp name deps doc callee) args =
          some (result.outline domain.sorts)) ?_ ?_ ?_
  · exact Resolver.ruleFor_function
  · refine (lawful.application refines admits holds false).mono ?_ (fun _ gives => gives) ?_
    · rintro stage' _ ⟨result, rfl, made⟩
      exact ⟨result, env, false, rfl, rfl, rfl, made⟩
    · intro failure fails
      refine fails_of classified fun depth value found undecided => ?_
      rw [means] at found
      obtain ⟨args, named, accepts, result, given, _⟩ := applied_eq_some.1 found
      exact fails depth args named accepts (Option.isSome_iff_exists.2 ⟨result, given⟩) undecided
  · rintro stage' result _ _ later ⟨rfl, rfl, made⟩
    refine (lawful.classified fun kind classified => reduces made
      (lawful.admits_later later admits) classified).mono (fun _ _ holds => holds) ?_ ?_
    · rintro value ⟨depth, valued⟩ leads
      obtain ⟨depth', args, named, accepts, given⟩ := leads result rfl
      refine valued_of classified (max depth depth') ((means _).trans ?_)
      refine applied_eq_some.2 ⟨args, ?_, accepts, _, given, ?_⟩
      · exact mapM_mono (fun _ _ _ => nameValue_mono (Nat.le_max_right _ _)) named
      · exact Meaning.evaluate_mono (Nat.le_max_left _ _) valued
    · intro failure fails leads
      obtain ⟨depth', args, named, accepts, given⟩ := leads result rfl
      refine fails_of classified fun depth value found undecided => ?_
      rw [means] at found
      obtain ⟨args', named', _, result', given', valued⟩ := applied_eq_some.1 found
      rw [← named_unique named named', given] at given'
      cases given'
      exact fails depth value valued (undecided.mono (Nat.le_succ depth))

/-- Reductions compute the values of terms. -/
theorem Lawful.reduce (lawful : domain.Lawful) {levels : Nat}
    (refines : domain.Refines cache (resolveTerm ceiling levels)) (steps : Nat)
    (holds : domain.Holds stage t) (admits : domain.admits stage env)
    (classified : domain.meaning.resolver.classifier.classify t = .ok kind) :
    domain.Computes cache stage flight
      (domain.meaning.resolver.reduce (resolveTerm ceiling levels) cache steps ⟨t, kind, env, false⟩)
      domain.Holds (domain.Valued env t) (domain.Fails flight env t) := by
  induction steps generalizing stage t kind with
  | zero => exact lawful.reduce_zero fun _ limit _ _ _ _ => limit
  | succ steps ih =>
      have looked := (Classifier.classify_eq_ok.1 classified).2
      cases kind with
      | ref =>
          obtain ⟨textKind, s, rfl⟩ := Classifier.text_of_ref looked
          exact lawful.reference refines admits _ holds classified
      | function =>
          obtain ⟨stamp, name, deps, doc, callee, rfl⟩ := Classifier.function_of_kind looked
          exact lawful.function refines holds admits classified ih
      | callable =>
          have shape := Classifier.shape_of_kind looked (by decide) (by decide)
          exact absurd shape (lawful.declarative holds.here).1
      | mapping =>
          obtain ⟨mapKind, stamp, entries, rfl⟩ := Classifier.map_of_kind looked
          cases found : Entries.find? entries domain.meaning.resolver.defaultsKey with
          | some defaults => exact lawful.defaults refines admits _ holds classified found
          | none =>
              exact lawful.unscoped refines admits _ holds classified
                (Entries.has_eq_false_iff.2 found)
      | sequence => exact lawful.sequence refines admits _ holds classified
      | removed => exact lawful.passes _ holds classified (.inr rfl)
      | scalar => exact lawful.passes _ holds classified (.inl rfl)

/-- Resolutions compute the values of terms. -/
theorem Lawful.refines (lawful : domain.Lawful) (levels : Nat) :
    domain.Refines cache (resolveTerm ceiling levels) := by
  induction levels with
  | zero => exact fun _ _ => .throw lawful fun _ _ _ _ => rfl
  | succ levels ih =>
      intro stage flight t env holds admits
      exact lawful.classified fun kind classified => lawful.reduce ih _ holds admits classified

end Domain

end ScopedTemplate
