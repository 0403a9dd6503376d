import ScopedTemplate.Proofs.Cache.Moved
import ScopedTemplate.Proofs.Relevance.Names
import ScopedTemplate.Proofs.Resolver.Start
import ScopedTemplate.Proofs.Strict.Check
import ScopedTemplate.Proofs.Twin.Calls

/-!
# Bindings that do not matter

Under two environments that bind the names that matter alike, a template without scopes of defaults is
resolved alike: the keys of the two tables differ everywhere, and every decision is the same.
-/

namespace ScopedTemplate

variable {ceiling : Int} {stack : Stack}

open Run

/-! ## Failures without what they show -/

namespace Failure

def bare : Failure → Failure
  | .resolution key reason _ => .resolution key reason []
  | .unresolved refs _ => .unresolved refs []
  | failure => failure

theorem isMissingKey_of_bare {failure failure' : Failure} (same : failure.bare = failure'.bare) :
    failure.isMissingKey = failure'.isMissingKey := by
  have bare : ∀ failure : Failure, failure.bare.isMissingKey = failure.isMissingKey := by
    intro failure
    cases failure <;> rfl
  rw [← bare failure, same, bare]

theorem isExhaustion_of_bare {failure failure' : Failure} (same : failure.bare = failure'.bare) :
    failure.isExhaustion = failure'.isExhaustion := by
  have bare : ∀ failure : Failure, failure.bare.isExhaustion = failure.isExhaustion := by
    intro failure
    cases failure <;> rfl
  rw [← bare failure, same, bare]

end Failure

/-! ## Two environments -/

/-- Two resolutions of a template, and the calls that were made before them. -/
structure Frame where
  resolver : Resolver Term
  template : Term
  env : Environment Term
  env' : Environment Term
  cache : CacheId
  cache' : CacheId
  before : List String
  before' : List String

namespace Frame

variable (f : Frame)

abbrev names : String → Prop := f.resolver.Reaches f.env f.template

/-- Pure functions that return plain data, and what their arguments refer to. -/
abbrev Pure (function : Term) : Prop := function.IsPure ∧ function.GivesData f.resolver

abbrev Knows : Term → Prop := f.resolver.Confined f.names f.Pure

/-- Two values that are the same but for identity, with references to names that matter. -/
def Values (value value' : Term) : Prop := f.resolver.IsValue f.names value ∧ value.Resembles value'

/-- The tables hold the same for the same names, and the same functions were called. -/
structure Worlds (world world' : World) : Prop where
  inside : f.cache < world.caches.length
  inside' : f.cache' < world'.caches.length
  tables : Cache.Moved f.Values f.env f.env' (world.cache f.cache) (world'.cache f.cache')
  calls : ∃ labels, world.calls = labels ++ f.before ∧ world'.calls = labels ++ f.before'

/-- What is compared: everything but what failures show of the environments. -/
def twin : Twin where
  resolver := f.resolver
  resolver' := f.resolver
  cache := f.cache
  cache' := f.cache'
  envs env env' := env = f.env ∧ env' = f.env'
  names _ _ := f.names
  terms _ _ u u' := f.Knows u ∧ u.Resembles u'
  worlds := f.Worlds
  values := f.Values
  failures failure failure' := failure.bare = failure'.bare
  stops _ := False
  stops' _ := False

/-- The environments agree on the names that matter, and nothing there has a scope of defaults. -/
structure Agrees : Prop where
  rules : f.resolver.rules = Rule.standard
  template : f.resolver.Scopeless f.Pure f.template
  bindings : ∀ {name binding}, f.names name →
    f.env.lookup? (.ref name) = some binding → f.resolver.Scopeless f.Pure binding
  same : ∀ {name}, f.names name →
    Option.Rel Term.Resembles (f.env.lookup? (.ref name)) (f.env'.lookup? (.ref name))
  shown : f.resolver.config.checkDependencies = true →
    Term.areWritableEntries f.env.flatten = Term.areWritableEntries f.env'.flatten

variable {f} {α β : Type} {R : α → β → Prop}

theorem Worlds.change {world world' : World} (worlds : f.Worlds world world')
    {change change' : Cache → Cache}
    (keeps : ∀ {table table'}, Cache.Moved f.Values f.env f.env' table table' →
      Cache.Moved f.Values f.env f.env' (change table) (change' table')) :
    f.Worlds (world.change f.cache change) (world'.change f.cache' change') where
  inside := (world.length_change f.cache change).symm ▸ worlds.inside
  inside' := (world'.length_change f.cache' change').symm ▸ worlds.inside'
  tables := by
    rw [world.cache_change worlds.inside, world'.cache_change worlds.inside']
    exact keeps worlds.tables
  calls := worlds.calls

theorem Worlds.aside {world world' after after' : World} (worlds : f.Worlds world world')
    (aside : World.Aside world world' after after') : f.Worlds after after' where
  inside := worlds.inside.trans_le aside.left.caches.length_le
  inside' := worlds.inside'.trans_le aside.right.caches.length_le
  tables := by
    rw [aside.left.cache worlds.inside, aside.right.cache worlds.inside']
    exact worlds.tables
  calls := by
    obtain ⟨labels, left, right⟩ := aside.calls
    obtain ⟨labels', before, before'⟩ := worlds.calls
    refine ⟨labels ++ labels', ?_, ?_⟩
    · rw [left, before, List.append_assoc]
    · rw [right, before', List.append_assoc]

/-- What two runs do with their tables may depend on what these have in common. -/
theorem runs_table {next : Cache → Run α} {next' : Cache → Run β}
    (later : ∀ table table', Cache.Moved f.Values f.env f.env' table table' →
      f.twin.Runs R (next table) (next' table')) :
    f.twin.Runs R (Run.cache f.cache >>= next) (Run.cache f.cache' >>= next') :=
  fun _ _ worlds => later _ _ worlds.tables _ _ worlds

theorem runs_changeCache {change change' : Cache → Cache}
    (keeps : ∀ {table table'}, Cache.Moved f.Values f.env f.env' table table' →
      Cache.Moved f.Values f.env f.env' (change table) (change' table')) :
    f.twin.Runs (fun _ _ => True) (changeCache f.cache change) (changeCache f.cache' change') :=
  fun _ _ worlds => .ok trivial (worlds.change keeps)

theorem runs_fail {failure failure' : Failure} (same : failure.bare = failure'.bare) :
    f.twin.Runs R (throw failure : Run α) (throw failure' : Run β) :=
  fun _ _ worlds => .error same worlds

theorem runs_checkTable {table table' : Cache} (moved : Cache.Moved f.Values f.env f.env' table table')
    (field : String) :
    f.twin.Runs (fun _ _ => True) (checkTable table field) (checkTable table' field) := by
  unfold Run.checkTable
  rw [moved.standIn]
  split
  · exact runs_fail rfl
  · exact .pure trivial

theorem runs_chain : f.twin.Runs Eq (chain f.cache) (chain f.cache') :=
  runs_table fun _ _ moved => (runs_checkTable moved "chain").bind fun _ _ _ => .pure moved.chain

/-- A failure shows either environment, if the bindings of both can be written. -/
theorem runs_shown {report report' : Snapshot → Failure}
    (writable : Term.areWritableEntries f.env.flatten = Term.areWritableEntries f.env'.flatten)
    (same : ∀ shown shown', (report shown).bare = (report' shown').bare) :
    f.twin.Runs R (do throw (report (← snapshot f.env)) : Run α)
      (do throw (report' (← snapshot f.env')) : Run β) := by
  unfold Run.snapshot
  rw [writable]
  split
  · exact runs_fail (same _ _)
  · exact runs_fail rfl

namespace Agrees

variable (agrees : f.Agrees)

include agrees

theorem target? {name : String} (reached : f.names name) (kind : TextKind) :
    Option.Rel Term.Resembles (f.env.target? (.text kind name)) (f.env'.target? (.text kind name)) :=
  Environment.target?_related (agrees.same reached) kind

/-- A dependency that stays a reference is refused in both resolutions. -/
theorem checkDependency {function dep : String} {value value' : Term}
    (reached : f.names dep) (same : value.Resembles value') :
    f.twin.Runs (fun _ _ => True) (f.resolver.checkDependency function dep f.env value)
      (f.resolver.checkDependency function dep f.env' value') := by
  unfold Resolver.checkDependency
  rw [same.isRef]
  split
  · next refuses =>
      obtain ⟨checks, isRef⟩ := Bool.and_eq_true_iff.1 refuses
      have binds : f.env.binds (.ref dep) = f.env'.binds (.ref dep) := by
        unfold Environment.binds
        rcases (agrees.same reached).cases_eq with
          ⟨missing, missing'⟩ | ⟨_, _, found, found', _⟩
        · rw [missing, missing']
        · rw [found, found']
          rfl
      rw [binds, same.symm.eq_of_isRef isRef]
      exact runs_shown (agrees.shown checks) fun _ _ => rfl
  · exact .pure trivial

theorem lawful : f.twin.Lawful where
  akin := .refl agrees.rules
  aside := Worlds.aside
  noted _ _ worlds := worlds.change fun moved => { moved with }
  same _ := rfl
  missing := Failure.isMissingKey_of_bare
  kept := False.elim
  kept' := False.elim
  overrun label := runs_chain.bind fun names names' same => by
    subst same
    exact runs_fail rfl
  limits := .inl rfl
  similar := And.right
  splits _ terms := Twin.splits_of_confined terms.1 terms.2 fun same confined => ⟨confined, same⟩
  bound := by
    rintro _ _ kind s ⟨rfl, rfl⟩ reached
    rcases (agrees.target? reached kind).cases_eq with ⟨missing, missing'⟩ | ⟨_, _, found, found', _⟩
    · exact (congrArg Option.isSome missing).trans (congrArg Option.isSome missing').symm
    · exact (congrArg Option.isSome found).trans (congrArg Option.isSome found').symm
  dependency := by
    rintro _ _ function dep value value' ⟨rfl, rfl⟩ reached values
    exact agrees.checkDependency reached values.2
  resembles := And.right
  single same looked := ⟨.data looked, same⟩
  reference _ among looked := ⟨.reference looked among, rfl⟩
  list each := by
    obtain ⟨values, same⟩ := (List.forall₂_and_left _ _).1 each
    exact ⟨Resolver.isValue_list values, .of_items same⟩
  tuple each := by
    obtain ⟨values, same⟩ := (List.forall₂_and_left _ _).1 each
    exact ⟨Resolver.isValue_tuple values, .of_elements same⟩
  map noDefaults each := by
    obtain ⟨values, same⟩ := Twin.fields_and_left each
    exact ⟨Resolver.isValue_map noDefaults values, .of_fields same⟩

/-- A binding that matters can stand at the same place as the other one. -/
theorem knows_binding {name : String} {binding : Term} (reached : f.names name)
    (bound : f.env.lookup? (.ref name) = some binding) : f.Knows binding :=
  (agrees.bindings reached bound).restrict (fun _ known => known) fun _ mentions =>
    .next reached bound mentions

/-! ## Lookups -/

omit agrees in
theorem leave {run run' : Run Term} (runs : f.twin.Runs f.Values run run') :
    f.twin.Runs f.Values (andThen run (changeCache f.cache Cache.leave))
      (andThen run' (changeCache f.cache' Cache.leave)) := by
  intro world world' worlds
  have ends := runs world world' worlds
  unfold Run.andThen
  generalize run world = result, run' world' = result' at ends
  cases ends with
  | ok values worlds => exact .ok values (worlds.change Cache.Moved.leave)
  | error same worlds => exact .error same (worlds.change Cache.Moved.leave)
  | stopped stops => exact stops.elim
  | stopped' stops => exact stops.elim

/-- The value of a name is served, refused or computed in both resolutions. -/
theorem memoize (kind : TextKind) (name : String) (detectCycles : Bool) (limit : Option Int)
    {run run' : Run Term} (runs : f.twin.Runs f.Values run run') :
    f.twin.Runs f.Values
      (memoize f.cache (.text kind name) f.env detectCycles limit run)
      (memoize f.cache' (.text kind name) f.env' detectCycles limit run') := by
  have lawful := agrees.lawful
  have copied : ∀ {value value' copy copy'}, f.Values value value' →
      copy.Resembles value ∧ copy'.Resembles value' → f.Values copy copy' :=
    fun values same => ⟨values.1.of_resembles same.1.symm, same.1.trans (values.2.trans same.2.symm)⟩
  have key : ∀ env : Environment Term, CacheKey.of (.text kind name) env = env.keyOf name :=
    fun _ => rfl
  unfold Run.memoize
  refine runs_table fun table table' moved => (runs_checkTable moved _).bind fun _ _ _ => ?_
  rw [moved.closed, key, key]
  split
  · exact runs_fail rfl
  · dsimp only
    rcases (moved.find? name).cases_eq with
      ⟨missing, missing'⟩ | ⟨value, value', found, found', same⟩
    · rw [missing, missing']
      dsimp only
      rw [moved.contains, moved.length, moved.chain, moved.chainFrom]
      split
      · exact (Twin.Runs.record lawful rfl rfl).bind fun _ _ _ => runs_fail rfl
      · split
        · exact (Twin.Runs.record lawful rfl rfl).bind fun _ _ _ => runs_fail rfl
        · refine (Twin.Runs.log lawful _ _ _ _).bind fun _ _ _ => ?_
          refine Twin.Runs.bind (runs_changeCache fun moved => moved.enter name _ _) fun _ _ _ => ?_
          refine (leave runs).bind fun value value' values => ?_
          refine (Twin.Runs.detach lawful value value').bind fun _ _ copies => ?_
          refine Twin.Runs.bind (runs_changeCache fun moved =>
            moved.put name (copied values copies)) fun _ _ _ => ?_
          exact .pure values
    · rw [found, found']
      dsimp only
      refine Twin.Runs.bind (runs_changeCache fun moved => moved.hit _ _ _ _) fun _ _ _ => ?_
      refine (Twin.Runs.log lawful _ _ _ _).bind fun _ _ _ => ?_
      exact (Twin.Runs.detach lawful value value').mono fun _ _ copies => copied same copies

/-- Names that matter are looked up alike if their bindings are resolved alike. -/
theorem lookupName {resolution : Resolution}
    (child : ∀ {u u'}, f.Knows u → u.Resembles u' → f.twin.Runs f.Values
      (resolution f.resolver u f.env f.cache) (resolution f.resolver u' f.env' f.cache'))
    (kind : TextKind) {name : String} (reached : f.names name) :
    f.twin.Runs f.Values (lookupName resolution f.resolver f.env f.cache (.text kind name))
      (lookupName resolution f.resolver f.env' f.cache' (.text kind name)) := by
  unfold ScopedTemplate.lookupName
  rcases (agrees.target? reached kind).cases_eq with
    ⟨missing, missing'⟩ | ⟨binding, binding', found, found', same⟩
  · rw [missing, missing']
    refine (Twin.Runs.record agrees.lawful rfl rfl).bind fun _ _ _ => ?_
    exact .pure ⟨Resolver.isValue_text reached, rfl⟩
  · rw [found, found']
    have bound : f.env.lookup? (.ref name) = some binding :=
      (f.env.lookup?_text kind name).symm.trans (Option.filter_eq_some_iff.1 found).1
    exact agrees.memoize kind name _ _ (child (agrees.knows_binding reached bound) same)

omit agrees in
/-- A known function gives terms that are known. -/
theorem knows_made {args args' : List Term} (each : List.Forall₂ f.Values args args') {value : Term}
    (made : f.resolver.MadeOf args value) : f.Knows value :=
  (made f.names ((List.forall₂_and_left _ _).1 each).1).mono (fun _ among => among) fun _ => False.elim

/-- What two resolutions do below a node goes side by side at every level. -/
theorem below (levels : Nat) : f.twin.Below (resolveTerm ceiling levels) (resolveTerm ceiling levels) := by
  have step : ∀ levels, (∀ {u u'}, f.Knows u → u.Resembles u' → f.twin.Runs f.Values
      (resolveTerm ceiling levels f.resolver u f.env f.cache)
      (resolveTerm ceiling levels f.resolver u' f.env' f.cache')) →
        f.twin.Below (resolveTerm ceiling levels) (resolveTerm ceiling levels) := by
    intro levels child
    refine ⟨?_, ?_, ?_, ?_⟩
    · rintro _ _ kind s ⟨rfl, rfl⟩ reached
      exact agrees.lookupName child kind reached
    · rintro _ _ u u' ⟨rfl, rfl⟩ terms
      exact child terms.1 terms.2
    · rintro _ _ stamp name deps doc callee args args' - terms looked values
      have same : List.Forall₂ Term.Resembles args args' := values.imp fun _ _ => And.right
      cases terms.1 with
      | data other => rcases other with other | other <;> exact absurd (looked.symm.trans other) (by decide)
      | callable other => exact absurd (looked.symm.trans other) (by decide)
      | function _ _ pure =>
          refine (pure.1.runs agrees.lawful levels levels same).mono ?_
          exact fun value value' ends => ⟨knows_made values (pure.2 args value ends.2.1), ends.1⟩
    · rintro _ _ c stamp stamp' - terms looked
      obtain ⟨_, _, _, _, _, rfl⟩ := Classifier.callable_of_kind looked
      cases terms.1 with
      | data other => rcases other with other | other <;> exact absurd (looked.symm.trans other) (by decide)
      | callable _ known => exact known.1.elim
  have child : ∀ levels {u u'}, f.Knows u → u.Resembles u' → f.twin.Runs f.Values
      (resolveTerm ceiling levels f.resolver u f.env f.cache)
      (resolveTerm ceiling levels f.resolver u' f.env' f.cache') := by
    intro levels
    induction levels with
    | zero => exact fun _ _ => runs_fail rfl
    | succ levels ih =>
        intro u u' knows same
        have terms : f.twin.terms f.env f.env' u u' := ⟨knows, same⟩
        exact (step levels ih).resolveNode ⟨rfl, rfl⟩ agrees.lawful terms
  exact step levels (child levels)

/-! ## Whole resolutions -/

omit agrees in
/-- Nesting without end is reported in both resolutions. -/
theorem reportEndless {run run' : Run Term} (runs : f.twin.Runs f.Values run run') :
    f.twin.Runs f.Values (reportEndless ceiling f.cache run) (reportEndless ceiling f.cache' run') := by
  intro world world' worlds
  have ends := runs world world' worlds
  unfold Run.reportEndless Run.recover
  generalize run world = result, run' world' = result' at ends
  cases ends with
  | ok values worlds => exact .ok values worlds
  | @error failure failure' _ _ same worlds =>
      dsimp only
      rw [Failure.isExhaustion_of_bare same]
      cases failure'.isExhaustion with
      | false => exact .error same worlds
      | true =>
          refine (runs_chain.bind fun names names' alike => ?_) _ _ worlds
          subst alike
          exact runs_fail rfl
  | stopped stops => exact stops.elim
  | stopped' stops => exact stops.elim

/-- The counts of the tables are reported in both resolutions. -/
theorem resolveIn (stack : Stack) : f.twin.Runs f.Values
    (resolveIn (resolveTerm stack.ceiling stack.levels) f.resolver f.template f.env f.cache)
    (resolveIn (resolveTerm stack.ceiling stack.levels) f.resolver f.template f.env' f.cache') := by
  have knows : f.Knows f.template :=
    agrees.template.restrict (fun _ known => known) fun _ mentions => .root mentions
  refine reportEndless (((agrees.below stack.levels).child ⟨rfl, rfl⟩ ⟨knows, rfl⟩).bind
    fun value value' values => ?_)
  refine runs_table fun table table' moved => (runs_checkTable moved _).bind fun _ _ _ => ?_
  exact (Twin.Runs.log agrees.lawful _ _ _ _).bind fun _ _ _ => .pure values

/-- References that are left are refused in both resolutions, if the settings are strict. -/
theorem checkResult {value value' : Term} (same : value.Resembles value') :
    f.twin.Runs (fun _ _ => True) (f.resolver.checkResult f.env value)
      (f.resolver.checkResult f.env' value') := by
  unfold Resolver.checkResult
  cases strict : f.resolver.config.strict with
  | false => exact .pure trivial
  | true =>
      have checks : f.resolver.config.checkDependencies = true := by
        unfold Config.checkDependencies
        rw [strict, Bool.true_or]
      rw [if_pos rfl, if_pos rfl, same.check, same.referenceNames]
      refine (Twin.Runs.ofResult_same agrees.lawful _).bind fun _ _ _ => ?_
      split
      · exact .pure trivial
      · exact runs_shown (agrees.shown checks) fun _ _ => rfl

end Agrees

end Frame

/-! ## The start and the end of a resolution -/

namespace World

variable {world world' : World} {given given' : Option CacheId}

/-- What two resolutions add up to: the same calls, and the same counts of their tables. -/
structure CountsAlike (world world' : World) (given given' : Option CacheId) (done done' : World) :
    Prop where
  hits : (done.cache (world.tableFor given)).hits = (done'.cache (world'.tableFor given')).hits
  misses : (done.cache (world.tableFor given)).misses = (done'.cache (world'.tableFor given')).misses
  calls : ∃ labels, done.calls = labels ++ world.calls ∧ done'.calls = labels ++ world'.calls

/-- What is done after a resolution changes neither counts nor calls, and is no event. -/
structure Closing (id : CacheId) (world done : World) : Prop where
  events : (done.cache id).events = (world.cache id).events
  hits : (done.cache id).hits = (world.cache id).hits
  misses : (done.cache id).misses = (world.cache id).misses
  calls : done.calls = world.calls

/-- A resolution from the start works with a new table, which is closed at the end if it is its own. -/
theorem resolveLeniently_begun
    (new : ∀ id, (given <|> world.active) = some id →
      id < world.caches.length ∧ world.cache id = .empty) (resolution : Resolution)
    (resolver : Resolver Term) (t : Term) (env : Environment Term) :
    ∃ start, start.IsNew (world.tableFor given) ∧ start.calls = world.calls ∧
      ∃ close : World → World,
        (∀ done, world.tableFor given < done.caches.length →
          Closing (world.tableFor given) done (close done)) ∧
        resolveLeniently resolution resolver t env given world =
          match resolveIn resolution resolver t env (world.tableFor given) start with
          | .ok value done => .ok value (close done)
          | .error failure done => .error failure (close done) := by
  unfold World.tableFor
  cases table : given <|> world.active with
  | some id =>
      obtain ⟨inside, empty⟩ := new id table
      refine ⟨world, ⟨inside, empty⟩, rfl, fun done => done, fun _ _ => ⟨rfl, rfl, rfl, rfl⟩, ?_⟩
      rw [Pairing.resolveLeniently_given table, Option.getD_some]
      cases resolveIn resolution resolver t env id world <;> rfl
  | none =>
      refine ⟨{ world with caches := world.caches ++ [.empty] },
        ⟨by simp, by simp [World.cache]⟩, rfl,
        fun done => Run.left (closeCache world.caches.length done), ?_, ?_⟩
      · intro done inside
        have closed := World.cache_change done inside Cache.close
        have events := congrArg Cache.events closed
        have hits := congrArg Cache.hits closed
        have misses := congrArg Cache.misses closed
        exact ⟨events, hits, misses, rfl⟩
      · rw [Pairing.resolveLeniently_own table, Option.getD_none]
        unfold andThen
        cases resolveIn resolution resolver t env world.caches.length
          { world with caches := world.caches ++ [.empty] } <;> rfl

end World

/-- Two resolutions end with the same value, or with failures that differ in what they show only. -/
inductive EndsAlike (counts : World → World → Prop) : EStateM.Result Failure World Term →
    EStateM.Result Failure World Term → Prop where
  | ok {value value' : Term} {done done' : World} (same : value.Resembles value')
      (counted : counts done done') : EndsAlike counts (.ok value done) (.ok value' done')
  | error {failure failure' : Failure} {done done' : World} (same : failure.bare = failure'.bare)
      (counted : counts done done') : EndsAlike counts (.error failure done) (.error failure' done')

namespace Resolver

variable {resolver : Resolver Term} {template : Term} {env env' : Environment Term}
  {given given' : Option CacheId} {world world' : World}

/--
With the built-in rules and new tables, a template without scopes of defaults and callables, with pure
functions that return plain data, is resolved alike under two environments that bind the names that
matter to the same values: to the same value or the same failure, with the same calls, hits and misses.
-/
theorem resolve_frame (rules : resolver.rules = Rule.standard)
    (new : ∀ id, (given <|> world.active) = some id →
      id < world.caches.length ∧ world.cache id = .empty)
    (new' : ∀ id, (given' <|> world'.active) = some id →
      id < world'.caches.length ∧ world'.cache id = .empty)
    (scopeless : resolver.Scopeless (fun f => f.IsPure ∧ f.GivesData resolver) template)
    (bindings : ∀ name binding, resolver.Reaches env template name →
      env.lookup? (.ref name) = some binding →
        resolver.Scopeless (fun f => f.IsPure ∧ f.GivesData resolver) binding)
    (same : ∀ name, resolver.Reaches env template name →
      Option.Rel Term.Resembles (env.lookup? (.ref name)) (env'.lookup? (.ref name)))
    (shown : resolver.config.checkDependencies = true →
      Term.areWritableEntries env.flatten = Term.areWritableEntries env'.flatten) :
    EndsAlike (World.CountsAlike world world' given given')
      (resolver.resolve template env given stack world)
      (resolver.resolve template env' given' stack world') := by
  let f : Frame := ⟨resolver, template, env, env', world.tableFor given, world'.tableFor given',
    world.calls, world'.calls⟩
  have agrees : f.Agrees := ⟨rules, scopeless, bindings _ _, same _, shown⟩
  obtain ⟨start, isNew, calls, close, closing, eq⟩ :=
    World.resolveLeniently_begun new (resolveTerm stack.ceiling stack.levels) resolver template env
  obtain ⟨start', isNew', calls', close', closing', eq'⟩ :=
    World.resolveLeniently_begun new' (resolveTerm stack.ceiling stack.levels) resolver template env'
  have worlds : f.Worlds start start' := by
    refine ⟨isNew.inside, isNew'.inside, ?_, [], calls, calls'⟩
    rw [isNew.empty, isNew'.empty]
    exact .refl_empty f.Values env env'
  have counted : ∀ {done done'}, f.Worlds done done' →
      World.CountsAlike world world' given given' (close done) (close' done') := by
    intro done done' worlds
    have closed := closing done worlds.inside
    have closed' := closing' done' worlds.inside'
    refine ⟨?_, ?_, ?_⟩
    · exact closed.hits.trans (worlds.tables.hits.trans closed'.hits.symm)
    · exact closed.misses.trans (worlds.tables.misses.trans closed'.misses.symm)
    · rw [closed.calls, closed'.calls]
      exact worlds.calls
  have ends := agrees.resolveIn stack start start' worlds
  unfold Resolver.resolve resolveWith
  simp only [Bind.bind, EStateM.bind]
  rw [eq, eq']
  generalize ScopedTemplate.resolveIn (resolveTerm stack.ceiling stack.levels) resolver template env
    (world.tableFor given) start = result, ScopedTemplate.resolveIn (resolveTerm stack.ceiling stack.levels) resolver
    template env' (world'.tableFor given') start' = result' at ends
  cases ends with
  | @ok value value' done done' values worlds =>
      have checks := agrees.checkResult values.2 done done' worlds
      dsimp only
      change f.twin.Ends _ (resolver.checkResult env value done)
        (resolver.checkResult env' value' done') at checks
      obtain ⟨verdict, checked⟩ := checkResult_eq_ofResult resolver env value
      obtain ⟨verdict', checked'⟩ := checkResult_eq_ofResult resolver env' value'
      rw [checked, checked'] at checks ⊢
      cases verdict with
      | ok _ =>
          cases verdict' with
          | ok _ => exact .ok values.2 (counted worlds)
          | error failure' =>
              cases checks with
              | stopped' stops => exact stops.elim
      | error failure =>
          cases verdict' with
          | ok _ =>
              cases checks with
              | stopped stops => exact stops.elim
          | error failure' =>
              cases checks with
              | error same _ => exact .error same (counted worlds)
              | stopped stops => exact stops.elim
              | stopped' stops => exact stops.elim
  | error same worlds => exact .error same (counted worlds)
  | stopped stops => exact stops.elim
  | stopped' stops => exact stops.elim

/-- References in a row, a function, and bindings that only one of the environments has. -/
theorem kept_frame :
    EndsAlike (World.CountsAlike .empty .empty none none)
      (standard.resolve (.list .plain none [.ref "A", Term.keeper "B"])
        ⟨[[(.str "A", .ref "C"), (.str "B", .list .plain none [.ref "C", .int 1]),
          (.str "U", .ref "A")], [(.str "C", .str "c")]], []⟩ none .usual .empty)
      (standard.resolve (.list .plain none [.ref "A", Term.keeper "B"])
        ⟨[[(.str "C", .str "c"), (.str "B", .list .plain none [.ref "C", .int 1]),
          (.str "A", .ref "C"), (.str "V", Term.keeper "W")]], []⟩ none .usual .empty) := by
  have new := World.new_of_idle (show World.empty.active = none from rfl)
  let env : Environment Term := ⟨[[(.str "A", .ref "C"),
    (.str "B", .list .plain none [.ref "C", .int 1]), (.str "U", .ref "A")], [(.str "C", .str "c")]], []⟩
  have ref : ∀ s, standard.Scopeless (fun f => f.IsPure ∧ f.GivesData standard) (.ref s) := fun _ =>
    .reference rfl trivial
  have keeps : standard.Scopeless (fun f => f.IsPure ∧ f.GivesData standard) (Term.keeper "B") :=
    .function rfl (fun _ _ => trivial) ⟨Term.isPure_keeper "B", Term.givesData_keeper standard "B"⟩
  have one : standard.Scopeless (fun f => f.IsPure ∧ f.GivesData standard) (.int 1) := .data (.inl rfl)
  have row : standard.Scopeless (fun f => f.IsPure ∧ f.GivesData standard) (.list .plain none [.ref "C", .int 1]) :=
    .list rfl (List.forall_mem_cons.2 ⟨ref "C", List.forall_mem_singleton.2 one⟩)
  have ofRef : ∀ {name s}, standard.Mentions name (.ref s) → name = s := by
    intro name s mentions
    cases mentions with
    | reference => rfl
    | part looked => cases looked
  have ofRow : ∀ {name}, standard.Mentions name (.list .plain none [.ref "C", .int 1]) →
      name = "C" := by
    intro name mentions
    cases mentions with
    | part _ inside mentions =>
        rcases List.mem_cons.1 inside with rfl | inside
        · exact ofRef mentions
        · obtain rfl := List.mem_singleton.1 inside
          cases mentions with
          | part looked => cases looked
  have bound : ∀ name, standard.Reaches env (.list .plain none [.ref "A", Term.keeper "B"]) name →
      name = "A" ∨ name = "B" ∨ name = "C" := by
    intro name reached
    induction reached with
    | root mentions =>
        cases mentions with
        | part _ inside mentions =>
            rcases List.mem_cons.1 inside with rfl | inside
            · exact .inl (ofRef mentions)
            · obtain rfl := List.mem_singleton.1 inside
              cases mentions with
              | dependency _ among => exact .inr (.inl (List.mem_singleton.1 among))
              | part looked => cases looked
    | next _ found mentions ih =>
        rcases ih with rfl | rfl | rfl
        · cases (show some (Term.ref "C") = some _ from found)
          exact .inr (.inr (ofRef mentions))
        · cases (show some (Term.list .plain none [.ref "C", .int 1]) = some _ from found)
          exact .inr (.inr (ofRow mentions))
        · cases (show some (Term.str "c") = some _ from found)
          cases mentions with
          | reference looked => cases looked
          | part looked => cases looked
  refine resolve_frame rfl new new (.list rfl ?_) ?_ ?_ nofun
  · exact List.forall_mem_cons.2 ⟨ref "A", List.forall_mem_singleton.2 keeps⟩
  · intro name binding reached found
    rcases bound name reached with rfl | rfl | rfl
    · cases (show some (Term.ref "C") = some _ from found)
      exact ref "C"
    · cases (show some (Term.list .plain none [.ref "C", .int 1]) = some _ from found)
      exact row
    · cases (show some (Term.str "c") = some _ from found)
      exact .data (.inl rfl)
  · intro name reached
    rcases bound name reached with rfl | rfl | rfl
    · exact .some rfl
    · exact .some rfl
    · exact .some rfl

/-- A resolver for which text that begins with a sign is a reference. -/
def signed : Resolver Term := { standard with classifier := ⟨[], some "="⟩ }

/--
Where a binding matters that no reference of the reference kind leads to: plain text with the prefix of
references refers to it, a scope of the template comes to the same bindings, and the bindings that a
failure of a strict resolution is to show cannot be written.
-/
theorem frame_differs :
    (∃ done done',
      signed.resolve (.str "=X") ⟨[[(.str "=X", .int 1)]], []⟩ none .usual .empty = .ok (.int 1) done ∧
      signed.resolve (.str "=X") ⟨[], []⟩ none .usual .empty = .ok (.str "=X") done') ∧
    (∃ value done value' done',
      standard.resolve (.list .plain none [
        .map .plain none [(.str "::defaults", .map .plain none [(.str "Z", .str "z")]), (.str "a", .ref "A")],
        .map .plain none [(.str "b", .ref "A")]])
        ⟨[[(.str "A", .str "a"), (.str "Z", .str "z")]], []⟩ none .usual .empty = .ok value done ∧
      standard.resolve (.list .plain none [
        .map .plain none [(.str "::defaults", .map .plain none [(.str "Z", .str "z")]), (.str "a", .ref "A")],
        .map .plain none [(.str "b", .ref "A")]])
        ⟨[[(.str "A", .str "a")]], []⟩ none .usual .empty = .ok value' done' ∧
      (done.cache 0).hits = 1 ∧ (done.cache 0).misses = 1 ∧
      (done'.cache 0).hits = 0 ∧ (done'.cache 0).misses = 2) ∧
    ∃ refs shown done done',
      strictStandard.resolve (.ref "B") ⟨[], []⟩ none .usual .empty = .error (.unresolved refs shown) done ∧
      strictStandard.resolve (.ref "B") ⟨[[(.str "A", .int Numeral.writtenBound)]], []⟩ none .usual .empty =
        .error (.value .tooManyDigits) done' := by
  refine ⟨⟨_, _, rfl, rfl⟩, ⟨_, _, _, _, rfl, rfl, rfl, rfl, rfl, rfl⟩, ?_⟩
  have unwritable : Term.areWritableEntries (Environment.flatten
      ⟨[[(.str "A", .int Numeral.writtenBound)]], []⟩) = false := not_areWritable_writtenBound
  obtain ⟨done, found⟩ : ∃ done, resolveLeniently (resolveTerm 20000 10000) strictStandard
      (.ref "B") ⟨[[(.str "A", .int Numeral.writtenBound)]], []⟩ none .empty =
        .ok (.ref "B") done := ⟨_, rfl⟩
  have tells : strictStandard.Tells := fun _ member => absurd member List.not_mem_nil
  refine ⟨_, _, _, done, rfl, ?_⟩
  rw [resolve_strict_of_ok rfl tells found, Run.snapshot, unwritable]
  rfl

end Resolver

end ScopedTemplate
