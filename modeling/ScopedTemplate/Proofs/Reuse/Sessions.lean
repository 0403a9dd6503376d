import ScopedTemplate.Proofs.Relevance.Agreement
import ScopedTemplate.Proofs.Reuse.Lookups
import ScopedTemplate.Proofs.Sharing.Answers

/-!
# Sessions

Templates are resolved one after the other with one table, which stays open.  Whether a resolution fails or
not, it leaves no name in flight and keeps what is stored, and the next one returns what it would return
with a new table.
-/

namespace ScopedTemplate

variable {ceiling : Int} {stack : Stack}

open Run

section

variable {resolution : Resolution} {resolver : Resolver Term} {template value : Term}
  {env : Environment Term} {id : CacheId} {world after done : World}

/-- A value that is found is returned when the counts are reported. -/
theorem resolveIn_of_ok (ran : resolution resolver template env id world = .ok value after)
    (isTable : (after.cache id).standIn = none) :
    ∃ done, resolveIn resolution resolver template env id world = .ok value done := by
  unfold resolveIn reportEndless recover
  simp only [Bind.bind, EStateM.bind, ran, cache_run, checkTable_run isTable]
  exact ⟨_, rfl⟩

theorem ok_of_resolveIn (ran : resolveIn resolution resolver template env id world = .ok value done) :
    ∃ after, resolution resolver template env id world = .ok value after := by
  have found : After (resolution resolver template env id) world
      (fun value _ => ∃ after, resolution resolver template env id world = .ok value after)
      fun _ _ => True := by
    unfold After
    cases resolution resolver template env id world with
    | ok value after => exact ⟨after, rfl⟩
    | error => trivial
  exact (Custody.after_resolveIn (fun _ _ _ _ found => found) found).of_ok ran

end

namespace Site

variable {s : Site} {id : CacheId} {world after : World} {template : Term} {resolver : Resolver Term}
  {env : Environment Term} {given : Option CacheId}

/-- A world between two resolutions with a table. -/
structure Between (s : Site) (id : CacheId) (world : World) : Prop where
  inside : id < world.caches.length
  settled : s.Settled (world.cache id)
  idle : (world.cache id).pending = []

/-- What a resolution makes of a table. -/
structure Leads (s : Site) (id : CacheId) (world after : World) : Prop extends s.Between id after where
  kept : (world.cache id).Extends (after.cache id)

theorem Leads.of_same {after' : World} (same : World.SameTables after after')
    (leads : s.Leads id world after) : s.Leads id world after' where
  inside := same.caches ▸ leads.inside
  settled := same.cache_eq id ▸ leads.settled
  idle := same.cache_eq id ▸ leads.idle
  kept := same.cache_eq id ▸ leads.kept

/--
Templates of a site that are resolved one after the other with one table, given or shared, whether they
fail or not.
-/
inductive Session (s : Site) (id : CacheId) : World → Prop where
  | start {world : World} (isNew : world.IsNew id) : Session s id world
  | resolved {world : World} {resolver : Resolver Term} {env : Environment Term} {template : Term}
      {given : Option CacheId} {stack : Stack} (session : Session s id world) (serves : s.serves resolver)
      (visits : s.visits env) (meets : s.meets env template)
      (shared : (given <|> world.active) = some id) :
      Session s id (Run.left (resolver.resolve template env given stack world))
  | meanwhile {world world' : World} (session : Session s id world)
      (inside : id < world'.caches.length) (same : world'.cache id = world.cache id) :
      Session s id world'

/-- What a resolution does with a table that is used again. -/
structure Reuses (id : CacheId) (world : World) (resolver : Resolver Term) (template : Term)
    (env : Environment Term) (given : Option CacheId) (stack : Stack) : Prop where
  /-- No name is in flight after it, whether it fails or not. -/
  idle : ((left (resolver.resolve template env given stack world)).cache id).pending = []
  /-- What is stored stays so and is not computed again. -/
  kept : (world.cache id).Extends ((left (resolver.resolve template env given stack world)).cache id)
  /-- The value that is returned with a new table is returned. -/
  returns : ∀ given' fresh value done, (∀ own, (given' <|> fresh.active) = some own →
      own < fresh.caches.length ∧ fresh.cache own = .empty) →
    resolver.resolve template env given' stack fresh = .ok value done →
      ∃ value' done', resolver.resolve template env given stack world = .ok value' done' ∧
        value.Resembles value'

namespace Between

variable (between : s.Between id world) (lawful : s.Lawful) (serves : s.serves resolver)
  (visits : s.visits env) (meets : s.meets env template)

include between lawful serves visits meets

theorem resolveTerm (ceiling : Int) (levels : Nat) :
    s.Leads id world (left (resolveTerm ceiling levels resolver template env id world)) := by
  have leads : ∀ {after}, (s.mirror resolver id (world.cache id)).Worlds after after →
      s.Leads id world after := by
    intro after worlds
    exact ⟨⟨worlds.inside', worlds.tables.settled, worlds.tables.pending'.trans between.idle⟩,
      worlds.tables.kept⟩
  have leaves := (s.alike lawful levels).leaves serves between.inside between.settled ceiling visits meets
  exact after_left.1 (leaves.mono (fun _ _ left => leads left.1) fun _ _ left => leads left)

/-- Whether a resolution fails or not, its table can be used again. -/
theorem resolve (stack : Stack) (shared : (given <|> world.active) = some id) :
    s.Leads id world (left (resolver.resolve template env given stack world)) := by
  unfold Resolver.resolve resolveWith
  refine left_bind Leads.of_same ?_ fun value =>
    ((resolver.checkResult_steady env value).quiet).bind fun _ _ => .pure trivial
  rw [Pairing.resolveLeniently_given shared]
  exact left_resolveIn Leads.of_same (between.resolveTerm lawful serves visits meets stack.ceiling stack.levels)

/-- What a resolution with a new table finds, one with a table that is used again finds, too. -/
theorem finds {fresh done : World} {own : CacheId} {value : Term} (isNew : fresh.IsNew own)
    (ran : ScopedTemplate.resolveTerm stack.ceiling stack.levels resolver template env own fresh = .ok value done) :
    ∃ value' done', ScopedTemplate.resolveTerm stack.ceiling stack.levels resolver template env id world =
        .ok value' done' ∧ value.Resembles value' ∧ (done'.cache id).standIn = none := by
  let p : Pair s :=
    ⟨resolver, resolver, own, id, true, false, [], [], fun _ => False, world.cache id⟩
  have worlds : p.Worlds fresh world := by
    refine ⟨isNew.inside, between.inside, ?_⟩
    show p.Tables (fresh.cache own) (world.cache id)
    rw [isNew.empty]
    exact ⟨sound_empty, between.settled, rfl, between.idle, nofun, nofun, .refl _⟩
  have fits : p.Fits := ⟨serves, serves, fun _ => ⟨rfl, rfl, fun _ no => no⟩, nofun⟩
  have ends := s.alike lawful stack.levels p fits stack.ceiling stack.ceiling stack.levels (fun _ => rfl)
    (.self visits) ⟨.inl rfl, meets, meets⟩ fresh world worlds
  change p.twin.Ends s.Same
    (ScopedTemplate.resolveTerm stack.ceiling stack.levels resolver template env own fresh)
    (ScopedTemplate.resolveTerm stack.ceiling stack.levels resolver template env id world) at ends
  rw [ran] at ends
  generalize ScopedTemplate.resolveTerm stack.ceiling stack.levels resolver template env id world = result' at ends
  cases ends with
  | ok same worlds => exact ⟨_, _, rfl, same.2, worlds.tables.settled.isTable⟩
  | stopped' stops => cases stops.1

/-- What a resolution finds and accepts with a new table, it returns with one that is used again. -/
theorem reuses (shared : (given <|> world.active) = some id) :
    Reuses id world resolver template env given stack := by
  have leads := between.resolve lawful serves visits meets stack shared
  refine ⟨leads.idle, leads.kept, fun given' fresh value done new ran => ?_⟩
  obtain ⟨ran, accepts⟩ := Resolver.resolveWith_eq_ok.1 ran
  obtain ⟨start, isNew, -, close, -, begun⟩ := World.resolveLeniently_begun new
    (ScopedTemplate.resolveTerm stack.ceiling stack.levels) resolver template env
  rw [begun] at ran
  generalize inTable : resolveIn (ScopedTemplate.resolveTerm stack.ceiling stack.levels) resolver template env
    (fresh.tableFor given') start = result at ran
  cases result with
  | error failure done => cases ran
  | ok found done =>
      cases ran
      obtain ⟨after, ran⟩ := ok_of_resolveIn inTable
      obtain ⟨value', after', ran', same, isTable⟩ := between.finds lawful serves visits meets isNew ran
      obtain ⟨done', ended⟩ := resolveIn_of_ok ran' isTable
      refine ⟨value', done', Resolver.resolveWith_eq_ok.2
        ⟨?_, Resolver.acceptsResult_of_outline same accepts⟩, same⟩
      rw [Pairing.resolveLeniently_given shared]
      exact ended

end Between

theorem Session.between (session : s.Session id world) (lawful : s.Lawful) : s.Between id world := by
  induction session with
  | start isNew => exact ⟨isNew.inside, isNew.empty ▸ settled_empty, isNew.empty ▸ rfl⟩
  | resolved _ serves visits meets shared ih =>
      exact (ih.resolve lawful serves visits meets _ shared).toBetween
  | meanwhile _ inside same ih => exact ⟨inside, same ▸ ih.settled, same ▸ ih.idle⟩

/-! ## One resolver under one environment -/

/-- One resolver under one environment, for terms without scopes with known functions and callables. -/
def single (resolver : Resolver Term) (env : Environment Term) (known : Term → Prop) : Site where
  resolver := resolver
  serves other := other = resolver
  visits other := other = env
  meets other t := other = env ∧ resolver.Scopeless known t

/-- A function is pure and gives known terms for values, or a callable reads names only. -/
def Trusts (s : Site) (known : Term → Prop) (f : Term) : Prop :=
  (f.IsPure ∧ ∀ args value, (∀ arg ∈ args, s.Value arg) → f.Returns args value →
    s.resolver.Scopeless known value) ∨ Classifier.shapeKind f = .callable ∧ s.Responsive f

theorem lawful_single {known : Term → Prop} (rules : resolver.rules = Rule.standard)
    (bindings : ∀ name binding, env.lookup? (.ref name) = some binding →
      resolver.Scopeless known binding)
    (trusts : ∀ f, known f → (single resolver env known).Trusts known f) :
    (single resolver env known).Lawful where
  akin := by
    rintro _ rfl
    exact .refl rules
  overrides := by
    rintro _ _ rfl rfl
    rfl
  tells := by
    rintro _ _ rfl rfl - name
    rfl
  reference := by
    rintro _ kind name binding ⟨rfl, -⟩ - bound
    exact ⟨rfl, bindings name binding bound⟩
  dependency := by
    rintro _ stamp name deps doc callee dep binding ⟨rfl, -⟩ - - bound
    exact ⟨rfl, bindings dep binding bound⟩
  read := by
    rintro _ c name binding ⟨rfl, -⟩ - bound
    exact ⟨rfl, bindings name binding bound⟩
  pure {_ f} meets looked := by
    obtain ⟨_, _, _, _, _, rfl⟩ := Classifier.function_of_kind looked
    rcases trusts _ (meets.2.known_function looked) with pure | ⟨isCallable, -⟩
    · exact pure.1
    · cases isCallable
  returned {_ f args value} meets looked values returned := by
    obtain ⟨_, _, _, _, _, rfl⟩ := Classifier.function_of_kind looked
    rcases trusts _ (meets.2.known_function looked) with pure | ⟨isCallable, -⟩
    · exact ⟨meets.1, pure.2 args value values returned⟩
    · cases isCallable
  matched {_ f args _ value _} meets looked values _ returned _ same := by
    obtain ⟨_, _, _, _, _, rfl⟩ := Classifier.function_of_kind looked
    rcases trusts _ (meets.2.known_function looked) with pure | ⟨isCallable, -⟩
    · exact .inr ⟨same, (pure.2 args value values returned).mono (fun _ => id) fun _ _ => trivial⟩
    · cases isCallable
  callable {_ c} meets looked := by
    rcases trusts _ (meets.2.known_callable looked) with pure | ⟨-, responsive⟩
    · obtain ⟨_, _, _, _, _, rfl⟩ := Classifier.callable_of_kind looked
      exact pure.1.elim
    · exact responsive
  items meets looked item member := ⟨meets.1, meets.2.items looked item member⟩
  elements meets looked item member := ⟨meets.1, meets.2.elements looked item member⟩
  entries meets looked _ entry member := ⟨meets.1, meets.2.values looked entry member⟩
  noView meets looked found := (meets.2.noDefaults looked found).elim
  scope meets looked found := (meets.2.noDefaults looked found).elim

end Site

namespace Resolver

variable {resolver : Resolver Term} {env : Environment Term} {known : Term → Prop} {id : CacheId}
  {world : World} {template : Term} {given : Option CacheId}

/--
With the built-in rules, no scopes of defaults, and pure functions and callables that may fail, a table that
is kept open in a session can be used again after every resolution, whether this failed or not.
-/
theorem resolve_in_session (rules : resolver.rules = Rule.standard)
    (bindings : ∀ name binding, env.lookup? (.ref name) = some binding →
      resolver.Scopeless known binding)
    (trusts : ∀ f, known f → (Site.single resolver env known).Trusts known f)
    (session : (Site.single resolver env known).Session id world)
    (knows : resolver.Scopeless known template) (shared : (given <|> world.active) = some id) :
    Site.Reuses id world resolver template env given stack := by
  have lawful := Site.lawful_single rules bindings trusts
  exact (session.between lawful).reuses lawful rfl rfl ⟨rfl, knows⟩ shared

def reading (name : String) : Term :=
  .callable .function 3 "read" "read" (.readItem (.const (.str name)))

theorem has_of_bindsAlike {env env' : Environment Term} (alike : env.BindsAlike env')
    (name : String) : View.has env (.str name) = View.has env' (.str name) := by
  unfold View.has Environment.binds
  rw [show Term.str name = .text .plain name from rfl, env.lookup?_text, env'.lookup?_text, alike name]

theorem responsive_reading {s : Site} {name : String}
    (gives : ∀ {env value}, s.meets env (reading name) → s.Value value → s.meets env value) :
    s.Responsive (reading name) := by
  intro t twin _ _ env env' _ alike meets meets' ceiling ceiling' levels levels' lookups stamp stamp'
  have reads : ∀ ceiling levels resolver env cache stamp, invoke (resolveTerm ceiling levels) (reading name)
      (reading name) [.view stamp resolver env cache] = recordCall 3 "read" >>= fun _ =>
        Reading.item (resolveTerm ceiling levels) (.view stamp resolver env cache) (.str name) := by
    intro ceiling levels resolver env cache stamp
    simp only [reading, invoke, evalBody]
    rfl
  rw [reads, reads]
  refine (Twin.Runs.recordCall twin 3 3 "read").bind fun _ _ _ => ?_
  unfold Reading.item
  dsimp only
  unfold View.item
  rw [has_of_bindsAlike alike]
  split
  · refine (lookups .plain name).bind fun value value' same => ?_
    refine (Twin.Runs.record twin rfl rfl).bind fun _ _ _ => .pure ?_
    have scopeless := same.1.mono (fun _ => id) fun _ _ => trivial
    exact ⟨.inr ⟨same.2, scopeless⟩, gives meets same.1, gives meets' same.isValue⟩
  · exact .fail twin rfl

def failing : Term :=
  .function 1 "fail" ["A"] none (.callable .procedure 2 "fail" "fail" (.raise "ValueError" "no"))

theorem isPure_failing : failing.IsPure := by
  intro ceiling ceiling' levels levels' args args' world world' _
  exact .error ⟨⟨List.prefix_refl _, rfl⟩, ⟨List.prefix_refl _, rfl⟩, ["fail"], rfl, rfl⟩

theorem not_returns_failing {args : List Term} {value : Term} : ¬ failing.Returns args value := by
  rintro ⟨ceiling, levels, world, after, ended⟩
  cases ended

/-- Names bound to a reference, data, a function that fails and a callable. -/
def mixed : Environment Term := ⟨[[(.str "A", .ref "B"), (.str "B", .str "b"), (.str "C", failing),
  (.str "D", reading "A")]], []⟩

/-- A function fails when the value of its dependency is stored; this is then read by a callable. -/
theorem failing_reuses : ∃ done,
    standard.resolve (.ref "C") mixed (some 0) .usual { World.empty with caches := [.empty] } =
        .error (.raised "ValueError" "no") done ∧
    Site.Reuses 0 done standard (.list .plain none [.ref "D", .ref "C"]) mixed (some 0) .usual := by
  refine ⟨_, rfl, ?_⟩
  let known f := f = failing ∨ f = reading "A"
  have name : ∀ s, standard.Scopeless known (.ref s) := fun _ => .reference rfl trivial
  have bindings : ∀ name binding, mixed.lookup? (.ref name) = some binding →
      standard.Scopeless known binding := by
    intro _ binding bound
    refine Environment.EachBinding.lookup? (P := standard.Scopeless known)
      (Environment.eachBinding_iff.2 ⟨List.forall_mem_nil _, List.forall_mem_singleton.2 ?_⟩) bound
    refine List.forall_mem_cons.2 ⟨name "B", List.forall_mem_cons.2 ⟨.data (.inl rfl), ?_⟩⟩
    refine List.forall_mem_cons.2 ⟨.function rfl (fun _ _ => trivial) (.inl rfl), ?_⟩
    exact List.forall_mem_singleton.2 (.callable rfl (.inr rfl))
  have trusts : ∀ f, known f → (Site.single standard mixed known).Trusts known f := by
    rintro f (rfl | rfl)
    · exact .inl ⟨isPure_failing, fun _ _ _ returned => (not_returns_failing returned).elim⟩
    · refine .inr ⟨rfl, responsive_reading fun meets isValue => ?_⟩
      exact ⟨meets.1, isValue.mono (fun _ _ => trivial) fun _ => False.elim⟩
  have start : (Site.single standard mixed known).Session 0 { World.empty with caches := [.empty] } :=
    .start ⟨Nat.one_pos, rfl⟩
  have failed : (Site.single standard mixed known).Session 0 (left (standard.resolve (.ref "C") mixed
    (some 0) .usual { World.empty with caches := [.empty] })) := .resolved start rfl rfl ⟨rfl, name "C"⟩ rfl
  exact resolve_in_session rfl bindings trusts failed
    (.list rfl (List.forall_mem_cons.2 ⟨name "D", List.forall_mem_singleton.2 (name "C")⟩)) rfl

end Resolver

end ScopedTemplate
