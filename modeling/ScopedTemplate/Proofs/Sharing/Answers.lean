import ScopedTemplate.Proofs.Evaluation.Outcome
import ScopedTemplate.Proofs.Sharing.Flatten

/-!
# Resolutions that share a table

A block of resolutions with one table gives the answers that each of them gives alone, as long as
every name that some scope of defaults binds is overridden in all of the resolutions or in none.
-/

namespace ScopedTemplate

open Run

namespace Entries

@[simp] theorem keys_mapValues (change : Term → Term) (entries : Entries) :
    keys (mapValues change entries) = keys entries := by
  simp [keys, mapValues]

theorem Named.mapValues {entries : Entries} (named : entries.Named) (change : Term → Term) :
    (Entries.mapValues change entries).Named := by
  refine named.sublist ?_
  rewrite [keys_mapValues]
  exact List.Sublist.refl _

end Entries

/-- The layers of an environment are those of the one it extends, and the scope that is entered. -/
theorem Environment.mem_layers_child {env : Environment Term} {scope layer : Entries}
    (member : layer ∈ (env.child scope).layers) : layer ∈ env.layers ∨ layer = scope := by
  unfold child at member
  split at member
  · exact .inl member
  · rcases List.mem_cons.1 member with first | inside
    · exact .inl (List.mem_cons.2 (.inl first))
    · rcases List.mem_append.1 (List.mem_reverse.1 inside) with before | last
      · exact .inl (List.mem_cons_of_mem _ (List.mem_reverse.2 before))
      · exact .inr (List.mem_singleton.1 last)

/-! ## The domain of a block -/

def Term.Shadows (resolver : Resolver Term) (shadowed : String → Prop) : Term → Prop
  | .map _ _ entries => ∀ kind stamp scope,
    Entries.find? entries resolver.defaultsKey = some (.map kind stamp scope) →
      ∀ name, .str name ∈ Entries.keys scope → shadowed name
  | _ => True

namespace Domain

variable (functions : Term → Prop) (shadowed : String → Prop) (meaning : Meaning)

/--
Ordinary data, where scopes of defaults bind certain names, and environments that agree in which of
these are overridden.  A stage is what the stamps stand for.
-/
def ordinary : Domain where
  meaning := meaning
  sorts := true
  Stage := List Term
  Later := (· <+: ·)
  reached labels next := labels.length = next
  fits labels t :=
    t.IsOrdinary functions labels ∧ t.Shadows meaning.resolver shadowed
  admits labels env := (∀ layer ∈ env.layers, Entries.Named layer) ∧
    (env.EachBinding fun t => t.Everywhere fun s =>
      s.IsOrdinary functions labels ∧ s.Shadows meaning.resolver shadowed) ∧
    ∀ name, shadowed name → env.pinned name = meaning.pinned name
  trusts _ := True

variable {functions} {shadowed} {meaning} {labels labels' : List Term} {t : Term}

theorem labelled_later (more : labels <+: labels') {stamp : Option Stamp}
    (labelled : t.Labelled labels stamp) : t.Labelled labels' stamp := by
  intro own same
  obtain ⟨added, rfl⟩ := more
  have found := labelled own same
  obtain ⟨inside, _⟩ := List.getElem?_eq_some_iff.1 found
  rw [List.getElem?_append_left inside]
  exact found

theorem isOrdinary_later (more : labels <+: labels') (fits : t.IsOrdinary functions labels) :
    t.IsOrdinary functions labels' := by
  cases t with
  | list _ _ _ => exact ⟨fits.1, labelled_later more fits.2⟩
  | tuple _ _ => exact labelled_later more fits
  | map _ _ _ => exact ⟨fits.1, fits.2.1, labelled_later more fits.2.2⟩
  | function _ _ _ _ _ => exact ⟨fits.1, labelled_later more fits.2⟩
  | _ => exact fits

@[simp] theorem outline_withStamp (stamp : Option Stamp) (t : Term) :
    (t.withStamp stamp).outline true = t.outline true := by
  cases t with
  | list _ _ _ => rw [Term.withStamp, Term.outline_list, Term.outline_list]
  | tuple _ _ => rw [Term.withStamp, Term.outline_tuple, Term.outline_tuple]
  | map _ _ _ => rw [Term.withStamp, Term.outline_map, Term.outline_map]
  | _ => rfl

theorem labelled_stamped (labels : List Term) (t : Term) :
    (t.withStamp (some labels.length)).Labelled (labels ++ [t.outline true])
      (some labels.length) := by
  rintro own ⟨⟩
  rw [outline_withStamp]
  simp

/-- What is made is labelled with itself. -/
theorem isOrdinary_stamped (fits : (t.withStamp none).IsOrdinary functions labels) :
    (t.withStamp (some labels.length)).IsOrdinary functions (labels ++ [t.outline true]) := by
  have labelled := labelled_stamped labels t
  cases t with
  | list kind stamp items => exact ⟨fits.1, labelled⟩
  | tuple stamp items => exact labelled
  | map kind stamp entries => exact ⟨fits.1, fits.2.1, labelled⟩
  | _ => exact isOrdinary_later (List.prefix_append _ _) fits

theorem shadows_withStamp {resolver : Resolver Term} (stamp : Option Stamp)
    (shadows : (t.withStamp none).Shadows resolver shadowed) :
    (t.withStamp stamp).Shadows resolver shadowed := by
  cases t <;> exact shadows

/-- A scope is entered alike in environments that agree in which of its names are overridden. -/
theorem enter_of_pinned {bindings : Bindings} {pinned pinned' : String → Bool} {scope : Entries}
    (agrees : ∀ name, .str name ∈ Entries.keys scope → pinned name = pinned' name)
    (named : scope.Named) : bindings.enter pinned scope = bindings.enter pinned' scope := by
  funext name
  unfold Bindings.enter
  cases found : Entries.find? scope (.ref name) with
  | none => cases pinned name <;> cases pinned' name <;> rfl
  | some value =>
      obtain ⟨key, member, same⟩ := Entries.mem_of_find? found
      have inside : key ∈ Entries.keys scope := List.mem_map.2 ⟨_, member, rfl⟩
      obtain ⟨s, rfl⟩ := named.names key inside
      have equal : s = name := by simpa using same
      subst equal
      rw [agrees s inside]

theorem lawful_ordinary (rules : meaning.resolver.rules = Rule.standard)
    (pure : (ordinary functions shadowed meaning).IsPure) :
    (ordinary functions shadowed meaning).Lawful where
  rules := rules
  refl labels := List.prefix_refl labels
  trans first second := first.trans second
  fits_later more fits := ⟨isOrdinary_later more fits.1, fits.2⟩
  admits_later more admits := ⟨admits.1,
    admits.2.1.mono fun _ holds => holds.mono fun _ fits => ⟨isOrdinary_later more fits.1, fits.2⟩,
    admits.2.2⟩
  declarative := by
    rintro labels t ⟨fits, _⟩
    cases t with
    | callable _ _ _ _ _ => exact fits.elim
    | view _ _ _ _ => exact fits.elim
    | _ => exact ⟨nofun, rfl⟩
  name _ _ := ⟨nofun, trivial⟩
  binding admits found := admits.2.1.lookup? found
  child := by
    intro labels env kind stamp entries kind' stamp' scope admits holds found
    obtain ⟨named, bound, pinned⟩ := admits
    have inner := Term.Everywhere.find? (Term.everywhere_map.1 holds).2 found
    have scopeNamed : Entries.Named scope := inner.here.1.2.1
    have shadows := (Term.everywhere_map.1 holds).1.2 kind' stamp' scope found
    refine ⟨⟨?_, bound.child (Term.everywhere_map.1 inner).2, ?_⟩, ?_⟩
    · intro layer member
      rcases Environment.mem_layers_child member with before | rfl
      · exact named layer before
      · exact scopeNamed
    · rw [Environment.pinned_child]
      exact pinned
    · rw [Environment.bindings_child]
      refine enter_of_pinned (fun name member => ?_) (scopeNamed.mapValues _)
      rw [Entries.keys_mapValues] at member
      exact pinned name (shadows name member)
  list _ _ := ⟨⟨rfl, nofun⟩, trivial⟩
  tuple _ _ := ⟨nofun, trivial⟩
  map := by
    rintro labels kind stamp original entries ⟨⟨_, named, _⟩, shadows⟩ reduced
    refine ⟨⟨rfl, named.sublist reduced.keys, nofun⟩, ?_⟩
    intro kind' stamp' scope found name member
    obtain ⟨kind'', stamp'', scope', original, keys⟩ := reduced.scope kind' stamp' scope found
    rw [keys] at member
    exact shadows kind'' stamp'' scope' original name member
  stamped := by
    rintro labels next t rfl ⟨fits, shadows⟩
    refine ⟨List.append labels [t.outline true], List.prefix_append _ _, ?_,
      isOrdinary_stamped fits, shadows_withStamp _ shadows⟩
    exact List.length_append
  applied := pure
  trusts_suffix _ _ := trivial
  agree := by
    intro labels events env env' _ _ _ admits admits' same
    have forget : ∀ {env : Environment Term}, (ordinary functions shadowed meaning).admits labels env →
        env.EachBinding fun t => t.Everywhere (Term.IsOrdinary functions labels) :=
      fun admits => admits.2.1.mono fun _ holds => holds.mono fun _ fits => fits.1
    exact Environment.bindings_of_fingerprint Term.outline_of_content
      (fun layer member => (admits.1 layer member).distinct)
      (fun layer member => (admits'.1 layer member).distinct) (forget admits) (forget admits') same

end Domain

/-! ## Results that are accepted -/

namespace Resolver

variable {resolver : Resolver Term} {env : Environment Term} {given : Option CacheId}

def AcceptsResult (resolver : Resolver Term) (result : Term) : Prop :=
  resolver.config.strict = true → resolver.classifier.check result = .ok () ∧
    result.references resolver.classifier resolver.config.defaultsKey = []

theorem acceptsResult_of_outline {sorts : Bool} {result result' : Term}
    (same : result.outline sorts = result'.outline sorts)
    (accepts : resolver.AcceptsResult result) : resolver.AcceptsResult result' := by
  intro strict
  obtain ⟨checked, complete⟩ := accepts strict
  constructor
  · rw [← @Classifier.check_outline _ sorts, same, Classifier.check_outline] at checked
    exact checked
  · have outlined := (Term.references_outline_eq_nil sorts result).2 complete
    rw [same] at outlined
    exact (Term.references_outline_eq_nil sorts result').1 outlined

theorem referenceNames_eq_nil {classifier : Classifier} {defaultsKey : String} {t : Term} :
    t.referenceNames classifier defaultsKey = [] ↔ t.references classifier defaultsKey = [] := by
  rw [List.eq_nil_iff_forall_not_mem, List.eq_nil_iff_forall_not_mem]
  refine forall_congr' fun name => not_congr ?_
  unfold Term.referenceNames
  rw [(Text.sort_perm _).mem_iff, Text.mem_distinct]

/-- A result is checked without a trace. -/
theorem after_checkResult (resolver : Resolver Term) (env : Environment Term) (result : Term)
    (world : World) : After (resolver.checkResult env result) world
      (fun _ world' => world' = world ∧ resolver.AcceptsResult result)
      (fun _ world' => world' = world ∧ ¬ resolver.AcceptsResult result) := by
  unfold checkResult
  cases strict : resolver.config.strict with
  | false => exact ⟨rfl, fun isStrict => by rw [strict] at isStrict; cases isStrict⟩
  | true =>
      rw [if_pos rfl]
      refine after_bind.2 (after_ofResult.2 ⟨fun _ checked => ?_, fun failure refused => ?_⟩)
      · cases names : result.referenceNames resolver.classifier resolver.config.defaultsKey with
        | nil => exact ⟨rfl, fun _ => ⟨checked, referenceNames_eq_nil.1 names⟩⟩
        | cons name others =>
            have refuses : ¬ resolver.AcceptsResult result := by
              intro accepts
              rw [referenceNames_eq_nil.2 (accepts strict).2] at names
              cases names
            refine after_bind.2 ?_
            unfold Run.snapshot
            split
            · exact ⟨rfl, refuses⟩
            · exact ⟨rfl, refuses⟩
      · refine ⟨rfl, fun accepts => ?_⟩
        rw [(accepts strict).1] at refused
        cases refused

/-- A resolution returns what it finds, in the same world, if the result is accepted. -/
theorem resolveWith_eq_ok {resolution : Resolution} {template value : Term} {env : Environment Term}
    {given : Option CacheId} {world world' : World} :
    resolveWith resolution resolver template env given world = .ok value world' ↔
      resolveLeniently resolution resolver template env given world = .ok value world' ∧
        resolver.AcceptsResult value := by
  unfold resolveWith
  simp only [Bind.bind, EStateM.bind]
  cases resolveLeniently resolution resolver template env given world with
  | error failure done => simp
  | ok result done =>
      have checked := after_checkResult resolver env result done
      unfold After at checked
      dsimp only
      generalize resolver.checkResult env result done = ends at checked
      cases ends with
      | ok _ done' =>
          obtain ⟨rfl, accepts⟩ := checked
          constructor
          · rintro ⟨⟩
            exact ⟨rfl, accepts⟩
          · rintro ⟨⟨⟩, _⟩
            rfl
      | error failure done' =>
          constructor
          · rintro ⟨⟩
          · rintro ⟨⟨⟩, accepts⟩
            exact absurd accepts checked.2

end Resolver

/-! ## Answers -/

/-- A template to resolve under an environment, and the stack that is left for it. -/
structure Request where
  template : Term
  env : Environment Term
  stack : Stack

/-- What a resolver answers to requests, one after the other, whether they fail or not. -/
def Resolver.answers (resolver : Resolver Term) : List Request → World → List (Request × Except Failure Term)
  | [], _ => []
  | request :: rest, world =>
    match resolver.resolve request.template request.env none request.stack world with
    | .ok value world => (request, .ok value) :: answers resolver rest world
    | .error failure world => (request, .error failure) :: answers resolver rest world

namespace Domain

variable {domain : Domain} {stage : domain.Stage} {cache : CacheId} {world : World}

/-- An answer is right, or there is none that is accepted, unless a limit was met. -/
def Answers (domain : Domain) (request : Request) : Except Failure Term → Prop
  | .ok value => domain.Valued request.env request.template value
  | .error failure => ∀ value, domain.Valued request.env request.template value →
    domain.meaning.resolver.AcceptsResult value → failure.isLimit = true

/-- A value that was found is accepted, or no value of the term is. -/
theorem Valued.accepted (sorts : domain.sorts = true) {env : Environment Term} {t value : Term}
    (valued : domain.Valued env t value) :
    After (do
        domain.meaning.resolver.checkResult env value
        return value) world
      (fun result world' => world' = world ∧ domain.Valued env t result ∧
        domain.meaning.resolver.AcceptsResult result)
      (fun failure world' => world' = world ∧ ∀ other, domain.Valued env t other →
        domain.meaning.resolver.AcceptsResult other → failure.isLimit = true) := by
  refine after_bind.2 ((Resolver.after_checkResult _ env value world).mono ?_ ?_)
  · rintro _ world' ⟨same, accepts⟩
    exact ⟨same, valued, accepts⟩
  · rintro failure world' ⟨same, refuses⟩
    refine ⟨same, fun other valued' accepts => absurd ?_ refuses⟩
    have outlines := valued'.unique valued
    rw [sorts] at outlines
    exact Resolver.acceptsResult_of_outline outlines accepts

/--
With a new table a value is found that is accepted, or there is none but for a limit, if the events
are trusted.
-/
theorem Lawful.resolve_trusted (lawful : domain.Lawful) (stack : Stack) (sorts : domain.sorts = true)
    {env : Environment Term} {t : Term} {given : Option CacheId}
    (new : ∀ id, (given <|> world.active) = some id →
      id < world.caches.length ∧ world.cache id = .empty)
    (reached : domain.reached stage world.nextStamp) (holds : domain.Holds stage t)
    (admits : domain.admits stage env) :
    After (domain.meaning.resolver.resolve t env given stack) world
      (fun value world' => domain.trusts (world'.cache (world.tableFor given)).events →
        domain.Valued env t value ∧ domain.meaning.resolver.AcceptsResult value)
      (fun failure world' => domain.trusts (world'.cache (world.tableFor given)).events →
        ∀ value, domain.Valued env t value →
          domain.meaning.resolver.AcceptsResult value → failure.isLimit = true) := by
  have resolves := lawful.resolveLeniently stack.ceiling stack.levels new reached holds admits
  refine after_bind.2 (resolves.mono ?_ ?_)
  · rintro value world' ⟨_, right⟩
    refine after_bind.2 ((Resolver.after_checkResult _ env value world').mono ?_ ?_)
    · rintro _ _ ⟨rfl, accepts⟩ trusted
      exact ⟨right trusted, accepts⟩
    · rintro failure _ ⟨rfl, refuses⟩ trusted other valued accepts
      have outlines := Meaning.Evaluates.unique valued (right trusted)
      rw [sorts] at outlines
      exact absurd (Resolver.acceptsResult_of_outline outlines accepts) refuses
  · rintro failure world' wrong trusted value ⟨depth, found⟩ _
    exact wrong trusted depth _ found fun entry member => absurd member List.not_mem_nil

/-- With a new table a value is found that is accepted, or there is none but for a limit. -/
theorem Lawful.resolve_accepted (lawful : domain.Lawful) (stack : Stack) (sorts : domain.sorts = true)
    (trusts : ∀ events, domain.trusts events) {env : Environment Term} {t : Term}
    {given : Option CacheId} (new : ∀ id, (given <|> world.active) = some id →
      id < world.caches.length ∧ world.cache id = .empty)
    (reached : domain.reached stage world.nextStamp) (holds : domain.Holds stage t)
    (admits : domain.admits stage env) :
    After (domain.meaning.resolver.resolve t env given stack) world
      (fun value _ => domain.Valued env t value ∧ domain.meaning.resolver.AcceptsResult value)
      (fun failure _ => ∀ value, domain.Valued env t value →
        domain.meaning.resolver.AcceptsResult value → failure.isLimit = true) :=
  (lawful.resolve_trusted stack sorts new reached holds admits).mono
    (fun _ _ ends => ends (trusts _)) fun _ _ ends => ends (trusts _)

/-- A request that is made with a sane table leaves it sane. -/
theorem Lawful.request (lawful : domain.Lawful) (sorts : domain.sorts = true)
    (trusts : ∀ events, domain.trusts events) {request : Request}
    (shared : world.active = some cache) (sane : domain.Sane cache stage [] world)
    (holds : domain.Holds stage request.template) (admits : domain.admits stage request.env) :
    After (domain.meaning.resolver.resolve request.template request.env none request.stack) world
      (fun value world' => (∃ stage', domain.Onward cache stage [] world stage' world') ∧
        domain.Answers request (.ok value))
      (fun failure world' => (∃ stage', domain.Onward cache stage [] world stage' world') ∧
        domain.Answers request (.error failure)) := by
  have resolves := lawful.resolveIn request.stack.ceiling request.stack.levels holds admits world sane
  refine after_bind.2 (after_bind.2 (after_get.2 ?_))
  rw [shared]
  refine resolves.mono ?_ ?_
  · rintro value world' ⟨stage', onward, _, right⟩
    have valued : domain.Valued request.env request.template value := right (trusts _)
    refine (valued.accepted sorts).mono ?_ ?_
    · rintro result world'' ⟨rfl, valued', _⟩
      exact ⟨⟨stage', onward⟩, valued'⟩
    · rintro failure world'' ⟨rfl, limited⟩
      exact ⟨⟨stage', onward⟩, limited⟩
  · rintro failure world' ⟨stage', onward, wrong⟩
    refine ⟨⟨stage', onward⟩, ?_⟩
    rintro value ⟨depth, found⟩ _
    exact wrong (trusts _) depth _ found fun entry member => absurd member List.not_mem_nil

/-- All answers of a block are right. -/
theorem Lawful.answers (lawful : domain.Lawful) (sorts : domain.sorts = true)
    (trusts : ∀ events, domain.trusts events) {requests : List Request}
    (shared : world.active = some cache) (sane : domain.Sane cache stage [] world)
    (fits : ∀ request ∈ requests,
      domain.Holds stage request.template ∧ domain.admits stage request.env) :
    ∀ entry ∈ domain.meaning.resolver.answers requests world, domain.Answers entry.1 entry.2 := by
  induction requests generalizing stage world with
  | nil => exact fun entry member => absurd member List.not_mem_nil
  | cons request rest ih =>
      obtain ⟨first, others⟩ := List.forall_mem_cons.1 fits
      have answered := lawful.request sorts trusts shared sane first.1 first.2
      have later : ∀ {world'}, (∃ stage', domain.Onward cache stage [] world stage' world') →
          ∀ entry ∈ domain.meaning.resolver.answers rest world',
            domain.Answers entry.1 entry.2 := by
        rintro world' ⟨stage', onward⟩
        refine ih (onward.active.trans shared) onward.sane fun request member => ?_
        obtain ⟨holds, admits⟩ := others request member
        exact ⟨lawful.holds_later onward.later holds, lawful.admits_later onward.later admits⟩
      unfold Resolver.answers
      cases run : domain.meaning.resolver.resolve request.template request.env none request.stack world with
      | ok value world' =>
          obtain ⟨onward, answers⟩ := answered.of_ok run
          exact List.forall_mem_cons.2 ⟨answers, later onward⟩
      | error failure world' =>
          obtain ⟨onward, answers⟩ := answered.of_error run
          exact List.forall_mem_cons.2 ⟨answers, later onward⟩

end Domain

namespace Resolver

variable {resolver : Resolver Term} {functions : Term → Prop} {shadowed : String → Prop}
  {pinned : String → Bool} {apply : Term → List Term → Option Term} {labels : List Term}
  {world inside : World} {block : Block} {requests : List Request}

theorem request_of_mem_answers {entry : Request × Except Failure Term}
    (member : entry ∈ resolver.answers requests world) : entry.1 ∈ requests := by
  induction requests generalizing world with
  | nil => exact absurd member List.not_mem_nil
  | cons request rest ih =>
      unfold answers at member
      split at member <;> rcases List.mem_cons.1 member with rfl | later
      · exact List.mem_cons_self
      · exact List.mem_cons_of_mem _ (ih later)
      · exact List.mem_cons_self
      · exact List.mem_cons_of_mem _ (ih later)

/-- What a block begins with: a new table that resolutions share. -/
theorem inside_of_enter (entered : Block.enter world = .ok block inside) :
    inside = { world with caches := world.caches ++ [.empty], active := some world.caches.length } := by
  cases entered
  rfl

/--
If names that scopes of defaults bind are overridden in all requests or in none, a request that has a
value alone has the same one in a block, unless a limit is met there.
-/
theorem shared_answers_agree (rules : resolver.rules = Rule.standard)
    (pure : (Domain.ordinary functions shadowed ⟨resolver, pinned, apply⟩).IsPure)
    (labelled : labels.length = world.nextStamp)
    (fits : ∀ request ∈ requests,
      (Domain.ordinary functions shadowed ⟨resolver, pinned, apply⟩).Holds labels
          request.template ∧
        (Domain.ordinary functions shadowed ⟨resolver, pinned, apply⟩).admits labels request.env)
    (entered : Block.enter world = .ok block inside) :
    ∀ entry ∈ resolver.answers requests inside, ∀ value world',
      resolver.resolve entry.1.template entry.1.env none entry.1.stack { world with active := none } =
          .ok value world' →
        (∃ answer, entry.2 = .ok answer ∧ answer.outline true = value.outline true) ∨
          ∃ failure, entry.2 = .error failure ∧ failure.isLimit = true := by
  let domain := Domain.ordinary functions shadowed ⟨resolver, pinned, apply⟩
  have lawful : domain.Lawful := Domain.lawful_ordinary rules pure
  have trusts : ∀ events, domain.trusts events := fun _ => trivial
  have starts := inside_of_enter entered
  subst starts
  have sane : domain.Sane world.caches.length labels [] { world with
      caches := world.caches ++ [.empty], active := some world.caches.length } := by
    refine .new ?_ ?_ labelled
    · rw [List.length_append]
      exact Nat.lt_succ_self _
    · simp [World.cache]
  intro entry member value world' run
  obtain ⟨holds, admits⟩ := fits _ (request_of_mem_answers member)
  have answers := lawful.answers rfl trusts rfl sane fits entry member
  have new : ∀ id, ((none : Option CacheId) <|> World.active { world with active := none }) =
      some id → id < world.caches.length ∧ world.cache id = .empty := by
    rintro id ⟨⟩
  have reached : domain.reached labels (World.nextStamp { world with active := none }) := labelled
  obtain ⟨valued, accepts⟩ :=
    (lawful.resolve_accepted entry.1.stack rfl trusts new reached holds admits).of_ok run
  obtain ⟨request, answer⟩ := entry
  cases answer with
  | ok answer => exact .inl ⟨answer, rfl, answers.unique valued⟩
  | error failure => exact .inr ⟨failure, rfl, answers value valued accepts⟩

def kept : Term := .map .plain none [
  (.str "::defaults", .map .plain none [(.str "A", .str "two")]), (.str "v", .keeper "A")]

/-- Two environments that bind the same names, in different orders. -/
theorem reordered_requests_agree : ∃ block inside,
    Block.enter { World.empty with nextStamp := 2 } = .ok block inside ∧
      ∀ entry ∈ standard.answers [⟨.ref "B", ⟨[[(.str "A", .str "one"), (.str "B", kept)]], []⟩, .usual⟩,
          ⟨.ref "B", ⟨[[(.str "B", kept), (.str "A", .str "one")]], []⟩, .usual⟩] inside,
        ∀ value world', standard.resolve entry.1.template entry.1.env none entry.1.stack
            { World.empty with nextStamp := 2 } = .ok value world' →
          (∃ answer, entry.2 = .ok answer ∧ answer.outline true = value.outline true) ∨
            ∃ failure, entry.2 = .error failure ∧ failure.isLimit = true := by
  let domain := Domain.ordinary (· = .keeper "A") (· = "A")
    ⟨standard, fun _ => false, fun _ args => args[0]?⟩
  have rules : standard.rules = Rule.standard := rfl
  have pure : domain.IsPure := by
    refine Domain.isPure_keeper "A" (fun labels => List.prefix_refl labels) rfl ?_
    intro labels t fits isFunction
    have ordinary : t.IsOrdinary (· = .keeper "A") labels := fits.1
    exact ordinary.known isFunction
  have text : ∀ kind s, kind ≠ .derived → domain.Holds [.keeper "A", .null] (.text kind s) :=
    fun kind s simple => Term.everywhere_of_inner rfl ⟨simple, trivial⟩
  have keeper : domain.Holds [.keeper "A", .null] (.keeper "A") := by
    refine Term.everywhere_of_inner rfl ⟨⟨rfl, ?_⟩, trivial⟩
    rintro own ⟨⟩
    rfl
  have shadows : kept.Shadows standard (· = "A") := by
    intro kind stamp scope found name member
    have scopes : Entries.find? [(.str "::defaults", .map .plain none [(.str "A", .str "two")]),
      (.str "v", .keeper "A")] standard.defaultsKey =
        some (.map .plain none [(.str "A", .str "two")]) := rfl
    cases scopes.symm.trans found
    have same : Term.str name = .str "A" := List.mem_singleton.1 member
    cases same
    rfl
  have holds : domain.Holds [.keeper "A", .null] kept := by
    refine Term.everywhere_map.2 ⟨⟨⟨rfl, ?_, nofun⟩, shadows⟩, ?_⟩
    · exact Entries.named_of_names ["::defaults", "v"] (by decide) rfl
    · simp only [List.forall_mem_cons]
      refine ⟨Term.everywhere_map.2 ⟨⟨⟨rfl, ?_, nofun⟩, ?_⟩, ?_⟩, keeper, nofun⟩
      · exact Entries.named_of_names ["A"] (by decide) rfl
      · intro kind stamp scope found
        cases found
      · simp only [List.forall_mem_cons]
        exact ⟨text _ _ nofun, nofun⟩
  have fits : ∀ scope : Entries, (scope = [(.str "A", .str "one"), (.str "B", kept)] ∨
      scope = [(.str "B", kept), (.str "A", .str "one")]) →
        domain.admits [.keeper "A", .null] ⟨[scope], []⟩ := by
    intro scope either
    have named : scope.Named ∧ ∀ entry ∈ scope, domain.Holds [.keeper "A", .null] entry.2 := by
      rcases either with rfl | rfl <;> simp only [List.forall_mem_cons]
      · exact ⟨Entries.named_of_names ["A", "B"] (by decide) rfl, text _ _ nofun, holds, nofun⟩
      · exact ⟨Entries.named_of_names ["B", "A"] (by decide) rfl, holds, text _ _ nofun, nofun⟩
    refine ⟨?_, ?_, fun _ _ => rfl⟩
    · intro layer member
      rcases List.mem_cons.1 member with rfl | last
      · exact ⟨nofun, .nil⟩
      · rw [List.mem_singleton.1 (List.mem_reverse.1 last)]
        exact named.1
    · refine Environment.eachBinding_iff.2 ⟨nofun, ?_⟩
      simp only [List.forall_mem_cons]
      exact ⟨named.2, nofun⟩
  have labelled : [Term.keeper "A", .null].length =
      World.nextStamp { World.empty with nextStamp := 2 } := rfl
  refine ⟨_, _, rfl, shared_answers_agree rules pure labelled ?_ rfl⟩
  simp only [List.forall_mem_cons]
  exact ⟨⟨text _ _ nofun, fits _ (.inl rfl)⟩, ⟨text _ _ nofun, fits _ (.inr rfl)⟩, nofun⟩

def masked : Term := .map .plain none [
  (.str "::defaults", .map .plain none [(.str "A", .str "two")]), (.str "v", .ref "A")]

/-- A request where the name is bound, and one where it is overridden. -/
def bound : Request := ⟨.ref "B", ⟨[[(.str "A", .str "one"), (.str "B", masked)]], []⟩, .usual⟩

@[inherit_doc bound]
def overridden : Request := ⟨.ref "B", ⟨[[(.str "B", masked)]], [(.str "A", .str "one")]⟩, .usual⟩

/-- After the first request the second one gets its answer, not the one that it gets alone. -/
theorem overrides_confused : ∃ block inside, Block.enter .empty = .ok block inside ∧
    standard.answers [bound, overridden] inside = [
      (bound, .ok (.map .plain none [(.str "v", .str "two")])),
      (overridden, .ok (.map .plain none [(.str "v", .str "two")]))] ∧
    ∃ world', standard.resolve overridden.template overridden.env none overridden.stack .empty =
      .ok (.map .plain none [(.str "v", .str "one")]) world' :=
  ⟨_, _, rfl, rfl, _, rfl⟩

end Resolver

end ScopedTemplate
