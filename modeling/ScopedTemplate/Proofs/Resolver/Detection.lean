import ScopedTemplate.Proofs.Resolver.Rewriting
import ScopedTemplate.Proofs.Sharing.Answers

/-!
# Resolution without the search for cycles

A name that is looked up while it is being computed has no value, so that refusing it at once takes
no value away; and a resolution in which no name is refused goes on in the same way without the
search.
-/

namespace ScopedTemplate

variable {ceiling : Int} {stack : Stack}

open Run

def Failure.isReentry : Failure → Bool
  | .cyclic _ _ none => true
  | _ => false

theorem Failure.isReentry_of_isLimit {failure : Failure} (limit : failure.isLimit = true) :
    failure.isReentry = false := by
  cases failure with
  | cyclic key chain bound =>
      cases bound with
      | none => cases limit
      | some _ => rfl
  | _ => rfl

/-- The resolver that differs in refusing no name that is being computed already. -/
def Resolver.withoutDetection (resolver : Resolver Term) : Resolver Term :=
  { resolver with config := { resolver.config with detectCycles := false } }

/-! ## Runs that agree -/

namespace Run

variable {α β : Type} {first second : Run α} {world : World}

/-- A run ends as another one does, unless the other one refuses a name that is being computed. -/
def Agrees (first second : Run α) (world : World) : Prop :=
  After first world (fun value world' => second world = .ok value world')
    fun failure world' => failure.isReentry = true ∨ second world = .error failure world'

namespace Agrees

theorem refl (run : Run α) (world : World) : Agrees run run world := by
  unfold Agrees After
  cases run world with
  | ok value world' => rfl
  | error failure world' => exact .inr rfl

theorem bind {next next' : α → Run β} (agrees : Agrees first second world)
    (then_agrees : ∀ value world', first world = .ok value world' →
      Agrees (next value) (next' value) world') :
    Agrees (first >>= next) (second >>= next') world := by
  unfold Agrees
  cases ran : first world with
  | ok value world' =>
      have same : second world = .ok value world' := agrees.of_ok ran
      have rest := then_agrees value world' ran
      unfold Agrees After at rest
      unfold After
      simp only [Bind.bind, EStateM.bind, ran, same]
      exact rest
  | error failure world' =>
      have ends := agrees.of_error ran
      unfold After
      simp only [Bind.bind, EStateM.bind, ran]
      rcases ends with reentry | same
      · exact .inl reentry
      · rw [same]
        exact .inr rfl

/-- What follows on the same run agrees if it does in the world that the run leaves. -/
theorem after {run : Run α} {next next' : α → Run β}
    (agrees : After run world (fun value world' => Agrees (next value) (next' value) world')
      fun _ _ => True) : Agrees (run >>= next) (run >>= next') world :=
  (refl run world).bind fun _ _ ran => agrees.of_ok ran

/-- What is run at the end does not matter if it cannot fail. -/
theorem andThen {first second : Run Term} {last : Run Unit}
    (ends : ∀ world, ∃ world', last world = .ok () world') (agrees : Agrees first second world) :
    Agrees (andThen first last) (andThen second last) world := by
  unfold Agrees After Run.andThen
  cases ran : first world with
  | ok value world' =>
      have same : second world = .ok value world' := agrees.of_ok ran
      obtain ⟨_, closed⟩ := ends world'
      simp only [same, closed]
  | error failure world' =>
      obtain ⟨_, closed⟩ := ends world'
      simp only [closed]
      rcases agrees.of_error ran with reentry | same
      · exact .inl reentry
      · rw [same]
        dsimp only
        rw [closed]
        exact .inr rfl

theorem reportEndless {ceiling : Int} {cache : CacheId} {first second : Run Term}
    (agrees : Agrees first second world) :
    Agrees (reportEndless ceiling cache first) (reportEndless ceiling cache second) world := by
  unfold Agrees Run.reportEndless
  refine after_recover.2 (agrees.mono ?_ ?_)
  · intro value world' same
    unfold recover
    rw [same]
  · rintro failure world' (reentry | same)
    · cases failure with
      | cyclic key chain limit => exact .inl reentry
      | _ => cases reentry
    · unfold recover
      rw [same]
      dsimp only
      cases failure.isExhaustion with
      | false => exact .inr rfl
      | true => exact refl _ world'

/-- A computation that is memoized goes on alike, unless its name is being computed already. -/
theorem memoize {id : CacheId} {name : Term} {env : Environment Term} {limit : Option Int}
    {first second : Run Term}
    (agrees : ∀ entered,
      World.SameStamps (world.change id (Cache.enter · (.of name env) env)) entered →
        Agrees first second entered) :
    Agrees (memoize id name env true limit first) (memoize id name env false limit second)
      world := by
  unfold Run.memoize
  refine after (after_cache.2 ?_)
  unfold checkTable
  cases (world.cache id).standIn with
  | some owner => exact refl _ world
  | none =>
      simp only [pure_bind, Bool.true_and, Bool.false_and, Bool.false_eq_true, if_false]
      split
      · exact refl _ world
      · split
        · exact refl _ world
        · split
          · refine after_bind.2 (after_changeCache.2 ?_)
            exact .inl rfl
          · split
            · exact refl _ world
            · refine after (after_modify.2 (after (after_changeCache.2 ?_)))
              refine bind (andThen (fun _ => ⟨_, rfl⟩) (agrees _ ⟨⟨rfl, rfl, rfl⟩, rfl⟩)) ?_
              exact fun _ world' _ => refl _ world'

end Agrees

end Run

/-! ## Resolutions that agree -/

namespace Domain

variable {domain : Domain} {cache : CacheId} {resolution : Resolution} {env : Environment Term}
  {stage : domain.Stage} {flight : Flight} {t : Term} {world : World}

/-- Of what is computed first, the value may be used to show that what follows agrees. -/
theorem Computes.agrees {α β : Type} {first second : Run α} {next next' : α → Run β}
    {safe : domain.Stage → α → Prop} {right : α → Prop} {wrong : Failure → Prop}
    (computes : domain.Computes cache stage flight first safe right wrong)
    (sane : domain.Sane cache stage flight world) (agrees : Agrees first second world)
    (then_agrees : ∀ stage' value world', domain.Later stage stage' →
      domain.Sane cache stage' flight world' → safe stage' value →
        Agrees (next value) (next' value) world') :
    Agrees (first >>= next) (second >>= next') world := by
  refine agrees.bind fun value world' ran => ?_
  obtain ⟨stage', onward, safe, _⟩ := (computes world sane).of_ok ran
  exact then_agrees stage' value world' onward.later onward.sane safe

variable (domain) (cache) in
/-- Resolutions with and without the search for cycles agree. -/
def Alike (resolution : Resolution) : Prop :=
  ∀ {stage flight t env world}, domain.Holds stage t → domain.admits stage env →
    domain.Sane cache stage flight world →
      Agrees (resolution domain.meaning.resolver t env cache)
        (resolution domain.meaning.resolver.withoutDetection t env cache) world

/-- Lookups agree. -/
theorem Lawful.lookup_agrees (lawful : domain.Lawful) (alike : domain.Alike cache resolution)
    (detects : domain.meaning.resolver.config.detectCycles = true)
    (admits : domain.admits stage env) (sane : domain.Sane cache stage flight world)
    (kind : TextKind) (s : String) :
    Agrees (lookupName resolution domain.meaning.resolver env cache (.text kind s))
      (lookupName resolution domain.meaning.resolver.withoutDetection env cache (.text kind s))
      world := by
  unfold lookupName
  split
  · exact .refl _ world
  · next binding bound =>
      rw [detects]
      refine Agrees.memoize fun entered same => ?_
      have holds : domain.Holds stage binding :=
        lawful.binding admits (Option.eq_some_of_filter_eq_some bound)
      exact alike holds admits ((sane.enter lawful admits kind s).of_same same)

theorem Lawful.dependencies_agree (lawful : domain.Lawful) (alike : domain.Alike cache resolution)
    (refines : domain.Refines cache resolution)
    (detects : domain.meaning.resolver.config.detectCycles = true)
    (admits : domain.admits stage env) (sane : domain.Sane cache stage flight world)
    (function : String) (deps : List String) :
    Agrees (domain.meaning.resolver.resolveDependencies resolution cache function env deps)
      (domain.meaning.resolver.withoutDetection.resolveDependencies resolution cache function env
        deps) world := by
  induction deps generalizing stage world with
  | nil => exact .refl _ world
  | cons dep rest ih =>
      refine (lawful.lookup refines admits .ref dep).agrees sane
        (lawful.lookup_agrees alike detects admits sane .ref dep)
        fun stage' value world' later sane' _ => ?_
      refine (lawful.checkDependency function dep value).agrees sane' (.refl _ world')
        fun stage'' _ world'' later' sane'' _ => ?_
      have admits'' := lawful.admits_later (lawful.trans later later') admits
      exact (ih admits'' sane'').bind fun _ world''' _ => .refl _ world'''

theorem Lawful.items_agree (lawful : domain.Lawful) (alike : domain.Alike cache resolution)
    (refines : domain.Refines cache resolution) (admits : domain.admits stage env)
    (sane : domain.Sane cache stage flight world) {items : List Term}
    (holds : ∀ item ∈ items, domain.Holds stage item) :
    Agrees (domain.meaning.resolver.resolveItems resolution cache env items)
      (domain.meaning.resolver.withoutDetection.resolveItems resolution cache env items)
      world := by
  induction items generalizing stage world with
  | nil => exact .refl _ world
  | cons item rest ih =>
      obtain ⟨first, others⟩ := List.forall_mem_cons.1 holds
      refine (refines first admits).agrees sane (alike first admits sane)
        fun stage' value world' later sane' _ => ?_
      have more := ih (lawful.admits_later later admits) sane' fun item member =>
        lawful.holds_later later (others item member)
      exact more.bind fun _ world'' _ => .refl _ world''

theorem Lawful.entries_agree (lawful : domain.Lawful) (alike : domain.Alike cache resolution)
    (refines : domain.Refines cache resolution) (admits : domain.admits stage env)
    (sane : domain.Sane cache stage flight world) {entries : Entries}
    (holds : ∀ entry ∈ entries, domain.Holds stage entry.2) :
    Agrees (domain.meaning.resolver.resolveEntries resolution cache env entries)
      (domain.meaning.resolver.withoutDetection.resolveEntries resolution cache env entries)
      world := by
  induction entries generalizing stage world with
  | nil => exact .refl _ world
  | cons entry rest ih =>
      obtain ⟨first, others⟩ := List.forall_mem_cons.1 holds
      refine (refines first admits).agrees sane (alike first admits sane)
        fun stage' value world' later sane' _ => ?_
      have more := ih (lawful.admits_later later admits) sane' fun entry member =>
        lawful.holds_later later (others entry member)
      exact more.bind fun _ world'' _ => .refl _ world''

/-- A scope of defaults leads to what is left of its mapping, in an environment of the domain. -/
theorem Lawful.enterDefaults (lawful : domain.Lawful) (admits : domain.admits stage env)
    {mapKind : MapKind} {stamp : Option Stamp} {entries : Entries}
    (holds : domain.Holds stage (.map mapKind stamp entries)) (kind : Kind) (collected : Bool) :
    domain.Computes cache stage flight
      (domain.meaning.resolver.enterDefaults resolution
        ⟨.map mapKind stamp entries, kind, env, collected⟩)
      (fun stage step => ∃ rest env', step = .again rest env' collected ∧
        domain.Holds stage rest ∧ domain.admits stage env')
      (fun _ => True) fun _ => True := by
  have refused : ∀ {run : Snapshot → Run Step} {safe : domain.Stage → Step → Prop},
      (∀ shown, ∃ failure, run shown = throw failure) →
        domain.Computes cache stage flight (Run.snapshot env >>= run) safe (fun _ => True)
          fun _ => True := by
    intro run safe fails
    refine (Computes.snapshot lawful env trivial).seq lawful fun _ shown _ _ => ?_
    obtain ⟨failure, thrown⟩ := fails shown
    rw [thrown]
    exact .throw lawful trivial
  cases found : Entries.find? entries domain.meaning.resolver.defaultsKey with
  | none =>
      unfold Resolver.enterDefaults
      dsimp only
      rw [found]
      exact refused fun _ => ⟨_, rfl⟩
  | some defaults =>
      have noView := (lawful.declarative
        (Term.Everywhere.find? (Term.everywhere_map.1 holds).2 found).here).2
      cases defaults with
      | map kind stamp' scope =>
          refine (lawful.entered admits holds found collected).mono ?_ (fun _ leads => leads)
            fun _ wrong => wrong
          rintro stage' _ ⟨rest, _, rfl, _, made, admitted⟩
          exact ⟨rest, _, rfl, made, admitted⟩
      | view _ _ _ _ => cases noView
      | _ =>
          unfold Resolver.enterDefaults
          dsimp only
          rw [found]
          exact refused fun _ => ⟨_, rfl⟩

/-- The collected children of a mapping or sequence belong to the domain. -/
theorem Lawful.collect (lawful : domain.Lawful) (refines : domain.Refines cache resolution)
    (admits : domain.admits stage env) (holds : domain.Holds stage t) {kind : Kind}
    {collected : Bool}
    (unscoped : ∀ mapKind stamp entries, t = .map mapKind stamp entries →
      Entries.has entries domain.meaning.resolver.defaultsKey = false) :
    domain.Computes cache stage flight
      (domain.meaning.resolver.collect resolution cache ⟨t, kind, env, collected⟩)
      (fun stage step => ∃ result, step = .again result env true ∧ domain.Holds stage result)
      (fun _ => True) fun _ => True := by
  unfold Resolver.collect
  dsimp only
  split
  · next mapKind stamp entries =>
      obtain ⟨here, inner⟩ := Term.everywhere_map.1 holds
      refine Computes.seq lawful ((lawful.entries refines admits inner).mono
        (fun _ _ resolved => resolved) (fun _ _ => trivial) fun _ _ => trivial)
        fun stage' values later resolved => ?_
      have noDefaults : Entries.has values domain.meaning.resolver.defaultsKey = false := by
        rw [Custody.has_of_keys resolved.1]
        exact unscoped mapKind stamp entries rfl
      refine Computes.seq lawful (Computes.makeMap lawful (lawful.fits_later later here)
        (reduced_of_keys resolved.1 noDefaults) resolved.2) fun stage'' made _ makes => ?_
      exact .pure lawful ⟨made, rfl, makes.1⟩ trivial
  · refine Computes.seq lawful ((lawful.items refines admits (Term.everywhere_tuple.1 holds).2).mono
      (fun _ _ resolved => resolved) (fun _ _ => trivial) fun _ _ => trivial)
      fun stage' values _ resolved => ?_
    refine Computes.seq lawful (Computes.makeTuple lawful resolved) fun stage'' made _ makes => ?_
    exact .pure lawful ⟨made, rfl, makes.1⟩ trivial
  · refine Computes.seq lawful ((lawful.items refines admits (Term.everywhere_list.1 holds).2).mono
      (fun _ _ resolved => resolved) (fun _ _ => trivial) fun _ _ => trivial)
      fun stage' values _ resolved => ?_
    refine Computes.seq lawful (Computes.makeList lawful resolved) fun stage'' made _ makes => ?_
    exact .pure lawful ⟨made, rfl, makes.1⟩ trivial
  · exact .pure lawful ⟨t, rfl, holds⟩ trivial

theorem Lawful.collect_agrees (lawful : domain.Lawful) (alike : domain.Alike cache resolution)
    (refines : domain.Refines cache resolution) (admits : domain.admits stage env)
    (sane : domain.Sane cache stage flight world) (holds : domain.Holds stage t) (kind : Kind)
    (collected : Bool) :
    Agrees (domain.meaning.resolver.collect resolution cache ⟨t, kind, env, collected⟩)
      (domain.meaning.resolver.withoutDetection.collect resolution cache
        ⟨t, kind, env, collected⟩) world := by
  unfold Resolver.collect
  dsimp only
  split
  · exact (lawful.entries_agree alike refines admits sane (Term.everywhere_map.1 holds).2).bind
      fun _ world' _ => .refl _ world'
  · exact (lawful.items_agree alike refines admits sane (Term.everywhere_tuple.1 holds).2).bind
      fun _ world' _ => .refl _ world'
  · exact (lawful.items_agree alike refines admits sane (Term.everywhere_list.1 holds).2).bind
      fun _ world' _ => .refl _ world'
  · exact .refl _ world

theorem ruleFor_withoutDetection (resolver : Resolver Term) (node : Node) :
    resolver.withoutDetection.ruleFor node = resolver.ruleFor node := by
  have same : resolver.withoutDetection.applies node = resolver.applies node := by
    funext rule
    cases rule <;> rfl
  unfold Resolver.ruleFor
  rw [same]

variable (domain) (cache) (ceiling) in
/-- Reductions with some steps left agree, with and without the search for cycles. -/
def ReducesAlike (levels steps : Nat) : Prop :=
  ∀ {stage flight t env world kind collected}, domain.Holds stage t → domain.admits stage env →
    domain.Sane cache stage flight world →
      domain.meaning.resolver.classifier.classify t = .ok kind →
        Agrees (domain.meaning.resolver.reduce (resolveTerm ceiling levels) cache steps
            ⟨t, kind, env, collected⟩)
          (domain.meaning.resolver.withoutDetection.reduce (resolveTerm ceiling levels) cache steps
            ⟨t, kind, env, collected⟩) world

/-- What a rule leads to is classified and reduced. -/
theorem ReducesAlike.again {levels steps : Nat} (alike : domain.ReducesAlike ceiling cache levels steps)
    {collected : Bool} (holds : domain.Holds stage t) (admits : domain.admits stage env)
    (sane : domain.Sane cache stage flight world) :
    Agrees (domain.meaning.resolver.follow (resolveTerm ceiling levels) cache steps
        (.again t env collected))
      (domain.meaning.resolver.withoutDetection.follow (resolveTerm ceiling levels) cache steps
        (.again t env collected)) world := by
  refine Agrees.after (after_ofResult.2 ⟨fun kind classified => ?_, fun _ _ => trivial⟩)
  exact alike holds admits sane classified

/-- What a rule finishes is not reduced. -/
theorem finish_agrees (resolver resolver' : Resolver Term) (steps : Nat) {α : Type}
    {first second : Run α} {finish : α → Run Step}
    (finishes : ∀ result, ∃ value, finish result = pure (.finish value))
    (agrees : Agrees first second world) :
    Agrees ((first >>= finish) >>= resolver.follow resolution cache steps)
      ((second >>= finish) >>= resolver'.follow resolution cache steps) world := by
  rw [bind_assoc, bind_assoc]
  refine agrees.bind fun result world' _ => ?_
  obtain ⟨value, same⟩ := finishes result
  rw [same]
  exact .refl _ world'

/-- Reductions agree. -/
theorem Lawful.reduce_agrees (lawful : domain.Lawful) {levels : Nat}
    (alike : domain.Alike cache (resolveTerm ceiling levels))
    (detects : domain.meaning.resolver.config.detectCycles = true) (steps : Nat) :
    domain.ReducesAlike ceiling cache levels steps := by
  have refines : domain.Refines cache (resolveTerm ceiling levels) := lawful.refines levels
  induction steps with
  | zero => exact fun _ _ _ _ => .refl _ _
  | succ steps ih =>
      intro stage flight t env world kind collected holds admits sane classified
      have looked := (Classifier.classify_eq_ok.1 classified).2
      have rules : domain.meaning.resolver.withoutDetection.rules = Rule.standard := lawful.rules
      rw [Resolver.reduce_succ lawful.rules, Resolver.reduce_succ rules, ruleFor_withoutDetection]
      have applies := domain.meaning.resolver.applies_ruleFor ⟨t, kind, env, collected⟩
      generalize domain.meaning.resolver.ruleFor ⟨t, kind, env, collected⟩ = rule at applies
      cases applies with
      | lookup isRef bound =>
          cases isRef
          obtain ⟨textKind, s, rfl⟩ := Classifier.text_of_ref looked
          exact finish_agrees _ _ steps (fun _ => ⟨_, rfl⟩)
            (lawful.lookup_agrees alike detects admits sane textKind s)
      | fixpoint isRef unbound => exact finish_agrees _ _ steps (fun _ => ⟨_, rfl⟩) (.refl _ world)
      | application isFunction =>
          cases isFunction
          obtain ⟨stamp, name, deps, doc, callee, rfl⟩ := Classifier.function_of_kind looked
          refine (lawful.application refines admits holds collected).agrees sane ?_ ?_
          · refine (lawful.dependencies refines admits name deps).agrees sane
              (lawful.dependencies_agree alike refines detects admits sane name deps) ?_
            exact fun _ _ world' _ _ _ => .refl _ world'
          · rintro stage' _ world' later sane' ⟨result, rfl, made⟩
            exact ih.again made (lawful.admits_later later admits) sane'
      | callable isCallable =>
          cases isCallable
          have shape := Classifier.shape_of_kind looked (by decide) (by decide)
          exact absurd shape (lawful.declarative holds.here).1
      | nestedDefaults isMapping defaults =>
          cases isMapping
          obtain ⟨mapKind, stamp, entries, rfl⟩ := Classifier.map_of_kind looked
          refine (lawful.enterDefaults admits holds .mapping collected).agrees sane (.refl _ world) ?_
          rintro stage' _ world' later sane' ⟨rest, env', rfl, holds', admits'⟩
          exact ih.again holds' admits' sane'
      | collection isCollection fresh unscoped =>
          refine (lawful.collect refines admits holds ?_).agrees sane
            (lawful.collect_agrees alike refines admits sane holds kind collected) ?_
          · rintro mapKind stamp entries rfl
            refine unscoped ?_
            cases kind with
            | mapping => rfl
            | sequence =>
                rcases Classifier.items_of_kind looked with ⟨_, _, _, same⟩ | ⟨_, _, same⟩ <;>
                  cases same
            | _ => cases isCollection
          · rintro stage' _ world' later sane' ⟨result, rfl, made⟩
            exact ih.again made (lawful.admits_later later admits) sane'
      | removal isCollected =>
          refine Agrees.after ((Resolver.prune_finishes t world).mono ?_ fun _ _ _ => trivial)
          rintro _ world' ⟨_, value, rfl⟩
          exact .refl _ world'
      | passThrough passes fresh => exact .refl _ world

/-- Resolutions agree at all levels. -/
theorem Lawful.alike (lawful : domain.Lawful)
    (detects : domain.meaning.resolver.config.detectCycles = true) (levels : Nat) :
    domain.Alike cache (resolveTerm ceiling levels) := by
  induction levels with
  | zero => exact fun _ _ _ => .refl _ _
  | succ levels ih =>
      intro stage flight t env world holds admits sane
      refine Agrees.after (after_ofResult.2 ⟨fun kind classified => ?_, fun _ _ => trivial⟩)
      exact lawful.reduce_agrees ih detects _ holds admits sane classified

/-- Resolutions that begin with a new table agree. -/
theorem Lawful.resolve_agrees (lawful : domain.Lawful)
    (detects : domain.meaning.resolver.config.detectCycles = true) {given : Option CacheId}
    (new : ∀ id, (given <|> world.active) = some id →
      id < world.caches.length ∧ world.cache id = .empty)
    (reached : domain.reached stage world.nextStamp) (holds : domain.Holds stage t)
    (admits : domain.admits stage env) :
    Agrees (domain.meaning.resolver.resolve t env given stack)
      (domain.meaning.resolver.withoutDetection.resolve t env given stack) world := by
  have agrees : ∀ {cache world}, domain.Sane cache stage [] world →
      Agrees (ScopedTemplate.resolveIn (resolveTerm stack.ceiling stack.levels) domain.meaning.resolver t env cache)
        (ScopedTemplate.resolveIn (resolveTerm stack.ceiling stack.levels) domain.meaning.resolver.withoutDetection
          t env cache) world := by
    intro cache world sane
    refine Agrees.reportEndless ?_
    exact (lawful.alike detects stack.levels holds admits sane).bind fun _ world' _ => .refl _ world'
  unfold Resolver.resolve resolveWith
  refine Agrees.bind ?_ fun _ world' _ => .refl _ world'
  refine Agrees.after (after_get.2 ?_)
  cases table : given <|> world.active with
  | some id =>
      obtain ⟨inside, new⟩ := new id table
      exact agrees (.new inside new reached)
  | none =>
      have sane : domain.Sane world.caches.length stage []
          { world with caches := world.caches ++ [.empty] } := by
        refine .new ?_ ?_ reached
        · rw [List.length_append]
          exact Nat.lt_succ_self _
        · simp [World.cache]
      exact Agrees.andThen (fun _ => ⟨_, rfl⟩) (agrees sane)

end Domain

/-- What a term means does not depend on the search for cycles. -/
theorem Meaning.evaluate_withoutDetection (resolver : Resolver Term) (pinned : String → Bool)
    (apply : Term → List Term → Option Term) (depth : Nat) :
    (Meaning.mk resolver.withoutDetection pinned apply).evaluate depth =
      (Meaning.mk resolver pinned apply).evaluate depth := by
  induction depth with
  | zero => rfl
  | succ depth ih =>
      funext bindings t
      rw [evaluate, evaluate, ih]
      rfl

namespace Resolver

variable {resolver : Resolver Term} {template : Term} {env : Environment Term}
  {given : Option CacheId} {world : World} {functions : Term → Prop}
  {apply : Term → List Term → Option Term} {labels : List Term}

/--
With the built-in rules, a new table and pure functions that ignore the order of mappings, the search
for cycles takes no value away and adds none.
-/
theorem resolve_iff_withoutDetection (stack : Stack) (rules : resolver.rules = Rule.standard)
    (detects : resolver.config.detectCycles = true)
    (pure : (Domain.ordinary functions (fun _ => True) ⟨resolver, env.pinned, apply⟩).IsPure)
    (new : ∀ id, (given <|> world.active) = some id →
      id < world.caches.length ∧ world.cache id = .empty)
    (labelled : labels.length = world.nextStamp)
    (holds : (Domain.ordinary functions (fun _ => True) ⟨resolver, env.pinned, apply⟩).Holds
      labels template)
    (admits : (Domain.ordinary functions (fun _ => True) ⟨resolver, env.pinned, apply⟩).admits
      labels env) (value : Term) (world' : World) :
    resolver.resolve template env given stack world = .ok value world' ↔
      resolver.withoutDetection.resolve template env given stack world = .ok value world' := by
  have lawful := Domain.lawful_ordinary rules pure
  have agrees : Agrees (resolver.resolve template env given stack)
      (resolver.withoutDetection.resolve template env given stack) world :=
    lawful.resolve_agrees detects new labelled holds admits
  refine ⟨agrees.of_ok, fun lax => ?_⟩
  cases ran : resolver.resolve template env given stack world with
  | ok value' world'' =>
      have same := agrees.of_ok ran
      rw [lax] at same
      rw [same]
  | error failure world'' =>
      have lawful' : (Domain.ordinary functions (fun _ => True)
          ⟨resolver.withoutDetection, env.pinned, apply⟩).Lawful :=
        Domain.lawful_ordinary rules pure
      obtain ⟨⟨depth, found⟩, accepts⟩ :=
        (lawful'.resolve_accepted stack rfl (fun _ => trivial) new labelled holds admits).of_ok lax
      have valued : (Meaning.mk resolver env.pinned apply).Evaluates (env.bindings true)
          (template.outline true) (value.outline true) := by
        refine ⟨depth, ?_⟩
        rw [← Meaning.evaluate_withoutDetection]
        exact found
      have limit := (lawful.resolve_accepted stack rfl (fun _ => trivial) new labelled holds
        admits).of_error ran value valued accepts
      rcases agrees.of_error ran with reentry | same
      · rw [Failure.isReentry_of_isLimit limit] at reentry
        cases reentry
      · rw [lax] at same
        cases same

/-- A function of a name that is bound by defaults, in terms of a name that is bound outside. -/
theorem kept_default_withoutDetection : ∃ world',
    standard.withoutDetection.resolve (.map .plain none [
        (.str "::defaults", .map .plain none [(.str "A", .ref "B")]), (.str "v", .keeper "A")])
      ⟨[[(.str "B", .str "x")]], []⟩ none .usual { World.empty with nextStamp := 2 } =
        .ok (.map .plain none [(.str "v", .str "x")]) world' ∧
    standard.resolve (.map .plain none [
        (.str "::defaults", .map .plain none [(.str "A", .ref "B")]), (.str "v", .keeper "A")])
      ⟨[[(.str "B", .str "x")]], []⟩ none .usual { World.empty with nextStamp := 2 } =
        .ok (.map .plain none [(.str "v", .str "x")]) world' := by
  let domain := Domain.ordinary (· = .keeper "A") (fun _ => True)
    ⟨standard, fun _ => false, fun _ args => args[0]?⟩
  have pure : domain.IsPure := by
    refine Domain.isPure_keeper "A" (fun labels => List.prefix_refl labels) rfl ?_
    intro labels t fits isFunction
    have ordinary : t.IsOrdinary (· = .keeper "A") labels := fits.1
    exact ordinary.known isFunction
  have text : ∀ kind s, kind ≠ .derived → domain.Holds [.keeper "A", .null] (.text kind s) :=
    fun kind s simple => Term.everywhere_of_inner rfl ⟨simple, trivial⟩
  have keeper : domain.Holds [.keeper "A", .null] (.keeper "A") := by
    refine Term.everywhere_of_inner rfl ⟨⟨rfl, ?_⟩, trivial⟩
    rintro own ⟨⟩
    rfl
  have holds : domain.Holds [.keeper "A", .null] (.map .plain none [
      (.str "::defaults", .map .plain none [(.str "A", .ref "B")]), (.str "v", .keeper "A")]) := by
    refine Term.everywhere_map.2 ⟨⟨⟨rfl, ?_, nofun⟩, fun _ _ _ _ _ _ => trivial⟩, ?_⟩
    · exact Entries.named_of_names ["::defaults", "v"] (by decide) rfl
    · simp only [List.forall_mem_cons]
      refine ⟨Term.everywhere_map.2 ⟨⟨⟨rfl, ?_, nofun⟩, fun _ _ _ _ _ _ => trivial⟩, ?_⟩, keeper,
        nofun⟩
      · exact Entries.named_of_names ["A"] (by decide) rfl
      · simp only [List.forall_mem_cons]
        exact ⟨text _ _ nofun, nofun⟩
  have admits : domain.admits [.keeper "A", .null] ⟨[[(.str "B", .str "x")]], []⟩ := by
    refine ⟨?_, ?_, fun _ _ => rfl⟩
    · intro layer member
      rcases List.mem_cons.1 member with rfl | last
      · exact ⟨nofun, .nil⟩
      · rw [List.mem_singleton.1 (List.mem_reverse.1 last)]
        exact Entries.named_of_names ["B"] (by decide) rfl
    · refine Environment.eachBinding_iff.2 ⟨nofun, ?_⟩
      simp only [List.forall_mem_cons]
      exact ⟨⟨text _ _ nofun, nofun⟩, nofun⟩
  have new : ∀ id, ((none : Option CacheId) <|>
      World.active { World.empty with nextStamp := 2 }) = some id →
        id < World.empty.caches.length ∧ World.empty.cache id = .empty := by
    rintro id ⟨⟩
  refine ⟨_, rfl, ?_⟩
  exact (resolve_iff_withoutDetection .usual rfl rfl pure new rfl holds admits _ _).2 rfl

end Resolver

end ScopedTemplate
