import ScopedTemplate.Proofs.Lockstep.Calls

/-!
# Dependencies in lockstep

The first run may refuse a dependency that is still a reference, where the second one goes on.  The
second run finds a reference under that name from then on, so the reference is among the arguments
that it applies the function to.
-/

namespace ScopedTemplate

open Run Term

theorem Classifier.isRef_detach (classifier : Classifier) (t : Term) (next : Stamp) :
    classifier.isRef (t.detach next).1 = classifier.isRef t := by
  cases t with
  | list kind => cases kind <;> rfl
  | map kind => cases kind <;> rfl
  | _ => rfl

/-! ## Names without a value -/

section Unresolved

variable {classifier : Classifier} {resolution : Resolution} {resolver : Resolver Term}
  {env : Environment Term} {cache : CacheId} {name : Term} {world : World}

/-- From a world on, whatever a lookup finds under a name is a reference. -/
def Unresolved (classifier : Classifier) (resolution : Resolution) (resolver : Resolver Term)
    (env : Environment Term) (cache : CacheId) (name : Term) (world : World) : Prop :=
  ∀ later, world.Grown later →
    After (lookupName resolution resolver env cache name) later
      (fun value _ => classifier.isRef value = true) fun _ _ => True

theorem Unresolved.grown {later : World}
    (unresolved : Unresolved classifier resolution resolver env cache name world)
    (grown : world.Grown later) :
    Unresolved classifier resolution resolver env cache name later :=
  fun last more => unresolved last (grown.trans more)

/-- A table that is closed serves nothing. -/
theorem memoize_closed {detectCycles : Bool} {limit : Option Int} {compute : Run Term}
    (closed : (world.cache cache).closed = true) {ok : Term → World → Prop} :
    After (memoize cache name env detectCycles limit compute) world ok fun _ _ => True := by
  unfold memoize
  refine after_bind.2 (after_cache.2 (after_bind.2 ?_))
  unfold checkTable
  split
  · exact after_throw.2 trivial
  · rw [if_pos closed]
    exact after_pure.2 (after_throw.2 trivial)

/-- A reference that is stored is served as long as the table is open. -/
theorem served_reference {detectCycles : Bool} {limit : Option Int} {compute : Run Term}
    {value : Term}
    (stored : (world.cache cache).find? (CacheKey.of name env) = some value)
    (reference : classifier.isRef value = true) {later : World} (grown : world.Grown later) :
    After (memoize cache name env detectCycles limit compute) later
      (fun value _ => classifier.isRef value = true) fun _ _ => True := by
  cases closed : (later.cache cache).closed with
  | true => exact memoize_closed closed
  | false =>
      have found := (grown.tables cache).stored closed _ _ stored
      apply after_memoize
      · exact fun _ _ _ _ isRef => isRef
      · exact fun _ _ => trivial
      · exact fun _ _ => trivial
      · intro served found' next
        rw [found] at found'
        cases found'
        rw [Classifier.isRef_detach]
        exact reference
      · intro begins
        rw [begins.missing] at found
        cases found

/-- What a lookup finds is no reference, or every later lookup finds one. -/
theorem lookupName_unresolved (classifier : Classifier) (inside : cache < world.caches.length)
    [grows : ∀ resolver t env cache, Grows (resolution resolver t env cache)] :
    After (lookupName resolution resolver env cache name) world
      (fun value world' => classifier.isRef value = true →
        Unresolved classifier resolution resolver env cache name world')
      fun _ _ => True := by
  unfold Unresolved lookupName
  cases env.target? name with
  | none => exact fun reference later _ => reference
  | some binding =>
      have stores : After (memoize cache name env resolver.config.detectCycles
          (some resolver.config.maxDepth) (resolution resolver binding env cache)) world
          (fun value world' => classifier.isRef value = true → ∃ stored,
            (world'.cache cache).find? (CacheKey.of name env) = some stored ∧
              classifier.isRef stored = true) fun _ _ => True := by
        apply after_memoize
        · intro value world world' same holds reference
          rw [same.cache_eq]
          exact holds reference
        · exact fun _ _ => trivial
        · exact fun _ _ => trivial
        · intro value found next reference
          rw [Classifier.isRef_detach] at reference
          refine ⟨value, ?_, reference⟩
          rw [world.cache_change inside]
          exact found
        · intro _ entered same
          refine ((grows resolver binding env cache).after entered).mono ?_ fun _ _ _ => trivial
          intro value done grown next reference
          refine ⟨(value.detach next).1, ?_, ?_⟩
          · rw [World.cache_change, Cache.find?_put, if_pos rfl]
            rw [World.length_change]
            refine Nat.lt_of_lt_of_le ?_ grown.length
            rw [same.caches, World.length_change]
            exact inside
          · rw [Classifier.isRef_detach]
            exact reference
      refine stores.mono ?_ fun _ _ _ => trivial
      intro value world' holds reference later grown
      obtain ⟨stored, found, isRef⟩ := holds reference
      exact served_reference found isRef grown

end Unresolved

namespace Pairing

variable {p : Pairing} {resolver resolver' : Resolver Term} {cache : CacheId}
  {resolution : Resolution} {env env' : Environment Term}

/-! ## The check of one dependency -/

/-- The first run refuses what the second one goes on with. -/
structure Differs (p : Pairing) (cache : CacheId) (resolver' : Resolver Term) (value' : Term)
    (check : Run Unit) : Prop where
  diverges : p.diverges
  own : cache = p.cache
  unchecked : resolver'.config.checkDependencies = false
  reference : p.classifier.isRef value' = true
  refuses : ∀ world, ∃ failure, failure.IsRefusal ∧ check world = .error failure world

theorem snapshot_refuses (env : Environment Term) {next : Snapshot → Failure}
    (refusal : ∀ shown, (next shown).IsRefusal) (world : World) : ∃ failure : Failure,
      failure.IsRefusal ∧ (do throw (next (← Run.snapshot env)) : Run Unit) world =
        .error failure world := by
  unfold Run.snapshot
  split
  · exact ⟨_, refusal env.snapshot, rfl⟩
  · exact ⟨_, ⟨rfl, rfl⟩, rfl⟩

/-- A dependency is checked in lockstep, unless the two runs part. -/
theorem checkDependency_cases (paired : p.Paired cache resolver resolver') (function dep : String)
    (envs : p.AlikeEnv env env') {value value' : Term} (values : p.Alike value value') :
    p.Lockstep (fun _ _ => True) (resolver.checkDependency function dep env value)
        (resolver'.checkDependency function dep env' value') ∨
      p.Differs cache resolver' value' (resolver.checkDependency function dep env value) := by
  unfold Resolver.checkDependency
  rcases paired.checks with same | ⟨diverges, own, unchecked, classifier⟩
  · refine .inl ?_
    rw [same, paired.classifier, values.isRef, envs.binds (alike_text _ _), values.nameText]
    split
    · refine (Lockstep.snapshot envs).bind ?_
      rintro shown _ rfl
      exact .fail _
    · exact .pure trivial
  · split
    · next refused =>
        rw [Bool.and_eq_true, classifier, values.isRef] at refused
        exact .inr ⟨diverges, own, unchecked, refused.2, snapshot_refuses env fun _ => ⟨rfl, rfl⟩⟩
    · rw [unchecked]
      exact .inl (.pure trivial)

/-! ## All dependencies of a function -/

/-- What is found under a name that has no value is a reference each time. -/
theorem dependencies_unresolved {classifier : Classifier} (function : String) {dep : String}
    {world : World}
    [grows : ∀ resolver t env cache, Grows (resolution resolver t env cache)]
    (unresolved : Unresolved classifier resolution resolver env cache (.ref dep) world)
    (deps : List String) :
    After (resolver.resolveDependencies resolution cache function env deps) world
      (fun values _ => ∀ entry ∈ values, entry.1.sameKey (.ref dep) = true →
        classifier.isRef entry.2 = true) fun _ _ => True := by
  induction deps generalizing world with
  | nil => exact fun entry member => absurd member List.not_mem_nil
  | cons first rest ih =>
      have looks : Grows (lookupName resolution resolver env cache (.ref first)) := inferInstance
      have found : After (lookupName resolution resolver env cache (.ref first)) world
          (fun value _ => first = dep → classifier.isRef value = true) fun _ _ => True := by
        by_cases same : first = dep
        · subst same
          exact (unresolved world (.refl world)).mono (fun _ _ reference _ => reference)
            fun _ _ _ => trivial
        · exact (looks.after world).mono (fun _ _ _ again => absurd again same) fun _ _ _ => trivial
      refine after_bind.2 ((found.and (looks.after world)).mono ?_ fun _ _ _ => trivial)
      rintro value world' ⟨reference, grown⟩
      have checks : Grows (resolver.checkDependency function first env value) := inferInstance
      refine after_bind.2 ((checks.after world').mono ?_ fun _ _ _ => trivial)
      intro _ world'' more
      refine after_bind.2 ((ih (unresolved.grown (grown.trans more))).mono ?_ fun _ _ _ => trivial)
      intro values _ references
      refine after_pure.2 (List.forall_mem_cons.2 ⟨fun same => reference ?_, references⟩)
      simpa using same

/-- The last value that the second run found for a dependency is a reference. -/
structure Parted (p : Pairing) (cache : CacheId) (deps : List String) (failure : Failure)
    (values' : Entries) (world' : World) : Prop where
  own : cache = p.cache
  diverges : p.diverges
  refusal : failure.IsRefusal
  caught : p.caught ≤ world'.caught.length
  inside : p.cache < world'.caches.length
  found : ∃ dep ∈ deps, ∃ value', Entries.find? values'.reverse (.ref dep) = some value' ∧
    p.classifier.isRef value' = true

/-- How the resolutions of the dependencies of a function end in two runs. -/
inductive DependenciesEnd (p : Pairing) (cache : CacheId) (deps : List String) :
    EStateM.Result Failure World Entries → EStateM.Result Failure World Entries → Prop where
  | ends {result result' : EStateM.Result Failure World Entries}
      (ends : p.Ends p.AlikeEntries result result') : DependenciesEnd p cache deps result result'
  | parted {failure : Failure} {values' : Entries} {world world' : World}
      (parted : p.Parted cache deps failure values' world') :
      DependenciesEnd p cache deps (.error failure world) (.ok values' world')

/-- What comes before other dependencies does not change how they end. -/
theorem DependenciesEnd.cons {deps : List String} {run run' : Run Entries} {world world' : World}
    (rest : p.DependenciesEnd cache deps (run world) (run' world')) (dep : String) {value value' : Term}
    (values : p.Alike value value') :
    p.DependenciesEnd cache (dep :: deps)
      ((do return (Term.ref dep, value) :: (← run)) world)
      ((do return (Term.ref dep, value') :: (← run')) world') := by
  simp only [Bind.bind, EStateM.bind]
  generalize run world = result, run' world' = result' at rest
  cases rest with
  | ends ends =>
      refine .ends ?_
      cases ends with
      | ok each alike => exact .ok (.cons ⟨alike_text _ _, values⟩ each) alike
      | error failures alike => exact .error failures alike
      | refused diverges refusal caught => exact .refused diverges refusal caught
      | strayed diverges refusal strays => exact .strayed diverges refusal strays
  | parted parted =>
      obtain ⟨other, member, last, found, reference⟩ := parted.found
      refine .parted { parted with found := ⟨other, List.mem_cons_of_mem _ member, last, ?_, reference⟩ }
      rw [List.reverse_cons, Entries.find?_append, found]
      rfl

/-- Dependencies end after what goes in lockstep as they do after it. -/
theorem DependenciesEnd.bind {α α' : Type} {R : α → α' → Prop} {deps : List String} {run : Run α}
    {run' : Run α'} {next : α → Run Entries} {next' : α' → Run Entries} {world world' : World}
    (first : p.Ends R (run world) (run' world')) (grows : ∀ value, Grows (next' value))
    (then_ends : ∀ value value' done done', run' world' = .ok value' done' → R value value' →
      p.AlikeWorld done done' → p.DependenciesEnd cache deps (next value done) (next' value' done')) :
    p.DependenciesEnd cache deps ((run >>= next) world) ((run' >>= next') world') := by
  simp only [Bind.bind, EStateM.bind]
  generalize ended' : run' world' = result' at first
  generalize run world = result at first
  cases first with
  | ok rel alike => exact then_ends _ _ _ _ ended' rel alike
  | error failures alike => exact .ends (.error failures alike)
  | refused diverges refusal caught => exact .ends (.refused diverges refusal caught)
  | @strayed _ value' _ done diverges refusal strays =>
      have left := strays.after (grows value')
      unfold After at left
      dsimp only
      generalize next' value' done = result at left
      cases result with
      | ok value'' world'' => exact .ends (.strayed diverges refusal left)
      | error failure'' world'' => exact .ends (.refused diverges refusal left)

/-- The two runs part where only the first one refuses a dependency. -/
theorem Differs.parted [below : ∀ resolver t env cache, Grows (resolution resolver t env cache)]
    {function dep : String} {value value' : Term}
    (differs : p.Differs cache resolver' value'
      (resolver.checkDependency function dep env value)) (rest : List String)
    {next : Unit → Run Entries} {world world' : World}
    (caught : p.caught ≤ world'.caught.length) (inside : p.cache < world'.caches.length)
    (unresolved : Unresolved p.classifier resolution resolver' env' cache (.ref dep) world') :
    p.DependenciesEnd cache (dep :: rest)
      ((resolver.checkDependency function dep env value >>= next) world)
      ((resolver'.checkDependency function dep env' value' >>= fun _ => do
        return (Term.ref dep, value') ::
          (← resolver'.resolveDependencies resolution cache function env' rest)) world') := by
  obtain ⟨failure, refusal, refused⟩ := differs.refuses world
  have grows : Grows (resolver'.resolveDependencies resolution cache function env' rest) :=
    inferInstance
  have later := (dependencies_unresolved function unresolved rest).and
    (grows.after world')
  have unchecked : resolver'.checkDependency function dep env' value' = pure () := by
    unfold Resolver.checkDependency
    rw [differs.unchecked]
    rfl
  rw [unchecked]
  unfold After at later
  simp only [Bind.bind, EStateM.bind, refused, Pure.pure, EStateM.pure]
  generalize resolver'.resolveDependencies resolution cache function env' rest world' = result
    at later
  cases result with
  | error failure' world'' =>
      exact .ends (.refused differs.diverges refusal (Nat.le_trans caught later.2.caught))
  | ok values'' world'' =>
      obtain ⟨references, grown⟩ := later
      have stays := Nat.le_trans caught grown.caught
      have there := Nat.lt_of_lt_of_le inside grown.length
      refine .parted ⟨differs.own, differs.diverges, refusal, stays, there, dep, List.mem_cons_self, ?_⟩
      rw [List.reverse_cons, Entries.find?_append]
      cases found : Entries.find? values''.reverse (.ref dep) with
      | some last =>
          obtain ⟨key, member, same⟩ := Entries.mem_of_find? found
          exact ⟨last, rfl, references _ (List.mem_reverse.1 member) same⟩
      | none => exact ⟨value', by simp [Entries.find?_cons], differs.reference⟩

/-- What follows the resolution of dependencies ends as it does where the runs have not parted. -/
theorem DependenciesEnd.andThen {β β' : Type} {S : β → β' → Prop} {deps : List String}
    {run run' : Run Entries} {world world' : World}
    (ends : p.DependenciesEnd cache deps (run world) (run' world')) {next : Entries → Run β}
    {next' : Entries → Run β'} (grows : ∀ values, Grows (next' values))
    (then_lockstep : ∀ values values', p.AlikeEntries values values' →
      p.Lockstep S (next values) (next' values'))
    (astray : ∀ failure values' done, p.Parted cache deps failure values' done →
      After (next' values') done (fun _ => p.Strays) fun _ done' => p.caught ≤ done'.caught.length) :
    p.Ends S ((run >>= next) world) ((run' >>= next') world') := by
  generalize ended : run world = result, ended' : run' world' = result' at ends
  cases ends with
  | ends ends =>
      rw [← ended, ← ended'] at ends
      exact ends.bind (fun value _ strays => strays.after (grows value))
        fun values values' _ _ each => then_lockstep values values' each _ _
  | @parted failure values' _ done parted =>
      have left := astray failure values' done parted
      unfold After at left
      simp only [Bind.bind, EStateM.bind, ended, ended']
      generalize next' values' done = result at left
      cases result with
      | ok value done' => exact .strayed parted.diverges parted.refusal left
      | error failure' done' => exact .refused parted.diverges parted.refusal left

namespace Resolves

variable [below : ∀ resolver t env cache, Grows (resolution resolver t env cache)]

theorem resolveDependencies (resolves : p.Resolves resolution)
    (viewed : p.Viewed cache resolver resolver' env env') (function : String) (deps : List String)
    {world world' : World} (begins : p.AlikeWorld world world') :
    p.DependenciesEnd cache deps
      (resolver.resolveDependencies resolution cache function env deps world)
      (resolver'.resolveDependencies resolution cache function env' deps world') := by
  induction deps generalizing world world' with
  | nil => exact .ends (.ok .nil begins)
  | cons dep rest ih =>
      have looked := resolves.lookupName viewed (alike_text .ref dep) world world' begins
      refine .bind looked inferInstance fun value value' done done' ended values worlds => ?_
      rcases checkDependency_cases viewed.paired function dep viewed.envs values with
        checks | differs
      · refine .bind (checks done done' worlds) inferInstance fun _ _ _ _ _ _ worlds => ?_
        exact (ih worlds).cons dep values
      · have inside : cache < world'.caches.length := differs.own ▸ begins.inside'
        have unresolved := (lookupName_unresolved p.classifier inside).of_ok ended
        exact differs.parted rest worlds.caught worlds.inside' (unresolved differs.reference)

end Resolves

end Pairing

end ScopedTemplate
