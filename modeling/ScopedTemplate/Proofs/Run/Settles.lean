import ScopedTemplate.Proofs.Run.Memo

/-!
# Runs that settle

A bound on the levels of nesting makes a resolution a run.  Runs for all bounds settle if from some
bound on they are the same and do not exhaust the levels; what they compute ends without a bound.
-/

namespace ScopedTemplate.Run

variable {α β : Type} {world : World} {failed : Failure → World → Prop}

/-- Some number of levels is enough: with more of them a run ends as it does with these. -/
def Settles (runs : Nat → Run α) (world : World) (ok : α → World → Prop)
    (failed : Failure → World → Prop) : Prop :=
  ∃ least, After (runs least) world ok (fun failure world' =>
      failed failure world' ∧ failure ≠ .exhausted) ∧
    ∀ levels, least ≤ levels → runs levels world = runs least world

namespace Settles

/-- A run that has no use for levels settles unless it exhausts them all the same. -/
theorem const {run : Run α} {ok : α → World → Prop} (ends : After run world ok
    fun failure world' => failed failure world' ∧ failure ≠ .exhausted) :
    Settles (fun _ => run) world ok failed :=
  ⟨0, ends, fun _ _ => rfl⟩

theorem mono {runs : Nat → Run α} {ok ok' : α → World → Prop} {failed' : Failure → World → Prop}
    (settles : Settles runs world ok failed) (imp : ∀ value world, ok value world → ok' value world)
    (failed_imp : ∀ failure world, failed failure world → failed' failure world) :
    Settles runs world ok' failed' := by
  obtain ⟨least, ends, stable⟩ := settles
  refine ⟨least, ends.mono imp ?_, stable⟩
  rintro failure world' ⟨holds, differs⟩
  exact ⟨failed_imp failure world' holds, differs⟩

/-- Runs that need one level more settle, too. -/
theorem succ {runs : Nat → Run α} {ok : α → World → Prop}
    (settles : Settles (fun levels => runs (levels + 1)) world ok failed) :
    Settles runs world ok failed := by
  obtain ⟨least, ends, stable⟩ := settles
  refine ⟨least + 1, ends, fun levels enough => ?_⟩
  obtain ⟨more, rfl⟩ : ∃ more, levels = more + 1 := ⟨levels - 1, by omega⟩
  exact stable more (by omega)

theorem bind {first : Nat → Run α} {next : Nat → α → Run β} {ok : β → World → Prop}
    (settles : Settles first world
      (fun value world' => Settles (fun levels => next levels value) world' ok failed) failed) :
    Settles (fun levels => first levels >>= next levels) world ok failed := by
  obtain ⟨least, ends, stable⟩ := settles
  cases ran : first least world with
  | error failure world' =>
      refine ⟨least, after_bind.2 ?_, fun levels enough => ?_⟩
      · unfold After
        rw [ran]
        exact ends.of_error ran
      · simp only [Bind.bind, EStateM.bind, stable levels enough, ran]
  | ok value world' =>
      obtain ⟨least', ends', stable'⟩ := ends.of_ok ran
      dsimp only at stable'
      refine ⟨max least least', after_bind.2 ?_, fun levels enough => ?_⟩
      · unfold After at ends' ⊢
        rw [stable _ (Nat.le_max_left _ _), ran]
        dsimp only
        rw [stable' _ (Nat.le_max_right _ _)]
        exact ends'
      · have first_same := stable levels (by omega)
        have next_same := stable' levels (by omega)
        simp only [Bind.bind, EStateM.bind, first_same, next_same, ran,
          stable _ (Nat.le_max_left least least'), stable' _ (Nat.le_max_right least least')]

/-- What is run at the end does not depend on levels. -/
theorem andThen {first : Nat → Run Term} {last : Run Unit} {ok : Term → World → Prop}
    (settles : Settles first world
      (fun value world' => After last world' (fun _ => ok value)
        fun failure world'' => failed failure world'' ∧ failure ≠ .exhausted)
      fun failure world' => After last world' (fun _ => failed failure)
        fun failure world'' => failed failure world'' ∧ failure ≠ .exhausted) :
    Settles (fun levels => andThen (first levels) last) world ok failed := by
  obtain ⟨least, ends, stable⟩ := settles
  refine ⟨least, after_andThen.2 (ends.mono (fun _ _ ends => ends) ?_), fun levels enough => ?_⟩
  · rintro failure world' ⟨ends, differs⟩
    exact ends.mono (fun _ _ holds => ⟨holds, differs⟩) fun _ _ failed => failed
  · unfold Run.andThen
    dsimp only
    rw [stable levels enough]

/-- A handler does not depend on levels. -/
theorem recover {runs : Nat → Run Term} {handler : Failure → Option (Run Term)}
    {ok : Term → World → Prop}
    (settles : Settles runs world ok fun failure world' =>
      match handler failure with
      | some next => After next world' ok fun failure world'' =>
          failed failure world'' ∧ failure ≠ .exhausted
      | none => failed failure world') :
    Settles (fun levels => recover (runs levels) handler) world ok failed := by
  obtain ⟨least, ends, stable⟩ := settles
  refine ⟨least, after_recover.2 (ends.mono (fun _ _ ends => ends) ?_), fun levels enough => ?_⟩
  · rintro failure world' ⟨handled, differs⟩
    cases found : handler failure with
    | some next => simpa only [found] using handled
    | none =>
        rw [found] at handled
        exact ⟨handled, differs⟩
  · unfold Run.recover
    dsimp only
    rw [stable levels enough]

/-- A computation that is memoized settles if it does, unless it is refused or served. -/
theorem memoize {id : CacheId} {name : Term} {env : Environment Term} {detectCycles : Bool}
    {limit : Option Int} {compute : Nat → Run Term} {ok : Term → World → Prop}
    {left : World → Prop}
    (ok_same : ∀ value world world', World.SameTables world world' →
      ok value world → ok value world')
    (unusable : left world)
    (refused : left (world.change id (Cache.record · (.refused (CacheKey.of name env) env))))
    (served : ∀ value, (world.cache id).find? (CacheKey.of name env) = some value → ∀ next,
      ok (value.detach next).1 (world.change id (Cache.hit · (CacheKey.of name env) env)))
    (computed : (world.cache id).Begins (CacheKey.of name env) detectCycles limit → ∀ entered,
      World.SameTables (world.change id (Cache.enter · (CacheKey.of name env) env)) entered →
        Settles compute entered
          (fun value done => ∀ next, ok value ((done.change id Cache.leave).change id
            (Cache.put · (CacheKey.of name env) (value.detach next).1)))
          (fun _ done => left (done.change id Cache.leave))) :
    Settles (fun levels => memoize id name env detectCycles limit (compute levels)) world ok
      fun _ => left := by
  unfold Run.memoize
  refine bind (const (after_cache.2 ?_))
  unfold Run.checkTable
  cases standIn : (world.cache id).standIn with
  | some owner => exact const (after_throw.2 ⟨unusable, by simp⟩)
  | none =>
      refine bind (const (after_pure.2 ?_))
      split
      · exact const (after_throw.2 ⟨unusable, by simp⟩)
      · next isOpen =>
          cases found : (world.cache id).find? (CacheKey.of name env) with
          | some value =>
              simp only [found]
              refine const (after_bind.2 (after_changeCache.2 (after_bind.2 ?_)))
              exact ok_same _ (world.change id (Cache.hit · (CacheKey.of name env) env)) _
                ⟨rfl, rfl, rfl⟩ (served value found world.nextStamp)
          | none =>
              simp only [found]
              split
              · exact const (after_bind.2 (after_changeCache.2 ⟨refused, by simp⟩))
              · next notAgain =>
                  split
                  · exact const (after_bind.2 (after_changeCache.2 ⟨refused, by simp⟩))
                  · next shallow =>
                      have begins := Cache.begins_of_checks isOpen standIn found notAgain shallow
                      refine bind (const (after_modify.2 (bind (const (after_changeCache.2 ?_)))))
                      refine bind (andThen ((computed begins _ ?_).mono ?_ ?_))
                      · exact ⟨rfl, rfl, rfl⟩
                      · intro value done stores
                        refine after_changeCache.2 (const (after_bind.2 ?_))
                        exact ok_same _ ((done.change id Cache.leave).change id _) _
                          ⟨rfl, rfl, rfl⟩ (stores done.nextStamp)
                      · exact fun failure done left => after_changeCache.2 left

end Settles

end ScopedTemplate.Run
