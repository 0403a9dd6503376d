import ScopedTemplate.Proofs.Run.Memo
import ScopedTemplate.Proofs.Term.Outline

/-!
# How a memoized computation ends

With a table that is open a name is served, refused, or computed with the name in flight, and then stored
unless that failed.
-/

namespace ScopedTemplate

/-- How a table refuses a key: as in flight, or as too deep. -/
def Cache.refusal (table : Cache) (key : CacheKey) (detectCycles : Bool) (limit : Option Int) : Failure :=
  if detectCycles && table.pending.contains key then .cyclic key.name (table.chainFrom key) none
  else .cyclic key.name table.chain limit

namespace Run

theorem cache_run (id : CacheId) (world : World) : Run.cache id world = .ok (world.cache id) world := rfl

theorem checkTable_run {table : Cache} (isTable : table.standIn = none) (field : String)
    (world : World) : checkTable table field world = .ok () world := by
  unfold checkTable
  rw [isTable]
  rfl

theorem chain_run {id : CacheId} {world : World} (isTable : (world.cache id).standIn = none) :
    chain id world = .ok (world.cache id).chain world := by
  show (checkTable (world.cache id) "chain" >>= fun _ => pure (world.cache id).chain) world = _
  simp only [bind, EStateM.bind, checkTable_run isTable]
  rfl

/-- The ends of a memoized computation. -/
inductive Memoized (id : CacheId) (key : CacheKey) (env : Environment Term) (detectCycles : Bool)
    (limit : Option Int) (compute : Run Term) (world : World) :
    EStateM.Result Failure World Term → Prop where
  | served {value copy : Term} {done : World} (found : (world.cache id).find? key = some value)
      (same : copy.outline false = value.outline false)
      (kept : World.SameTables (world.change id (Cache.hit · key env)) done) :
      Memoized id key env detectCycles limit compute world (.ok copy done)
  | refused (missing : (world.cache id).find? key = none)
      (refuses : (world.cache id).Refuses key detectCycles limit
        ((world.cache id).refusal key detectCycles limit)) :
      Memoized id key env detectCycles limit compute world
        (.error ((world.cache id).refusal key detectCycles limit) (world.change id (Cache.record · (.refused key env))))
  | computed {entered after done : World} {value copy : Term}
      (begins : (world.cache id).Begins key detectCycles limit)
      (enters : World.SameTables (world.change id (Cache.enter · key env)) entered)
      (ran : compute entered = .ok value after)
      (same : copy.outline false = value.outline false)
      (kept : World.SameTables ((after.change id Cache.leave).change id (Cache.put · key copy)) done) :
      Memoized id key env detectCycles limit compute world (.ok value done)
  | failed {entered after : World} {failure : Failure}
      (begins : (world.cache id).Begins key detectCycles limit)
      (enters : World.SameTables (world.change id (Cache.enter · key env)) entered)
      (ran : compute entered = .error failure after) :
      Memoized id key env detectCycles limit compute world
        (.error failure (after.change id Cache.leave))

variable {id : CacheId} {name : Term} {env : Environment Term} {detectCycles : Bool}
  {limit : Option Int} {compute : Run Term} {world : World}

theorem memoize_ends (isOpen : (world.cache id).closed = false)
    (isTable : (world.cache id).standIn = none) :
    Memoized id (CacheKey.of name env) env detectCycles limit compute world
      (memoize id name env detectCycles limit compute world) := by
  have ends : After (memoize id name env detectCycles limit compute) world
      (fun value done => Memoized id (CacheKey.of name env) env detectCycles limit compute world
        (.ok value done))
      (fun failure done => Memoized id (CacheKey.of name env) env detectCycles limit compute world
        (.error failure done)) := by
    unfold memoize checkTable
    refine after_bind.2 (after_cache.2 ?_)
    rw [isTable, isOpen]
    refine after_bind.2 (after_pure.2 ?_)
    rw [if_neg Bool.false_ne_true]
    cases found : (world.cache id).find? (CacheKey.of name env) with
    | some value =>
        simp only [found]
        refine after_bind.2 (after_changeCache.2 (after_bind.2 ?_))
        exact .served found (Term.outline_detach _ _) ⟨rfl, rfl, rfl⟩
    | none =>
        simp only [found]
        split
        · next again =>
            refine after_bind.2 (after_changeCache.2 (after_throw.2 ?_))
            have refusal : (world.cache id).refusal (CacheKey.of name env) detectCycles limit =
                .cyclic (CacheKey.of name env).name
                  ((world.cache id).chainFrom (CacheKey.of name env)) none := if_pos again
            rw [Bool.and_eq_true, List.contains_iff_mem] at again
            rw [← refusal]
            refine .refused found ?_
            rw [refusal]
            exact .inFlight again.1 again.2
        · next notAgain =>
            split
            · next deep =>
                obtain ⟨bound, limited, reached⟩ := (Option.any_eq_true _ _).1 deep
                subst limited
                refine after_bind.2 (after_changeCache.2 (after_throw.2 ?_))
                have refusal : (world.cache id).refusal (CacheKey.of name env) detectCycles
                    (some bound) = .cyclic (CacheKey.of name env).name (world.cache id).chain
                      (some bound) := if_neg notAgain
                rw [← refusal]
                refine .refused found ?_
                rw [refusal]
                exact .tooDeep rfl (of_decide_eq_true reached)
            · next shallow =>
                have begins := Cache.begins_of_checks (by rw [isOpen]; exact Bool.false_ne_true)
                  isTable found notAgain shallow
                refine after_bind.2 (after_modify.2 (after_bind.2 (after_changeCache.2 ?_)))
                refine after_bind.2 (after_andThen.2 ?_)
                unfold After
                cases ran : compute (World.change _ id _) with
                | ok value after =>
                    refine .computed begins ?_ ran (Term.outline_detach _ _) ⟨rfl, rfl, rfl⟩
                    exact ⟨rfl, rfl, rfl⟩
                | error failure after =>
                    refine .failed begins ?_ ran
                    exact ⟨rfl, rfl, rfl⟩
  unfold After at ends
  cases ended : memoize id name env detectCycles limit compute world with
  | ok value done =>
      rw [ended] at ends
      exact ends
  | error failure done =>
      rw [ended] at ends
      exact ends

end Run

end ScopedTemplate
