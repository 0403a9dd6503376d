import ScopedTemplate.Proofs.Evaluation.Reduction
import ScopedTemplate.Proofs.Resolver.Fresh

/-!
# Outcomes of resolutions

A resolution that ends with a value ends with the value of its template, and one that fails without
meeting a limit is about a template without a value.  This holds with a table that other resolutions
of the domain left sane, and with a fresh one.
-/

namespace ScopedTemplate

variable {ceiling : Int}

open Run

namespace Domain

variable {domain : Domain} {cache : CacheId} {env : Environment Term} {stage : domain.Stage}
  {flight : Flight} {template : Term}

/-- Nesting without end is a limit, and so is the failure that reports it. -/
theorem Computes.reportEndless (lawful : domain.Lawful) {body : Run Term}
    {safe : domain.Stage → Term → Prop} {right : Term → Prop} {wrong : Failure → Prop}
    (limit : ∀ failure, failure.isLimit = true → wrong failure)
    (computes : domain.Computes cache stage flight body safe right wrong) :
    domain.Computes cache stage flight (reportEndless ceiling cache body) safe right wrong := by
  intro world sane
  refine after_recover.2 ((computes world sane).mono (fun _ _ ends => ends) ?_)
  rintro failure world' ⟨stage', onward, fails⟩
  cases failure.isExhaustion with
  | false => exact ⟨stage', onward, fails⟩
  | true =>
      have reports : domain.Computes cache stage' flight
          (do MonadExcept.throw (Failure.endless ceiling (← Run.chain cache)) : Run Term) safe right wrong :=
        (Computes.chain lawful).seq lawful fun _ _ _ _ => .throw lawful (limit _ rfl)
      refine (reports world' onward.sane).mono ?_ ?_
      · rintro value world'' ⟨stage'', onward', holds, valued⟩
        exact ⟨stage'', onward.trans lawful onward', holds, valued⟩
      · rintro failure' world'' ⟨stage'', onward', wrong⟩
        exact ⟨stage'', onward.trans lawful onward', wrong⟩

/-- The counts of a table in use can be reported. -/
theorem Computes.report (lawful : domain.Lawful) {next : Run Term}
    {safe : domain.Stage → Term → Prop} {right : Term → Prop} {wrong : Failure → Prop}
    (computes : ∀ stage', domain.Later stage stage' →
      domain.Computes cache stage' flight next safe right wrong) :
    domain.Computes cache stage flight (do
        let table ← Run.cache cache
        Run.checkTable table "hits"
        Run.log .debug ("Resolved template: " ++ toString table.hits ++ " cache hits, " ++
          toString table.misses ++ " misses")
        next) safe right wrong := by
  intro world sane
  refine after_bind.2 (after_cache.2 ?_)
  unfold Run.checkTable
  rw [sane.isTable]
  exact (Computes.log lawful _ _).seq lawful (fun stage' _ later _ => computes stage' later)
    world sane

/-- A resolution in a table ends as that of its template, with nesting without end as a limit. -/
theorem Computes.inTable (lawful : domain.Lawful) {levels : Nat} {right : Term → Prop}
    {wrong : Failure → Prop} (limit : ∀ failure, failure.isLimit = true → wrong failure)
    (computes : domain.Computes cache stage flight
      (resolveTerm ceiling levels domain.meaning.resolver template env cache) domain.Holds right wrong) :
    domain.Computes cache stage flight
      (resolveIn (resolveTerm ceiling levels) domain.meaning.resolver template env cache) domain.Holds
      right wrong := by
  refine Computes.reportEndless lawful limit ?_
  refine Computes.bind lawful computes fun stage' value later valued => ?_
  refine Computes.report lawful fun stage'' later' => ?_
  exact .pure lawful (lawful.holds_later later' valued) fun named => named

theorem Lawful.resolveIn (lawful : domain.Lawful) (ceiling : Int) (levels : Nat)
    (holds : domain.Holds stage template) (admits : domain.admits stage env) :
    domain.Computes cache stage flight
      (resolveIn (resolveTerm ceiling levels) domain.meaning.resolver template env cache) domain.Holds
      (domain.Valued env template) (domain.Fails flight env template) :=
  Computes.inTable lawful (fun _ limit _ _ _ _ => limit) (lawful.refines levels holds admits)

/-- A new table is sane. -/
theorem Sane.new {world : World} (inside : cache < world.caches.length)
    (new : world.cache cache = .empty) (reached : domain.reached stage world.nextStamp) :
    domain.Sane cache stage [] world := by
  refine ⟨inside, ?_, ?_, reached, ?_, ?_, ?_, ?_, ?_⟩
  all_goals rw [new]
  · rfl
  · rfl
  · rfl
  · exact fun entry member => absurd member List.not_mem_nil
  · rintro env' ⟨event, member, _⟩
    exact absurd member List.not_mem_nil
  · exact fun entry member => absurd member List.not_mem_nil
  · exact fun _ entry member => absurd member List.not_mem_nil

/-- A table that is closed keeps its events. -/
theorem after_closeCache_events {world : World} (inside : cache < world.caches.length)
    {failed : Failure → World → Prop} :
    After (closeCache cache) world
      (fun _ world' => (world'.cache cache).events = (world.cache cache).events) failed := by
  refine after_closeCache fun noted same _ => ?_
  rw [noted.cache_change (same.caches ▸ inside), same.cache_eq]
  rfl

/-- What holds of the outcome of a resolution that begins with a new table. -/
theorem Computes.fromStart {levels : Nat} {right : Term → Prop} {wrong : Failure → Prop}
    {given : Option CacheId} {world : World} (new : ∀ id, (given <|> world.active) = some id →
      id < world.caches.length ∧ world.cache id = .empty)
    (reached : domain.reached stage world.nextStamp)
    (computes : ∀ cache, domain.Computes cache stage []
      (resolveIn (resolveTerm ceiling levels) domain.meaning.resolver template env cache) domain.Holds
      right wrong) :
    After (resolveLeniently (resolveTerm ceiling levels) domain.meaning.resolver template env given) world
      (fun value world' => (∃ stage, domain.Holds stage value) ∧
        (domain.trusts (world'.cache (world.tableFor given)).events → right value))
      fun failure world' => domain.trusts (world'.cache (world.tableFor given)).events →
        wrong failure := by
  refine after_bind.2 (after_get.2 ?_)
  cases given_or : given <|> world.active with
  | some id =>
      obtain ⟨inside, new⟩ := new id given_or
      have same : world.tableFor given = id := by
        rw [World.tableFor, given_or]
        rfl
      rw [same]
      refine (computes id world (.new inside new reached)).mono ?_ ?_
      · rintro value world' ⟨stage', _, valued, named⟩
        exact ⟨⟨stage', valued⟩, named⟩
      · rintro failure world' ⟨_, _, fails⟩
        exact fails
  | none =>
      have same : world.tableFor given = world.caches.length := by
        rw [World.tableFor, given_or]
        rfl
      rw [same]
      have sane : domain.Sane world.caches.length stage []
          { world with caches := world.caches ++ [.empty] } := by
        refine .new ?_ ?_ reached
        · rw [List.length_append]
          exact Nat.lt_succ_self _
        · simp [World.cache]
      refine after_bind.2 (after_andThen.2 ?_)
      refine (computes _ _ sane).mono ?_ ?_
      · rintro value world' ⟨stage', onward, valued, named⟩
        refine (after_closeCache_events onward.sane.inside).mono ?_ fun _ _ ends => ends
        intro _ world'' events
        rw [events]
        exact ⟨⟨stage', valued⟩, named⟩
      · rintro failure world' ⟨stage', onward, fails⟩
        refine (after_closeCache_events onward.sane.inside).mono ?_ fun _ _ ends => ends
        intro _ world'' events
        rw [events]
        exact fails

theorem Lawful.resolveLeniently (lawful : domain.Lawful) (ceiling : Int) (levels : Nat) {given : Option CacheId}
    {world : World} (new : ∀ id, (given <|> world.active) = some id →
      id < world.caches.length ∧ world.cache id = .empty)
    (reached : domain.reached stage world.nextStamp) (holds : domain.Holds stage template)
    (admits : domain.admits stage env) :
    After (resolveLeniently (resolveTerm ceiling levels) domain.meaning.resolver template env given) world
      (fun value world' => (∃ stage, domain.Holds stage value) ∧
        (domain.trusts (world'.cache (world.tableFor given)).events →
          domain.Valued env template value))
      fun failure world' => domain.trusts (world'.cache (world.tableFor given)).events →
        domain.Fails [] env template failure :=
  Computes.fromStart new reached fun _ => lawful.resolveIn ceiling levels holds admits

end Domain

end ScopedTemplate
