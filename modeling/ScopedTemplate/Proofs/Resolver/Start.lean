import ScopedTemplate.Proofs.Lockstep.Inputs

/-!
# Resolutions with a new table

What a resolution returns, or how it fails, is decided by a run with one empty table, whether this
was given, shared or made for it.
-/

namespace ScopedTemplate

namespace Run

variable {α β : Type}

/-- What a run ends with, without the world it leaves. -/
def outcome : EStateM.Result Failure World α → Except Failure α
  | .ok value _ => .ok value
  | .error failure _ => .error failure

def left : EStateM.Result Failure World α → World
  | .ok _ world => world
  | .error _ world => world

section

variable {P : World → Prop} {world : World}

theorem after_left {run : Run α} :
    After run world (fun _ => P) (fun _ => P) ↔ P (left (run world)) := by
  unfold After
  cases run world <;> rfl

variable (same : ∀ {world world'}, World.SameTables world world' → P world → P world')

include same

/-- What holds of the tables still holds after a run that leaves them alone. -/
theorem left_quiet {run : Run α} (quiet : Quiet run fun _ => True) (holds : P world) :
    P (left (run world)) :=
  after_left.1 ((quiet world).mono (fun _ _ ends => same ends.1 holds) fun _ _ ends => same ends holds)

theorem left_bind {first : Run α} {next : α → Run β} (holds : P (left (first world)))
    (quiet : ∀ value, Quiet (next value) fun _ => True) : P (left ((first >>= next) world)) := by
  simp only [Bind.bind, EStateM.bind]
  generalize first world = result at holds
  cases result with
  | ok value done => exact left_quiet same (quiet value) holds
  | error failure done => exact holds

theorem left_reportEndless {ceiling : Int} {id : CacheId} {body : Run Term} (holds : P (left (body world))) :
    P (left (reportEndless ceiling id body world)) := by
  unfold reportEndless recover
  generalize body world = result at holds
  cases result with
  | ok value done => exact holds
  | error failure done =>
      dsimp only
      cases failure.isExhaustion with
      | false => exact holds
      | true => exact left_quiet same ((Quiet.chain id).bind fun _ _ => .throw _) holds

/-- The counts of a table are reported when a resolution with it has ended. -/
theorem left_resolveIn {resolution : Resolution} {resolver : Resolver Term} {t : Term}
    {env : Environment Term} {id : CacheId}
    (holds : P (left (resolution resolver t env id world))) :
    P (left (resolveIn resolution resolver t env id world)) := by
  refine left_reportEndless same (left_bind same holds fun value => ?_)
  exact (Quiet.cache id).bind fun table _ => (Quiet.checkTable table "hits").bind fun _ _ =>
    (Quiet.log _ _).bind fun _ _ => .pure trivial

end

/-- What is done after a run, and never fails, does not change what it ends with. -/
theorem outcome_andThen {run : Run Term} {after : Run Unit} (world : World)
    (passes : ∀ world, ∃ done, after world = .ok () done) :
    outcome (andThen run after world) = outcome (run world) := by
  unfold Run.andThen
  cases run world with
  | ok value done =>
      obtain ⟨_, passed⟩ := passes done
      dsimp only
      rw [passed]
      rfl
  | error failure done =>
      obtain ⟨_, passed⟩ := passes done
      dsimp only
      rw [passed]
      rfl

theorem closeCache_passes (id : CacheId) (world : World) :
    ∃ done, closeCache id world = .ok () done := ⟨_, rfl⟩

end Run

/-- Two ends of runs: related values, or the same failure. -/
inductive Agree {α β : Type} (R : α → β → Prop) : Except Failure α → Except Failure β → Prop where
  | ok {value : α} {value' : β} (related : R value value') : Agree R (.ok value) (.ok value')
  | error (failure : Failure) : Agree R (.error failure) (.error failure)

theorem Agree.of_eq {α : Type} {ends ends' : Except Failure α} (same : ends = ends') :
    Agree Eq ends ends' := by
  subst same
  cases ends with
  | ok value => exact .ok rfl
  | error failure => exact .error failure

theorem Agree.eq {α : Type} {ends ends' : Except Failure α} (agree : Agree Eq ends ends') :
    ends = ends' := by
  cases agree with
  | ok same => rw [same]
  | error => rfl

/-- Runs that go on from ends that agree end so if what comes later does. -/
theorem Agree.bind {α α' β β' : Type} {R : α → α' → Prop} {S : β → β' → Prop} {run : Run α}
    {run' : Run α'} {next : α → Run β} {next' : α' → Run β'} {world world' : World}
    (first : Agree R (Run.outcome (run world)) (Run.outcome (run' world')))
    (later : ∀ value value', R value value' → ∀ done done',
      Agree S (Run.outcome (next value done)) (Run.outcome (next' value' done'))) :
    Agree S (Run.outcome ((run >>= next) world)) (Run.outcome ((run' >>= next') world')) := by
  simp only [Bind.bind, EStateM.bind]
  generalize run world = result, run' world' = result' at first
  cases result with
  | ok value done =>
      cases result' with
      | ok value' done' =>
          cases first with
          | ok related => exact later _ _ related _ _
      | error failure' done' => cases first
  | error failure done =>
      cases result' with
      | ok value' done' => cases first
      | error failure' done' =>
          cases first with
          | error => exact .error failure

/-- A table that nothing was done with, in some world. -/
structure World.IsNew (world : World) (id : CacheId) : Prop where
  inside : id < world.caches.length
  empty : world.cache id = .empty

open Run

/-- A resolution from the start is one with a table that is new. -/
theorem outcome_resolveLeniently {given : Option CacheId} {world : World}
    (new : ∀ id, (given <|> world.active) = some id →
      id < world.caches.length ∧ world.cache id = .empty) :
    ∃ id start, World.IsNew start id ∧ ∀ resolution resolver t env,
      outcome (resolveLeniently resolution resolver t env given world) =
        outcome (resolveIn resolution resolver t env id start) := by
  cases table : given <|> world.active with
  | some id =>
      obtain ⟨inside, empty⟩ := new id table
      refine ⟨id, world, ⟨inside, empty⟩, fun resolution resolver t env => ?_⟩
      rw [Pairing.resolveLeniently_given table]
  | none =>
      refine ⟨world.caches.length, { world with caches := world.caches ++ [.empty] },
        ⟨by simp, by simp [World.cache]⟩, fun resolution resolver t env => ?_⟩
      rw [Pairing.resolveLeniently_own table]
      exact outcome_andThen _ (closeCache_passes _)

end ScopedTemplate
