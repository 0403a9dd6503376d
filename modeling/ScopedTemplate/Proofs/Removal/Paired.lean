import ScopedTemplate.Proofs.Cache.Related
import ScopedTemplate.Proofs.Lockstep.Environment
import ScopedTemplate.Proofs.Removal.Pruned
import ScopedTemplate.Proofs.Run.After

/-!
# Runs with and without removal

Two runs that differ in whether empty collections are removed go side by side: they look up the same
names under the same environments, so that they hit, miss and fail together, and whatever the one
holds is what the other one holds after pruning.
-/

namespace ScopedTemplate

open Run

/-- A resolver that removes empty collections, or keeps them. -/
def Resolver.removing (resolver : Resolver Term) (removes : Bool) : Resolver Term :=
  { resolver with config := { resolver.config with removeEmpty := removes } }

/-- A resolver, and the tables of its runs without and with removal. -/
structure Trimming where
  resolver : Resolver Term
  whole : CacheId
  trimmed : CacheId

namespace Trimming

variable (p : Trimming)

abbrev Values : Term → Term → Prop := Term.Trims p.resolver.classifier

/-- Two tables are in the same state, with values that are trimmed. -/
structure Tables (table table' : Cache) : Prop where
  values : Cache.Related p.Values table table'
  pending : table.pending = table'.pending
  closed : table.closed = table'.closed
  standIn : table.standIn = table'.standIn

/-- The tables of two worlds are so. -/
structure Worlds (world world' : World) : Prop where
  inside : p.whole < world.caches.length
  inside' : p.trimmed < world'.caches.length
  tables : p.Tables (world.cache p.whole) (world'.cache p.trimmed)

/-- Two runs end with related values, or with the same failure. -/
inductive Ends {α β : Type} (R : α → β → Prop) :
    EStateM.Result Failure World α → EStateM.Result Failure World β → Prop where
  | ok {value : α} {value' : β} {world world' : World} (related : R value value')
      (worlds : p.Worlds world world') : Ends R (.ok value world) (.ok value' world')
  | error {failure : Failure} {world world' : World} (worlds : p.Worlds world world') :
      Ends R (.error failure world) (.error failure world')

/-- Two runs that begin side by side end so. -/
def Runs {α β : Type} (R : α → β → Prop) (run : Run α) (run' : Run β) : Prop :=
  ∀ world world', p.Worlds world world' → p.Ends R (run world) (run' world')

variable {p} {α α' β β' : Type} {R : α → α' → Prop} {S : β → β' → Prop}

namespace Runs

theorem pure {value : α} {value' : α'} (related : R value value') :
    p.Runs R (pure value) (pure value') :=
  fun _ _ worlds => .ok related worlds

theorem fail (failure : Failure) :
    p.Runs R (throw failure : Run α) (throw failure : Run α') :=
  fun _ _ worlds => .error worlds

theorem bind {run : Run α} {run' : Run α'} (first : p.Runs R run run') {next : α → Run β}
    {next' : α' → Run β'} (later : ∀ value value', R value value' →
      p.Runs S (next value) (next' value')) : p.Runs S (run >>= next) (run' >>= next') := by
  intro world world' worlds
  have ends := first world world' worlds
  simp only [Bind.bind, EStateM.bind]
  generalize run world = result, run' world' = result' at ends
  cases ends with
  | ok related worlds => exact later _ _ related _ _ worlds
  | error worlds => exact .error worlds

theorem log (level level' : Level) (message message' : String) :
    p.Runs (fun _ _ => True) (log level message) (log level' message') :=
  fun _ _ worlds => .ok trivial { worlds with }

theorem collectionStamp (size size' : Nat) :
    p.Runs (fun _ _ => True) (collectionStamp size) (collectionStamp size') := by
  intro world world' worlds
  unfold Run.collectionStamp
  split <;> split <;> exact .ok trivial { worlds with }

theorem snapshot (env : Environment Term) : p.Runs Eq (snapshot env) (snapshot env) := by
  unfold Run.snapshot
  split
  · exact pure rfl
  · exact fail _

theorem detach {value value' : Term} (values : p.Values value value') :
    p.Runs p.Values (detach value) (detach value') :=
  fun _ _ worlds => .ok (values.detach _ _) { worlds with }

end Runs

/-! ## Tables -/

namespace Runs

/-- What two runs do with their tables may depend on what these have in common. -/
theorem table {next : Cache → Run α} {next' : Cache → Run α'}
    (later : ∀ table table', p.Tables table table' → p.Runs R (next table) (next' table')) :
    p.Runs R (cache p.whole >>= next) (cache p.trimmed >>= next') :=
  fun _ _ worlds => later _ _ worlds.tables _ _ worlds

theorem changeCache {change change' : Cache → Cache}
    (keeps : ∀ {table table'}, p.Tables table table' → p.Tables (change table) (change' table')) :
    p.Runs (fun _ _ => True) (changeCache p.whole change) (changeCache p.trimmed change') := by
  intro world world' worlds
  refine .ok trivial ⟨?_, ?_, ?_⟩
  · exact (world.length_change p.whole change).symm ▸ worlds.inside
  · exact (world'.length_change p.trimmed change').symm ▸ worlds.inside'
  · have changed := world.cache_change worlds.inside change
    have changed' := world'.cache_change worlds.inside' change'
    unfold World.change at changed changed'
    rw [changed, changed']
    exact keeps worlds.tables

theorem checkTable {table table' : Cache} (tables : p.Tables table table') (field : String) :
    p.Runs (fun _ _ => True) (checkTable table field) (checkTable table' field) := by
  unfold Run.checkTable
  rw [tables.standIn]
  split
  · exact fail _
  · exact pure trivial

theorem chain : p.Runs Eq (chain p.whole) (chain p.trimmed) := by
  refine table fun table table' tables => (checkTable tables "chain").bind fun _ _ _ => pure ?_
  unfold Cache.chain
  rw [tables.pending]

/-- A note changes nothing that the tables have in common. -/
theorem record (event event' : Event) :
    p.Runs (fun _ _ => True) (record p.whole event) (record p.trimmed event') :=
  changeCache fun tables => { tables with }

/-- A name leaves the flight, whether its value was found or not. -/
theorem leave {run run' : Run Term} (runs : p.Runs p.Values run run') :
    p.Runs p.Values (andThen run (Run.changeCache p.whole Cache.leave))
      (andThen run' (Run.changeCache p.trimmed Cache.leave)) := by
  have leaves : p.Runs (fun _ _ => True) (Run.changeCache p.whole Cache.leave)
      (Run.changeCache p.trimmed Cache.leave) :=
    changeCache fun tables => { tables with pending := congrArg List.dropLast tables.pending }
  intro world world' worlds
  have ends := runs world world' worlds
  unfold Run.andThen
  generalize run world = result, run' world' = result' at ends
  cases ends with
  | ok values worlds =>
      have left := leaves _ _ worlds
      cases left with
      | ok _ worlds => exact .ok values worlds
  | error worlds =>
      have left := leaves _ _ worlds
      cases left with
      | ok _ worlds => exact .error worlds

/-- The value of a name is computed with the name in flight, and stored. -/
theorem enter (key : CacheKey) (env : Environment Term) {run run' : Run Term}
    (runs : p.Runs p.Values run run') :
    p.Runs p.Values
      (do
        Run.changeCache p.whole (Cache.enter · key env)
        let value ← andThen run (Run.changeCache p.whole Cache.leave)
        let stored ← Run.detach value
        Run.changeCache p.whole (Cache.put · key stored)
        return value)
      (do
        Run.changeCache p.trimmed (Cache.enter · key env)
        let value ← andThen run' (Run.changeCache p.trimmed Cache.leave)
        let stored ← Run.detach value
        Run.changeCache p.trimmed (Cache.put · key stored)
        return value) := by
  refine Runs.bind (changeCache fun tables => ?_) fun _ _ _ => ?_
  · exact { tables with pending := congrArg (· ++ [key]) tables.pending }
  refine (leave runs).bind fun value value' values => (detach values).bind fun _ _ copies => ?_
  refine Runs.bind (changeCache fun tables => ?_) fun _ _ _ => pure values
  exact { tables with values := tables.values.put key copies }

/-- A name is served, refused or computed in both runs. -/
theorem memoize (name : Term) (env : Environment Term) (detectCycles : Bool) (limit : Option Int)
    {run run' : Run Term} (runs : p.Runs p.Values run run') :
    p.Runs p.Values (memoize p.whole name env detectCycles limit run)
      (memoize p.trimmed name env detectCycles limit run') := by
  unfold Run.memoize
  refine table fun table table' tables => (checkTable tables _).bind fun _ _ _ => ?_
  have chains : table.chain = table'.chain := congrArg (List.map CacheKey.name) tables.pending
  have chainsFrom : ∀ key, table.chainFrom key = table'.chainFrom key := by
    intro key
    unfold Cache.chainFrom
    rw [tables.pending]
  rw [tables.closed]
  split
  · exact fail _
  · dsimp only
    rcases (tables.values.find? (CacheKey.of name env)).cases_eq with
      ⟨missing, missing'⟩ | ⟨value, value', found, found', same⟩
    · rw [missing, missing']
      dsimp only
      rw [tables.pending, chains, chainsFrom]
      split
      · exact (record _ _).bind fun _ _ _ => fail _
      · split
        · exact (record _ _).bind fun _ _ _ => fail _
        · exact (log _ _ _ _).bind fun _ _ _ => enter _ env runs
    · rw [found, found']
      dsimp only
      have hits : p.Runs (fun _ _ => True)
          (Run.changeCache p.whole (Cache.hit · (CacheKey.of name env) env))
          (Run.changeCache p.trimmed (Cache.hit · (CacheKey.of name env) env)) :=
        changeCache fun tables => { tables with }
      exact hits.bind fun _ _ _ => (log _ _ _ _).bind fun _ _ _ => detach same

/-- Nesting without end is reported in both runs. -/
theorem reportEndless {ceiling : Int} {run run' : Run Term} (runs : p.Runs p.Values run run') :
    p.Runs p.Values (reportEndless ceiling p.whole run) (reportEndless ceiling p.trimmed run') := by
  intro world world' worlds
  have ends := runs world world' worlds
  unfold Run.reportEndless Run.recover
  generalize run world = result, run' world' = result' at ends
  cases ends with
  | ok values worlds => exact .ok values worlds
  | @error failure _ _ worlds =>
      dsimp only
      split
      · next _ handled =>
          split at handled
          · next exhausted =>
              cases handled
              rw [if_pos exhausted]
              refine Runs.bind chain (fun names names' same => ?_) _ _ worlds
              subst same
              exact fail _
          · cases handled
      · next handled =>
          split at handled
          · cases handled
          · next differs =>
              rw [if_neg differs]
              exact .error worlds

end Runs

end Trimming

end ScopedTemplate
