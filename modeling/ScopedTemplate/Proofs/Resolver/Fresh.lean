import ScopedTemplate.Proofs.Resolver.Custody

/-!
# Resolutions with a fresh table

A resolution works with the table it is given, else with the one that resolutions share, else with
one of its own that is closed when it ends.  A table is fresh if nothing is stored in it, no view
refers to it, and functions do not work with it under settings of another kind.
-/

namespace ScopedTemplate

open Run

def World.tableFor (world : World) (given : Option CacheId) : CacheId :=
  (given <|> world.active).getD world.caches.length

/-- A resolution that is given no table, and shares none, makes a new one. -/
theorem World.new_of_idle {world : World} (idle : world.active = none) :
    ∀ id, ((none : Option CacheId) <|> world.active) = some id →
      id < world.caches.length ∧ world.cache id = .empty := by
  rw [idle]
  rintro id ⟨⟩

def Term.Avoids (cache : CacheId) (t : Term) : Prop := t.OnlyViews fun _ other => other ≠ cache

/-- With a table functions ask for resolutions only under settings that fit. -/
def Term.AsksFor (fits : Resolver Term → Prop) (cache : CacheId) (shared : Prop) (t : Term) : Prop :=
  t.OnlyBodies fun _ body => body.AsksOnly fun config given =>
    given = some cache ∨ given = none ∧ shared →
      ∀ resolver, Resolver.MadeWith config resolver → fits resolver

def Term.Leaves (fits : Resolver Term → Prop) (cache : CacheId) (shared : Prop) (t : Term) : Prop :=
  t.Avoids cache ∧ t.AsksFor fits cache shared

theorem Term.Leaves.mono {fits fits' : Resolver Term → Prop} {cache : CacheId} {shared : Prop} {t : Term}
    (leaves : t.Leaves fits cache shared) (imp : ∀ resolver, fits resolver → fits' resolver) :
    t.Leaves fits' cache shared := by
  refine ⟨leaves.1, leaves.2.mono fun _ _ asks => asks.mono ?_⟩
  exact fun _ _ asked own resolver made => imp resolver (asked own resolver made)

def World.Leaves (world : World) (fits : Resolver Term → Prop) (given : Option CacheId) (t : Term) :
    Prop :=
  t.Leaves fits (world.tableFor given) (world.active = some (world.tableFor given))

/-- A resolution begins with a fresh table. -/
structure Fresh (fits : Resolver Term → Prop) (resolver : Resolver Term) (template : Term)
    (env : Environment Term) (given : Option CacheId) (world : World) : Prop where
  /-- A table that is given or shared is there, and new. -/
  new : ∀ id, (given <|> world.active) = some id →
    id < world.caches.length ∧ world.cache id = .empty
  template : world.Leaves fits given template
  bindings : env.Each (world.Leaves fits given)
  replacements : ∀ t ∈ resolver.replacements, world.Leaves fits given t
  stored : ∀ table ∈ world.caches, ∀ entry ∈ table.entries, world.Leaves fits given entry.2

theorem Fresh.mono {fits fits' : Resolver Term → Prop} {resolver resolver' : Resolver Term}
    {template : Term} {env : Environment Term} {given : Option CacheId} {world : World}
    (fresh : Fresh fits resolver template env given world)
    (imp : ∀ resolver, fits resolver → fits' resolver)
    (same : resolver'.replacements = resolver.replacements) :
    Fresh fits' resolver' template env given world where
  new := fresh.new
  template := fresh.template.mono imp
  bindings := fresh.bindings.mono fun _ leaves => leaves.mono imp
  replacements t member := (fresh.replacements t (same ▸ member)).mono imp
  stored table member entry among := (fresh.stored table member entry among).mono imp

/-- In the first block there is a new table and no other. -/
theorem World.new_of_entered : ∀ id, ((none : Option CacheId) <|> World.empty.entered.active) = some id →
    id < World.empty.entered.caches.length ∧ World.empty.entered.cache id = .empty := by
  rintro id ⟨⟩
  exact ⟨Nat.zero_lt_one, rfl⟩

theorem Fresh.entered {fits : Resolver Term → Prop} {resolver : Resolver Term} {template : Term}
    {env : Environment Term} (noRules : resolver.replacements = [])
    (leaves : World.empty.entered.Leaves fits none template)
    (bindings : env.Each (World.empty.entered.Leaves fits none)) :
    Fresh fits resolver template env none World.empty.entered where
  new := World.new_of_entered
  template := leaves
  bindings := bindings
  replacements := by
    rw [noRules]
    exact List.forall_mem_nil _
  stored := by
    refine List.forall_mem_singleton.2 ?_
    exact List.forall_mem_nil _

namespace Custody

variable {custody : Custody}

theorem safe_of_leaves {t : Term} (leaves : t.Leaves custody.allows custody.cache custody.shared) :
    custody.Safe t :=
  ⟨Term.OnlyViews.mono (fun _ _ differ same => absurd same differ) leaves.1, leaves.2⟩

variable {resolution : Resolution} {resolver : Resolver Term} {template : Term}
  {env : Environment Term} {given : Option CacheId} {world : World}

/-- Nesting without end is reported as another failure. -/
theorem after_reportEndless {ceiling : Int} {cache : CacheId} {body : Run Term} {ok : Term → World → Prop}
    (holds : After body world ok fun _ _ => True) :
    After (reportEndless ceiling cache body) world ok fun _ _ => True := by
  refine after_recover.2 (holds.mono (fun _ _ ends => ends) ?_)
  intro failure world' _
  cases failure.isExhaustion with
  | false => trivial
  | true =>
      refine after_bind.2 ((Quiet.chain cache world').mono ?_ fun _ _ _ => trivial)
      intro names world'' _
      exact after_throw.2 trivial

/-- What holds when a resolution ends with a value holds when the counts are reported, too. -/
theorem after_resolveIn {cache : CacheId} {ok : Term → World → Prop}
    (ok_same : ∀ value world world', World.SameTables world world' →
      ok value world → ok value world')
    (resolves : After (resolution resolver template env cache) world ok fun _ _ => True) :
    After (resolveIn resolution resolver template env cache) world ok fun _ _ => True := by
  refine after_reportEndless (after_bind.2 (resolves.mono ?_ fun _ _ _ => trivial))
  intro value world' holds
  have reports : Quiet (do
      let table ← Run.cache cache
      Run.checkTable table "hits"
      Run.log .debug ("Resolved template: " ++ toString table.hits ++ " cache hits, " ++
        toString table.misses ++ " misses")
      return value) (· = value) :=
    Quiet.bind (.cache cache) fun table _ => Quiet.bind (.checkTable table "hits") fun _ _ =>
      Quiet.bind (.log _ _) fun _ _ => .pure rfl
  refine (reports world').mono ?_ fun _ _ _ => trivial
  rintro _ world'' ⟨same, rfl⟩
  exact ok_same _ _ _ same holds

/--
What holds of a fresh table and of the value when a resolution ends with one; the table is closed
then if it was the resolution's own.
-/
theorem after_fresh (custody : Custody) (post : Term → Cache → Prop)
    (fresh : Fresh custody.allows resolver template env given world)
    (own : custody.cache = world.tableFor given) (allowed : custody.allows resolver)
    (shared : custody.shared = (world.active = some custody.cache))
    {index : custody.Index} (begins : custody.holds index .empty world.caught)
    (resolves : custody.Safe template → env.Each custody.Safe →
      custody.Fits resolver custody.cache → ∀ world, custody.Held index world →
        After (resolution resolver template env custody.cache) world
          (fun value world' =>
            custody.Held index world' ∧ post value (world'.cache custody.cache))
          fun _ _ => True) :
    After (resolveLeniently resolution resolver template env given) world
      (fun value world' => ∃ table, custody.holds index table world'.caught ∧ post value table ∧
        world'.cache custody.cache =
          if (given <|> world.active).isSome then table else table.close)
      fun _ _ => True := by
  have safe : ∀ t : Term, world.Leaves custody.allows given t → custody.Safe t := by
    intro t leaves
    unfold World.Leaves at leaves
    rw [← own, ← shared] at leaves
    exact safe_of_leaves leaves
  have fits : custody.Fits resolver custody.cache :=
    ⟨fun _ => allowed, fun t member => safe t (fresh.replacements t member)⟩
  have stored : world.Stores custody.Safe := fun table member entry among =>
    safe _ (fresh.stored table member entry among)
  have ends : ∀ world, custody.Held index world →
      After (resolveIn resolution resolver template env custody.cache) world
        (fun value world' => custody.Held index world' ∧ post value (world'.cache custody.cache))
        fun _ _ => True := by
    intro world held
    refine after_resolveIn ?_ (resolves (safe _ fresh.template) (fresh.bindings.mono safe) fits
      world held)
    rintro value world' world'' same ⟨held', holds⟩
    refine ⟨held'.of_same same, ?_⟩
    rw [same.cache_eq]
    exact holds
  refine after_bind.2 (after_get.2 ?_)
  cases given_or : given <|> world.active with
  | some id =>
      obtain ⟨inside, new⟩ := fresh.new id given_or
      have same : custody.cache = id := by
        rw [own, World.tableFor, given_or]
        rfl
      subst same
      have held : custody.Held index world := by
        refine ⟨⟨inside, stored, shared.mpr⟩, ?_⟩
        rw [new]
        exact begins
      refine (ends world held).mono ?_ fun _ _ _ => trivial
      rintro value world' ⟨held', valued⟩
      exact ⟨_, held'.holds, valued, rfl⟩
  | none =>
      have same : custody.cache = world.caches.length := by
        rw [own, World.tableFor, given_or]
        rfl
      have held : custody.Held index { world with caches := world.caches ++ [.empty] } := by
        refine ⟨⟨?_, stored.addCache, shared.mpr⟩, ?_⟩
        · rw [same, List.length_append]
          exact Nat.lt_succ_self _
        · rw [same]
          simpa [World.cache] using begins
      refine after_bind.2 (after_andThen.2 ?_)
      rw [same] at ends
      refine (ends _ held).mono ?_ fun _ _ _ => ?_
      · rintro value world' ⟨held', valued⟩
        refine after_closeCache fun noted sameTables _ => ⟨noted.cache custody.cache, ?_, ?_, ?_⟩
        · exact (held'.of_same sameTables).holds
        · rw [sameTables.cache_eq, same]
          exact valued
        · rw [← same]
          exact World.cache_change _ (held'.of_same sameTables).inside _
      · exact after_closeCache fun _ _ _ => trivial

end Custody

end ScopedTemplate
