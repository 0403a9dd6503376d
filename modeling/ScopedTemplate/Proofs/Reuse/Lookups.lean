import ScopedTemplate.Proofs.Cycles.Tracing
import ScopedTemplate.Proofs.Reuse.Pairs

/-!
# Lookups in tables that are used again

A name is looked up side by side in two tables: what one of them serves and the other one computes comes
to the same, since every value that is stored is what all resolutions of the name come to.
-/

namespace ScopedTemplate

variable {ceiling ceiling' : Int}

open Run

/-- What was done to a table is found in it. -/
theorem World.SameTables.cache_change {world done : World} {id : CacheId} {change : Cache → Cache}
    (same : World.SameTables (world.change id change) done) (inside : id < world.caches.length) :
    id < done.caches.length ∧ done.cache id = change (world.cache id) := by
  rw [same.cache_eq, world.cache_change inside]
  exact ⟨by rw [same.caches, world.length_change]; exact inside, rfl⟩

/-- What was computed is found stored. -/
theorem World.SameTables.cache_put {world done : World} {id : CacheId} {key : CacheKey} {value : Term}
    (same : World.SameTables ((world.change id Cache.leave).change id (Cache.put · key value)) done)
    (inside : id < world.caches.length) :
    id < done.caches.length ∧ done.cache id = (world.cache id).leave.put key value := by
  obtain ⟨inside', stored⟩ := same.cache_change ((world.length_change id _).symm ▸ inside)
  rw [world.cache_change inside] at stored
  exact ⟨inside', stored⟩

namespace Site

variable (s : Site)

def free (resolver resolver' : Resolver Term) (cache cache' : CacheId) (table table' : Cache) :
    Pair s where
  resolver := resolver
  resolver' := resolver'
  cache := cache
  cache' := cache'
  stops := true
  stops' := true
  pending := table.pending
  pending' := table'.pending
  alone := table.Stores
  origin := table'

def mirror (resolver : Resolver Term) (cache : CacheId) (table : Cache) : Pair s where
  resolver := resolver
  resolver' := resolver
  cache := cache
  cache' := cache
  stops := false
  stops' := false
  pending := table.pending
  pending' := table.pending
  alone _ := False
  origin := table

variable {s} {levels' : Nat} {name : String} {binding binding' : Term} {cache' : CacheId}
  {resolver resolver' : Resolver Term} {env env' : Environment Term} {entered : World}

namespace Alike

variable (alike : s.Alike levels') (lawful : s.Lawful) (serves' : s.serves resolver')
  (inside' : cache' < entered.caches.length) (settled : s.Settled (entered.cache cache'))

include alike lawful serves' inside' settled

omit lawful in
/-- A resolution leaves a settled table settled, whether it fails or not. -/
theorem leaves (ceiling' : Int) (visits : s.visits env) {t : Term} (meets : s.meets env t) :
    After (resolveTerm ceiling' levels' resolver' t env cache') entered
      (fun value after => (s.mirror resolver' cache' (entered.cache cache')).Worlds after after ∧
        s.Value value)
      fun _ after => (s.mirror resolver' cache' (entered.cache cache')).Worlds after after := by
  have fits : (s.mirror resolver' cache' (entered.cache cache')).Fits :=
    ⟨serves', serves', fun _ => ⟨rfl, rfl, fun _ => id⟩, fun _ => rfl⟩
  have ends := alike _ fits ceiling' ceiling' levels' (fun _ => rfl) (.self visits) ⟨.inl rfl, meets, meets⟩
    entered entered
    ⟨inside', inside', settled.toSound, settled, rfl, rfl, .inr, fun _ => id, .refl _⟩
  change (s.mirror resolver' cache' (entered.cache cache')).twin.Ends _
    (resolveTerm ceiling' levels' resolver' t env cache' entered)
    (resolveTerm ceiling' levels' resolver' t env cache' entered) at ends
  unfold After
  generalize resolveTerm ceiling' levels' resolver' t env cache' entered = result at ends
  cases ends with
  | ok same worlds => exact ⟨worlds, same.1⟩
  | error _ worlds => exact worlds
  | stopped stops => cases stops.1
  | stopped' stops => cases stops.1

variable (bound' : env'.target? (.ref name) = some binding')

include bound'

/-- Any resolution of a binding with a sound table agrees with one with a settled table. -/
theorem ends (meets' : s.meets env' binding') (serves : s.serves resolver)
    (alongside : s.Alongside env env') (bound : env.target? (.ref name) = some binding)
    (meets : s.meets env binding) (ceiling ceiling' : Int) (levels : Nat) {cache : CacheId}
    {world : World} (inside : cache < world.caches.length) (sound : s.Sound (world.cache cache)) :
    (s.free resolver resolver' cache cache' (world.cache cache) (entered.cache cache')).twin.Ends s.Same
      (resolveTerm ceiling levels resolver binding env cache world)
      (resolveTerm ceiling' levels' resolver' binding' env' cache' entered) := by
  have target := (lawful.alike alongside).target? .ref name
  obtain rfl : binding = binding' := Option.some.inj (bound.symm.trans (target.trans bound'))
  have fits : (s.free resolver resolver' cache cache' (world.cache cache)
      (entered.cache cache')).Fits := ⟨serves, serves', nofun, nofun⟩
  exact alike _ fits ceiling ceiling' levels nofun alongside ⟨.inl rfl, meets, meets'⟩ world entered
    ⟨inside, inside', sound, settled, rfl, rfl, .inl, nofun, .refl _⟩

/-- What a resolution with a settled table comes to, all other ones come to. -/
theorem sure (visits' : s.visits env') (meets' : s.meets env' binding') {value : Term} {after : World}
    (ran : resolveTerm ceiling' levels' resolver' binding' env' cache' entered = .ok value after) :
    s.Sure (after.cache cache').Stores (env'.keyOf name) value := by
  intro resolver env other binding ceiling serves visits same bound meets levels cache world inside sound
  obtain ⟨rfl, alongside⟩ := lawful.alongside_of_keyOf visits visits' same
  have ends := alike.ends lawful serves' inside' settled bound' meets' serves alongside bound meets ceiling
    ceiling' levels inside sound
  rw [ran] at ends
  unfold After
  generalize resolveTerm ceiling levels resolver binding env cache world = result at ends
  cases ends with
  | ok same worlds =>
      exact ⟨same.2, worlds.inside, worlds.tables.sound, worlds.tables.pending,
        fun _ => worlds.tables.covered⟩
  | stopped stops => exact stops.2

/-- Where there is a right value, a resolution with a settled table fails only if it stops. -/
theorem stops (visits' : s.visits env') (meets' : s.meets env' binding') {key : CacheKey}
    (here : env'.keyOf name = key) {value : Term} {failure : Failure} {after : World} (right : s.Right key value)
    (ran : resolveTerm ceiling' levels' resolver' binding' env' cache' entered = .error failure after) :
    failure.isMissingKey = false := by
  cases right with
  | @made resolver env other binding _ _ ceiling levels cache world world' serves visits bound meets inside
      isOpen isTable right ran' _ _ =>
      obtain ⟨rfl, alongside⟩ := lawful.alongside_of_keyOf visits visits' here.symm
      have ends := alike.ends lawful serves' inside' settled bound' meets' serves alongside bound meets
        ceiling ceiling' levels inside ⟨isOpen, isTable, right⟩
      rw [ran, ran'] at ends
      cases ends with
      | stopped' stops => exact stops.2

end Alike

end Site

namespace Pair

variable {s : Site} {p : Pair s} {levels levels' : Nat} {name : String} {key : CacheKey}
  {env env' : Environment Term} {binding value value' : Term}
  {world world' done done' : World}

theorem Worlds.pending_eq (worlds : p.Worlds world world') (fits : p.Fits) (stops' : p.stops' = false) :
    (world.cache p.cache).pending = (world'.cache p.cache').pending := by
  rw [worlds.tables.pending, worlds.tables.pending', (fits.aligned stops').2.1]

/-- Where the first table lacks a key that the second one holds, the first resolution may stop. -/
theorem Worlds.stops_of_missing (worlds : p.Worlds world world')
    (found' : (world'.cache p.cache').find? key = some value')
    (missing : (world.cache p.cache).find? key = none) : p.stops = true := by
  cases stops : p.stops with
  | true => rfl
  | false =>
      obtain ⟨value, found⟩ := worlds.tables.covers stops ⟨value', found'⟩
      rw [missing] at found
      cases found

/-- Where the second table lacks a key that the first one holds, the second resolution may stop. -/
theorem Worlds.stops'_of_missing (worlds : p.Worlds world world') (fits : p.Fits)
    (found : (world.cache p.cache).find? key = some value)
    (missing' : (world'.cache p.cache').find? key = none) : p.stops' = true := by
  cases stops' : p.stops' with
  | true => rfl
  | false =>
      obtain ⟨value', found'⟩ := (worlds.tables.covered ⟨value, found⟩).resolve_left
        ((fits.aligned stops').2.2 key)
      rw [missing'] at found'
      cases found'

/-- What is asked where a name is looked up in two worlds. -/
structure Looks (p : Pair s) (levels levels' : Nat) (name : String) (key : CacheKey)
    (env env' : Environment Term) (binding : Term) (world world' : World) : Prop where
  lawful : s.Lawful
  fits : p.Fits
  aligned : p.stops' = false → levels = levels'
  alike : s.Alike levels'
  alongside : s.Alongside env env'
  here : env.keyOf name = key
  here' : env'.keyOf name = key
  bound : env.target? (.ref name) = some binding
  bound' : env'.target? (.ref name) = some binding
  meets : s.meets env binding
  meets' : s.meets env' binding
  worlds : p.Worlds world world'

/-- The ends of looking up a name. -/
abbrev Comes (resolver : Resolver Term) (cache : CacheId) (ceiling : Int) (levels : Nat)
    (key : CacheKey) (env : Environment Term) (binding : Term) (world : World)
    (result : EStateM.Result Failure World Term) : Prop :=
  Memoized cache key env resolver.config.detectCycles (some resolver.config.maxDepth)
    (resolveTerm ceiling levels resolver binding env cache) world result

theorem comes_memoize (kind : TextKind) (here : env.keyOf name = key) {resolver : Resolver Term}
    {cache : CacheId} (sound : s.Sound (world.cache cache)) :
    Comes resolver cache ceiling levels key env binding world
      (memoize cache (.text kind name) env resolver.config.detectCycles
        (some resolver.config.maxDepth) (resolveTerm ceiling levels resolver binding env cache) world) := by
  subst here
  exact @memoize_ends cache (.text kind name) env _ _ _ world sound.isOpen sound.isTable

namespace Looks

variable (looks : p.Looks levels levels' name key env env' binding world world')
  {result result' : EStateM.Result Failure World Term} {entered entered' after after' : World}

include looks

/-- A name that is computed first is stored as what was computed. -/
theorem right {copy : Term} (inside : p.cache < entered.caches.length)
    (sound : s.Sound (entered.cache p.cache))
    (ran : resolveTerm ceiling levels p.resolver binding env p.cache entered = .ok value after)
    (same : copy.outline false = value.outline false) (isValue : s.Value value) :
    s.Right key copy := by
  rw [← looks.here]
  exact .made looks.fits.serves looks.alongside.visits looks.bound looks.meets inside sound.isOpen sound.isTable
    sound.right ran same.symm (isValue.of_resembles same.symm)

theorem right' {copy' : Term} (inside' : p.cache' < entered'.caches.length)
    (sound' : s.Sound (entered'.cache p.cache'))
    (ran' : resolveTerm ceiling' levels' p.resolver' binding env' p.cache' entered' = .ok value' after')
    (same' : copy'.outline false = value'.outline false) (isValue' : s.Value value') :
    s.Right key copy' := by
  rw [← looks.here']
  exact .made looks.fits.serves' looks.alongside.visits' looks.bound' looks.meets' inside' sound'.isOpen
    sound'.isTable sound'.right ran' same'.symm (isValue'.of_resembles same'.symm)

/-- What every resolution of a stored name comes to, the first one comes to. -/
theorem comesTo (sure : s.Sure (world'.cache p.cache').Stores key value')
    (inside : p.cache < entered.caches.length) (sound : s.Sound (entered.cache p.cache)) :
    After (resolveTerm ceiling levels p.resolver binding env p.cache) entered
      (fun made done => made.Resembles value' ∧ p.cache < done.caches.length ∧
        s.Sound (done.cache p.cache) ∧
        (done.cache p.cache).pending = (entered.cache p.cache).pending ∧
        ∀ other, (done.cache p.cache).Stores other →
          (entered.cache p.cache).Stores other ∨ (world'.cache p.cache').Stores other)
      fun failure _ => failure.isMissingKey = false :=
  sure looks.fits.serves looks.alongside.visits looks.here looks.bound looks.meets levels p.cache entered
    inside sound

/-- A refusal of the first resolution is a stop, or else the second one does not begin. -/
theorem refused {failure : Failure}
    (refuses : (world.cache p.cache).Refuses key p.resolver.config.detectCycles
      (some p.resolver.config.maxDepth) failure)
    (begins' : (world'.cache p.cache').Begins key p.resolver'.config.detectCycles
      (some p.resolver'.config.maxDepth)) : p.twin.stops failure := by
  refine ⟨?_, refuses.isMissingKey⟩
  cases stops : p.stops with
  | true => rfl
  | false =>
      have stops' := looks.fits.stops stops
      have pending := looks.worlds.pending_eq looks.fits stops'
      rw [(looks.fits.aligned stops').1] at refuses
      exact (begins'.not_refuses pending.symm refuses).elim

/-- A name that the second table serves. -/
theorem served {value' copy' : Term} (found' : (world'.cache p.cache').find? key = some value')
    (same' : copy'.outline false = value'.outline false)
    (kept' : World.SameTables (world'.change p.cache' (Cache.hit · key env')) done')
    (comes : Comes p.resolver p.cache ceiling levels key env binding world result) :
    p.twin.Ends s.Same result (.ok copy' done') := by
  have worlds := looks.worlds
  have sure := worlds.tables.settled.sure found'
  obtain ⟨inside', table'⟩ := kept'.cache_change worlds.inside'
  cases comes with
  | @served value copy done found same kept =>
      obtain ⟨inside, table⟩ := kept.cache_change worlds.inside
      have right := worlds.tables.sound.right found
      have values : value.Resembles copy' := (sure.agrees right).trans same'.symm
      refine .ok ⟨right.isValue.of_resembles same.symm, same.trans values⟩ ⟨inside, inside', ?_⟩
      rw [table, table']
      exact worlds.tables.hit _ _ _ _
  | refused missing refuses =>
      exact .stopped ⟨worlds.stops_of_missing found' missing, refuses.isMissingKey⟩
  | @computed entered after done value copy begins enters ran same kept =>
      have stops := worlds.stops_of_missing found' begins.missing
      obtain ⟨insideE, entersE⟩ := enters.cache_change worlds.inside
      have soundE : s.Sound (entered.cache p.cache) := entersE ▸ worlds.tables.sound.of_same rfl rfl rfl
      obtain ⟨values, insideA, soundA, pending, few⟩ := (looks.comesTo sure insideE soundE).of_ok ran
      obtain ⟨inside, table⟩ := kept.cache_put insideA
      have isValue := (worlds.tables.settled.right found').isValue.of_resembles values.symm
      refine .ok ⟨isValue, values.trans same'.symm⟩ ⟨inside, inside', ?_⟩
      rw [table, table']
      refine ((worlds.tables.hit key key env env').put_left stops
        (soundA.of_same rfl rfl rfl) ?_ ?_ (looks.right insideE soundE ran same isValue)
        ⟨value', found'⟩)
      · show (after.cache p.cache).pending.dropLast = _
        rw [pending, entersE]
        exact Cache.leave_enter_pending _ _ _
      · intro other stores
        rw [entersE] at few
        exact few other stores
  | @failed entered after failure begins enters ran =>
      have stops := worlds.stops_of_missing found' begins.missing
      obtain ⟨insideE, entersE⟩ := enters.cache_change worlds.inside
      have soundE : s.Sound (entered.cache p.cache) := entersE ▸ worlds.tables.sound.of_same rfl rfl rfl
      exact .stopped ⟨stops, (looks.comesTo sure insideE soundE).of_error ran⟩

/-- A name that the second table refuses. -/
theorem refused' (missing' : (world'.cache p.cache').find? key = none)
    (refuses' : (world'.cache p.cache').Refuses key p.resolver'.config.detectCycles
      (some p.resolver'.config.maxDepth) ((world'.cache p.cache').refusal key
        p.resolver'.config.detectCycles (some p.resolver'.config.maxDepth)))
    (comes : Comes p.resolver p.cache ceiling levels key env binding world result) :
    p.twin.Ends s.Same result (.error ((world'.cache p.cache').refusal key
        p.resolver'.config.detectCycles (some p.resolver'.config.maxDepth))
      (world'.change p.cache' (Cache.record · (.refused key env')))) := by
  have worlds := looks.worlds
  cases stops' : p.stops' with
  | true => exact .stopped' ⟨stops', refuses'.isMissingKey⟩
  | false =>
      have pending := worlds.pending_eq looks.fits stops'
      have resolvers := (looks.fits.aligned stops').1
      cases comes with
      | served found =>
          have stops := worlds.stops'_of_missing looks.fits found missing'
          rw [stops'] at stops
          cases stops
      | refused _ refuses =>
          exact .error (refuses.isMissingKey.trans refuses'.isMissingKey.symm)
            (worlds.change fun tables => tables.record rfl)
      | computed begins => exact (begins.not_refuses pending (resolvers ▸ refuses')).elim
      | failed begins => exact (begins.not_refuses pending (resolvers ▸ refuses')).elim

/-- Both tables are entered. -/
theorem enter (ceiling ceiling' : Int) (missing' : (world'.cache p.cache').find? key = none)
    (enters : World.SameTables (world.change p.cache (Cache.enter · key env)) entered)
    (enters' : World.SameTables (world'.change p.cache' (Cache.enter · key env')) entered') :
    (p.under key).twin.Ends s.Same
      (resolveTerm ceiling levels p.resolver binding env p.cache entered)
      (resolveTerm ceiling' levels' p.resolver' binding env' p.cache' entered') := by
  obtain ⟨inside, table⟩ := enters.cache_change looks.worlds.inside
  obtain ⟨inside', table'⟩ := enters'.cache_change looks.worlds.inside'
  refine looks.alike (p.under _) (looks.fits.under _) ceiling ceiling' levels looks.aligned looks.alongside
    ⟨.inl rfl, looks.meets, looks.meets'⟩ entered entered' ⟨inside, inside', ?_⟩
  have tables := looks.worlds.tables.enter missing' env env'
  rw [← table, ← table'] at tables
  exact tables

/-- A name that is computed in the second resolution. -/
theorem computed {copy' : Term}
    (begins' : (world'.cache p.cache').Begins key p.resolver'.config.detectCycles
      (some p.resolver'.config.maxDepth))
    (enters' : World.SameTables (world'.change p.cache' (Cache.enter · key env')) entered')
    (ran' : resolveTerm ceiling' levels' p.resolver' binding env' p.cache' entered' = .ok value' after')
    (same' : copy'.outline false = value'.outline false)
    (kept' : World.SameTables ((after'.change p.cache' Cache.leave).change p.cache'
      (Cache.put · key copy')) done')
    (comes : Comes p.resolver p.cache ceiling levels key env binding world result) :
    p.twin.Ends s.Same result (.ok value' done') := by
  have worlds := looks.worlds
  have missing' := begins'.missing
  have visits' := looks.alongside.visits'
  obtain ⟨insideE', entersE'⟩ := enters'.cache_change worlds.inside'
  have settledE' : s.Settled (entered'.cache p.cache') :=
    entersE' ▸ worlds.tables.settled.of_same rfl rfl rfl
  obtain ⟨leaves, isValue'⟩ := (looks.alike.leaves looks.fits.serves' insideE' settledE' ceiling'
    visits' looks.meets').of_ok ran'
  have right' := looks.right' insideE' settledE'.toSound ran' same' isValue'
  have sure := looks.alike.sure looks.lawful looks.fits.serves' insideE' settledE' looks.bound' visits'
    looks.meets' ran'
  rw [looks.here'] at sure
  have sureCopy := sure.resembles same'.symm
  cases comes with
  | @served value copy done found same kept =>
      have stops := looks.fits.stops_of_stops' (worlds.stops'_of_missing looks.fits found missing')
      obtain ⟨inside, table⟩ := kept.cache_change worlds.inside
      obtain ⟨inside', table'⟩ := kept'.cache_put leaves.inside'
      have right := worlds.tables.sound.right found
      refine .ok ⟨right.isValue.of_resembles same.symm, same.trans (sure.agrees right)⟩
        ⟨inside, inside', ?_⟩
      rw [table, table']
      refine (worlds.tables.hit_left _ _).put_right stops (leaves.tables.settled.of_same rfl rfl rfl)
        ?_ ?_ right' sureCopy missing'
      · have pending : (after'.cache p.cache').pending = (entered'.cache p.cache').pending :=
          leaves.tables.pending'
        show (after'.cache p.cache').pending.dropLast = _
        rw [pending, entersE']
        exact Cache.leave_enter_pending _ _ _
      · have kept : (entered'.cache p.cache').Extends (after'.cache p.cache') := leaves.tables.kept
        rw [entersE'] at kept
        exact ((Cache.Extends.enter missing' _).trans kept).trans (.leave _)
  | refused _ refuses => exact .stopped (looks.refused refuses begins')
  | @computed entered after done value copy begins enters ran same kept =>
      obtain ⟨insideE, entersE⟩ := enters.cache_change worlds.inside
      have soundE : s.Sound (entered.cache p.cache) := entersE ▸ worlds.tables.sound.of_same rfl rfl rfl
      have ends := looks.enter ceiling ceiling' missing' enters enters'
      rw [ran, ran'] at ends
      cases ends with
      | ok values ended =>
          obtain ⟨inside, table⟩ := kept.cache_put ended.inside
          obtain ⟨inside', table'⟩ := kept'.cache_put ended.inside'
          refine .ok values ⟨inside, inside', ?_⟩
          rw [table, table']
          exact ended.tables.leave.put (looks.right insideE soundE ran same values.1) right' sureCopy
            (worlds.tables.missing_origin missing')
  | @failed entered after failure begins enters ran =>
      have ends := looks.enter ceiling ceiling' missing' enters enters'
      rw [ran, ran'] at ends
      cases ends with
      | stopped stops => exact .stopped stops

/-- A name that is computed in the second resolution, with a failure. -/
theorem failed {failure' : Failure}
    (begins' : (world'.cache p.cache').Begins key p.resolver'.config.detectCycles
      (some p.resolver'.config.maxDepth))
    (enters' : World.SameTables (world'.change p.cache' (Cache.enter · key env')) entered')
    (ran' : resolveTerm ceiling' levels' p.resolver' binding env' p.cache' entered' = .error failure' after')
    (comes : Comes p.resolver p.cache ceiling levels key env binding world result) :
    p.twin.Ends s.Same result (.error failure' (after'.change p.cache' Cache.leave)) := by
  have worlds := looks.worlds
  have missing' := begins'.missing
  cases comes with
  | served found =>
      obtain ⟨insideE', entersE'⟩ := enters'.cache_change worlds.inside'
      have settledE' : s.Settled (entered'.cache p.cache') :=
        entersE' ▸ worlds.tables.settled.of_same rfl rfl rfl
      exact .stopped' ⟨worlds.stops'_of_missing looks.fits found missing',
        looks.alike.stops looks.lawful looks.fits.serves' insideE' settledE' looks.bound'
          looks.alongside.visits' looks.meets' looks.here' (worlds.tables.sound.right found) ran'⟩
  | refused _ refuses => exact .stopped (looks.refused refuses begins')
  | @computed entered after done value copy begins enters ran same kept =>
      have ends := looks.enter ceiling ceiling' missing' enters enters'
      rw [ran, ran'] at ends
      cases ends with
      | stopped' stops => exact .stopped' stops
  | @failed entered after failure begins enters ran =>
      have ends := looks.enter ceiling ceiling' missing' enters enters'
      rw [ran, ran'] at ends
      cases ends with
      | error same worlds => exact .error same worlds.leave
      | stopped stops => exact .stopped stops
      | stopped' stops => exact .stopped' stops

/-- A name is looked up side by side. -/
theorem comes (comes : Comes p.resolver p.cache ceiling levels key env binding world result)
    (comes' : Comes p.resolver' p.cache' ceiling' levels' key env' binding world' result') :
    p.twin.Ends s.Same result result' := by
  cases comes' with
  | served found' same' kept' => exact looks.served found' same' kept' comes
  | refused missing' refuses' => exact looks.refused' missing' refuses' comes
  | computed begins' enters' ran' same' kept' =>
      exact looks.computed begins' enters' ran' same' kept' comes
  | failed begins' enters' ran' => exact looks.failed begins' enters' ran' comes

end Looks

variable (lawful : s.Lawful) (fits : p.Fits) (aligned : p.stops' = false → levels = levels')
  (alike : s.Alike levels')

include lawful fits aligned alike

/-- Names are looked up side by side, if terms are resolved so. -/
theorem lookupName (alongside : s.Alongside env env') (kind : TextKind) {name : String}
    (meets : ∀ binding, env.lookup? (.ref name) = some binding → s.meets env binding)
    (meets' : ∀ binding, env'.lookup? (.ref name) = some binding → s.meets env' binding) :
    p.twin.Runs s.Same
      (lookupName (resolveTerm ceiling levels) p.resolver env p.cache (.text kind name))
      (lookupName (resolveTerm ceiling' levels') p.resolver' env' p.cache' (.text kind name)) := by
  have target := (lawful.alike alongside).target? .ref name
  have bound : env.target? (.text kind name) = env.target? (.ref name) := Resolver.target?_ref env kind name
  have bound' : env'.target? (.text kind name) = env'.target? (.ref name) :=
    Resolver.target?_ref env' kind name
  unfold ScopedTemplate.lookupName
  rw [bound, bound']
  cases found : env.target? (.ref name) with
  | none =>
      rw [target.symm.trans found]
      refine (Twin.Runs.record (Pair.lawful lawful fits) rfl rfl).bind fun _ _ _ => ?_
      exact .pure ⟨Resolver.isValue_text trivial, rfl⟩
  | some binding =>
      have found' := target.symm.trans found
      rw [found']
      intro world world' worlds
      have here' := (alongside.keyOf_eq name).symm
      have looks : p.Looks levels levels' name (env.keyOf name) env env' binding world world' :=
        ⟨lawful, fits, aligned, alike, alongside, rfl, here', found, found',
          meets _ (Option.filter_eq_some_iff.1 found).1, meets' _ (Option.filter_eq_some_iff.1 found').1,
          worlds⟩
      exact looks.comes (comes_memoize kind rfl worlds.tables.sound)
        (comes_memoize kind here' worlds.tables.settled.toSound)

/-- What two resolutions do below a node goes side by side. -/
theorem below (ceiling ceiling' : Int) : p.twin.Below (resolveTerm ceiling levels) (resolveTerm ceiling' levels') where
  lookup kind _ alongside among := lookupName lawful fits aligned alike alongside kind among.1 among.2
  child := alike p fits _ _ levels aligned
  function {env env' stamp name deps doc callee args args'} alongside terms looked values := by
    have looks : p.twin.resolver.classifier = s.resolver.classifier :=
      (lawful.akin fits.serves).classifier
    rw [looks] at looked
    have given := (List.forall₂_and_left (p := s.Value) _ _).1 values
    have given' : ∀ arg ∈ args', s.Value arg := by
      intro arg member
      obtain ⟨_, _, same⟩ := exists_of_forall₂ values member
      exact same.isValue
    refine ((lawful.pure terms.2.1 looked).runs (Pair.lawful lawful fits) levels levels' given.2).mono ?_
    rintro value value' ⟨same, returned, returned'⟩
    exact ⟨lawful.matched terms.2.1 looked given.1 given.2 returned returned' same,
      lawful.returned terms.2.1 looked given.1 returned,
      lawful.returned terms.2.2 looked given' returned'⟩
  callable {env env' c stamp stamp'} alongside terms looked := by
    have looks : p.twin.resolver.classifier = s.resolver.classifier :=
      (lawful.akin fits.serves).classifier
    rw [looks] at looked
    exact lawful.callable terms.2.1 looked p.twin (Pair.lawful lawful fits) fits.serves fits.serves'
      env env' alongside (lawful.alike alongside) terms.2.1 terms.2.2 _ _ levels levels'
      (fun kind _ => lookupName lawful fits aligned alike alongside kind
        (fun _ => lawful.read terms.2.1 looked) fun _ => lawful.read terms.2.2 looked) stamp stamp'

end Pair

/-- Terms of a site are resolved alike: the induction is on the levels of the second resolution. -/
theorem Site.alike {s : Site} (lawful : s.Lawful) (levels' : Nat) : s.Alike levels' := by
  induction levels' with
  | zero =>
      intro p fits ceiling ceiling' levels aligned env env' u u' alongside terms
      cases stops' : p.stops' with
      | true => exact fun world world' worlds => .stopped' ⟨stops', rfl⟩
      | false =>
          obtain rfl := aligned stops'
          exact fun world world' worlds => .error rfl worlds
  | succ levels' ih =>
      intro p fits ceiling ceiling' levels aligned env env' u u' alongside terms
      cases levels with
      | zero =>
          cases stops' : p.stops' with
          | true => exact fun world world' worlds => .stopped ⟨fits.stops_of_stops' stops', rfl⟩
          | false => cases aligned stops'
      | succ levels =>
          have below := Pair.below lawful fits (fun same => Nat.succ.inj (aligned same)) ih ceiling ceiling'
          exact below.resolveNode alongside (Pair.lawful lawful fits) terms

end ScopedTemplate
