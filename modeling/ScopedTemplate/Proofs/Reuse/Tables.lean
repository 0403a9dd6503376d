import ScopedTemplate.Proofs.Cache.Moved
import ScopedTemplate.Proofs.Run.Memoized
import ScopedTemplate.Proofs.Twin.Calls

/-!
# Tables that are used again

A table holds what the bindings of names were resolved to, each with a table of the same sort, by any of
some resolvers that take terms in the same way, and under any of some environments whose fingerprints
tell what they bind.  Two resolutions with such tables are compared, where the second table says what
every resolution of its names comes to.
-/

namespace ScopedTemplate

open Run

theorem Cache.Refuses.isMissingKey {table : Cache} {key : CacheKey} {detectCycles : Bool}
    {limit : Option Int} {failure : Failure} (refuses : table.Refuses key detectCycles limit failure) :
    failure.isMissingKey = false := by
  cases refuses <;> rfl

/-- What begins is not refused. -/
theorem Cache.Begins.not_refuses {table table' : Cache} {key : CacheKey} {detectCycles : Bool}
    {limit : Option Int} {failure : Failure} (begins : table.Begins key detectCycles limit)
    (pending : table.pending = table'.pending) : ¬ table'.Refuses key detectCycles limit failure := by
  intro refuses
  cases refuses with
  | inFlight detects among => exact begins.notInFlight detects (pending ▸ among)
  | tooDeep limited deep =>
      have shallow := begins.shallow _ limited
      rw [pending] at shallow
      omega

/-- A table holds a value for a key. -/
def Cache.Stores (table : Cache) (key : CacheKey) : Prop := ∃ value, table.find? key = some value

/-- Names are bound to the same values. -/
def Environment.BindsAlike (env env' : Environment Term) : Prop :=
  ∀ name, env.lookup? (.ref name) = env'.lookup? (.ref name)

theorem Environment.BindsAlike.target? {env env' : Environment Term} (alike : env.BindsAlike env')
    (kind : TextKind) (name : String) :
    env.target? (.text kind name) = env'.target? (.text kind name) := by
  unfold Environment.target?
  rw [env.lookup?_text, env'.lookup?_text, alike name]

/-- Resolvers, environments, and the terms that are resolved under them. -/
structure Site where
  /-- All resolvers take terms as this one does. -/
  resolver : Resolver Term
  serves : Resolver Term → Prop
  visits : Environment Term → Prop
  meets : Environment Term → Term → Prop

namespace Site

variable (s : Site)

abbrev Value : Term → Prop := s.resolver.IsValue fun _ => True

/-- Two values that are the same but for identity. -/
def Same (value value' : Term) : Prop := s.Value value ∧ value.Resembles value'

/-- The same terms but for identity, which is kept where scopes of defaults are. -/
def Matches (t t' : Term) : Prop :=
  t = t' ∨ t.Resembles t' ∧ s.resolver.Scopeless (fun _ => True) t

/-- Environments that a table cannot tell apart. -/
structure Alongside (env env' : Environment Term) : Prop where
  visits : s.visits env
  visits' : s.visits env'
  overrides : env.overrides = env'.overrides
  fingerprint : env.fingerprint = env'.fingerprint

/--
A value is right for a key if it is what the binding of the name was resolved to with an open table in
which all values are right, at some level of nesting.
-/
inductive Right : CacheKey → Term → Prop where
  | made {resolver : Resolver Term} {env : Environment Term} {name : String}
      {binding value stored : Term} {ceiling : Int} {levels : Nat} {cache : CacheId} {world world' : World}
      (serves : s.serves resolver) (visits : s.visits env)
      (bound : env.target? (.ref name) = some binding) (meets : s.meets env binding)
      (inside : cache < world.caches.length) (isOpen : (world.cache cache).closed = false)
      (isTable : (world.cache cache).standIn = none)
      (right : ∀ {key held}, (world.cache cache).find? key = some held → Right key held)
      (ran : resolveTerm ceiling levels resolver binding env cache world = .ok value world')
      (same : value.Resembles stored) (isValue : s.Value stored) : Right (env.keyOf name) stored

/-- A table can be used, and what it holds is right. -/
structure Sound (table : Cache) : Prop where
  isOpen : table.closed = false
  isTable : table.standIn = none
  right : ∀ {key value}, table.find? key = some value → s.Right key value

/--
Every resolution of the binding behind a key with a sound table comes to a value, unless it fails for
another reason than a missing key, and computes no keys but those that are stored already.
-/
def Sure (stored : CacheKey → Prop) (key : CacheKey) (value : Term) : Prop :=
  ∀ ⦃resolver env name binding ceiling⦄, s.serves resolver → s.visits env → env.keyOf name = key →
    env.target? (.ref name) = some binding → s.meets env binding → ∀ levels cache world,
      cache < world.caches.length → s.Sound (world.cache cache) →
        After (resolveTerm ceiling levels resolver binding env cache) world
          (fun made done => made.Resembles value ∧ cache < done.caches.length ∧
            s.Sound (done.cache cache) ∧
            (done.cache cache).pending = (world.cache cache).pending ∧
            ∀ other, (done.cache cache).Stores other → (world.cache cache).Stores other ∨ stored other)
          fun failure _ => failure.isMissingKey = false

variable {s} {table table' : Cache} {key : CacheKey} {value : Term}

theorem Sure.mono {stored stored' : CacheKey → Prop} (sure : s.Sure stored key value)
    (more : ∀ other, stored other → stored' other) : s.Sure stored' key value := by
  intro resolver env name binding ceiling serves visits same bound meets levels cache world inside sound
  refine (sure serves visits same bound meets levels cache world inside sound).mono ?_ fun _ _ fails => fails
  rintro made done ⟨same, inside', sound', pending, few⟩
  exact ⟨same, inside', sound', pending, fun other stores => (few other stores).imp_right (more other)⟩

theorem Sure.resembles {stored : CacheKey → Prop} (sure : s.Sure stored key value) {value' : Term}
    (same : value.Resembles value') : s.Sure stored key value' := by
  intro resolver env name binding ceiling serves visits same' bound meets levels cache world inside sound
  refine (sure serves visits same' bound meets levels cache world inside sound).mono ?_ fun _ _ fails => fails
  rintro made done ⟨alike, rest⟩
  exact ⟨alike.trans same, rest⟩

/-- What is right for a key is what a sure value is. -/
theorem Sure.agrees {stored : CacheKey → Prop} (sure : s.Sure stored key value) {value' : Term}
    (right : s.Right key value') : value'.Resembles value := by
  cases right with
  | made serves visits bound meets inside isOpen isTable right ran same _ =>
      have ends := (sure serves visits rfl bound meets _ _ _ inside ⟨isOpen, isTable, right⟩).of_ok ran
      exact same.symm.trans ends.1

theorem Right.isValue (right : s.Right key value) : s.Value value := by
  cases right with
  | made _ _ _ _ _ _ _ _ _ _ isValue => exact isValue

theorem Same.trans {value' value'' : Term} (same : s.Same value value')
    (same' : value'.Resembles value'') : s.Same value value'' :=
  ⟨same.1, same.2.trans same'⟩

theorem Same.isValue {value' : Term} (same : s.Same value value') : s.Value value' :=
  same.1.of_resembles same.2

theorem Sound.of_same (sound : s.Sound table) (entries : table'.entries = table.entries)
    (closed : table'.closed = table.closed) (standIn : table'.standIn = table.standIn) :
    s.Sound table' := by
  refine ⟨closed.trans sound.isOpen, standIn.trans sound.isTable, fun found => sound.right ?_⟩
  exact (Cache.find?_congr entries _).symm.trans found

theorem stores_of_same (entries : table'.entries = table.entries) :
    table'.Stores key ↔ table.Stores key := by
  unfold Cache.Stores
  rw [Cache.find?_congr entries]

theorem stores_put {other : CacheKey} : (table.put key value).Stores other ↔
    other = key ∨ table.Stores other := by
  unfold Cache.Stores
  simp only [Cache.find?_put]
  by_cases here : key = other
  · simp [here]
  · simp [here, eq_comm]

theorem Sound.put (sound : s.Sound table) (right : s.Right key value) :
    s.Sound (table.put key value) := by
  refine ⟨sound.isOpen, sound.isTable, fun {other held} found => ?_⟩
  rw [Cache.find?_put] at found
  split at found
  · next same =>
      cases found
      exact same ▸ right
  · exact sound.right found

theorem sound_empty : s.Sound .empty := ⟨rfl, rfl, nofun⟩

theorem Alongside.self {env : Environment Term} (visits : s.visits env) : s.Alongside env env :=
  ⟨visits, visits, rfl, rfl⟩

theorem Alongside.keyOf_eq {env env' : Environment Term} (alongside : s.Alongside env env')
    (name : String) : env.keyOf name = env'.keyOf name := by
  unfold Environment.keyOf
  rw [alongside.fingerprint]

namespace Matches

theorem resembles {t t' : Term} (matched : s.Matches t t') : t.Resembles t' := by
  rcases matched with rfl | ⟨same, -⟩
  · rfl
  · exact same

theorem items {kind kind' : ListKind} {stamp stamp' : Option Stamp} {items items' : List Term}
    (matched : s.Matches (.list kind stamp items) (.list kind' stamp' items'))
    (looked : s.resolver.classifier.kind (.list kind stamp items) = .sequence) :
    List.Forall₂ s.Matches items items' := by
  rcases matched with same | ⟨same, scopeless⟩
  · obtain ⟨-, -, rfl⟩ := Term.list.inj same
    exact List.forall₂_same.2 fun _ _ => .inl rfl
  · obtain ⟨_, _, alike, similar⟩ := same.list
    obtain ⟨-, -, rfl⟩ := Term.list.inj alike
    exact ((List.forall₂_and_left _ _).2 ⟨scopeless.items looked, similar⟩).imp
      fun _ _ same => .inr same.symm

theorem elements {stamp stamp' : Option Stamp} {items items' : List Term}
    (matched : s.Matches (.tuple stamp items) (.tuple stamp' items'))
    (looked : s.resolver.classifier.kind (.tuple stamp items) = .sequence) :
    List.Forall₂ s.Matches items items' := by
  rcases matched with same | ⟨same, scopeless⟩
  · obtain ⟨-, rfl⟩ := Term.tuple.inj same
    exact List.forall₂_same.2 fun _ _ => .inl rfl
  · obtain ⟨_, _, alike, similar⟩ := same.tuple
    obtain ⟨-, rfl⟩ := Term.tuple.inj alike
    exact ((List.forall₂_and_left _ _).2 ⟨scopeless.elements looked, similar⟩).imp
      fun _ _ same => .inr same.symm

theorem values {kind kind' : MapKind} {stamp stamp' : Option Stamp} {entries entries' : Entries}
    (matched : s.Matches (.map kind stamp entries) (.map kind' stamp' entries'))
    (looked : s.resolver.classifier.kind (.map kind stamp entries) = .mapping) :
    Twin.Fields s.Matches entries entries' := by
  rcases matched with same | ⟨same, scopeless⟩
  · obtain ⟨-, -, rfl⟩ := Term.map.inj same
    exact List.forall₂_same.2 fun _ _ => ⟨rfl, .inl rfl⟩
  · obtain ⟨_, _, alike, similar⟩ := same.map
    obtain ⟨-, -, rfl⟩ := Term.map.inj alike
    have each := (List.forall₂_and_left (p := fun entry : Term × Term =>
      s.resolver.Scopeless (fun _ => True) entry.2) _ _).2 ⟨scopeless.values looked, similar⟩
    exact each.imp fun _ _ same => ⟨same.2.1, .inr ⟨same.2.2, same.1⟩⟩

end Matches

end Site

end ScopedTemplate
