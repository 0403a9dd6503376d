import ScopedTemplate.Proofs.Run.Discipline

/-!
# Custody of a table

User code reaches memo tables only through resolutions and through views.  A custody names one
table, the resolvers that may work with it, and what is to hold of the table; a run keeps the custody
if that still holds after it.  A run that fails may leave less behind, which is made good as soon as
the failure is caught.  This is a discipline under which functions may do whatever they like, but for
resolutions with the table under settings of another kind.
-/

namespace ScopedTemplate

/-- What is to hold of a table and of the failures that were caught. -/
structure Custody where
  cache : CacheId
  /-- The resolvers that may work with the table. -/
  allows : Resolver Term → Prop
  /-- Whether the table is the one that resolutions share. -/
  shared : Prop
  /-- What may be different from one run to another. -/
  Index : Type
  holds : Index → Cache → List Failure → Prop
  /-- What holds after a failure. -/
  broken : Index → Cache → List Failure → Prop
  broken_of_holds : ∀ {index table caught}, holds index table caught → broken index table caught
  holds_of_caught : ∀ {index table caught} (failure : Failure),
    broken index table caught → holds index table (failure :: caught)

namespace Custody

variable (custody : Custody)

def Admits (resolver : Resolver Term) (cache : CacheId) : Prop :=
  cache = custody.cache → custody.allows resolver

/-- With the table functions may ask for resolutions under settings that may work with it. -/
def Asks (config : Option Config) (given : Option CacheId) : Prop :=
  given = some custody.cache ∨ given = none ∧ custody.shared →
    ∀ resolver, Resolver.MadeWith config resolver → custody.allows resolver

/-- The views and the functions in a term keep to the resolvers that may work with the table. -/
def Safe (t : Term) : Prop :=
  t.OnlyViews custody.Admits ∧ t.OnlyBodies fun _ body => body.AsksOnly custody.Asks

theorem safe_hereditary : Term.Hereditary custody.Safe :=
  (Term.onlyViews_hereditary _).and
    (Term.onlyBodies_hereditary fun r _ _ asks => Body.AsksOnly.renewBody r asks)

variable {custody} in
theorem Safe.detach {t : Term} (safe : custody.Safe t) (next : Stamp) :
    custody.Safe (t.detach next).1 := custody.safe_hereditary.detach safe next

/-- A resolver that may be used, with rules that put in safe terms only. -/
structure Fits (resolver : Resolver Term) (cache : CacheId) : Prop where
  admits : custody.Admits resolver cache
  replacements : ∀ t ∈ resolver.replacements, custody.Safe t

/-- What is stored is safe, and the table is shared only if it may be. -/
structure SafeWorld (world : World) : Prop where
  inside : custody.cache < world.caches.length
  stored : world.Stores custody.Safe
  shared : world.active = some custody.cache → custody.shared

/-- The custody of a world between runs. -/
structure Held (index : custody.Index) (world : World) : Prop extends custody.SafeWorld world where
  holds : custody.holds index (world.cache custody.cache) world.caught

/-- The custody of a world after a failure. -/
structure Broken (index : custody.Index) (world : World) : Prop extends
    custody.SafeWorld world where
  broken : custody.broken index (world.cache custody.cache) world.caught

end Custody

/-! ## Runs that keep a custody -/

namespace Custody

open Run

variable {custody : Custody}

theorem SafeWorld.of_same {world world' : World} (safe : custody.SafeWorld world)
    (same : World.SameTables world world') : custody.SafeWorld world' where
  inside := by
    rw [same.caches]
    exact safe.inside
  stored := by
    unfold World.Stores
    rw [same.caches]
    exact safe.stored
  shared := by
    rw [same.active]
    exact safe.shared

theorem Held.of_same {index : custody.Index} {world world' : World}
    (held : custody.Held index world) (same : World.SameTables world world') :
    custody.Held index world' where
  toSafeWorld := held.toSafeWorld.of_same same
  holds := by
    rw [same.cache_eq, same.caught]
    exact held.holds

theorem Broken.of_same {index : custody.Index} {world world' : World}
    (left : custody.Broken index world) (same : World.SameTables world world') :
    custody.Broken index world' where
  toSafeWorld := left.toSafeWorld.of_same same
  broken := by
    rw [same.cache_eq, same.caught]
    exact left.broken

theorem Held.toBroken {index : custody.Index} {world : World} (held : custody.Held index world) :
    custody.Broken index world :=
  ⟨held.toSafeWorld, custody.broken_of_holds held.holds⟩

/-- What a failure left broken is made good when it is caught. -/
theorem Broken.noteCaught {index : custody.Index} {world : World}
    (left : custody.Broken index world) (failure : Failure) :
    custody.Held index { world with caught := failure :: world.caught } where
  inside := left.inside
  stored := left.stored
  shared := left.shared
  holds := custody.holds_of_caught failure left.broken

def discipline (custody : Custody) : Discipline where
  safe := custody.Safe
  hereditary := custody.safe_hereditary
  given := custody.Safe
  given_of_safe := id
  safe_of_given := fun safe _ => safe
  bindings := custody.safe_hereditary.view
  asks := custody.Asks
  opens := True
  Index := custody.Index
  holds := custody.Held
  broken := fun index _ world => custody.Broken index world
  holds_of_same := Held.of_same
  broken_of_holds := fun held _ => held.toBroken
  broken_of_same := fun left same _ => left.of_same same
  holds_of_caught := fun left => left.noteCaught _

def Keeps (custody : Custody) {α : Type} (run : Run α) (post : α → Prop) : Prop :=
  custody.discipline.Keeps run post

namespace Keeps

variable {α : Type} {post : α → Prop}

theorem quiet {run : Run α} (quiet : Quiet run post) : custody.Keeps run post := by
  intro index world held
  refine (quiet world).mono ?_ ?_
  · rintro value world' ⟨same, holds⟩
    exact ⟨Held.of_same held same, holds⟩
  · intro failure world' same
    exact (Held.of_same held same).toBroken

/-- Any failure is the same to a custody. -/
theorem throw (failure : Failure) : custody.Keeps (throw failure : Run α) post :=
  quiet (Quiet.throw failure)

theorem ofResult {result : Except Failure α} (holds : ∀ value, result = .ok value → post value) :
    custody.Keeps (ofResult result) post :=
  quiet (Quiet.ofResult holds)

end Keeps

/-! ## Changes of tables -/

/-- What is stored in a table, or in a place without one, is safe. -/
theorem SafeWorld.entries {world : World} (safe : custody.SafeWorld world) (id : CacheId) :
    ∀ entry ∈ (world.cache id).entries, custody.Safe entry.2 := safe.stored.entries id

theorem SafeWorld.change {world : World} (safe : custody.SafeWorld world) {id : CacheId}
    {change : Cache → Cache}
    (stored : ∀ entry ∈ (change (world.cache id)).entries, custody.Safe entry.2) :
    custody.SafeWorld (world.change id change) where
  inside := by
    rw [World.length_change]
    exact safe.inside
  stored := safe.stored.change stored
  shared := safe.shared

theorem Held.changeOther {index : custody.Index} {world : World} (held : custody.Held index world)
    {id : CacheId} (other : id ≠ custody.cache) {change : Cache → Cache}
    (stored : ∀ entry ∈ (change (world.cache id)).entries, custody.Safe entry.2) :
    custody.Held index (world.change id change) where
  toSafeWorld := held.toSafeWorld.change stored
  holds := by
    rw [world.cache_change_of_ne other]
    exact held.holds

theorem Broken.changeOther {index : custody.Index} {world : World}
    (left : custody.Broken index world) {id : CacheId} (other : id ≠ custody.cache)
    {change : Cache → Cache}
    (stored : ∀ entry ∈ (change (world.cache id)).entries, custody.Safe entry.2) :
    custody.Broken index (world.change id change) where
  toSafeWorld := left.toSafeWorld.change stored
  broken := by
    rw [world.cache_change_of_ne other]
    exact left.broken

theorem SafeWorld.addCache {world : World} (safe : custody.SafeWorld world) :
    custody.SafeWorld { world with caches := world.caches ++ [.empty] } where
  inside := by
    rw [List.length_append]
    exact Nat.lt_add_right _ safe.inside
  stored := safe.stored.addCache
  shared := safe.shared

theorem Held.addCache {index : custody.Index} {world : World} (held : custody.Held index world) :
    custody.Held index { world with caches := world.caches ++ [.empty] } where
  toSafeWorld := held.toSafeWorld.addCache
  holds := by
    rw [World.cache_append world .empty held.inside]
    exact held.holds

/-- Another table may be shared. -/
theorem Held.share {index : custody.Index} {world : World} (held : custody.Held index world)
    {active : Option CacheId} (shared : active = some custody.cache → custody.shared) :
    custody.Held index { world with active := active } :=
  ⟨⟨held.inside, held.stored, shared⟩, held.holds⟩

theorem Broken.share {index : custody.Index} {world : World} (left : custody.Broken index world)
    {active : Option CacheId} (shared : active = some custody.cache → custody.shared) :
    custody.Broken index { world with active := active } :=
  ⟨⟨left.inside, left.stored, shared⟩, left.broken⟩

/-- The table itself may be changed from one index to another. -/
theorem SafeWorld.heldAfter {world : World} (safe : custody.SafeWorld world)
    {index : custody.Index} {change : Cache → Cache}
    (stored : ∀ entry ∈ (change (world.cache custody.cache)).entries, custody.Safe entry.2)
    (holds : custody.holds index (change (world.cache custody.cache)) world.caught) :
    custody.Held index (world.change custody.cache change) where
  toSafeWorld := safe.change stored
  holds := by
    rw [world.cache_change safe.inside]
    exact holds

theorem SafeWorld.brokenAfter {world : World} (safe : custody.SafeWorld world)
    {index : custody.Index} {change : Cache → Cache}
    (stored : ∀ entry ∈ (change (world.cache custody.cache)).entries, custody.Safe entry.2)
    (broken : custody.broken index (change (world.cache custody.cache)) world.caught) :
    custody.Broken index (world.change custody.cache change) where
  toSafeWorld := safe.change stored
  broken := by
    rw [world.cache_change safe.inside]
    exact broken

namespace Keeps

/-- A change of another table keeps the custody if only safe values are stored in it. -/
theorem changeOther {id : CacheId} (other : id ≠ custody.cache) {change : Cache → Cache}
    (stored : ∀ table, (∀ entry ∈ table.entries, custody.Safe entry.2) →
      ∀ entry ∈ (change table).entries, custody.Safe entry.2) :
    custody.Keeps (changeCache id change) fun _ => True := by
  intro index world held
  refine after_changeCache.2 ⟨held.changeOther other ?_, trivial⟩
  exact stored _ (held.entries id)

theorem recordOther {id : CacheId} (other : id ≠ custody.cache) (event : Event) :
    custody.Keeps (record id event) fun _ => True :=
  changeOther other fun _ safe => safe

/-- A computation that is memoized in another table keeps the custody if it does so itself. -/
theorem memoizeOther {id : CacheId} (other : id ≠ custody.cache) {name : Term}
    {env : Environment Term} {detectCycles : Bool} {limit : Option Int} {compute : Run Term}
    (keeps : custody.Keeps compute custody.Safe) :
    custody.Keeps (memoize id name env detectCycles limit compute) custody.Safe := by
  intro index world held
  apply after_memoize
  · rintro value world' world'' same ⟨held', safe⟩
    exact ⟨held'.of_same same, safe⟩
  · intro failure _
    exact held.toBroken
  · intro failure _
    exact (held.changeOther other (held.entries id)).toBroken
  · intro value found next
    have safe := Cache.of_find? (held.entries id) found
    exact ⟨held.changeOther other (held.entries id), safe.detach next⟩
  · intro _ entered same
    have enters := (held.changeOther other (held.entries id)).of_same same
    refine (keeps index entered enters).mono ?_ ?_
    · rintro value done ⟨held', safe⟩ next
      have left : custody.Held index (done.change id Cache.leave) :=
        held'.changeOther other (held'.entries id)
      refine ⟨left.changeOther other ?_, safe⟩
      exact Cache.forall_put (left.entries id) (safe.detach next)
    · intro failure done broken
      exact broken.changeOther other (broken.entries id)

/-- The table of a block is another one. -/
theorem within {body : Run Term} (keeps : custody.Keeps body custody.Safe) :
    custody.Keeps (Block.within body) custody.Safe := by
  intro index world (held : custody.Held index world)
  have other : world.caches.length ≠ custody.cache := (Nat.ne_of_lt held.inside).symm
  have enters : custody.Held index world.entered :=
    held.addCache.share fun same => absurd (Option.some.inj same) other
  refine after_within ((keeps index world.entered enters).mono ?_ ?_)
  · rintro value done ⟨ends, safe⟩ noted same
    have left := (Held.share ends held.shared).of_same same
    exact ⟨left.changeOther other fun entry member => absurd member List.not_mem_nil, safe⟩
  · intro failure done ends noted same
    have left := (Broken.share ends held.shared).of_same same
    exact left.changeOther other fun entry member => absurd member List.not_mem_nil

end Keeps

end Custody

end ScopedTemplate
