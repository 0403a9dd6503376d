import ScopedTemplate.Proofs.Resolver.Fresh
import ScopedTemplate.Proofs.Term.Normal

/-!
# Settled tables

A table is settled if all that it holds is in normal form.  What is in normal form with the events
so far stays so with more of them.
-/

namespace ScopedTemplate

open Run Resolver

def Event.IsNormal (resolver : Resolver Term) (left : Term → Prop) : Event → Prop
  | .applied _ args => ∀ arg ∈ args, Normal resolver left arg
  | .read value => Normal resolver left value
  | .lookup .. | .refused .. | .left .. => True

theorem Event.IsNormal.of_similar {resolver resolver' : Resolver Term} {left : Term → Prop}
    {event : Event} (similar : resolver.Similar resolver') (normal : event.IsNormal resolver left) :
    event.IsNormal resolver' left := by
  cases event with
  | applied function args => exact fun arg member => (normal arg member).of_similar similar
  | read value => exact Normal.of_similar similar normal
  | lookup key env pending served => trivial
  | refused key env => trivial
  | left env reference => trivial

/-- A table holds values in normal form only, and notes such only, since certain events. -/
structure Cache.Settled (resolver : Resolver Term) (since : List Event) (table : Cache) : Prop where
  grown : since <:+ table.events
  entries : ∀ entry ∈ table.entries, Normal resolver (Left table.events) entry.2
  events : ∀ event ∈ table.events, event.IsNormal resolver (Left table.events)

theorem Event.IsNormal.mono {resolver : Resolver Term} {left left' : Term → Prop} {event : Event}
    (normal : event.IsNormal resolver left) (imp : ∀ t, left t → left' t) :
    event.IsNormal resolver left' := by
  cases event with
  | applied function args => exact fun arg member => (normal arg member).mono imp
  | read value => exact Normal.mono normal imp
  | lookup key env pending served => trivial
  | refused key env => trivial
  | left env reference => trivial

namespace Cache.Settled

variable {resolver : Resolver Term} {since : List Event} {table table' : Cache}

theorem of_similar {resolver' : Resolver Term} (similar : resolver.Similar resolver')
    (settled : table.Settled resolver since) : table.Settled resolver' since :=
  ⟨settled.grown, fun entry member => (settled.entries entry member).of_similar similar,
    fun event member => (settled.events event member).of_similar similar⟩

/-- A table stays settled if what is added is in normal form. -/
theorem add (settled : table.Settled resolver since) {event : Event}
    (noted : table'.events = event :: table.events)
    (normal : event.IsNormal resolver (Left table'.events))
    (stored : ∀ entry ∈ table'.entries, entry ∈ table.entries) :
    table'.Settled resolver since := by
  have suffix : table.events <:+ table'.events := by
    rw [noted]
    exact List.suffix_cons _ _
  have later : ∀ t, Left table.events t → Left table'.events t := fun t => Left.suffix suffix
  refine ⟨settled.grown.trans suffix, ?_, ?_⟩
  · intro entry member
    exact (settled.entries entry (stored entry member)).mono later
  · intro other member
    rw [noted] at member
    rcases List.mem_cons.1 member with rfl | earlier
    · exact normal
    · exact (settled.events other earlier).mono later

theorem put (settled : table.Settled resolver since) {key : CacheKey} {value : Term}
    (normal : Normal resolver (Left table.events) value) :
    (table.put key value).Settled resolver since := by
  refine ⟨settled.grown, ?_, settled.events⟩
  intro entry member
  rcases Cache.mem_store member with rfl | before
  · exact normal
  · exact settled.entries entry before

theorem find? (settled : table.Settled resolver since) {key : CacheKey} {value : Term}
    (found : table.find? key = some value) : Normal resolver (Left table.events) value :=
  settled.entries _ (Cache.mem_of_find? found)

end Cache.Settled

namespace Custody

/-- The custody of a table in a certain state, with earlier events as its index. -/
def lasting (cache : CacheId) (shared : Prop) (allows : Resolver Term → Prop)
    (holds : List Event → Cache → Prop) : Custody where
  cache := cache
  shared := shared
  allows := allows
  Index := List Event
  holds := fun since table _ => holds since table
  broken := fun since table _ => holds since table
  broken_of_holds := id
  holds_of_caught := fun _ settled => settled

def normal (cache : CacheId) (shared : Prop) (resolver : Resolver Term) : Custody :=
  lasting cache shared resolver.Similar fun since table => table.Settled resolver since

variable {cache : CacheId} {shared : Prop} {resolver : Resolver Term} {since : List Event}

theorem Held.earlier {since' : List Event} {world : World}
    (held : (normal cache shared resolver).Held since' world) (suffix : since <:+ since') :
    (normal cache shared resolver).Held since world :=
  ⟨held.toSafeWorld, ⟨suffix.trans held.holds.grown, held.holds.entries, held.holds.events⟩⟩

theorem Broken.earlier {since' : List Event} {world : World}
    (left : (normal cache shared resolver).Broken since' world) (suffix : since <:+ since') :
    (normal cache shared resolver).Broken since world :=
  ⟨left.toSafeWorld, ⟨suffix.trans left.broken.grown, left.broken.entries, left.broken.events⟩⟩

/-- What holds of the value of a run may depend on the events up to its end. -/
def Yields {α : Type} (cache : CacheId) (shared : Prop) (resolver : Resolver Term) (since : List Event)
    (run : Run α) (post : α → List Event → Prop) : Prop :=
  ∀ world, (normal cache shared resolver).Held since world →
    After run world
      (fun value world' =>
        (normal cache shared resolver).Held since world' ∧ post value (world'.cache cache).events)
      fun _ world' => (normal cache shared resolver).Broken since world'

namespace Yields

variable {α β : Type} {post : α → List Event → Prop} {post' : β → List Event → Prop}

theorem pure {value : α} (holds : ∀ later, since <:+ later → post value later) :
    Yields cache shared resolver since (pure value) post :=
  fun _ held => after_pure.2 ⟨held, holds _ held.holds.grown⟩

theorem throw (failure : Failure) :
    Yields cache shared resolver since (throw failure : Run α) post :=
  fun _ held => after_throw.2 held.toBroken

/-- The second run begins with the events of the first one. -/
theorem bind {first : Run α} {next : α → Run β} (yields : Yields cache shared resolver since first post)
    (then_yields : ∀ value later, since <:+ later → post value later →
      Yields cache shared resolver later (next value) post') :
    Yields cache shared resolver since (first >>= next) post' := by
  intro world held
  refine after_bind.2 ((yields world held).mono ?_ fun _ _ left => left)
  rintro value world' ⟨held', holds⟩
  have grown := held'.holds.grown
  have again : (normal cache shared resolver).Held (world'.cache cache).events world' :=
    ⟨held'.toSafeWorld, ⟨List.suffix_refl _, held'.holds.entries, held'.holds.events⟩⟩
  refine (then_yields value _ grown holds world' again).mono ?_ ?_
  · rintro value' world'' ⟨held'', holds'⟩
    exact ⟨held''.earlier grown, holds'⟩
  · intro failure world'' left
    exact left.earlier grown

theorem mono {run : Run α} {weaker : α → List Event → Prop}
    (yields : Yields cache shared resolver since run post)
    (imp : ∀ value later, since <:+ later → post value later → weaker value later) :
    Yields cache shared resolver since run weaker := by
  intro world held
  refine (yields world held).mono ?_ fun _ _ left => left
  rintro value world' ⟨held', holds⟩
  exact ⟨held', imp value _ held'.holds.grown holds⟩

theorem ofKeeps {run : Run α} {post : α → Prop}
    (keeps : (normal cache shared resolver).Keeps run post) :
    Yields cache shared resolver since run fun value _ => post value :=
  fun world held => keeps since world held

theorem toKeeps (post : α → List Event → Prop) {run : Run α} {post' : α → Prop}
    (yields : ∀ since, Yields cache shared resolver since run post)
    (imp : ∀ value later, post value later → post' value) :
    (normal cache shared resolver).Keeps run post' := by
  intro since world held
  refine (yields since world held).mono ?_ fun _ _ left => left
  rintro value world' ⟨held', holds⟩
  exact ⟨held', imp value _ holds⟩

end Yields

def Good (cache : CacheId) (shared : Prop) (resolver : Resolver Term) (value : Term)
    (events : List Event) : Prop :=
  (normal cache shared resolver).Safe value ∧ Normal resolver (Left events) value

theorem Good.suffix {value : Term} {events later : List Event}
    (good : Good cache shared resolver value events) (suffix : events <:+ later) :
    Good cache shared resolver value later :=
  ⟨good.1, good.2.suffix suffix⟩

/-- A resolution keeps the custody, and what it gives with the table is in normal form. -/
structure Normalizes (cache : CacheId) (shared : Prop) (resolver : Resolver Term)
    (resolution : Resolution) : Prop where
  resolves : (normal cache shared resolver).Resolves resolution
  yields : ∀ {other}, resolver.Similar other → ∀ {t env} since, (normal cache shared resolver).Safe t →
    env.Each (normal cache shared resolver).Safe →
      Yields cache shared resolver since (resolution other t env cache) (Good cache shared resolver)

/-- The custody is the same for similar resolvers. -/
theorem normal_eq_of_similar {other : Resolver Term} (similar : resolver.Similar other) :
    normal cache shared resolver = normal cache shared other := by
  have allows : resolver.Similar = other.Similar :=
    funext fun _ => propext ⟨similar.symm.trans, similar.trans⟩
  have settled : (fun (since : List Event) (table : Cache) => table.Settled resolver since) =
      fun since table => table.Settled other since :=
    funext fun _ => funext fun _ => propext ⟨.of_similar similar, .of_similar similar.symm⟩
  unfold normal
  rw [allows, settled]

theorem Held.of_similar {other : Resolver Term} {world : World} (similar : resolver.Similar other)
    (held : (normal cache shared resolver).Held since world) :
    (normal cache shared other).Held since world where
  toSafeWorld := normal_eq_of_similar similar ▸ held.toSafeWorld
  holds := Cache.Settled.of_similar similar held.holds

theorem Broken.of_similar {other : Resolver Term} {world : World} (similar : resolver.Similar other)
    (left : (normal cache shared resolver).Broken since world) :
    (normal cache shared other).Broken since world where
  toSafeWorld := normal_eq_of_similar similar ▸ left.toSafeWorld
  broken := Cache.Settled.of_similar similar left.broken

theorem Good.of_similar {other : Resolver Term} {value : Term} {events : List Event}
    (similar : resolver.Similar other) (good : Good cache shared resolver value events) :
    Good cache shared other value events :=
  ⟨normal_eq_of_similar similar ▸ good.1, good.2.of_similar similar⟩

theorem Yields.of_similar {other : Resolver Term} {run : Run Term} (similar : resolver.Similar other)
    (yields : Yields cache shared resolver since run (Good cache shared resolver)) :
    Yields cache shared other since run (Good cache shared other) := by
  intro world held
  refine (yields world (held.of_similar similar.symm)).mono ?_ fun _ _ left => left.of_similar similar
  exact fun _ _ ends => ⟨ends.1.of_similar similar, ends.2.of_similar similar⟩

theorem Normalizes.of_similar {resolution : Resolution} {other : Resolver Term}
    (normalizes : Normalizes cache shared resolver resolution) (similar : resolver.Similar other) :
    Normalizes cache shared other resolution where
  resolves := normal_eq_of_similar similar ▸ normalizes.resolves
  yields := by
    intro another similar' t env since safe bindings
    rw [← normal_eq_of_similar similar] at safe bindings
    exact (normalizes.yields (similar.trans similar') since safe bindings).of_similar similar

end Custody

end ScopedTemplate
