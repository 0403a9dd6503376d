import ScopedTemplate.Resolver.Resolve

/-!
# What holds after a run

A run ends with a value or a failure, and with a world in both cases.  `After` says what holds of
either end, so that a statement about a composed run is composed of statements about its parts.
-/

namespace ScopedTemplate.World

variable (world : World)

def change (id : CacheId) (change : Cache → Cache) : World := world.setCache id (change (world.cache id))

/-- A table that is changed is found changed. -/
theorem cache_change {id : CacheId} (inside : id < world.caches.length) (change : Cache → Cache) :
    (world.change id change).cache id = change (world.cache id) := by
  simp [World.change, cache, setCache, inside]

/-- Changing one table leaves the others. -/
theorem cache_change_of_ne {id other : CacheId} (differ : id ≠ other) (change : Cache → Cache) :
    (world.change id change).cache other = world.cache other := by
  simp [World.change, cache, setCache, List.getElem?_set_ne differ]

/-- A table that is added leaves the others. -/
theorem cache_append (table : Cache) {id : CacheId} (inside : id < world.caches.length) :
    World.cache { world with caches := world.caches ++ [table] } id = world.cache id := by
  simp [cache, List.getElem?_append_left inside]

@[simp] theorem length_change (id : CacheId) (change : Cache → Cache) :
    (world.change id change).caches.length = world.caches.length := by
  simp [World.change, setCache]

@[simp] theorem active_change (id : CacheId) (change : Cache → Cache) :
    (world.change id change).active = world.active := rfl

@[simp] theorem caught_change (id : CacheId) (change : Cache → Cache) :
    (world.change id change).caught = world.caught := rfl

end ScopedTemplate.World

namespace ScopedTemplate.Run

variable {α β : Type}

/-- `ok` holds of the value and the world that a run ends with, `failed` of a failure and its world. -/
def After (run : Run α) (world : World) (ok : α → World → Prop)
    (failed : Failure → World → Prop) : Prop :=
  match run world with
  | .ok value world => ok value world
  | .error failure world => failed failure world

section

variable {world : World} {ok ok' : α → World → Prop} {failed failed' : Failure → World → Prop}

theorem After.of_ok {run : Run α} (holds : After run world ok failed) {value : α} {world' : World}
    (ends : run world = .ok value world') : ok value world' := by
  unfold After at holds
  rw [ends] at holds
  exact holds

theorem After.of_error {run : Run α} (holds : After run world ok failed) {failure : Failure}
    {world' : World} (ends : run world = .error failure world') : failed failure world' := by
  unfold After at holds
  rw [ends] at holds
  exact holds

theorem After.mono {run : Run α} (holds : After run world ok failed)
    (ok_imp : ∀ value world, ok value world → ok' value world)
    (failed_imp : ∀ failure world, failed failure world → failed' failure world) :
    After run world ok' failed' := by
  unfold After at holds ⊢
  cases ends : run world with
  | ok value world' =>
      rw [ends] at holds
      exact ok_imp value world' holds
  | error failure world' =>
      rw [ends] at holds
      exact failed_imp failure world' holds

theorem After.and {run : Run α} (holds : After run world ok failed)
    (holds' : After run world ok' failed') :
    After run world (fun value world => ok value world ∧ ok' value world)
      fun failure world => failed failure world ∧ failed' failure world := by
  unfold After at holds holds' ⊢
  cases ends : run world with
  | ok value world' =>
      rw [ends] at holds holds'
      exact ⟨holds, holds'⟩
  | error failure world' =>
      rw [ends] at holds holds'
      exact ⟨holds, holds'⟩

theorem after_pure {value : α} : After (pure value) world ok failed ↔ ok value world := Iff.rfl

theorem after_throw {failure : Failure} :
    After (throw failure : Run α) world ok failed ↔ failed failure world := Iff.rfl

theorem after_bind {first : Run α} {next : α → Run β} {ok : β → World → Prop} :
    After (first >>= next) world ok failed ↔
      After first world (fun value world => After (next value) world ok failed) failed := by
  unfold After
  simp only [bind, EStateM.bind]
  cases first world <;> rfl

theorem after_get {ok : World → World → Prop} :
    After (get : Run World) world ok failed ↔ ok world world := Iff.rfl

theorem after_modify {change : World → World} {ok : Unit → World → Prop} :
    After (modify change : Run Unit) world ok failed ↔ ok () (change world) := Iff.rfl

theorem after_ofResult {result : Except Failure α} :
    After (ofResult result) world ok failed ↔
      (∀ value, result = .ok value → ok value world) ∧
        ∀ failure, result = .error failure → failed failure world := by
  cases result with
  | ok value => simp [ofResult, after_pure]
  | error failure => simp [ofResult, after_throw]

theorem after_recover {run : Run Term} {handler : Failure → Option (Run Term)}
    {ok : Term → World → Prop} :
    After (recover run handler) world ok failed ↔
      After run world ok fun failure world =>
        match handler failure with
        | some next => After next world ok failed
        | none => failed failure world := by
  unfold After recover
  cases run world with
  | ok value world' => rfl
  | error failure world' =>
      dsimp only
      cases handler failure <;> rfl

/-- What is run at the end runs whether the body failed or not. -/
theorem after_andThen {run : Run Term} {last : Run Unit} {ok : Term → World → Prop} :
    After (andThen run last) world ok failed ↔
      After run world (fun value world => After last world (fun _ => ok value) failed)
        fun failure world => After last world (fun _ => failed failure) failed := by
  unfold After andThen
  cases run world with
  | ok value world' =>
      dsimp only
      cases last world' <;> rfl
  | error failure world' =>
      dsimp only
      cases last world' <;> rfl

theorem after_cache {id : CacheId} {ok : Cache → World → Prop} :
    After (cache id) world ok failed ↔ ok (world.cache id) world := Iff.rfl

theorem after_changeCache {id : CacheId} {change : Cache → Cache} {ok : Unit → World → Prop} :
    After (changeCache id change) world ok failed ↔
      ok () (world.change id change) := Iff.rfl

end

end ScopedTemplate.Run
