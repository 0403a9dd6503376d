import ScopedTemplate.Proofs.Run.Memo

/-!
# Runs forget nothing

The events of a table, the values in it while it is open and the failures that were caught are never
taken back, and the table that resolutions share stays the same.  That a run forgets nothing follows from its parts, so it is a class, and the instances
below follow the definitions.
-/

namespace ScopedTemplate

open Run

/-- What was in a table is still there, unless the table was closed. -/
structure Cache.Grown (before after : Cache) : Prop where
  events : before.events <:+ after.events
  closed : before.closed = true → after.closed = true
  stored : after.closed = false → ∀ key value, before.find? key = some value →
    after.find? key = some value

namespace Cache.Grown

theorem refl (table : Cache) : table.Grown table :=
  ⟨List.suffix_refl _, id, fun _ _ _ found => found⟩

theorem trans {first second third : Cache} (before : first.Grown second)
    (after : second.Grown third) : first.Grown third := by
  refine ⟨before.events.trans after.events, after.closed ∘ before.closed, ?_⟩
  intro isOpen key value found
  have wasOpen : second.closed = false := by
    cases closed : second.closed with
    | false => rfl
    | true =>
        rw [after.closed closed] at isOpen
        cases isOpen
  exact after.stored isOpen key value (before.stored wasOpen key value found)

/-- A change that leaves the values alone may note what happened. -/
theorem noted {before after : Cache} (events : before.events <:+ after.events)
    (closed : after.closed = before.closed) (entries : after.entries = before.entries) :
    before.Grown after := by
  refine ⟨events, closed.trans, fun _ key value found => ?_⟩
  exact (Cache.find?_congr entries key).trans found

/-- A value may be put where there was none. -/
theorem put {before after : Cache} (grown : before.Grown after) {key : CacheKey}
    (missing : before.find? key = none) (value : Term) : before.Grown (after.put key value) := by
  refine ⟨grown.events, grown.closed, fun isOpen other stored found => ?_⟩
  rw [Cache.find?_put, if_neg ?_]
  · exact grown.stored isOpen other stored found
  · rintro rfl
    rw [missing] at found
    cases found

end Cache.Grown

/-- What was noted in one world is still there in another. -/
structure World.Grown (before after : World) : Prop where
  tables : ∀ id, (before.cache id).Grown (after.cache id)
  length : before.caches.length ≤ after.caches.length
  caught : before.caught.length ≤ after.caught.length
  active : after.active = before.active

namespace World.Grown

theorem refl (world : World) : World.Grown world world :=
  ⟨fun _ => .refl _, Nat.le_refl _, Nat.le_refl _, rfl⟩

theorem trans {first second third : World} (before : World.Grown first second)
    (after : World.Grown second third) : World.Grown first third :=
  ⟨fun id => (before.tables id).trans (after.tables id), Nat.le_trans before.length after.length,
    Nat.le_trans before.caught after.caught, after.active.trans before.active⟩

theorem of_same {before after : World} (same : World.SameTables before after) :
    World.Grown before after := by
  refine ⟨fun id => ?_, Nat.le_of_eq (congrArg List.length same.caches.symm),
    Nat.le_of_eq (congrArg List.length same.caught.symm), same.active⟩
  unfold World.cache
  rw [same.caches]
  exact .refl _

theorem change {before after : World} (grown : World.Grown before after) {id : CacheId}
    {change : Cache → Cache} (table : (before.cache id).Grown (change (after.cache id))) :
    World.Grown before (after.change id change) := by
  refine ⟨fun other => ?_, ?_, grown.caught, grown.active⟩
  · by_cases same : id = other
    · subst same
      by_cases inside : id < after.caches.length
      · rw [after.cache_change inside]
        exact table
      · have missing : (after.change id change).cache id = after.cache id := by
          have outside := Nat.not_lt.1 inside
          simp [World.change, World.setCache, World.cache, List.set_eq_of_length_le outside]
        rw [missing]
        exact grown.tables id
    · rw [after.cache_change_of_ne same]
      exact grown.tables other
  · rw [World.length_change]
    exact grown.length

theorem addCache (world : World) :
    World.Grown world { world with caches := world.caches ++ [.empty] } := by
  refine ⟨fun id => ?_, by simp, Nat.le_refl _, rfl⟩
  by_cases inside : id < world.caches.length
  · rw [world.cache_append _ inside]
    exact .refl _
  · have missing : world.cache id = .empty := by
      unfold World.cache
      rw [List.getD_eq_getElem?_getD, List.getElem?_eq_none (Nat.not_lt.1 inside)]
      rfl
    have isEmpty : World.cache { world with caches := world.caches ++ [.empty] } id = .empty := by
      unfold World.cache
      rw [List.getD_eq_getElem?_getD, List.getElem?_append_right (Nat.not_lt.1 inside)]
      cases place : id - world.caches.length <;> rfl
    rw [missing, isEmpty]
    exact .refl _

end World.Grown

/-- A run forgets nothing, however it ends. -/
class Run.Grows {α : Type} (run : Run α) : Prop where
  after : ∀ world, After run world (fun _ => World.Grown world) fun _ => World.Grown world

namespace Run.Grows

variable {α β : Type}

instance pure {value : α} : Grows (pure value : Run α) := ⟨fun world => .refl world⟩

instance throw {failure : Failure} : Grows (throw failure : Run α) := ⟨fun world => .refl world⟩

instance bind {first : Run α} {next : α → Run β} [one : Grows first]
    [others : ∀ value, Grows (next value)] : Grows (first >>= next) := by
  refine ⟨fun world => after_bind.2 ((one.after world).mono ?_ fun _ _ grown => grown)⟩
  intro value world' grown
  exact ((others value).after world').mono (fun _ _ more => grown.trans more)
    fun _ _ more => grown.trans more

instance map {run : Run α} {change : α → β} [grows : Grows run] : Grows (change <$> run) := by
  rw [← bind_pure_comp]
  infer_instance

theorem of_same {run : Run α} (same : ∀ world, After run world
    (fun _ => World.SameTables world) fun _ => World.SameTables world) : Grows run :=
  ⟨fun world => (same world).mono (fun _ _ => .of_same) fun _ _ => .of_same⟩

instance get : Grows (get : Run World) := ⟨fun world => .refl world⟩

instance cache {id : CacheId} : Grows (cache id) := ⟨fun world => .refl world⟩

instance ofResult {result : Except Failure α} : Grows (ofResult result) := by
  cases result with
  | ok value => exact pure
  | error failure => exact throw

instance log {level : Level} {message : String} : Grows (log level message) :=
  of_same fun _ => ⟨rfl, rfl, rfl⟩

instance recordCall {stamp : Stamp} {label : String} : Grows (recordCall stamp label) :=
  of_same fun _ => ⟨rfl, rfl, rfl⟩

instance takeStamps {count : Nat} : Grows (takeStamps count) := of_same fun _ => ⟨rfl, rfl, rfl⟩

instance collectionStamp {size : Nat} : Grows (collectionStamp size) := by
  unfold Run.collectionStamp
  split <;> infer_instance

instance makeList {items : List Term} : Grows (makeList items) := by
  unfold Run.makeList
  infer_instance

instance makeTuple {items : List Term} : Grows (makeTuple items) := by
  unfold Run.makeTuple
  infer_instance

instance makeMap {entries : Entries} : Grows (makeMap entries) := by
  unfold Run.makeMap
  infer_instance

instance checkTable {table : Cache} {field : String} : Grows (checkTable table field) := by
  unfold Run.checkTable
  split <;> infer_instance

instance chain {id : CacheId} : Grows (chain id) := by
  unfold Run.chain
  infer_instance

instance snapshot {env : Environment Term} : Grows (snapshot env) := by
  unfold Run.snapshot
  split <;> infer_instance

instance written {t : Term} : Grows (written t) := by
  unfold Run.written
  split <;> infer_instance

instance inlineText {t : Term} : Grows (inlineText t) := by
  unfold Run.inlineText
  split <;> infer_instance

theorem changeCache {id : CacheId} {change : Cache → Cache}
    (grown : ∀ table : Cache, table.Grown (change table)) : Grows (changeCache id change) :=
  ⟨fun world => (World.Grown.refl world).change (grown _)⟩

instance record {id : CacheId} {event : Event} : Grows (record id event) :=
  changeCache fun _ => .noted (List.suffix_cons _ _) rfl rfl

instance leave {id : CacheId} : Grows (Run.changeCache id Cache.leave) :=
  changeCache fun _ => .noted (List.suffix_refl _) rfl rfl

instance close {id : CacheId} : Grows (closeCache id) := by
  have closes : Grows (Run.changeCache id Cache.close) :=
    changeCache fun _ => ⟨List.suffix_refl _, fun _ => rfl, nofun⟩
  unfold Run.closeCache
  infer_instance

instance noteCaught {failure : Failure} : Grows (noteCaught failure) :=
  ⟨fun _ => ⟨fun _ => .refl _, Nat.le_refl _, Nat.le_succ _, rfl⟩⟩

instance newCache : Grows newCache := ⟨fun world => World.Grown.addCache world⟩

instance andThen {body : Run Term} {last : Run Unit} [first : Grows body] [after : Grows last] :
    Grows (andThen body last) := by
  refine ⟨fun world => after_andThen.2 ((first.after world).mono ?_ ?_)⟩
  · intro value world' grown
    exact (after.after world').mono (fun _ _ more => grown.trans more)
      fun _ _ more => grown.trans more
  · intro failure world' grown
    exact (after.after world').mono (fun _ _ more => grown.trans more)
      fun _ _ more => grown.trans more

instance within {body : Run Term} [grows : Grows body] : Grows (Block.within body) := by
  refine ⟨fun world => after_within ?_⟩
  have leaves : ∀ {done noted : World}, World.Grown world.entered done →
      World.SameTables { done with active := world.active } noted →
        World.Grown world (noted.change world.caches.length Cache.close) := by
    intro done noted grown same
    have added := World.Grown.addCache world
    have before : World.Grown world noted :=
      ⟨fun id => same.cache_eq id ▸ (added.tables id).trans (grown.tables id),
        Nat.le_trans added.length (same.caches ▸ grown.length),
        same.caught ▸ grown.caught, same.active⟩
    exact before.change ((before.tables _).trans ⟨List.suffix_refl _, fun _ => rfl, nofun⟩)
  exact (grows.after world.entered).mono (fun _ _ grown _ => leaves grown)
    fun _ _ grown _ => leaves grown

theorem recover {body : Run Term} {handler : Failure → Option (Run Term)} [first : Grows body]
    (handles : ∀ failure next, handler failure = some next → Grows next) :
    Grows (recover body handler) := by
  refine ⟨fun world => after_recover.2 ((first.after world).mono (fun _ _ grown => grown) ?_)⟩
  intro failure world' grown
  cases handled : handler failure with
  | none => exact grown
  | some next =>
      exact ((handles failure next handled).after world').mono (fun _ _ more => grown.trans more)
        fun _ _ more => grown.trans more

/-- What a memoized computation stores was missing before. -/
instance memoize {id : CacheId} {name : Term} {env : Environment Term} {detectCycles : Bool}
    {limit : Option Int} {compute : Run Term} [grows : Grows compute] :
    Grows (memoize id name env detectCycles limit compute) := by
  refine ⟨fun world => ?_⟩
  apply after_memoize
  · intro value done done' same grown
    exact grown.trans (.of_same same)
  · exact fun _ _ => .refl world
  · intro failure _
    exact (World.Grown.refl world).change (.noted (List.suffix_cons _ _) rfl rfl)
  · intro value _ next
    exact (World.Grown.refl world).change (.noted (List.suffix_cons _ _) rfl rfl)
  · intro begins entered same
    have enters : World.Grown world entered :=
      ((World.Grown.refl world).change (.noted (List.suffix_cons _ _) rfl rfl)).trans
        (.of_same same)
    have leaves : ∀ {done}, World.Grown entered done →
        World.Grown world (done.change id Cache.leave) := fun {done} grown =>
      (enters.trans grown).trans
        ((World.Grown.refl done).change (.noted (List.suffix_refl _) rfl rfl))
    refine (grows.after entered).mono (fun value done grown next => ?_) fun _ _ => leaves
    exact (leaves grown).change (((leaves grown).tables id).put begins.missing _)

end Run.Grows

end ScopedTemplate
