import ScopedTemplate.Proofs.Run.After
import ScopedTemplate.Proofs.Run.Plain
import ScopedTemplate.Proofs.Term.Within

/-!
# Runs that leave the tables

Most steps of a run change no memo table: they log, count, take stamps or fail.  Such a run is silent
if it has a value, steady if it may fail but not for want of levels of nesting or of an open table, and
quiet if it may fail in any way.
-/

namespace ScopedTemplate

namespace World

/-- The tables, the table that is shared, and the failures caught are the same. -/
structure SameTables (world world' : World) : Prop where
  caches : world'.caches = world.caches
  active : world'.active = world.active
  caught : world'.caught = world.caught

theorem SameTables.refl (world : World) : SameTables world world := ⟨rfl, rfl, rfl⟩

theorem SameTables.trans {first second third : World} (before : SameTables first second)
    (after : SameTables second third) : SameTables first third :=
  ⟨after.caches.trans before.caches, after.active.trans before.active,
    after.caught.trans before.caught⟩

theorem SameTables.cache_eq {world world' : World} (same : SameTables world world')
    (id : CacheId) : world'.cache id = world.cache id := by
  unfold World.cache
  rw [same.caches]

/-- Beside the tables the next unused stamp is the same. -/
structure SameStamps (world world' : World) : Prop extends SameTables world world' where
  nextStamp : world'.nextStamp = world.nextStamp

end World

namespace Run

variable {α β : Type} {post : α → Prop} {post' : β → Prop}

/-! ## Silent runs -/

def Silent (run : Run α) (post : α → Prop) : Prop :=
  ∀ world, After run world (fun value world' => World.SameTables world world' ∧ post value)
    fun _ _ => False

namespace Silent

theorem pure {value : α} (holds : post value) : Silent (pure value) post :=
  fun world => after_pure.2 ⟨.refl world, holds⟩

theorem bind {first : Run α} {next : α → Run β} (silent : Silent first post)
    (then_silent : ∀ value, post value → Silent (next value) post') :
    Silent (first >>= next) post' := by
  intro world
  refine after_bind.2 ((silent world).mono ?_ fun _ _ => False.elim)
  rintro value world' ⟨same, holds⟩
  refine (then_silent value holds world').mono ?_ fun _ _ => False.elim
  rintro value' world'' ⟨same', holds'⟩
  exact ⟨same.trans same', holds'⟩

theorem modify {change : World → World} (same : ∀ world, World.SameTables world (change world)) :
    Silent (modify change : Run Unit) fun _ => True :=
  fun world => after_modify.2 ⟨same world, trivial⟩

theorem ofResult {result : Except Failure α} {value : α} (same : result = .ok value)
    (holds : post value) : Silent (ofResult result) post := by
  rw [same]
  exact pure holds

theorem log (level : Level) (message : String) : Silent (log level message) fun _ => True :=
  modify fun _ => ⟨rfl, rfl, rfl⟩

theorem recordCall (stamp : Stamp) (label : String) :
    Silent (recordCall stamp label) fun _ => True :=
  modify fun _ => ⟨rfl, rfl, rfl⟩

theorem get : Silent (get : Run World) fun _ => True :=
  fun world => after_get.2 ⟨.refl world, trivial⟩

theorem cache (id : CacheId) : Silent (cache id) fun _ => True :=
  fun world => after_cache.2 ⟨.refl world, trivial⟩

theorem takeStamps (count : Nat) : Silent (takeStamps count) fun _ => True :=
  fun _ => ⟨⟨rfl, rfl, rfl⟩, trivial⟩

theorem collectionStamp (size : Nat) : Silent (collectionStamp size) fun _ => True := by
  unfold Run.collectionStamp
  split
  · rw [← bind_pure_comp]
    exact (takeStamps 1).bind fun _ _ => pure trivial
  · exact pure trivial

theorem makeList (items : List Term) :
    Silent (makeList items) fun made => ∃ stamp, made = .list .plain stamp items :=
  (collectionStamp items.length).bind fun stamp _ => pure ⟨stamp, rfl⟩

theorem makeTuple (items : List Term) :
    Silent (makeTuple items) fun made => ∃ stamp, made = .tuple stamp items :=
  (collectionStamp items.length).bind fun stamp _ => pure ⟨stamp, rfl⟩

theorem makeMap (entries : Entries) :
    Silent (makeMap entries) fun made => ∃ stamp, made = .map .plain stamp entries :=
  (collectionStamp entries.length).bind fun stamp _ => pure ⟨stamp, rfl⟩

end Silent

/-! ## Steady runs -/

/-- A run leaves all tables as they are and fails plainly. -/
def Steady (run : Run α) (post : α → Prop) : Prop :=
  ∀ world, After run world (fun value world' => World.SameTables world world' ∧ post value)
    fun failure world' => World.SameTables world world' ∧ failure.isPlain = true

theorem Silent.steady {run : Run α} (silent : Silent run post) : Steady run post :=
  fun world => (silent world).mono (fun _ _ ends => ends) fun _ _ => False.elim

namespace Steady

theorem pure {value : α} (holds : post value) : Steady (pure value) post :=
  (Silent.pure holds).steady

theorem throw {failure : Failure} (plain : failure.isPlain = true) :
    Steady (throw failure : Run α) post :=
  fun world => after_throw.2 ⟨.refl world, plain⟩

theorem bind {first : Run α} {next : α → Run β} (steady : Steady first post)
    (then_steady : ∀ value, post value → Steady (next value) post') :
    Steady (first >>= next) post' := by
  intro world
  refine after_bind.2 ((steady world).mono ?_ fun _ _ failed => failed)
  rintro value world' ⟨same, holds⟩
  refine (then_steady value holds world').mono ?_ ?_
  · rintro value' world'' ⟨same', holds'⟩
    exact ⟨same.trans same', holds'⟩
  · rintro failure world'' ⟨same', plain⟩
    exact ⟨same.trans same', plain⟩

theorem mono {run : Run α} {post' : α → Prop} (steady : Steady run post)
    (imp : ∀ value, post value → post' value) : Steady run post' := by
  intro world
  refine (steady world).mono ?_ fun _ _ ends => ends
  rintro value world' ⟨same, holds⟩
  exact ⟨same, imp value holds⟩

theorem ofResult {result : Except Failure α} (holds : ∀ value, result = .ok value → post value)
    (plainly : FailsPlainly result) : Steady (ofResult result) post := by
  cases result with
  | ok value => exact pure (holds value rfl)
  | error failure => exact throw (plainly failure rfl)

theorem checkTable (table : Cache) (field : String) :
    Steady (checkTable table field) fun _ => True := by
  unfold Run.checkTable
  split
  · exact throw rfl
  · exact pure trivial

theorem chain (id : CacheId) : Steady (chain id) fun _ => True := by
  unfold Run.chain
  refine bind (Silent.cache id).steady fun table _ => ?_
  refine bind (checkTable table "chain") fun _ _ => ?_
  exact pure trivial

theorem snapshot (env : Environment Term) : Steady (snapshot env) fun _ => True := by
  unfold Run.snapshot
  split
  · exact pure trivial
  · exact throw rfl

theorem written (t : Term) : Steady (written t) fun _ => True := by
  unfold Run.written
  split
  · exact pure trivial
  · exact throw rfl

theorem inlineText (t : Term) : Steady (inlineText t) fun _ => True := by
  unfold Run.inlineText
  split
  · exact pure trivial
  · exact written t

end Steady

/-! ## Quiet runs -/

/-- A run leaves all tables as they are, and `post` holds of its values. -/
def Quiet {α : Type} (run : Run α) (post : α → Prop) : Prop :=
  ∀ world, After run world (fun value world' => World.SameTables world world' ∧ post value)
    fun _ world' => World.SameTables world world'

theorem Steady.quiet {run : Run α} (steady : Steady run post) : Quiet run post :=
  fun world => (steady world).mono (fun _ _ ends => ends) fun _ _ ends => ends.1

theorem Silent.quiet {run : Run α} (silent : Silent run post) : Quiet run post :=
  silent.steady.quiet

namespace Quiet

theorem pure {value : α} (holds : post value) : Quiet (pure value) post :=
  (Silent.pure holds).quiet

theorem throw (failure : Failure) : Quiet (throw failure : Run α) post := by
  intro world
  exact after_throw.2 (.refl world)

theorem bind {first : Run α} {next : α → Run β} (quiet : Quiet first post)
    (then_quiet : ∀ value, post value → Quiet (next value) post') :
    Quiet (first >>= next) post' := by
  intro world
  refine after_bind.2 ((quiet world).mono ?_ ?_)
  · rintro value world' ⟨same, holds⟩
    refine (then_quiet value holds world').mono ?_ ?_
    · rintro value' world'' ⟨same', holds'⟩
      exact ⟨same.trans same', holds'⟩
    · intro failure world'' same'
      exact same.trans same'
  · intro failure world' same
    exact same

theorem mono {run : Run α} {post' : α → Prop} (quiet : Quiet run post)
    (imp : ∀ value, post value → post' value) : Quiet run post' := by
  intro world
  refine (quiet world).mono ?_ fun _ _ same => same
  rintro value world' ⟨same, holds⟩
  exact ⟨same, imp value holds⟩

theorem ofResult {result : Except Failure α} (holds : ∀ value, result = .ok value → post value) :
    Quiet (ofResult result) post := by
  cases result with
  | ok value => exact pure (holds value rfl)
  | error failure => exact throw failure

theorem modify {change : World → World} (same : ∀ world, World.SameTables world (change world)) :
    Quiet (modify change : Run Unit) fun _ => True := (Silent.modify same).quiet

theorem log (level : Level) (message : String) : Quiet (log level message) fun _ => True :=
  (Silent.log level message).quiet

theorem recordCall (stamp : Stamp) (label : String) :
    Quiet (recordCall stamp label) fun _ => True := (Silent.recordCall stamp label).quiet

theorem get : Quiet (get : Run World) fun _ => True := Silent.get.quiet

theorem cache (id : CacheId) : Quiet (cache id) fun _ => True := (Silent.cache id).quiet

theorem takeStamps (count : Nat) : Quiet (takeStamps count) fun _ => True :=
  (Silent.takeStamps count).quiet

theorem collectionStamp (size : Nat) : Quiet (collectionStamp size) fun _ => True :=
  (Silent.collectionStamp size).quiet

theorem checkTable (table : Cache) (field : String) :
    Quiet (checkTable table field) fun _ => True := (Steady.checkTable table field).quiet

theorem chain (id : CacheId) : Quiet (chain id) fun _ => True := (Steady.chain id).quiet

theorem snapshot (env : Environment Term) : Quiet (snapshot env) fun _ => True :=
  (Steady.snapshot env).quiet

theorem written (t : Term) : Quiet (written t) fun _ => True := (Steady.written t).quiet

theorem inlineText (t : Term) : Quiet (inlineText t) fun _ => True := (Steady.inlineText t).quiet

theorem makeList {items : List Term} {post : Term → Prop}
    (holds : ∀ stamp, post (.list .plain stamp items)) : Quiet (makeList items) post := by
  refine (Silent.makeList items).quiet.mono ?_
  rintro _ ⟨stamp, rfl⟩
  exact holds stamp

theorem makeTuple {items : List Term} {post : Term → Prop}
    (holds : ∀ stamp, post (.tuple stamp items)) : Quiet (makeTuple items) post := by
  refine (Silent.makeTuple items).quiet.mono ?_
  rintro _ ⟨stamp, rfl⟩
  exact holds stamp

theorem makeMap {entries : Entries} {post : Term → Prop}
    (holds : ∀ stamp, post (.map .plain stamp entries)) : Quiet (makeMap entries) post := by
  refine (Silent.makeMap entries).quiet.mono ?_
  rintro _ ⟨stamp, rfl⟩
  exact holds stamp

end Quiet

/-- Closing a table notes it and closes it. -/
theorem after_closeCache {id : CacheId} {world : World} {ok : Unit → World → Prop}
    {failed : Failure → World → Prop}
    (holds : ∀ noted : World, World.SameTables world noted → noted.calls = world.calls →
      ok () (noted.change id Cache.close)) :
    After (closeCache id) world ok failed :=
  after_bind.2 (after_cache.2 (after_bind.2 (after_modify.2 (after_changeCache.2
    (holds _ ⟨rfl, rfl, rfl⟩ rfl)))))

end Run

/-! ## Blocks -/

def World.entered (world : World) : World :=
  { world with caches := world.caches ++ [.empty], active := some world.caches.length }

namespace World

variable {world : World}

theorem entered_cache {id : CacheId} (inside : id < world.caches.length) :
    world.entered.cache id = world.cache id := world.cache_append .empty inside

theorem entered_own : world.entered.cache world.caches.length = .empty := by
  simp [entered, World.cache]

theorem entered_length : world.entered.caches.length = world.caches.length + 1 := by simp [entered]

end World

/-- `P` holds of all values that are stored in tables. -/
def World.Stores (P : Term → Prop) (world : World) : Prop :=
  ∀ table ∈ world.caches, ∀ entry ∈ table.entries, P entry.2

namespace World.Stores

variable {P : Term → Prop} {world : World}

/-- There is nothing in a place without a table. -/
theorem entries (stores : world.Stores P) (id : CacheId) :
    ∀ entry ∈ (world.cache id).entries, P entry.2 := by
  unfold World.cache
  rw [List.getD_eq_getElem?_getD]
  cases found : world.caches[id]? with
  | none => exact fun entry member => absurd member List.not_mem_nil
  | some table => exact stores table (List.mem_of_getElem? found)

theorem change (stores : world.Stores P) {id : CacheId} {change : Cache → Cache}
    (stored : ∀ entry ∈ (change (world.cache id)).entries, P entry.2) :
    (world.change id change).Stores P := by
  intro table member
  rcases List.mem_or_eq_of_mem_set member with before | rfl
  · exact stores table before
  · exact stored

theorem addCache (stores : world.Stores P) :
    World.Stores P { world with caches := world.caches ++ [.empty] } := by
  intro table member
  rcases List.mem_append.1 member with before | last
  · exact stores table before
  · rw [List.mem_singleton.1 last]
    exact fun entry inside => absurd inside List.not_mem_nil

end World.Stores

/-- When a block is left, the table shared before is shared again, and its own is closed. -/
theorem Run.after_leave {block : Block} {world : World} {ok : Unit → World → Prop}
    {failed : Failure → World → Prop}
    (holds : ∀ noted : World, World.SameTables { world with active := block.previous } noted →
      ok () (noted.change block.cache Cache.close)) : After (block.leave) world ok failed :=
  after_bind.2 (after_modify.2 (after_closeCache fun noted same _ => holds noted same))

/-- A block ends as what is run in it, in a world in which it is left. -/
theorem Run.after_within {body : Run Term} {world : World} {ok : Term → World → Prop}
    {failed : Failure → World → Prop}
    (ends : After body world.entered
      (fun value done => ∀ noted, World.SameTables { done with active := world.active } noted →
        ok value (noted.change world.caches.length Cache.close))
      fun failure done => ∀ noted, World.SameTables { done with active := world.active } noted →
        failed failure (noted.change world.caches.length Cache.close)) :
    After (Block.within body) world ok failed := by
  refine after_bind.2 (after_andThen.2 (ends.mono (fun _ _ left => ?_) fun _ _ left => ?_))
  · exact after_leave left
  · exact after_leave left

/-! ## Checks -/

open Run

theorem LeafType.load_steady (types : List LeafType) : Steady (load types) fun _ => True := by
  induction types with
  | nil => exact .pure trivial
  | cons first rest ih =>
      have after : ∀ {next : List ValueType → List ValueType},
          Steady (do return next (← load rest)) fun _ => True := ih.bind fun _ _ => .pure trivial
      cases first with
      | known found => exact after
      | path dotted =>
          have named : Steady (ofResult (toType? (.path dotted))) fun _ => True :=
            .ofResult (fun _ _ => trivial) (toType?_plainly _)
          unfold load
          refine named.bind fun found _ => ?_
          split
          · exact after
          · exact (Silent.log _ _).steady.bind fun _ _ => ih

def Resolver.MadeWith (config : Option Config) (resolver : Resolver Term) : Prop :=
  ∃ world world', Resolver.ofConfig config world = .ok resolver world'

theorem Resolver.MadeWith.eq {config : Option Config} {resolver : Resolver Term}
    (made : MadeWith config resolver) :
    resolver.config = config.getD .standard ∧ resolver.rules = Rule.standard := by
  obtain ⟨world, world', made⟩ := made
  cases config with
  | none =>
      cases made
      exact ⟨rfl, rfl⟩
  | some config =>
      simp only [ofConfig, load, bind, EStateM.bind] at made
      split at made
      · cases made
        exact ⟨rfl, rfl⟩
      · cases made

/-- A resolver made with settings puts in no terms. -/
theorem Resolver.MadeWith.replacements {config : Option Config} {resolver : Resolver Term}
    (made : MadeWith config resolver) : resolver.replacements = [] := by
  unfold Resolver.replacements
  rw [made.eq.2]
  rfl

theorem Resolver.ofConfig_steady (config : Option Config) :
    Steady (ofConfig config) (MadeWith config) := by
  have steady : Steady (ofConfig config) fun _ => True := by
    cases config with
    | none => exact .pure trivial
    | some config =>
        have classifier : ∀ leafTypes start, Steady (Classifier.load leafTypes start) fun _ => True :=
          fun leafTypes _ => (LeafType.load_steady leafTypes).bind fun _ _ => .pure trivial
        exact (classifier _ _).bind fun _ _ => .pure trivial
  intro world
  have ends := steady world
  unfold After at ends ⊢
  split
  · next resolver world' made =>
      rw [made] at ends
      exact ⟨ends.1, world, world', made⟩
  · next made =>
      rw [made] at ends
      exact ends

namespace Resolver

variable (resolver : Resolver Term)

/-- Whether a result is accepted does not depend on the world. -/
theorem checkResult_eq_ofResult (env : Environment Term) (value : Term) :
    ∃ verdict, resolver.checkResult env value = Run.ofResult verdict := by
  unfold checkResult
  split
  · cases checked : resolver.classifier.check value with
    | error failure => exact ⟨.error failure, rfl⟩
    | ok _ =>
        cases value.referenceNames resolver.classifier resolver.config.defaultsKey with
        | nil => exact ⟨.ok (), rfl⟩
        | cons name names =>
            unfold Run.snapshot
            by_cases written : Term.areWritableEntries env.flatten = true
            · rw [if_pos written]
              exact ⟨.error _, rfl⟩
            · rw [if_neg written]
              exact ⟨.error _, rfl⟩
  · exact ⟨.ok (), rfl⟩

theorem checkValues_steady (values : List Term) :
    Steady (ofResult (resolver.checkValues values)) fun _ => True :=
  .ofResult (fun _ _ => trivial) (resolver.checkValues_plainly values)

theorem checkDependency_steady (function dep : String) (env : Environment Term) (value : Term) :
    Steady (resolver.checkDependency function dep env value) fun _ => True := by
  unfold checkDependency
  split
  · exact (Steady.snapshot env).bind fun _ _ => .throw rfl
  · exact .pure trivial

theorem checkResult_steady (env : Environment Term) (result : Term) :
    Steady (resolver.checkResult env result) fun _ => True := by
  unfold checkResult
  split
  · refine (Steady.ofResult (fun _ _ => trivial)
      (resolver.classifier.check_plainly result)).bind fun _ _ => ?_
    split
    · exact .pure trivial
    · exact (Steady.snapshot env).bind fun _ _ => .throw rfl
  · exact .pure trivial

end Resolver

namespace Run

variable {resolution : Resolution} {resolver : Resolver Term} {template : Term}
  {env : Environment Term} {given : Option CacheId} {world : World} {ok : Term → World → Prop}
  {failed : Failure → World → Prop}

/-- A result that is checked is returned as it is, or refused. -/
theorem after_resolveWith
    (returned : ∀ value done done', World.SameTables done done' → ok value done → ok value done')
    (refused : ∀ value failure done done', World.SameTables done done' → failure.isPlain = true →
      ok value done → failed failure done')
    (ends : After (resolveLeniently resolution resolver template env given) world ok failed) :
    After (resolveWith resolution resolver template env given) world ok failed := by
  refine after_bind.2 (ends.mono (fun value done holds => ?_) fun _ _ holds => holds)
  refine after_bind.2 ((resolver.checkResult_steady env value done).mono ?_ ?_)
  · exact fun _ done' checked => returned value done done' checked.1 holds
  · exact fun failure done' checked => refused value failure done done' checked.1 checked.2 holds

end Run

end ScopedTemplate
