import ScopedTemplate.Proofs.Resolver.Nodes

/-!
# The tables around a resolution

A resolution leaves the table that is shared as it was.  It neither opens nor closes a table that was there,
and it closes every table that it makes, whatever functions do and however it ends; it makes none if there
is one to share.  All this is a discipline that asks nothing of terms.
-/

namespace ScopedTemplate

variable {stack : Stack}

open Run

namespace World

/-- The same table is shared, the same tables are open, and all that were added are closed. -/
structure Framed (before after : World) : Prop where
  active : after.active = before.active
  length : before.caches.length ≤ after.caches.length
  closed : ∀ id < before.caches.length, (after.cache id).closed = (before.cache id).closed
  added : ∀ id < after.caches.length, before.caches.length ≤ id → (after.cache id).closed = true

theorem closed_change (world : World) (id other : CacheId) {change : Cache → Cache}
    (closed : ∀ table : Cache, (change table).closed = table.closed) :
    ((world.change id change).cache other).closed = (world.cache other).closed := by
  by_cases same : id = other
  · subst same
    by_cases inside : id < world.caches.length
    · rw [world.cache_change inside, closed]
    · rw [World.change, World.setCache, List.set_eq_of_length_le (Nat.not_lt.1 inside)]
  · rw [world.cache_change_of_ne same]

namespace Framed

theorem refl (world : World) : Framed world world where
  active := rfl
  length := Nat.le_refl _
  closed _ _ := rfl
  added _ inside outside := absurd inside (Nat.not_lt.2 outside)

theorem trans {first second third : World} (before : Framed first second)
    (after : Framed second third) : Framed first third where
  active := after.active.trans before.active
  length := Nat.le_trans before.length after.length
  closed id inside :=
    (after.closed id (Nat.lt_of_lt_of_le inside before.length)).trans (before.closed id inside)
  added id inside outside := by
    by_cases between : id < second.caches.length
    · exact (after.closed id between).trans (before.added id between outside)
    · exact after.added id inside (Nat.not_lt.1 between)

theorem of_same {before after : World} (same : World.SameTables before after) :
    Framed before after where
  active := same.active
  length := Nat.le_of_eq (congrArg List.length same.caches.symm)
  closed id _ := congrArg Cache.closed (same.cache_eq id)
  added _ inside outside := absurd (same.caches ▸ inside) (Nat.not_lt.2 outside)

/-- A change of a table that neither opens nor closes it. -/
theorem change (world : World) (id : CacheId) {change : Cache → Cache}
    (closed : ∀ table : Cache, (change table).closed = table.closed) :
    Framed world (world.change id change) where
  active := rfl
  length := Nat.le_of_eq (world.length_change id change).symm
  closed other _ := world.closed_change id other closed
  added _ inside outside :=
    absurd (world.length_change id change ▸ inside) (Nat.not_lt.2 outside)

/-- A table that is made for a run is closed when that ends, and what was shared is shared again. -/
theorem closeLast {world begun done noted : World} (begins : begun.caches = world.caches ++ [.empty])
    (framed : begun.Framed done) (caches : noted.caches = done.caches)
    (active : noted.active = world.active) :
    world.Framed (noted.change world.caches.length Cache.close) := by
  have size : begun.caches.length = world.caches.length + 1 := by simp [begins]
  have noted_cache : ∀ id, noted.cache id = done.cache id := fun id => by
    unfold World.cache
    rw [caches]
  refine ⟨active, ?_, fun id inside => ?_, fun id inside outside => ?_⟩
  · rw [World.length_change, caches]
    exact Nat.le_trans (size ▸ Nat.le_succ _) framed.length
  · have before : begun.cache id = world.cache id := by
      simp [World.cache, begins, List.getElem?_append_left inside]
    rw [World.cache_change_of_ne _ (Nat.ne_of_gt inside), noted_cache,
      framed.closed id (size ▸ Nat.lt_succ_of_lt inside), before]
  · rw [World.length_change] at inside
    by_cases own : id = world.caches.length
    · subst own
      rw [World.cache_change _ inside]
      rfl
    · rw [World.cache_change_of_ne _ (Ne.symm own), noted_cache]
      refine framed.added id (caches ▸ inside) ?_
      rw [size]
      exact Nat.lt_of_le_of_ne outside (Ne.symm own)

end Framed

end World

/-! ## The discipline -/

abbrev Term.Blockless (t : Term) : Prop := t.OnlyBodies fun _ body => body.opens = false

namespace World

/-- Where functions open no blocks, no table is made while one is shared. -/
structure Framing (blockless : Prop) (before after : World) : Prop extends before.Framed after where
  stored : after.Stores fun t => blockless → t.Blockless
  alone : blockless → before.active.isSome = true → after.caches.length = before.caches.length

namespace Framing

variable {blockless : Prop} {before world done : World}

theorem start (stored : world.Stores (fun t => blockless → t.Blockless)) : Framing blockless world world :=
  ⟨.refl world, stored, fun _ _ => rfl⟩

theorem trans (first : Framing blockless before world) (second : Framing blockless world done) :
    Framing blockless before done where
  toFramed := first.toFramed.trans second.toFramed
  stored := second.stored
  alone none active := (second.alone none (first.active ▸ active)).trans (first.alone none active)

theorem of_same (framing : Framing blockless before world) (same : World.SameTables world done) :
    Framing blockless before done := by
  have stored : done.Stores (fun t => blockless → t.Blockless) := by
    unfold World.Stores
    rw [same.caches]
    exact framing.stored
  exact framing.trans ⟨.of_same same, stored, fun _ _ => congrArg List.length same.caches⟩

theorem change (framing : Framing blockless before world) {id : CacheId} {change : Cache → Cache}
    (closed : ∀ table : Cache, (change table).closed = table.closed)
    (stored : ∀ entry ∈ (change (world.cache id)).entries, blockless → entry.2.Blockless) :
    Framing blockless before (world.change id change) :=
  framing.trans ⟨.change world id closed, framing.stored.change stored, fun _ _ => by simp⟩

/-- A table that is made for a run leaves no trace but closed tables, if it may be made. -/
theorem closeLast {begun noted : World} (framing : Framing blockless before world)
    (begins : begun.caches = world.caches ++ [.empty]) (ends : Framing blockless begun done)
    (caches : noted.caches = done.caches) (active : noted.active = world.active)
    (may : blockless → world.active = none) :
    Framing blockless before (noted.change world.caches.length Cache.close) := by
  have stored : noted.Stores (fun t => blockless → t.Blockless) := by
    unfold World.Stores
    rw [caches]
    exact ends.stored
  refine framing.trans ⟨.closeLast begins ends.toFramed caches active,
    stored.change fun _ member => absurd member List.not_mem_nil, fun none isSome => ?_⟩
  rw [may none] at isSome
  cases isSome

end Framing

end World

namespace Discipline

variable {blockless : Prop}

theorem blockless_hereditary : Term.Hereditary fun t => blockless → t.Blockless := by
  refine Term.Hereditary.imp (Term.onlyBodies_hereditary fun r _ body opensNone => ?_) blockless
  rw [Body.opens_renewBody]
  exact opensNone

def framing (blockless : Prop) : Discipline where
  safe := fun t => blockless → t.Blockless
  hereditary := blockless_hereditary
  given := fun t => blockless → t.Blockless
  given_of_safe := id
  safe_of_given safe _ := safe
  bindings := blockless_hereditary.view
  asks _ _ := True
  opens := ¬ blockless
  Index := World
  holds := World.Framing blockless
  broken before _ := World.Framing blockless before
  holds_of_same framing same := framing.of_same same
  broken_of_holds framing _ := framing
  broken_of_same framing same _ := framing.of_same same
  holds_of_caught framing :=
    ⟨⟨framing.active, framing.length, framing.closed, framing.added⟩, framing.stored, framing.alone⟩

theorem framing_lax : (framing blockless).Lax where
  given := id
  grants {_ _ _ _ body} safe := by
    by_cases none : blockless
    · refine ((safe none).body rfl).mono fun body opensNone => ?_
      cases body with
      | ask => exact trivial
      | block => cases opensNone
      | _ => exact trivial
    · refine body.every_of_forall fun body => ?_
      cases body with
      | ask => exact trivial
      | block => exact none
      | _ => exact trivial
  constants safe t member none := (safe none).pieces t member
  callee safe none := (safe none).callee
  members found _ := (View.member?_idle found).mono fun _ _ => Body.opens_of_idle

section

variable {resolution : Resolution} {resolver : Resolver Term} {env : Environment Term}
  {cache : CacheId}

theorem framing_record (id : CacheId) (event : Event) :
    (framing blockless).Keeps (record id event) fun _ => True :=
  fun _ _ (framed : World.Framing blockless _ _) =>
    after_changeCache.2 ⟨framed.change (fun _ => rfl) (framed.stored.entries id), trivial⟩

theorem framing_memoize {id : CacheId} {name : Term} {detectCycles : Bool} {limit : Option Int}
    {compute : Run Term} (keeps : (framing blockless).Keeps compute (framing blockless).safe) :
    (framing blockless).Keeps (memoize id name env detectCycles limit compute) (framing blockless).safe := by
  intro before world (framed : World.Framing blockless before world)
  have noted : ∀ (change : Cache → Cache), (∀ table : Cache, (change table).closed = table.closed) →
      (∀ table : Cache, (change table).entries = table.entries) →
        ∀ {done}, World.Framing blockless before done →
          World.Framing blockless before (done.change id change) := by
    intro change closed entries done framed
    refine framed.change closed ?_
    rw [entries]
    exact framed.stored.entries id
  apply after_memoize
  · exact fun _ _ _ same holds => ⟨World.Framing.of_same holds.1 same, holds.2⟩
  · exact fun _ _ => framed
  · exact fun _ _ => noted (Cache.record · _) (fun _ => rfl) (fun _ => rfl) framed
  · intro value found next
    refine ⟨noted (Cache.hit · _ env) (fun _ => rfl) (fun _ => rfl) framed, ?_⟩
    exact (framing blockless).hereditary.detach (Cache.of_find? (framed.stored.entries id) found) next
  · intro _ entered same
    have enters : World.Framing blockless before entered :=
      (noted (Cache.enter · _ env) (fun _ => rfl) (fun _ => rfl) framed).of_same same
    refine (keeps before entered enters).mono ?_ ?_
    · rintro value done ⟨ends, safe⟩ next
      have left : World.Framing blockless before (done.change id Cache.leave) :=
        noted Cache.leave (fun _ => rfl) (fun _ => rfl) ends
      refine ⟨left.change (fun _ => rfl) ?_, safe⟩
      exact Cache.forall_put (left.stored.entries id) ((framing blockless).hereditary.detach safe next)
    · exact fun _ done ends => noted Cache.leave (fun _ => rfl) (fun _ => rfl) ends

/-- What functions are called with is as blockless as what is in it. -/
theorem view_blockless {stamp : Stamp} : (blockless → (Term.view stamp resolver env cache).Blockless) ↔
    (∀ u ∈ resolver.replacements, blockless → u.Blockless) ∧
      env.Each fun t => blockless → t.Blockless := by
  unfold Term.Blockless
  rw [Term.onlyBodies_iff rfl, Term.pieces_view, Environment.each_iff_terms, List.forall_mem_append,
    imp_and]
  exact and_congr Term.forall_mem_imp Term.forall_mem_imp

/-- The resolution of terms keeps all tables in their frame. -/
def Frames (blockless : Prop) (resolution : Resolution) : Prop :=
  ∀ resolver t env cache, (∀ u ∈ resolver.replacements, blockless → u.Blockless) → (blockless → t.Blockless) →
    env.Each (fun t => blockless → t.Blockless) →
      (framing blockless).Keeps (resolution resolver t env cache) (framing blockless).safe

section

variable (frames : Frames blockless resolution)
  (replacements : ∀ u ∈ resolver.replacements, blockless → u.Blockless)

include frames replacements

theorem Frames.lookup (bindings : env.Each (fun t => blockless → t.Blockless)) (name : Term) :
    (framing blockless).Keeps (lookupName resolution resolver env cache name) (framing blockless).safe := by
  unfold lookupName
  split
  · exact (framing_record cache _).bind fun _ _ => .pure ((framing blockless).hereditary.text _ _)
  · next binding found =>
      exact framing_memoize (frames _ _ _ _ replacements (bindings.target? found) bindings)

theorem Frames.resolveLeniently {t : Term} (safe : blockless → t.Blockless)
    (bindings : env.Each (fun t => blockless → t.Blockless)) (given : Option CacheId) :
    (framing blockless).Keeps (resolveLeniently resolution resolver t env given)
      (framing blockless).safe := by
  intro before world (framed : World.Framing blockless before world)
  have within : ∀ cache, (framing blockless).Keeps (resolveIn resolution resolver t env cache)
      (framing blockless).safe :=
    fun cache => .resolveIn (frames _ _ _ _ replacements safe bindings)
  refine after_bind.2 (after_get.2 ?_)
  cases table : given <|> world.active with
  | some id => exact within id before world framed
  | none =>
      have idle : world.active = none := by
        cases given with
        | some id => cases table
        | none => exact table
      have begins : World.Framing blockless { world with caches := world.caches ++ [.empty] }
          { world with caches := world.caches ++ [.empty] } := .start framed.stored.addCache
      have closes : ∀ {done noted : World},
          World.Framing blockless { world with caches := world.caches ++ [.empty] } done →
            World.SameTables done noted →
              World.Framing blockless before (noted.change world.caches.length Cache.close) :=
        fun ends same => framed.closeLast rfl ends same.caches
          (same.active.trans ends.active) fun _ => idle
      refine after_bind.2 (after_andThen.2 ((within _ _ _ begins).mono ?_ ?_))
      · rintro value done ⟨ends, valued⟩
        exact after_closeCache fun noted same _ => ⟨closes ends same, valued⟩
      · exact fun failure done ends => after_closeCache fun noted same _ => closes ends same

theorem Frames.resolveWith {t : Term} (safe : blockless → t.Blockless)
    (bindings : env.Each (fun t => blockless → t.Blockless)) (given : Option CacheId) :
    (framing blockless).Keeps (resolveWith resolution resolver t env given) (framing blockless).safe :=
  .resolveWith (frames.resolveLeniently replacements safe bindings given)

end

/-- A table is made for every block, which is closed when it is left. -/
theorem framing_within (may : ¬ blockless) {body : Run Term}
    (keeps : (framing blockless).Keeps body (framing blockless).safe) :
    (framing blockless).Keeps (Block.within body) (framing blockless).safe := by
  intro before world (framed : World.Framing blockless before world)
  have leaves : ∀ {done noted : World}, World.Framing blockless world.entered done →
      World.SameTables { done with active := world.active } noted →
        World.Framing blockless before (noted.change world.caches.length Cache.close) :=
    fun ends same => framed.closeLast rfl ends same.caches same.active (absurd · may)
  have begins : World.Framing blockless world.entered world.entered := .start framed.stored.addCache
  refine after_within ((keeps _ _ begins).mono ?_ ?_)
  · exact fun value done ends noted same => ⟨leaves ends.1 same, ends.2⟩
  · exact fun failure done ends noted same => leaves ends same

theorem Frames.works (frames : Frames blockless resolution)
    (replacements : ∀ u ∈ resolver.replacements, blockless → u.Blockless) :
    (framing blockless).Works resolution resolver cache where
  asked _ _ made _ _ safe bindings := by
    refine frames.resolveWith ?_ safe bindings _
    rw [made.replacements]
    exact List.forall_mem_nil _
  blocks may _ keeps := framing_within may keeps
  reads name given := by
    obtain ⟨rules, bindings⟩ := view_blockless.1 given
    exact item_keeps name (frames.lookup rules bindings name) fun _ => framing_record _ _
  children safe bindings := frames _ _ _ _ replacements safe bindings
  replacements := replacements
  views stamp bindings := view_blockless.2 ⟨replacements, bindings⟩
  applied safe args := framing_lax.invocable (framing_lax.callee safe) safe args
  called safe view := framing_lax.invocable safe safe (List.forall_mem_singleton.2 view)
  acts safe self view := framing_lax.reads safe self view
  looksUp name bindings := frames.lookup replacements bindings name
  notes _ := framing_record _ _

end

theorem frames_resolveTerm (blockless : Prop) (ceiling : Int) (levels : Nat) :
    Frames blockless (resolveTerm ceiling levels) := by
  induction levels with
  | zero => exact fun _ _ _ _ _ _ _ => .fail nofun
  | succ levels ih =>
      exact fun _ _ _ _ replacements safe bindings =>
        (ih.works replacements).resolveNode safe bindings

end Discipline

namespace Resolver

variable {resolver : Resolver Term} {template : Term} {env : Environment Term} {world : World}

/--
However a resolution ends, it leaves the tables around it open or closed as they were, and makes none
of its own where one is shared and no function opens a block.
-/
theorem resolve_framing {blockless : Prop}
    (replacements : ∀ u ∈ resolver.replacements, blockless → u.Blockless)
    (safe : blockless → template.Blockless) (bindings : env.Each fun t => blockless → t.Blockless)
    (given : Option CacheId) (stored : world.Stores fun t => blockless → t.Blockless) :
    After (resolver.resolve template env given stack) world
      (fun _ => World.Framing blockless world) fun _ => World.Framing blockless world :=
  ((Discipline.frames_resolveTerm blockless stack.ceiling stack.levels).resolveWith replacements safe
    bindings given world world (.start stored)).mono (fun _ _ ends => ends.1) fun _ _ ends => ends

theorem resolve_framed (resolver : Resolver Term) (template : Term) (env : Environment Term)
    (given : Option CacheId) (world : World) :
    After (resolver.resolve template env given stack) world (fun _ => world.Framed)
      fun _ => world.Framed :=
  (resolve_framing (fun _ _ => False.elim) False.elim (fun _ _ _ _ => ⟨False.elim, False.elim⟩) given
    fun _ _ _ _ => False.elim).mono (fun _ _ ends => ends.toFramed) fun _ _ ends => ends.toFramed

end Resolver

end ScopedTemplate
