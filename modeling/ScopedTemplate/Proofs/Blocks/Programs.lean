import ScopedTemplate.Proofs.Blocks.Scope
import ScopedTemplate.Proofs.Resolver.Start

/-!
# Programs of blocks

A program resolves templates, in blocks that are entered one in another and are left however what is in them
ends.  Every resolution works with the table of the innermost block, or with one of its own.
-/

namespace ScopedTemplate

variable {stack : Stack}

open Run Term

/-- A program of resolutions, and of blocks of such programs, that goes on by how they ended. -/
inductive Program where
  /-- It ends, or raises. -/
  | done (outcome : Except Failure Unit)
  | resolve (resolver : Resolver Term) (template : Term) (env : Environment Term)
      (stack : Stack) (next : Except Failure Term → Program)
  | block (body : Program) (next : Except Failure Unit → Program)

/-- A resolution in a program, with the tables of the blocks around it, the innermost first. -/
structure Visit where
  blocks : List CacheId
  before : World
  resolver : Resolver Term
  template : Term
  env : Environment Term
  stack : Stack

namespace Visit

def outcome (visit : Visit) : Except Failure Term :=
  Run.outcome (visit.resolver.resolve visit.template visit.env none visit.stack visit.before)

def after (visit : Visit) : World :=
  left (visit.resolver.resolve visit.template visit.env none visit.stack visit.before)

end Visit

/-- How a program ends, the resolutions in it, and the world that it leaves. -/
structure Course where
  outcome : Except Failure Unit
  visits : List Visit
  world : World

/-- The course of a program in the blocks around it, the innermost first. -/
def Program.run : Program → List CacheId → World → Course
  | .done outcome, _, world => ⟨outcome, [], world⟩
  | .resolve resolver template env stack next, blocks, world =>
      let visit : Visit := ⟨blocks, world, resolver, template, env, stack⟩
      let rest := (next visit.outcome).run blocks visit.after
      { rest with visits := visit :: rest.visits }
  | .block body next, blocks, world =>
      match Block.enter world with
      | .ok begun world =>
          let within := body.run (begun.cache :: blocks) world
          let rest := (next within.outcome).run blocks (left (begun.leave within.world))
          { rest with visits := within.visits ++ rest.visits }
      | .error failure world => ⟨.error failure, [], world⟩

/-! ## Blocks -/

/-- A world in blocks: the table of the innermost one is shared, and the tables of all are open. -/
structure Within (blocks : List CacheId) (world : World) : Prop where
  active : world.active = blocks.head?
  distinct : blocks.Nodup
  inside : ∀ id ∈ blocks, id < world.caches.length
  isOpen : ∀ id ∈ blocks, (world.cache id).closed = false

/-- What is left when a block is left: the table shared before is shared again, and its own is closed. -/
theorem Block.leave_eq (block : Block) (world : World) : ∃ noted : World,
    noted.caches = world.caches ∧ noted.active = block.previous ∧
      left (block.leave world) = noted.change block.cache Cache.close := by
  refine (after_left (P := fun done => ∃ noted : World, noted.caches = world.caches ∧
    noted.active = block.previous ∧ done = noted.change block.cache Cache.close)).1 ?_
  exact after_leave fun noted same => ⟨noted, same.caches, same.active, rfl⟩

theorem World.cache_of_caches {world world' : World} (same : world.caches = world'.caches)
    (id : CacheId) : world.cache id = world'.cache id := by
  unfold World.cache
  rw [same]

theorem Block.leave_cache {block : Block} {world : World} {id : CacheId} (other : id ≠ block.cache) :
    (left (block.leave world)).cache id = world.cache id := by
  obtain ⟨noted, caches, _, ends⟩ := block.leave_eq world
  rw [ends, World.cache_change_of_ne _ (Ne.symm other)]
  exact World.cache_of_caches caches id

namespace Within

variable {blocks : List CacheId} {world done : World}

theorem of_idle (idle : world.active = none) : Within [] world := ⟨idle, List.nodup_nil, nofun, nofun⟩

theorem framed (within : Within blocks world) (framed : world.Framed done) : Within blocks done where
  active := framed.active.trans within.active
  distinct := within.distinct
  inside id member := Nat.lt_of_lt_of_le (within.inside id member) framed.length
  isOpen id member := (framed.closed id (within.inside id member)).trans (within.isOpen id member)

/-- A block is entered with a table that no other has. -/
theorem enter (within : Within blocks world) :
    Within (world.caches.length :: blocks) world.entered where
  active := rfl
  distinct := List.nodup_cons.2
    ⟨fun member => Nat.lt_irrefl _ (within.inside _ member), within.distinct⟩
  inside := List.forall_mem_cons.2 ⟨by simp [World.entered_length], fun id member =>
    World.entered_length ▸ Nat.lt_succ_of_lt (within.inside id member)⟩
  isOpen := List.forall_mem_cons.2 ⟨by rw [World.entered_own]; rfl, fun id member =>
    World.entered_cache (within.inside id member) ▸ within.isOpen id member⟩

/-- When a block is left, the world is in the blocks around it. -/
theorem leave {block : Block} (within : Within (block.cache :: blocks) done)
    (before : block.previous = blocks.head?) : Within blocks (left (block.leave done)) := by
  obtain ⟨apart, distinct⟩ := List.nodup_cons.1 within.distinct
  obtain ⟨noted, caches, active, ends⟩ := block.leave_eq done
  refine ⟨?_, distinct, fun id member => ?_, fun id member => ?_⟩
  · rw [ends]
    exact active.trans before
  · rw [ends, World.length_change, caches]
    exact within.inside id (List.mem_cons_of_mem _ member)
  · rw [Block.leave_cache fun same => apart (same ▸ member)]
    exact within.isOpen id (List.mem_cons_of_mem _ member)

end Within

/-! ## Every resolution -/

namespace Visit

/-- What holds of all terms that a resolution is given. -/
structure Gives (visit : Visit) (P : Term → Prop) : Prop where
  template : P visit.template
  bindings : visit.env.Each P
  replacements : ∀ t ∈ visit.resolver.replacements, P t

/--
A resolution works with the table of the innermost block, else with a new one.  All tables that are made
meanwhile are closed at the end, and in a block none are made unless functions open blocks of their own.
-/
structure InScope (visit : Visit) : Prop where
  before : Within visit.blocks visit.before
  after : Within visit.blocks visit.after
  shares : ∀ id, visit.blocks.head? = some id →
    visit.resolver.resolve visit.template visit.env none visit.stack visit.before =
      visit.resolver.resolve visit.template visit.env (some id) visit.stack visit.before
  own : visit.blocks = [] →
    visit.outcome = Run.outcome (visit.resolver.resolve visit.template visit.env
        (some visit.before.caches.length) visit.stack
        { visit.before with caches := visit.before.caches ++ [.empty] }) ∧
      visit.before.caches.length < visit.after.caches.length
  made : ∀ id < visit.after.caches.length, visit.before.caches.length ≤ id →
    (visit.after.cache id).closed = true
  alone : visit.blocks ≠ [] → visit.Gives Term.Blockless → visit.before.Stores Term.Blockless →
    visit.after.caches.length = visit.before.caches.length

variable {visit : Visit}

theorem after_framed (visit : Visit) : visit.before.Framed visit.after :=
  after_left.1 (visit.resolver.resolve_framed visit.template visit.env none visit.before)

end Visit

namespace Resolver

variable {resolver : Resolver Term} {t : Term} {env : Environment Term} {world : World}

/-- A resolution that shares a table is one with this table. -/
theorem resolve_shared {id : CacheId} (active : world.active = some id) :
    resolver.resolve t env none stack world = resolver.resolve t env (some id) stack world := by
  have shared : ((none : Option CacheId) <|> world.active) = some id := active
  unfold resolve resolveWith
  simp only [Bind.bind, EStateM.bind]
  rw [Pairing.resolveLeniently_given shared, Pairing.resolveLeniently_given rfl]

/-- A resolution without a table to share is one with a new table. -/
theorem outcome_own (idle : world.active = none) :
    Run.outcome (resolver.resolve t env none stack world) =
      Run.outcome (resolver.resolve t env (some world.caches.length) stack
        { world with caches := world.caches ++ [.empty] }) := by
  have unshared : ((none : Option CacheId) <|> world.active) = none := idle
  have lenient : Run.outcome (resolveLeniently (resolveTerm stack.ceiling stack.levels) resolver t env none world) =
      Run.outcome (resolveLeniently (resolveTerm stack.ceiling stack.levels) resolver t env
        (some world.caches.length) { world with caches := world.caches ++ [.empty] }) := by
    rw [Pairing.resolveLeniently_own unshared, Pairing.resolveLeniently_given rfl]
    exact outcome_andThen _ (closeCache_passes _)
  refine Agree.eq (.bind (.of_eq lenient) fun value _ same done done' => .of_eq ?_)
  obtain ⟨verdict, checks⟩ := resolver.checkResult_eq_ofResult env value
  subst same
  rw [checks]
  cases verdict <;> rfl

theorem length_own (idle : world.active = none) :
    world.caches.length < (left (resolver.resolve t env none stack world)).caches.length := by
  have unshared : ((none : Option CacheId) <|> world.active) = none := idle
  have longer : ∀ {done done' : World}, World.SameTables done done' →
      world.caches.length < done.caches.length → world.caches.length < done'.caches.length :=
    fun same before => same.caches ▸ before
  refine left_bind longer ?_ fun value =>
    (resolver.checkResult_steady env value).quiet.bind fun _ _ => .pure trivial
  rw [Pairing.resolveLeniently_own unshared]
  have frames := Discipline.frames_resolveTerm False stack.ceiling stack.levels resolver t env
    world.caches.length (fun _ _ => False.elim) False.elim fun _ _ _ _ => ⟨False.elim, False.elim⟩
  have within := Discipline.Keeps.resolveIn frames { world with caches := world.caches ++ [.empty] } _
    (World.Framing.start fun _ _ _ _ => False.elim)
  have closes : ∀ done : World, world.caches.length + 1 ≤ done.caches.length →
      After (closeCache world.caches.length) done
        (fun _ done => world.caches.length < done.caches.length)
        fun _ done => world.caches.length < done.caches.length := by
    refine fun done more => after_closeCache fun noted same _ => ?_
    rw [World.length_change, same.caches]
    exact more
  have begins : world.caches.length + 1 =
      (World.caches { world with caches := world.caches ++ [.empty] }).length := by simp
  refine (after_left (P := fun done => world.caches.length < done.caches.length)).1
    (after_andThen.2 (within.mono ?_ ?_))
  · exact fun _ done ends => closes done (begins ▸ ends.1.length)
  · exact fun _ done ends => closes done (begins ▸ (World.Framing.toFramed ends).length)

end Resolver

/-- A resolution in blocks keeps to their scope. -/
theorem Visit.inScope {visit : Visit} (within : Within visit.blocks visit.before) : visit.InScope where
  before := within
  after := within.framed visit.after_framed
  shares id innermost := Resolver.resolve_shared (within.active.trans innermost)
  own outside := by
    have idle : visit.before.active = none := by rw [within.active, outside]; rfl
    exact ⟨Resolver.outcome_own idle, Resolver.length_own idle⟩
  made := visit.after_framed.added
  alone blocks gives stored := by
    have framing : World.Framing True visit.before visit.after := after_left.1 <|
      Resolver.resolve_framing (fun u member _ => gives.replacements u member)
        (fun _ => gives.template) (gives.bindings.mono fun _ holds _ => holds) none
        fun table member entry among _ => stored table member entry among
    refine framing.alone trivial ?_
    rw [within.active]
    cases innermost : visit.blocks with
    | nil => exact absurd innermost blocks
    | cons id around => rfl

/-! ## Resolutions without foreign views -/

namespace Visit

/--
In a block a resolution is given no views but those of the block's table, and its functions keep to the
manner.  Outside of blocks it is given no views, and its functions do not ask for resolutions or do not
pass on what they are called with.
-/
def Discreet (manner : Manner) (visit : Visit) : Prop :=
  match visit.blocks with
  | id :: _ => visit.Gives (Scope.Safe ⟨manner, id⟩)
  | [] => visit.Gives (Term.OnlyViews fun _ _ => False) ∧
      (visit.Gives (Term.OnlyBodies Manner.unasking.Allows) ∨
        visit.Gives (Term.OnlyBodies Manner.sparing.Allows))

/-- A resolution in a block stores a value in the table of the block. -/
structure Stores (visit : Visit) (id : CacheId) (entry : CacheKey × Term) : Prop where
  innermost : visit.blocks.head? = some id
  missing : entry ∉ (visit.before.cache id).entries
  stored : entry ∈ (visit.after.cache id).entries

/--
A resolution after some others uses no closed table, nor does any that functions ask for in it.  It leaves
the tables of all but the innermost block as they were, and what is stored in that one was put there by
resolutions with the same innermost block.
-/
structure Apart (visit : Visit) (earlier : List Visit) : Prop where
  usable : visit.outcome ≠ .error .closed
  caught : visit.before.Unrefused visit.after
  others : ∀ id < visit.before.caches.length, visit.blocks.head? ≠ some id →
    visit.after.cache id = visit.before.cache id
  stored : ∀ id, visit.blocks.head? = some id → ∀ entry ∈ (visit.before.cache id).entries,
    ∃ other ∈ earlier, other.Stores id entry

theorem Gives.and {visit : Visit} {P Q R : Term → Prop} (first : visit.Gives P)
    (second : visit.Gives Q) (imp : ∀ t, P t → Q t → R t) : visit.Gives R where
  template := imp _ first.template second.template
  bindings := Environment.each_iff_terms.2 fun t member =>
    imp t (Environment.each_iff_terms.1 first.bindings t member)
      (Environment.each_iff_terms.1 second.bindings t member)
  replacements t member := imp t (first.replacements t member) (second.replacements t member)

end Visit

/-- What is stored for the blocks is as safe as what is given, and came from earlier resolutions. -/
def Kept (manner : Manner) (past : List Visit) (blocks : List CacheId) (world : World) : Prop :=
  ∀ id ∈ blocks, ∀ entry ∈ (world.cache id).entries,
    Scope.Safe ⟨manner, id⟩ entry.2 ∧ ∃ visit ∈ past, visit.Stores id entry

/-- What holds of a world that a run leaves without the use of a closed table. -/
theorem after_usable {run : Run Term} {world : World} {P : World → Prop}
    (ends : After run world (fun _ => P) fun failure done => P done ∧ failure ≠ .closed) :
    Run.outcome (run world) ≠ .error .closed ∧ P (left (run world)) := by
  unfold After at ends
  generalize run world = result at ends
  cases result with
  | ok value done => exact ⟨nofun, ends⟩
  | error failure done => exact ⟨fun same => ends.2 (Except.error.inj same), ends.1⟩

namespace Visit

variable {visit : Visit} {past : List Visit} {manner : Manner}

/-- In a block a discreet resolution keeps to the table of the block. -/
theorem Discreet.inBlock (discreet : visit.Discreet manner)
    (within : Within visit.blocks visit.before) (kept : Kept manner past visit.blocks visit.before)
    {id : CacheId} {around : List CacheId} (blocks : visit.blocks = id :: around) :
    visit.outcome ≠ .error .closed ∧
      Scope.Shelters ⟨manner, id⟩ ⟨visit.before, some id⟩ visit.after := by
  have innermost : id ∈ visit.blocks := blocks ▸ List.mem_cons_self
  have active : visit.before.active = some id := within.active.trans (blocks ▸ rfl)
  unfold Discreet at discreet
  rw [blocks] at discreet
  have sound : Scope.Sound ⟨manner, id⟩ visit.before id :=
    ⟨within.inside id innermost, within.isOpen id innermost,
      fun entry member => (kept id innermost entry member).1⟩
  have shelters : Scope.Shelters ⟨manner, id⟩ ⟨visit.before, some id⟩ visit.before := by
    refine ⟨sound, fun other among => ?_, active, fun _ => rfl, Nat.le_refl _, fun _ _ _ _ => rfl,
      .refl _⟩
    cases among
    exact sound
  have ends := (manner.resolves_resolveTerm visit.stack.ceiling visit.stack.levels).joined shelters rfl
    discreet.replacements discreet.template discreet.bindings
  exact after_usable (ends.mono (fun _ _ ends => ends.1) fun _ _ left => left)

/-- Outside of blocks a discreet resolution leaves all tables as they were. -/
theorem Discreet.outside (discreet : visit.Discreet manner)
    (within : Within visit.blocks visit.before) (blocks : visit.blocks = []) :
    visit.outcome ≠ .error .closed ∧ visit.before.Spared visit.after := by
  have idle : visit.before.active = none := within.active.trans (blocks ▸ rfl)
  unfold Discreet at discreet
  rw [blocks] at discreet
  obtain ⟨noViews, keeps⟩ := discreet
  have spares : ∀ {manner : Manner}, manner ≠ .shared → visit.Gives (Term.OnlyBodies manner.Allows) →
      visit.outcome ≠ .error .closed ∧ visit.before.Spared visit.after := by
    intro manner apart bodies
    have gives : visit.Gives (Scope.Safe ⟨manner, visit.before.caches.length⟩) :=
      noViews.and bodies fun t views bodies => ⟨views.mono fun _ _ => False.elim, bodies⟩
    have ends := (manner.resolves_resolveTerm visit.stack.ceiling visit.stack.levels).own apart idle
      gives.replacements gives.template gives.bindings
    exact after_usable (ends.mono (fun _ _ ends => ends.1) fun _ _ left => left)
  rcases keeps with unasking | sparing
  · exact spares (show Manner.unasking ≠ .shared from nofun) unasking
  · exact spares (show Manner.sparing ≠ .shared from nofun) sparing

/-- What is kept is still kept after a discreet resolution, which keeps to its own table. -/
theorem Discreet.apart (discreet : visit.Discreet manner)
    (within : Within visit.blocks visit.before) (kept : Kept manner past visit.blocks visit.before) :
    visit.Apart past ∧ Kept manner (past ++ [visit]) visit.blocks visit.after := by
  have older : ∀ {id entry}, (∃ other ∈ past, other.Stores id entry) →
      ∃ other ∈ past ++ [visit], other.Stores id entry := by
    rintro id entry ⟨other, member, stores⟩
    exact ⟨other, List.mem_append_left _ member, stores⟩
  cases blocks : visit.blocks with
  | nil =>
      obtain ⟨usable, spared⟩ := discreet.outside within blocks
      refine ⟨⟨usable, spared.caught, fun id inside _ => spared.tables id inside, ?_⟩, nofun⟩
      rw [blocks]
      exact nofun
  | cons own around =>
      obtain ⟨usable, shelters⟩ := discreet.inBlock within kept blocks
      have others : ∀ id < visit.before.caches.length, visit.blocks.head? ≠ some id →
          visit.after.cache id = visit.before.cache id := by
        intro id inside other
        rw [blocks] at other
        exact shelters.others id inside (fun same => other (congrArg some same.symm)) other
      refine ⟨⟨usable, shelters.caught, others, fun id innermost entry member => ?_⟩,
        fun id among entry member => ?_⟩
      · exact (kept id (List.mem_of_head? innermost) entry member).2
      · rw [← blocks] at among
        by_cases innermost : visit.blocks.head? = some id
        · have same : own = id := by
            rw [blocks] at innermost
            exact Option.some.inj innermost
          subst same
          refine ⟨shelters.own.stored entry member, ?_⟩
          by_cases before : entry ∈ (visit.before.cache own).entries
          · exact older (kept own among entry before).2
          · exact ⟨visit, List.mem_append_right _ List.mem_cons_self, innermost, before, member⟩
        · rw [others id (within.inside id among) innermost] at member
          exact ⟨(kept id among entry member).1, older (kept id among entry member).2⟩

end Visit

/-! ## Whole programs -/

/--
Each of some resolutions keeps to its scope, and apart from the ones before it if all are discreet and the
program begins with tables that are `clean`.
-/
inductive Orderly (clean : Prop) (manner : Manner) : List Visit → List Visit → Prop where
  | nil {past : List Visit} : Orderly clean manner past []
  | cons {past rest : List Visit} {visit : Visit} (inScope : visit.InScope)
      (apart : clean → (∀ other ∈ past ++ [visit], other.Discreet manner) → visit.Apart past)
      (later : Orderly clean manner (past ++ [visit]) rest) :
      Orderly clean manner past (visit :: rest)

namespace Orderly

variable {clean : Prop} {manner : Manner} {past first second : List Visit}

theorem append (before : Orderly clean manner past first)
    (after : Orderly clean manner (past ++ first) second) :
    Orderly clean manner past (first ++ second) := by
  induction before with
  | nil =>
      rw [List.append_nil] at after
      exact after
  | cons inScope apart _ ih =>
      rw [List.append_cons] at after
      exact .cons inScope apart (ih after)

/-- What holds of the resolution that follows certain others. -/
theorem at_split {earlier later : List Visit} {visit : Visit}
    (orderly : Orderly clean manner past (earlier ++ visit :: later)) :
    visit.InScope ∧ (clean → (∀ other ∈ (past ++ earlier) ++ [visit], other.Discreet manner) →
      visit.Apart (past ++ earlier)) := by
  induction earlier generalizing past with
  | nil =>
      rw [List.append_nil]
      cases orderly with
      | cons inScope apart _ => exact ⟨inScope, apart⟩
  | cons first rest ih =>
      cases orderly with
      | cons _ _ later =>
          have holds := ih later
          rw [← List.append_cons] at holds
          exact holds

end Orderly

theorem Kept.enter {manner : Manner} {past : List Visit} {blocks : List CacheId} {world : World}
    (kept : Kept manner past blocks world) (within : Within blocks world) :
    Kept manner past (world.caches.length :: blocks) world.entered := by
  refine List.forall_mem_cons.2 ⟨?_, fun id among => ?_⟩
  · rw [World.entered_own]
    exact fun entry member => absurd member List.not_mem_nil
  · rw [World.entered_cache (within.inside id among)]
    exact kept id among

theorem Kept.leave {manner : Manner} {past : List Visit} {blocks : List CacheId} {block : Block}
    {world : World} (kept : Kept manner past (block.cache :: blocks) world)
    (apart : block.cache ∉ blocks) : Kept manner past blocks (left (block.leave world)) := by
  intro id among
  rw [Block.leave_cache fun same => apart (same ▸ among)]
  exact kept id (List.mem_cons_of_mem _ among)

namespace Program

/-- What holds of a course that follows some resolutions. -/
structure Follows (clean : Prop) (manner : Manner) (past : List Visit) (blocks : List CacheId)
    (course : Course) : Prop where
  orderly : Orderly clean manner past course.visits
  within : Within blocks course.world
  kept : clean → (∀ visit ∈ past ++ course.visits, visit.Discreet manner) →
    Kept manner (past ++ course.visits) blocks course.world

/-- What every step of a program keeps, its course keeps. -/
theorem run_follows {clean : Prop} {manner : Manner} (program : Program) {blocks : List CacheId}
    {world : World} {past : List Visit} (within : Within blocks world)
    (kept : clean → (∀ visit ∈ past, visit.Discreet manner) → Kept manner past blocks world) :
    Follows clean manner past blocks (program.run blocks world) := by
  induction program generalizing blocks world past with
  | done outcome => exact ⟨.nil, within, by simpa [run] using kept⟩
  | resolve resolver template env stack next ih =>
      let visit : Visit := ⟨blocks, world, resolver, template, env, stack⟩
      have inScope : visit.InScope := Visit.inScope within
      have discreet : clean → (∀ other ∈ past ++ [visit], other.Discreet manner) →
          visit.Apart past ∧ Kept manner (past ++ [visit]) blocks visit.after := by
        intro isClean all
        have given := List.forall_mem_append.1 all
        exact (List.forall_mem_singleton.1 given.2).apart within (kept isClean given.1)
      have later := ih visit.outcome inScope.after fun isClean all => (discreet isClean all).2
      refine ⟨.cons inScope (fun isClean all => (discreet isClean all).1) later.orderly,
        later.within, ?_⟩
      rw [show (run (.resolve resolver template env stack next) blocks world).visits =
        visit :: ((next visit.outcome).run blocks visit.after).visits from rfl, List.append_cons]
      exact later.kept
  | block body next bodyIh nextIh =>
      let begun : Block := ⟨world.active, world.caches.length⟩
      have entered : Within (begun.cache :: blocks) world.entered := within.enter
      have inside := bodyIh entered fun isClean all => Kept.enter (kept isClean all) within
      let course := body.run (begun.cache :: blocks) world.entered
      have apart : begun.cache ∉ blocks := (List.nodup_cons.1 entered.distinct).1
      have later := nextIh course.outcome (inside.within.leave within.active)
        fun isClean all => (inside.kept isClean all).leave apart
      refine ⟨inside.orderly.append later.orderly, later.within, ?_⟩
      rw [show (run (.block body next) blocks world).visits = course.visits ++
        ((next course.outcome).run blocks (left (begun.leave course.world))).visits from rfl,
        ← List.append_assoc]
      exact later.kept

/--
Every resolution of a program works with the table of the innermost block, which is open, or with a new
one that is closed at the end, and when a block is left the table shared before is shared again.  Where no
views pass from one table to another, no closed table is used, the tables of other blocks stay as they are,
and all that is stored for a block comes from resolutions in it.
-/
theorem run_scoped {blocks : List CacheId} {world : World} (within : Within blocks world)
    (program : Program) :
    Within blocks (program.run blocks world).world ∧
      ∀ earlier visit later, (program.run blocks world).visits = earlier ++ visit :: later →
        visit.InScope ∧
          ∀ manner, (∀ id ∈ blocks, (world.cache id).entries = []) →
            (∀ other ∈ earlier ++ [visit], other.Discreet manner) → visit.Apart earlier := by
  have follows : ∀ manner, Follows (∀ id ∈ blocks, (world.cache id).entries = []) manner [] blocks
      (program.run blocks world) := by
    refine fun manner => program.run_follows within fun isEmpty _ id among entry member => ?_
    rw [isEmpty id among] at member
    exact absurd member List.not_mem_nil
  have splits : ∀ manner earlier visit later,
      (program.run blocks world).visits = earlier ++ visit :: later → _ :=
    fun manner _ _ _ split => (split ▸ (follows manner).orderly).at_split
  refine ⟨(follows .shared).within, fun earlier visit later split => ⟨?_, fun manner => ?_⟩⟩
  · exact (splits .shared _ _ _ split).1
  · exact (splits manner _ _ _ split).2

def five : Environment Term := .ofBindings [(.str "X", .int 5)] []

/-- Resolve a template with the built-in rules and settings, and go on with its value. -/
def resolving (t : Term) (env : Environment Term) (next : Term → Program) : Program :=
  .resolve .standard t env .usual fun
    | .ok value => next value
    | .error failure => .done (.error failure)

/-- A block that is left by an exception, in the middle of another one. -/
def nested : Program :=
  .block
    (.resolve .standard (.ref "X") five .usual fun _ =>
      .block (.resolve .standard (.ref "X") five .usual fun _ => .done (.error (.missingKey (.str "Y")))) fun _ =>
        .resolve .standard (.ref "X") five .usual fun _ => .done (.ok ())) .done

theorem discreet_five (blocks : List CacheId) (before : World) :
    Visit.Discreet .shared ⟨blocks, before, .standard, .ref "X", five, .usual⟩ := by
  have gives : ∀ {P : Term → Prop}, (∀ kind s, P (.text kind s)) → (∀ n, P (.int n)) →
      Visit.Gives ⟨blocks, before, .standard, .ref "X", five, .usual⟩ P := fun text int =>
    ⟨text _ _, Environment.each_ofBindings (Entries.each_cons.2 ⟨⟨text _ _, int _⟩, Entries.each_nil⟩)
      Entries.each_nil, nofun⟩
  cases blocks with
  | nil =>
      exact ⟨gives onlyViews_text onlyViews_int,
        .inl (gives (fun _ _ => onlyBodies_atom rfl) fun _ => onlyBodies_atom rfl)⟩
  | cons id around =>
      exact gives (fun _ _ => ⟨onlyViews_text _ _, onlyBodies_atom rfl⟩)
        fun _ => ⟨onlyViews_int _, onlyBodies_atom rfl⟩

/-- In the outer block the value that its first resolution stored is still there after the inner block. -/
theorem nested_scoped : ∃ first second third, (nested.run [] .empty).visits = [first, second, third] ∧
    third.blocks = [0] ∧ (third.before.cache 0).entries.length = 1 ∧
      third.InScope ∧ third.Apart [first, second] := by
  refine ⟨_, _, _, rfl, rfl, by decide +kernel, ?_⟩
  have keeps := (run_scoped (show Within [] .empty from .of_idle rfl) nested).2 [_, _] _ [] rfl
  refine ⟨keeps.1, keeps.2 .shared (List.forall_mem_nil _) ?_⟩
  intro other member
  simp only [List.cons_append, List.nil_append, List.mem_cons, List.not_mem_nil, or_false] at member
  rcases member with rfl | rfl | rfl <;> exact discreet_five _ _

def giving : Term := .callable .function 0 "g" "g" .readView

def handingOn : Term :=
  .callable .function 1 "f" "f" (.map
    [(.const (.str "::defaults"), .resolve (.const giving) true), (.const (.str "v"), .const (.int 1))])

def carrying : Program :=
  .block (resolving (.ref "X") five fun _ => resolving giving five fun view =>
    .block (resolving (.map .plain none [(.str "::defaults", view), (.str "v", .ref "X")]) .empty
      fun _ => .done (.ok ())) .done) .done

def stamped : World := { World.empty with nextStamp := 2 }

/-- The hits of the first table before and after a resolution in certain blocks. -/
def hits (visit : Visit) : List CacheId × Nat × Nat :=
  (visit.blocks, (visit.before.cache 0).hits, (visit.after.cache 0).hits)

/-- A view that is handed on reads a closed table, or serves what was stored for another block. -/
theorem views_handed_on :
    (¬ ∀ (program : Program) (world : World), world.active = none →
      ∀ visit ∈ (program.run [] world).visits, visit.outcome ≠ .error .closed) ∧
    ¬ ∀ (program : Program) (world : World), world.active = none →
      ∀ visit ∈ (program.run [] world).visits, ∀ id ∈ visit.blocks, visit.blocks.head? ≠ some id →
        (visit.after.cache id).hits = (visit.before.cache id).hits := by
  constructor
  · intro all
    let visit : Visit := ⟨[], stamped, .standard, handingOn, five, .usual⟩
    have refused : (match visit.outcome with | .error .closed => true | _ => false) = true := by
      decide +kernel
    refine all (.resolve .standard handingOn five .usual fun _ => .done (.ok ())) stamped rfl visit
      List.mem_cons_self ?_
    split at refused
    · next closed => exact closed
    · cases refused
  · intro all
    have served : (carrying.run [] stamped).visits.map hits =
        [([0], 0, 0), ([0], 0, 0), ([1, 0], 0, 1)] := by decide +kernel
    have third : (([1, 0], 0, 1) : List CacheId × Nat × Nat) ∈
        (carrying.run [] stamped).visits.map hits := by
      rw [served]
      simp
    obtain ⟨visit, among, same⟩ := List.mem_map.1 third
    simp only [hits, Prod.mk.injEq] at same
    have kept := all carrying stamped rfl visit among 0 (by rw [same.1]; simp) (by rw [same.1]; simp)
    omega

end Program

end ScopedTemplate
