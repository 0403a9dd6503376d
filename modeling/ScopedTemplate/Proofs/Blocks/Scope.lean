import ScopedTemplate.Proofs.Blocks.Frame

/-!
# What keeps to one table

A view reads the table of the resolution that made it.  So a resolution keeps to its table, which is open, if
no view of another table comes in.  In a block all resolutions share one table, those that functions ask for,
too, and this is all.  Outside of blocks every resolution has a table of its own, and no view may pass from
one to another: functions do not ask for resolutions, or they do not pass on what they are called with.
-/

namespace ScopedTemplate

variable {ceiling : Int}

open Run Term

/-! ## What functions do with views -/

namespace Body

/-- Whether a body gives what it is called with, unless these are values, or a member of a view. -/
def passesOn (values : Bool) : Body → Bool
  | .arg _ | .readView => !values
  | .readField name => (View.member? name "" 0).isSome
  | _ => false

theorem passesOn_renewBody (r : Renewal) (values : Bool) (body : Body) :
    (renewBody r body).passesOn values = body.passesOn values := by
  cases body <;> simp [renewBody, passesOn]

end Body

inductive Manner where
  /-- In a block they may do anything but open others. -/
  | shared
  /-- They do not ask for resolutions. -/
  | unasking
  /-- They do not pass on what they are called with. -/
  | sparing
  deriving DecidableEq

/--
Whether a function may do what a body does, when it is called with values or with a view.  It never
names the table of a resolution that it asks for.
-/
def Manner.Allows (manner : Manner) (values : Bool) (body : Body) : Prop :=
  (body.AsksOnly fun _ given => given = none ∧ manner ≠ .unasking) ∧
    (manner = .shared → body.opens = false) ∧ (manner = .sparing → body.passesOn values = false)

theorem Manner.allows_renewBody {manner : Manner} (r : Renewal) (values : Bool) (body : Body)
    (allows : manner.Allows values body) : manner.Allows values (renewBody r body) := by
  refine ⟨allows.1.renewBody r, ?_⟩
  rw [Body.opens_renewBody, Body.passesOn_renewBody]
  exact allows.2

/-- Members are found by their names. -/
theorem View.member?_isSome (name shown : String) (stamp : Stamp) :
    (View.member? name shown stamp).isSome = (View.member? name "" 0).isSome := by
  unfold View.member?
  split <;> try rfl

/-! ## Scopes -/

/-- No failure that was caught in between came from a closed table. -/
def World.Unrefused (before after : World) : Prop :=
  ∃ more, after.caught = more ++ before.caught ∧ Failure.closed ∉ more

namespace World.Unrefused

theorem refl (world : World) : Unrefused world world := ⟨[], rfl, List.not_mem_nil⟩

theorem trans {first second third : World} (before : Unrefused first second)
    (after : Unrefused second third) : Unrefused first third := by
  obtain ⟨more, caught, apart⟩ := before
  obtain ⟨more', caught', apart'⟩ := after
  refine ⟨more' ++ more, by rw [caught', caught, List.append_assoc], fun member => ?_⟩
  exact (List.mem_append.1 member).elim apart' apart

theorem of_same {before world world' : World} (unrefused : Unrefused before world)
    (same : World.SameTables world world') : Unrefused before world' := by
  obtain ⟨more, caught, apart⟩ := unrefused
  exact ⟨more, same.caught.trans caught, apart⟩

theorem noteCaught {before world : World} (unrefused : Unrefused before world) {failure : Failure}
    (differs : failure ≠ .closed) :
    Unrefused before { world with caught := failure :: world.caught } := by
  obtain ⟨more, caught, apart⟩ := unrefused
  refine ⟨failure :: more, congrArg (failure :: ·) caught, fun member => ?_⟩
  exact (List.mem_cons.1 member).elim (fun same => differs same.symm) apart

end World.Unrefused

/-- A table and what functions may do in resolutions with it. -/
structure Scope where
  manner : Manner
  cache : CacheId

namespace Scope

def Safe (s : Scope) (t : Term) : Prop :=
  t.OnlyViews (fun _ id => s.manner ≠ .sparing ∧ id = s.cache) ∧ t.OnlyBodies s.manner.Allows

theorem safe_hereditary (s : Scope) : Hereditary s.Safe :=
  (onlyViews_hereditary _).and (onlyBodies_hereditary Manner.allows_renewBody)

theorem Safe.pieces {s : Scope} {t : Term} (safe : s.Safe t) : ∀ u ∈ t.pieces, s.Safe u :=
  fun u member => ⟨safe.1.pieces u member, safe.2.pieces u member⟩

/-- What functions are called with. -/
def Given (s : Scope) (t : Term) : Prop :=
  s.Safe t ∨ ∃ stamp resolver env, t = .view stamp resolver env s.cache ∧
    (∀ u ∈ resolver.replacements, s.Safe u) ∧ env.Each s.Safe

/-- A view that is given is one of the table. -/
theorem Given.view {s : Scope} {stamp : Stamp} {resolver : Resolver Term} {env : Environment Term}
    {cache : CacheId} (given : s.Given (.view stamp resolver env cache)) :
    cache = s.cache ∧ (∀ u ∈ resolver.replacements, s.Safe u) ∧ env.Each s.Safe := by
  rcases given with safe | ⟨_, _, _, same, replacements, bindings⟩
  · refine ⟨(onlyViews_view.1 safe.1).1.2, fun u member => ?_, s.safe_hereditary.view safe⟩
    exact safe.pieces u (List.mem_append_left _ member)
  · cases same
    exact ⟨rfl, replacements, bindings⟩

/-- Where views may be passed on, what is given is safe. -/
theorem Given.safe {s : Scope} {t : Term} (given : s.Given t) (passes : s.manner ≠ .sparing) :
    s.Safe t := by
  rcases given with safe | ⟨stamp, resolver, env, rfl, replacements, bindings⟩
  · exact safe
  · refine ⟨onlyViews_view.2 ⟨⟨passes, rfl⟩, fun u member => (replacements u member).1, ?_⟩, ?_⟩
    · exact bindings.mono fun _ => And.left
    · refine (onlyBodies_iff rfl).2 fun u member => ?_
      rcases List.mem_append.1 member with inRules | inEnv
      · exact (replacements u inRules).2
      · exact (Environment.each_iff_terms.1 bindings u inEnv).2

/-- A table is there and open, and all in it is safe. -/
structure Sound (s : Scope) (world : World) (id : CacheId) : Prop where
  inside : id < world.caches.length
  isOpen : (world.cache id).closed = false
  stored : ∀ entry ∈ (world.cache id).entries, s.Safe entry.2

/-- A world, and the table that resolutions share since then. -/
structure Since where
  world : World
  active : Option CacheId

/-- The table and the one that is shared are sound, and the others are as they were. -/
structure Shelters (s : Scope) (since : Since) (world : World) : Prop where
  own : s.Sound world s.cache
  current : ∀ id, since.active = some id → s.Sound world id
  active : world.active = since.active
  shares : s.manner = .shared → since.active = some s.cache
  length : since.world.caches.length ≤ world.caches.length
  others : ∀ id < since.world.caches.length, id ≠ s.cache → since.active ≠ some id →
    world.cache id = since.world.cache id
  caught : since.world.Unrefused world

variable {s : Scope} {since : Since} {world world' done : World} {id : CacheId}

theorem Sound.of_cache (sound : s.Sound world id) (length : world.caches.length ≤ world'.caches.length)
    (same : world'.cache id = world.cache id) : s.Sound world' id where
  inside := Nat.lt_of_lt_of_le sound.inside length
  isOpen := same ▸ sound.isOpen
  stored := same ▸ sound.stored

/-- A table may be changed. -/
theorem Sound.change (sound : s.Sound world id) {other : CacheId} {change : Cache → Cache}
    (closed : (change (world.cache other)).closed = (world.cache other).closed)
    (stored : ∀ entry ∈ (change (world.cache other)).entries, s.Safe entry.2) :
    s.Sound (world.change other change) id := by
  by_cases same : other = id
  · subst same
    have changed := world.cache_change sound.inside change
    exact ⟨by simpa using sound.inside, changed ▸ closed.trans sound.isOpen, changed ▸ stored⟩
  · exact sound.of_cache (by simp) (world.cache_change_of_ne same change)

theorem Shelters.of_same (shelters : s.Shelters since world) (same : World.SameTables world world') :
    s.Shelters since world' where
  own := shelters.own.of_cache (Nat.le_of_eq (by rw [same.caches])) (same.cache_eq _)
  current id among :=
    (shelters.current id among).of_cache (Nat.le_of_eq (by rw [same.caches])) (same.cache_eq _)
  active := same.active.trans shelters.active
  shares := shelters.shares
  length := same.caches ▸ shelters.length
  others id inside other unshared :=
    (same.cache_eq id).trans (shelters.others id inside other unshared)
  caught := shelters.caught.of_same same

theorem Shelters.change (shelters : s.Shelters since world) {change : Cache → Cache}
    (closed : (change (world.cache s.cache)).closed = (world.cache s.cache).closed)
    (stored : ∀ entry ∈ (change (world.cache s.cache)).entries, s.Safe entry.2) :
    s.Shelters since (world.change s.cache change) where
  own := shelters.own.change closed stored
  current id among := (shelters.current id among).change closed stored
  active := shelters.active
  shares := shelters.shares
  length := by
    rw [World.length_change]
    exact shelters.length
  others id inside other unshared := by
    rw [world.cache_change_of_ne (Ne.symm other)]
    exact shelters.others id inside other unshared
  caught := shelters.caught

/-- What a scope asks of runs; in it no table is used that was closed. -/
def discipline (s : Scope) : Discipline where
  safe := s.Safe
  hereditary := s.safe_hereditary
  given := s.Given
  given_of_safe := .inl
  safe_of_given given noView := by
    rcases given with safe | ⟨_, _, _, rfl, _⟩
    · exact safe
    · cases noView
  bindings given := given.view.2.2
  asks _ given := given = none ∧ s.manner ≠ .unasking
  opens := s.manner ≠ .shared
  Index := Since
  holds := s.Shelters
  broken since failure world := s.Shelters since world ∧ failure ≠ .closed
  holds_of_same := Shelters.of_same
  broken_of_holds shelters differs := ⟨shelters, differs⟩
  broken_of_same left same differs := ⟨left.1.of_same same, differs⟩
  holds_of_caught left :=
    ⟨⟨left.1.own.inside, left.1.own.isOpen, left.1.own.stored⟩,
      fun id among => ⟨(left.1.current id among).inside, (left.1.current id among).isOpen,
        (left.1.current id among).stored⟩,
      left.1.active, left.1.shares, left.1.length, left.1.others, left.1.caught.noteCaught left.2⟩

/-! ## Blocks of functions -/

/-- A block is entered with a table of its own. -/
theorem Shelters.entered (shelters : s.Shelters since world) (opens : s.manner ≠ .shared) :
    s.Shelters ⟨world, some world.caches.length⟩ world.entered where
  own := shelters.own.of_cache (World.entered_length ▸ Nat.le_succ _)
    (World.entered_cache shelters.own.inside)
  current id among := by
    cases among
    have empty := world.entered_own
    exact ⟨World.entered_length ▸ Nat.lt_succ_self _, empty ▸ rfl,
      empty ▸ fun entry member => absurd member List.not_mem_nil⟩
  active := rfl
  shares shared := absurd shared opens
  length := World.entered_length ▸ Nat.le_succ _
  others id inside _ _ := World.entered_cache inside
  caught := ⟨[], rfl, List.not_mem_nil⟩

/-- What was sheltered before a run in another scope is so afterwards, if that changed no more. -/
theorem Shelters.resume (shelters : s.Shelters since world) {s' : Scope} {active : Option CacheId}
    (ends : s'.Shelters ⟨world, active⟩ done) (safe : ∀ t, s'.Safe t → s.Safe t)
    (covered : ∀ id < world.caches.length, id = s'.cache ∨ active = some id →
      id = s.cache ∨ since.active = some id)
    (length : done.caches.length ≤ world'.caches.length)
    (same : ∀ id < world.caches.length, world'.cache id = done.cache id)
    (active' : world'.active = world.active) (caught : world'.caught = done.caught) :
    s.Shelters since world' := by
  have others : ∀ id < world.caches.length, ¬ (id = s'.cache ∨ active = some id) →
      world'.cache id = world.cache id := fun id here apart =>
    (same id here).trans (ends.others id here (apart ∘ .inl) (apart ∘ .inr))
  have kept : ∀ id, s.Sound world id → s.Sound world' id := by
    intro id sound
    have moved : s'.Sound done id → s.Sound world' id := fun found =>
      Sound.of_cache ⟨found.inside, found.isOpen, fun entry member => safe _ (found.stored entry member)⟩
        length (same id sound.inside)
    by_cases used : id = s'.cache ∨ active = some id
    · rcases used with rfl | current
      · exact moved ends.own
      · exact moved (ends.current id current)
    · exact sound.of_cache (Nat.le_trans ends.length length) (others id sound.inside used)
  refine ⟨kept _ shelters.own, fun id among => kept id (shelters.current id among),
    active'.trans shelters.active, shelters.shares,
    Nat.le_trans shelters.length (Nat.le_trans ends.length length), fun id here other unshared => ?_,
    shelters.caught.trans ?_⟩
  · have before := Nat.lt_of_lt_of_le here shelters.length
    refine (others id before fun used => ?_).trans (shelters.others id here other unshared)
    exact (covered id before used).elim other unshared
  · obtain ⟨more, found, apart⟩ := ends.caught
    exact ⟨more, caught.trans found, apart⟩

/-- A block that functions open is left with its table closed. -/
theorem within_keeps (opens : s.manner ≠ .shared) {body : Run Term}
    (keeps : s.discipline.Keeps body s.Safe) :
    s.discipline.Keeps (Block.within body) s.Safe := by
  intro since world (shelters : s.Shelters since world)
  have leaves : ∀ {done noted : World},
      s.Shelters ⟨world, some world.caches.length⟩ done →
        World.SameTables { done with active := world.active } noted →
          s.Shelters since (noted.change world.caches.length Cache.close) := by
    intro done noted ends same
    refine shelters.resume ends (fun _ => id) (fun id inside used => used.imp_right fun among => ?_)
      (Nat.le_of_eq ?_) (fun id inside => ?_) same.active same.caught
    · exact absurd (Option.some.inj among) (Nat.ne_of_gt inside)
    · rw [World.length_change]
      exact congrArg List.length same.caches.symm
    · rw [World.cache_change_of_ne _ (Nat.ne_of_gt inside), same.cache_eq]
      rfl
  refine after_within ((keeps _ _ (shelters.entered opens)).mono ?_ ?_)
  · exact fun value done ends noted same => ⟨leaves ends.1 same, ends.2⟩
  · exact fun failure done ends noted same => ⟨leaves ends.1 same, ends.2⟩

/-! ## Calls -/

/-- A body in a call does what its manner allows with what it is given. -/
theorem permits {values : Bool} {call : Call} {body : Body} (self : s.Safe call.self)
    (args : ∀ arg ∈ call.args, s.Given arg) (env : s.Given call.env)
    (plain : values = true → (∀ arg ∈ call.args, s.Safe arg) ∧ s.Safe call.env)
    (every : body.Every (s.manner.Allows values)) (constants : ∀ t ∈ body.constants, s.Safe t) :
    body.Every (s.discipline.Permits call) := by
  have safe : ∀ {t}, s.Given t → (values = true → s.Safe t) →
      (s.manner = .sparing → (!values) = false) → s.Safe t := by
    intro t given plain allowed
    by_cases sparing : s.manner = .sparing
    · exact plain (by simpa using allowed sparing)
    · exact given.safe sparing
  refine (every.withConstants constants).mono fun body allowed => ?_
  obtain ⟨allows, inside⟩ := allowed
  cases body with
  | arg =>
      exact fun arg member => safe (args arg member) (fun isValue => (plain isValue).1 arg member)
        allows.2.2
  | const value => exact inside value List.mem_cons_self
  | fresh first last value => exact inside value List.mem_cons_self
  | self => exact self
  | ask => exact allows.1
  | block =>
      intro shared
      cases allows.2.1 shared
  | readView => exact safe env (fun isValue => (plain isValue).2) allows.2.2
  | readField name =>
      intro shown stamp member found
      refine ⟨View.member?_onlyViews found, ?_⟩
      refine (View.member?_idle found).mono fun values body idle =>
        ⟨Body.asksOnly_of_idle idle, fun _ => Body.opens_of_idle idle, fun sparing => ?_⟩
      have named := allows.2.2 sparing
      rw [Body.passesOn, ← View.member?_isSome name shown stamp, found] at named
      cases named
  | _ => exact trivial

/-- What is safe may read what is given to functions. -/
theorem reads {kind : CallableKind} {stamp : Stamp} {label name : String} {body : Body}
    (called : s.Safe (.callable kind stamp label name body)) {self env : Term} (selfSafe : s.Safe self)
    (given : s.Given env) : body.Every (s.discipline.Permits ⟨self, stamp, [], env⟩) :=
  permits selfSafe (List.forall_mem_nil _) given (fun isValue => Bool.noConfusion isValue)
    (called.2.body rfl) called.pieces

/-- What takes an environment may be given any that is given to functions. -/
theorem invocable_reader {kind : CallableKind} {stamp : Stamp} {label name : String} {body : Body}
    (reads : kind = .accessor ∨ kind = .method ∨ kind = .function)
    (called : s.Safe (.callable kind stamp label name body)) (self : Term) {args : List Term}
    (given : ∀ arg ∈ args, s.Given arg) :
    s.discipline.Invocable (.callable kind stamp label name body) self args := by
  refine .reader reads fun env alone => ?_
  subst alone
  have given := List.forall_mem_singleton.1 given
  exact ⟨given, Scope.reads called called given⟩

/-- What takes its arguments may be called with a view. -/
theorem invocable_callable {kind : CallableKind} {stamp : Stamp} {label name : String} {body : Body}
    {view : Term} (called : s.Safe (.callable kind stamp label name body)) (given : s.Given view) :
    s.discipline.Invocable (.callable kind stamp label name body)
      (.callable kind stamp label name body) [view] := by
  have applied : kind = .object ∨ kind = .procedure → s.discipline.Invocable
      (.callable kind stamp label name body) (.callable kind stamp label name body) [view] := by
    intro applies
    refine .applied applies (permits called (List.forall_mem_singleton.2 given)
      (.inl s.safe_hereditary.null) (fun isValue => Bool.noConfusion isValue) (called.2.body rfl)
      called.pieces)
  cases kind with
  | accessor => exact invocable_reader (.inl rfl) called _ (List.forall_mem_singleton.2 given)
  | method => exact invocable_reader (.inr (.inl rfl)) called _ (List.forall_mem_singleton.2 given)
  | function => exact invocable_reader (.inr (.inr rfl)) called _ (List.forall_mem_singleton.2 given)
  | object => exact applied (.inl rfl)
  | procedure => exact applied (.inr rfl)

/-- What a function calls may be called with values. -/
theorem invocable_callee {callee self : Term} {args : List Term} (selfSafe : s.Safe self)
    (applied : ∀ body, callee.appliedBody? = some body → body.Every (s.manner.Allows true))
    (parts : ∀ u ∈ callee.calleeParts, s.Safe u) (safe : ∀ arg ∈ args, s.Safe arg) :
    s.discipline.Invocable callee self args := by
  have given : ∀ arg ∈ args, s.Given arg := fun arg member => .inl (safe arg member)
  induction callee, self using invoke.induct with
  | case1 => exact invocable_reader (.inl rfl) (parts _ List.mem_cons_self) _ given
  | case2 => exact invocable_reader (.inr (.inl rfl)) (parts _ List.mem_cons_self) _ given
  | case3 => exact invocable_reader (.inr (.inr rfl)) (parts _ List.mem_cons_self) _ given
  | case4 self kind stamp label name body noAccessor noMethod noFunction =>
      have null : s.Safe .null := s.safe_hereditary.null
      cases kind with
      | accessor => exact absurd rfl noAccessor
      | method => exact absurd rfl noMethod
      | function => exact absurd rfl noFunction
      | object =>
          exact .applied (.inl rfl) (permits selfSafe given (.inl null) (fun _ => ⟨safe, null⟩)
            (applied body rfl) parts)
      | procedure =>
          exact .applied (.inr rfl) (permits selfSafe given (.inl null) (fun _ => ⟨safe, null⟩)
            (applied body rfl) parts)
  | case5 self stamp name deps doc inner ih =>
      have called : s.Safe (.function stamp name deps doc inner) := parts _ List.mem_cons_self
      refine .function (ih called (fun body found => called.2.body ?_) called.pieces)
      exact congrArg (Option.map (true, ·)) found
  | case6 self callee noAccessor noMethod noFunction noCallable noInner =>
      exact .standard noCallable noInner safe

/-- A function may be called with values. -/
theorem invocable_function {stamp : Stamp} {name : String} {deps : List String}
    {doc : Option String} {callee : Term} (called : s.Safe (.function stamp name deps doc callee))
    {args : List Term} (safe : ∀ arg ∈ args, s.Safe arg) :
    s.discipline.Invocable callee (.function stamp name deps doc callee) args :=
  invocable_callee called
    (fun _ found => called.2.body (congrArg (Option.map (true, ·)) found)) called.pieces safe

/-! ## Lookups -/

theorem record_keeps (s : Scope) (event : Event) :
    s.discipline.Keeps (record s.cache event) fun _ => True :=
  fun _ _ (shelters : s.Shelters _ _) =>
    after_changeCache.2 ⟨shelters.change rfl shelters.own.stored, trivial⟩

/-- What is computed for the table keeps to it if the computation does. -/
theorem memoize_keeps {name : Term} {env : Environment Term} {detectCycles : Bool}
    {limit : Option Int} {compute : Run Term} (keeps : s.discipline.Keeps compute s.Safe) :
    s.discipline.Keeps (memoize s.cache name env detectCycles limit compute) s.Safe := by
  intro since world (shelters : s.Shelters since world)
  apply after_memoize
  · exact fun _ _ _ same holds => ⟨Shelters.of_same holds.1 same, holds.2⟩
  · intro failure unusable
    refine ⟨shelters, ?_⟩
    cases unusable with
    | noTable => exact nofun
    | closed closed =>
        rw [shelters.own.isOpen] at closed
        cases closed
  · intro failure refused
    refine ⟨shelters.change rfl shelters.own.stored, ?_⟩
    cases refused <;> exact nofun
  · intro value found next
    refine ⟨shelters.change rfl shelters.own.stored, ?_⟩
    exact s.safe_hereditary.detach (Cache.of_find? shelters.own.stored found) next
  · intro _ entered same
    have enters : s.Shelters since entered :=
      (shelters.change rfl shelters.own.stored).of_same same
    have leaves : ∀ {done}, s.Shelters since done →
        s.Shelters since (done.change s.cache Cache.leave) :=
      fun left => left.change rfl left.own.stored
    refine (keeps since entered enters).mono ?_ fun failure done left => ⟨leaves left.1, left.2⟩
    rintro value done ⟨ends, safe⟩ next
    refine ⟨(leaves ends).change rfl ?_, safe⟩
    exact Cache.forall_put (leaves ends).own.stored (s.safe_hereditary.detach safe next)

end Scope

/-! ## Resolutions -/

def Manner.Resolves (manner : Manner) (resolution : Resolution) : Prop :=
  ∀ (cache : CacheId) (resolver : Resolver Term) (t : Term) (env : Environment Term),
    (∀ u ∈ resolver.replacements, Scope.Safe ⟨manner, cache⟩ u) → Scope.Safe ⟨manner, cache⟩ t →
      env.Each (Scope.Safe ⟨manner, cache⟩) →
        (Scope.discipline ⟨manner, cache⟩).Keeps (resolution resolver t env cache)
          (Scope.Safe ⟨manner, cache⟩)

/-- Every table that was there is as it was, and the same one is shared. -/
structure World.Spared (before after : World) : Prop where
  active : after.active = before.active
  length : before.caches.length ≤ after.caches.length
  tables : ∀ id < before.caches.length, after.cache id = before.cache id
  caught : before.Unrefused after

theorem World.Spared.of_same {world done done' : World} (spared : world.Spared done)
    (same : World.SameTables done done') : world.Spared done' where
  active := same.active.trans spared.active
  length := same.caches ▸ spared.length
  tables id inside := (same.cache_eq id).trans (spared.tables id inside)
  caught := spared.caught.of_same same

/-- What was sheltered still is if every table is as it was. -/
theorem Scope.Shelters.of_spared {s : Scope} {since : Since} {world done : World}
    (shelters : s.Shelters since world) (spared : world.Spared done) : s.Shelters since done where
  own := shelters.own.of_cache spared.length (spared.tables _ shelters.own.inside)
  current id among := (shelters.current id among).of_cache spared.length
    (spared.tables id (shelters.current id among).inside)
  active := spared.active.trans shelters.active
  shares := shelters.shares
  length := Nat.le_trans shelters.length spared.length
  others id inside other unshared :=
    (spared.tables id (Nat.lt_of_lt_of_le inside shelters.length)).trans
      (shelters.others id inside other unshared)
  caught := shelters.caught.trans spared.caught

namespace Scope

variable {s : Scope} {id : CacheId}

/-- Where views are not passed on, what is safe has no views, and so it is safe with any table. -/
theorem Safe.move (moves : s.manner = .sparing ∨ id = s.cache) {t : Term} (safe : s.Safe t) :
    Safe ⟨s.manner, id⟩ t := by
  refine ⟨safe.1.mono fun _ _ here => ?_, safe.2⟩
  rcases moves with sparing | rfl
  · exact absurd sparing here.1
  · exact here

theorem Sound.move {world : World} {other : CacheId} (moves : s.manner = .sparing ∨ id = s.cache)
    (sound : s.Sound world other) : Sound ⟨s.manner, id⟩ world other :=
  ⟨sound.inside, sound.isOpen, fun entry member => (sound.stored entry member).move moves⟩

end Scope

namespace Manner.Resolves

variable {manner : Manner} {resolution : Resolution} {resolver : Resolver Term} {t : Term}
  {env : Environment Term} {world : World}

/-- A resolution that makes a table of its own leaves all others as they were. -/
theorem own (resolves : manner.Resolves resolution) (apart : manner ≠ .shared)
    (idle : world.active = none)
    (replacements : ∀ u ∈ resolver.replacements, Scope.Safe ⟨manner, world.caches.length⟩ u)
    (safe : Scope.Safe ⟨manner, world.caches.length⟩ t)
    (bindings : env.Each (Scope.Safe ⟨manner, world.caches.length⟩)) :
    After (resolveWith resolution resolver t env none) world
      (fun value done => world.Spared done ∧ Scope.Safe ⟨manner, world.caches.length⟩ value)
      fun failure done => world.Spared done ∧ failure ≠ .closed := by
  have starts : Scope.Shelters ⟨manner, world.caches.length⟩ ⟨world, none⟩
      { world with caches := world.caches ++ [.empty] } := by
    refine ⟨⟨by simp, by simp [World.cache, Cache.empty], by simp [World.cache, Cache.empty]⟩,
      by rintro _ ⟨⟩, idle, fun shared => absurd shared apart, by simp, ?_, [], rfl,
      List.not_mem_nil⟩
    exact fun id inside _ _ => world.cache_append _ inside
  have closes : ∀ {done}, Scope.Shelters ⟨manner, world.caches.length⟩ ⟨world, none⟩ done →
      world.Spared (done.change world.caches.length Cache.close) := by
    intro done ends
    refine ⟨ends.active.trans idle.symm, ?_, fun id inside => ?_, ends.caught⟩
    · rw [World.length_change]
      exact ends.length
    · rw [World.cache_change_of_ne _ (Nat.ne_of_gt inside)]
      exact ends.others id inside (Nat.ne_of_lt inside) (by rintro ⟨⟩)
  have within := Discipline.Keeps.resolveIn (resolves _ resolver t env replacements safe bindings)
  refine after_resolveWith (fun _ _ _ same ends => ⟨ends.1.of_same same, ends.2⟩)
    (fun _ failure _ _ same plain ends => ⟨ends.1.of_same same, failure.ne_closed plain⟩) ?_
  refine after_bind.2 (after_get.2 ?_)
  rw [show ((none : Option CacheId) <|> world.active) = none from idle]
  refine after_bind.2 (after_andThen.2 ((within _ _ starts).mono ?_ ?_))
  · rintro value done ⟨ends, valued⟩
    exact after_closeCache fun noted same _ => ⟨closes (ends.of_same same), valued⟩
  · rintro failure done ⟨ends, differs⟩
    exact after_closeCache fun noted same _ => ⟨closes (ends.of_same same), differs⟩

/-- A resolution works with the table that is shared. -/
theorem joined (resolves : manner.Resolves resolution) {cache : CacheId} {since : Scope.Since}
    (shelters : Scope.Shelters ⟨manner, cache⟩ since world) (active : since.active = some cache)
    (replacements : ∀ u ∈ resolver.replacements, Scope.Safe ⟨manner, cache⟩ u)
    (safe : Scope.Safe ⟨manner, cache⟩ t) (bindings : env.Each (Scope.Safe ⟨manner, cache⟩)) :
    After (resolveWith resolution resolver t env none) world
      (fun value done => Scope.Shelters ⟨manner, cache⟩ since done ∧ Scope.Safe ⟨manner, cache⟩ value)
      fun failure done => Scope.Shelters ⟨manner, cache⟩ since done ∧ failure ≠ .closed := by
  refine after_resolveWith (fun _ _ _ same ends => ⟨ends.1.of_same same, ends.2⟩)
    (fun _ failure _ _ same plain ends => ⟨ends.1.of_same same, failure.ne_closed plain⟩) ?_
  refine after_bind.2 (after_get.2 ?_)
  rw [show ((none : Option CacheId) <|> world.active) = some cache from shelters.active.trans active]
  exact Discipline.Keeps.resolveIn (resolves cache resolver t env replacements safe bindings)
    since world shelters

/-- Resolutions that functions ask for work with the table that is shared, or with their own. -/
theorem asked (resolves : manner.Resolves resolution) {cache : CacheId} (asks : manner ≠ .unasking)
    (noRules : resolver.replacements = []) (safe : Scope.Safe ⟨manner, cache⟩ t)
    (bindings : env.Each (Scope.Safe ⟨manner, cache⟩)) :
    (Scope.discipline ⟨manner, cache⟩).Keeps (resolveWith resolution resolver t env none)
      (Scope.Safe ⟨manner, cache⟩) := by
  have rules : ∀ {P : Term → Prop}, ∀ u ∈ resolver.replacements, P u := by
    rw [noRules]
    exact fun u member => absurd member List.not_mem_nil
  intro since world (shelters : Scope.Shelters ⟨manner, cache⟩ since world)
  have sparing : since.active ≠ some cache → manner = .sparing := fun apart => by
    cases manner with
    | sparing => rfl
    | unasking => exact absurd rfl asks
    | shared => exact absurd (shelters.shares rfl) apart
  cases active : since.active with
  | none =>
      have spares : manner = .sparing := sparing (active ▸ nofun)
      have idle : world.active = none := shelters.active.trans active
      refine (resolves.own (spares ▸ nofun) idle rules (safe.move (.inl spares))
        (bindings.mono fun _ safe => safe.move (.inl spares))).mono ?_ ?_
      · exact fun value done ends =>
          ⟨shelters.of_spared ends.1, Scope.Safe.move (s := ⟨manner, _⟩) (.inl spares) ends.2⟩
      · exact fun failure done ends => ⟨shelters.of_spared ends.1, ends.2⟩
  | some id =>
      have moves : manner = .sparing ∨ id = cache := by
        by_cases same : id = cache
        · exact .inr same
        · exact .inl (sparing fun again => same (Option.some.inj (active.symm.trans again)))
      have back : manner = .sparing ∨ cache = id := moves.imp_right Eq.symm
      have begins : Scope.Shelters ⟨manner, id⟩ ⟨world, some id⟩ world :=
        ⟨(shelters.current id active).move moves, fun other among => by
          cases among
          exact (shelters.current id active).move moves, shelters.active.trans active, fun _ => rfl,
          Nat.le_refl _, fun _ _ _ _ => rfl, .refl world⟩
      have resumes : ∀ {done}, Scope.Shelters ⟨manner, id⟩ ⟨world, some id⟩ done →
          Scope.Shelters ⟨manner, cache⟩ since done := by
        intro done ends
        refine shelters.resume ends (fun _ => Scope.Safe.move (s := ⟨manner, id⟩) back)
          (fun other _ used => .inr ?_) (Nat.le_refl _) (fun _ _ => rfl)
          (ends.active.trans (shelters.active.trans active).symm) rfl
        rcases used with rfl | among
        · exact active
        · exact active.trans among
      refine (resolves.joined begins rfl rules (safe.move moves)
        (bindings.mono fun _ safe => safe.move moves)).mono ?_ ?_
      · exact fun value done ends =>
          ⟨resumes ends.1, Scope.Safe.move (s := ⟨manner, id⟩) back ends.2⟩
      · exact fun failure done ends => ⟨resumes ends.1, ends.2⟩

theorem lookup (resolves : manner.Resolves resolution) {cache : CacheId}
    (replacements : ∀ u ∈ resolver.replacements, Scope.Safe ⟨manner, cache⟩ u)
    (bindings : env.Each (Scope.Safe ⟨manner, cache⟩)) (name : Term) :
    (Scope.discipline ⟨manner, cache⟩).Keeps (lookupName resolution resolver env cache name)
      (Scope.Safe ⟨manner, cache⟩) := by
  unfold lookupName
  split
  · exact (Scope.record_keeps ⟨manner, cache⟩ _).bind fun _ _ =>
      .pure ((Scope.safe_hereditary _).text _ _)
  · next binding found =>
      exact Scope.memoize_keeps
        (resolves cache resolver binding env replacements (bindings.target? found) bindings)

theorem works (resolves : manner.Resolves resolution) {cache : CacheId}
    (replacements : ∀ u ∈ resolver.replacements, Scope.Safe ⟨manner, cache⟩ u) :
    (Scope.discipline ⟨manner, cache⟩).Works resolution resolver cache where
  asked asks _ made _ _ safe bindings := by
    rw [asks.1]
    exact resolves.asked asks.2 made.replacements safe bindings
  blocks opens _ keeps := Scope.within_keeps opens keeps
  reads name given := by
    obtain ⟨rfl, replacements, bindings⟩ := Scope.Given.view given
    exact Discipline.item_keeps name (resolves.lookup replacements bindings name)
      fun _ => Scope.record_keeps _ _
  children safe bindings := resolves cache resolver _ _ replacements safe bindings
  replacements := replacements
  views stamp bindings := .inr ⟨stamp, resolver, _, rfl, replacements, bindings⟩
  applied called safe := Scope.invocable_function called safe
  called safe given := Scope.invocable_callable safe given
  acts called self given := Scope.reads called self given
  looksUp name bindings := resolves.lookup replacements bindings name
  notes _ := Scope.record_keeps _ _

end Manner.Resolves

/-- Resolution at every level keeps to its table. -/
theorem Manner.resolves_resolveTerm (manner : Manner) (ceiling : Int) (levels : Nat) :
    manner.Resolves (resolveTerm ceiling levels) := by
  induction levels with
  | zero => exact fun _ _ _ _ _ _ _ => .fail nofun
  | succ levels ih =>
      exact fun _ _ _ _ replacements safe bindings =>
        (ih.works replacements).resolveNode safe bindings

end ScopedTemplate
