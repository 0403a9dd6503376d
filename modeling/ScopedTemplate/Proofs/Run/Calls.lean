import ScopedTemplate.Proofs.Cache.Order
import ScopedTemplate.Proofs.Resolver.Start
import ScopedTemplate.Proofs.Run.Memoized

/-!
# Calls of a memo table

What is computed for a table may call the table again, to any depth, and may go on from calls that failed.
Whatever it does, a call leaves in flight what was in flight before, and values that are stored stay.
-/

namespace ScopedTemplate

namespace Cache

variable {limit : Option Int} {table : Cache} {key : CacheKey} {env : Environment Term}

/--
A table that is open, with no key twice in flight, no value for a key in flight, and no deeper nesting than
the limit allows; a negative limit is like zero.
-/
structure Intact (limit : Option Int) (table : Cache) : Prop where
  isOpen : table.closed = false
  isTable : table.standIn = none
  distinct : table.pending.Nodup
  missing : ∀ key ∈ table.pending, table.find? key = none
  shallow : ∀ bound, limit = some bound → table.pending.length ≤ bound.toNat

theorem intact_empty (limit : Option Int) : empty.Intact limit :=
  ⟨rfl, rfl, List.nodup_nil, nofun, fun _ _ => Nat.zero_le _⟩

/-- What is noted does not matter. -/
theorem Intact.noted (intact : table.Intact limit) (events : List Event) :
    { table with events := events }.Intact limit :=
  ⟨intact.isOpen, intact.isTable, intact.distinct, intact.missing, intact.shallow⟩

/-- Whether a guard keeps a key from being computed: it is in flight, or nests too deep. -/
def guards (table : Cache) (key : CacheKey) (limit : Option Int) : Bool :=
  table.pending.contains key || limit.any (· ≤ (table.pending.length : Int))

/-- Whether a computation begins for a key. -/
def starts (table : Cache) (key : CacheKey) (limit : Option Int) : Bool :=
  !table.has key && !table.guards key limit

def rejects (table : Cache) (key : CacheKey) (limit : Option Int) : Bool :=
  !table.has key && table.guards key limit

theorem not_guards_iff : table.guards key limit = false ↔ key ∉ table.pending ∧
    ∀ bound, limit = some bound → (table.pending.length : Int) < bound := by
  unfold guards
  rw [Bool.or_eq_false_iff, List.contains_eq_mem, decide_eq_false_iff_not]
  refine and_congr_right fun _ => ?_
  cases limit with
  | none => simp
  | some bound => simp

theorem starts_iff (intact : table.Intact limit) :
    table.starts key limit = true ↔ table.Begins key true limit := by
  unfold starts has
  rw [Bool.and_eq_true, Bool.not_eq_true', Bool.not_eq_true', Option.isSome_eq_false_iff,
    Option.isNone_iff_eq_none, not_guards_iff]
  constructor
  · rintro ⟨missing, apart, shallow⟩
    exact ⟨intact.isOpen, intact.isTable, missing, fun _ => apart, shallow⟩
  · exact fun begins => ⟨begins.missing, begins.notInFlight rfl, begins.shallow⟩

/-- A key that a computation begins for is in flight as it may be. -/
theorem Intact.enter (intact : table.Intact limit) (begins : table.Begins key true limit) :
    (table.enter key env).Intact limit := by
  refine ⟨intact.isOpen, intact.isTable, ?_, ?_, ?_⟩
  · show (table.pending ++ [key]).Nodup
    refine List.nodup_append.2 ⟨intact.distinct, List.pairwise_singleton _ key, ?_⟩
    intro other among last here same
    rw [same, List.mem_singleton.1 here] at among
    exact begins.notInFlight rfl among
  · intro other among
    rcases List.mem_append.1 among with before | last
    · exact intact.missing other before
    · rw [List.mem_singleton.1 last]
      exact begins.missing
  · intro bound limited
    have free := begins.shallow bound limited
    have size : (table.enter key env).pending.length = table.pending.length + 1 := List.length_append
    omega

/-- When a computation has failed its key is in flight no more. -/
theorem Intact.leave (intact : table.Intact limit) : table.leave.Intact limit := by
  have part : table.leave.pending.Sublist table.pending := List.dropLast_sublist _
  refine ⟨intact.isOpen, intact.isTable, intact.distinct.sublist part, ?_, ?_⟩
  · exact fun other among => intact.missing other (part.subset among)
  · exact fun bound limited => Nat.le_trans part.length_le (intact.shallow bound limited)

/-- When a computation has ended its value is stored, and its key is in flight no more. -/
theorem Intact.settle {pending : List CacheKey} (intact : table.Intact limit)
    (innermost : table.pending = pending ++ [key]) (value : Term) :
    (table.leave.put key value).Intact limit := by
  have left := intact.leave
  refine ⟨left.isOpen, left.isTable, left.distinct, ?_, left.shallow⟩
  intro other among
  have rest : table.leave.pending = pending := Cache.pending_leave innermost
  rw [find?_put, if_neg, left.missing other among]
  rintro rfl
  have distinct := intact.distinct
  rw [innermost, List.nodup_append] at distinct
  change key ∈ table.leave.pending at among
  rw [rest] at among
  exact distinct.2.2 key among key (List.mem_singleton_self key) rfl

/-- A value that is stored for a key in flight comes last. -/
theorem Intact.entries_settle (intact : table.Intact limit) (among : key ∈ table.pending) (value : Term) :
    (table.leave.put key value).entries = table.entries ++ [(key, value)] :=
  store_of_not_mem (find?_eq_none.1 (intact.missing key among))

/-- Values that are stored are found when more are stored after them. -/
theorem find?_of_prefix {table' : Cache} (grows : table.entries <+: table'.entries) {value : Term}
    (found : table.find? key = some value) : table'.find? key = some value := by
  obtain ⟨more, entries⟩ := grows
  unfold find? at found ⊢
  rw [← entries, List.find?_append]
  obtain ⟨entry, first, same⟩ := Option.map_eq_some_iff.1 found
  rw [first]
  exact congrArg some same

end Cache

namespace Run

/-- A call of a memo table, in the world in which it is made. -/
structure TableCall where
  name : Term
  env : Environment Term
  compute : Run Term
  world : World

theorem log_run (level : Level) (message : String) (world : World) :
    log level message world = .ok () { world with trace := ⟨level, message⟩ :: world.trace } := rfl

namespace TableCall

variable (id : CacheId) (limit : Option Int) (call : TableCall)

def key : CacheKey := .of call.name call.env

def result : EStateM.Result Failure World Term :=
  memoize id call.name call.env true limit call.compute call.world

def before : Cache := call.world.cache id

def after : Cache := (left (call.result id limit)).cache id

def entered : World :=
  let message := "Cache miss: " ++ call.name.nameText ++ " (depth " ++
    toString (call.before id).pending.length ++ ")"
  World.change { call.world with trace := ⟨.debug, message⟩ :: call.world.trace } id
    (Cache.enter · call.key call.env)

def starts : Bool := (call.before id).starts call.key limit

def rejected : Bool := (call.before id).rejects call.key limit

def returns : Bool :=
  match call.result id limit with
  | .ok .. => true
  | .error .. => false

variable {id} {limit} {call}

theorem cache_entered (inside : id < call.world.caches.length) :
    (call.entered id).cache id = (call.before id).enter call.key call.env :=
  World.cache_change { call.world with trace := _ :: call.world.trace } inside
    (Cache.enter · call.key call.env)

theorem length_entered : (call.entered id).caches.length = call.world.caches.length := by
  unfold entered
  rw [World.length_change]

/-- What a call comes to that begins a computation. -/
theorem result_of_starts (intact : (call.before id).Intact limit) (starts : call.starts id limit = true) :
    call.result id limit = match call.compute (call.entered id) with
      | .ok value done => .ok value (World.change { done.change id Cache.leave with
          nextStamp := (value.detach done.nextStamp).2 } id
            (Cache.put · call.key (value.detach done.nextStamp).1))
      | .error failure done => .error failure (done.change id Cache.leave) := by
  have begins := (Cache.starts_iff intact).1 starts
  have free := Cache.not_guards_iff.2 ⟨begins.notInFlight rfl, begins.shallow⟩
  unfold Cache.guards at free
  rw [Bool.or_eq_false_iff] at free
  obtain ⟨apart, shallow⟩ := free
  unfold before key at begins apart
  unfold before at shallow
  unfold result memoize
  simp only [bind, EStateM.bind, cache_run, checkTable_run begins.isTable, begins.isOpen, begins.missing,
    apart, shallow, Bool.and_false, if_false, Bool.false_eq_true]
  have entered : changeCache id (Cache.enter · (CacheKey.of call.name call.env) call.env)
      { call.world with trace := ⟨.debug, "Cache miss: " ++ call.name.nameText ++ " (depth " ++
        toString (call.world.cache id).pending.length ++ ")"⟩ :: call.world.trace } =
      .ok () (call.entered id) := rfl
  simp only [log_run, entered, Run.andThen]
  cases call.compute (call.entered id) <;> rfl

/-- A call with a stored value returns a copy of it, whatever would be computed. -/
theorem served (intact : (call.before id).Intact limit) {value : Term}
    (found : (call.before id).find? call.key = some value) :
    ∃ copy done, copy.outline false = value.outline false ∧
      ∀ compute, memoize id call.name call.env true limit compute call.world = .ok copy done := by
  refine ⟨(value.detach call.world.nextStamp).1, { call.world.change id (Cache.hit · call.key call.env) with
    trace := ⟨.debug, "Cache hit: " ++ call.name.nameText⟩ :: call.world.trace
    nextStamp := (value.detach call.world.nextStamp).2 }, Term.outline_detach _ _, fun compute => ?_⟩
  have isTable := intact.isTable
  have isOpen := intact.isOpen
  unfold before at found isTable isOpen
  unfold key at found
  unfold memoize
  simp only [bind, EStateM.bind, cache_run, checkTable_run isTable, isOpen, found, Bool.false_eq_true,
    if_false]
  rfl

/-- A call that begins no computation is served or rejected. -/
theorem after_answered (inside : id < call.world.caches.length) (intact : (call.before id).Intact limit)
    (skips : call.starts id limit = false) :
    id < (left (call.result id limit)).caches.length ∧
      (call.rejected id limit = false ∧
          call.after id limit = (call.before id).hit call.key call.env ∨
        call.rejected id limit = true ∧
          call.after id limit = (call.before id).record (.refused call.key call.env)) := by
  have changed : ∀ {change : Cache → Cache} {done : World},
      World.SameTables (call.world.change id change) done → id < done.caches.length ∧
        done.cache id = change (call.before id) := by
    intro change done same
    refine ⟨?_, (same.cache_eq id).trans (World.cache_change _ inside change)⟩
    rw [same.caches, World.length_change]
    exact inside
  have skips' : ¬ (call.before id).Begins call.key true limit := by
    rw [← Cache.starts_iff intact, Bool.not_eq_true]
    exact skips
  have ends : Memoized id call.key call.env true limit call.compute call.world (call.result id limit) :=
    memoize_ends intact.isOpen intact.isTable
  unfold after
  generalize call.result id limit = result at ends
  cases ends with
  | served found same kept =>
      refine ⟨(changed kept).1, .inl ⟨?_, (changed kept).2⟩⟩
      unfold rejected Cache.rejects Cache.has before
      rw [found]
      rfl
  | refused missing refuses =>
      have kept := changed (.refl (call.world.change id (Cache.record · (.refused call.key call.env))))
      refine ⟨kept.1, .inr ⟨?_, kept.2⟩⟩
      have none : (call.before id).has call.key = false := by
        unfold Cache.has before
        rw [missing]
        rfl
      unfold starts Cache.starts at skips
      unfold rejected Cache.rejects
      rw [none] at skips ⊢
      simpa using skips
  | computed begins => exact absurd begins skips'
  | failed begins => exact absurd begins skips'

theorem not_rejected (starts : call.starts id limit = true) : call.rejected id limit = false := by
  unfold TableCall.starts Cache.starts at starts
  unfold rejected Cache.rejects
  rw [Bool.and_eq_true, Bool.not_eq_true', Bool.not_eq_true'] at starts
  rw [starts.2, Bool.and_false]

/-- What is computed is stored, and a failed computation leaves nothing. -/
theorem after_started (intact : (call.before id).Intact limit) (starts : call.starts id limit = true)
    (inside : id < (left (call.compute (call.entered id))).caches.length) :
    let done := (left (call.compute (call.entered id))).cache id
    id < (left (call.result id limit)).caches.length ∧
      ((∃ value copy world', call.result id limit = .ok value world' ∧
          copy.outline false = value.outline false ∧ call.after id limit = done.leave.put call.key copy) ∨
        call.returns id limit = false ∧ call.after id limit = done.leave) := by
  have result := result_of_starts intact starts
  unfold after returns
  cases ran : call.compute (call.entered id) with
  | ok value done =>
      rw [ran] at result inside
      dsimp only at result
      change id < done.caches.length at inside
      have stored : World.SameTables ((done.change id Cache.leave).change id
          (Cache.put · call.key (value.detach done.nextStamp).1)) (left (call.result id limit)) := by
        rw [result]
        exact ⟨rfl, rfl, rfl⟩
      have within : id < (done.change id Cache.leave).caches.length :=
        Nat.lt_of_lt_of_eq inside (World.length_change done id _).symm
      refine ⟨?_, .inl ⟨value, _, _, result, Term.outline_detach done.nextStamp value, ?_⟩⟩
      · rw [stored.caches, World.length_change]
        exact within
      · rw [stored.cache_eq, World.cache_change _ within, World.cache_change _ inside]
        rfl
  | error failure done =>
      rw [ran] at result inside
      dsimp only at result
      rw [result]
      refine ⟨?_, .inr ⟨rfl, World.cache_change done inside _⟩⟩
      exact Nat.lt_of_lt_of_eq inside (World.length_change done id _).symm

/-- A call that leaves the table intact, with what was in flight and what was stored before. -/
structure Regular (id : CacheId) (limit : Option Int) (call : TableCall) : Prop where
  before : (call.before id).Intact limit
  entered : call.starts id limit = true → ((call.entered id).cache id).Intact limit
  after : (call.after id limit).Intact limit
  pending : (call.after id limit).pending = (call.before id).pending
  entries : (call.before id).entries <+: (call.after id limit).entries
  served : ∀ value, (call.before id).find? call.key = some value → ∃ copy done,
    copy.outline false = value.outline false ∧
      ∀ compute, memoize id call.name call.env true limit compute call.world = .ok copy done

/-- A call ends before another one is made, or while the value of the other one is computed. -/
def Precedes (id : CacheId) (limit : Option Int) (earlier later : TableCall) : Prop :=
  (earlier.after id limit).entries <+: (later.before id).entries ∨
    later.key ∈ (earlier.before id).pending ∧
      (earlier.after id limit).entries <+: (later.after id limit).entries

/-- An entry holds what a call returned. -/
def Stores (id : CacheId) (limit : Option Int) (entry : CacheKey × Term) (call : TableCall) : Prop :=
  entry.1 = call.key ∧ ∃ value done, call.result id limit = .ok value done ∧
    entry.2.outline false = value.outline false

end TableCall

/--
What code does that uses a table by calls only: something that leaves the table alone but for notes of what
happens, calls, and one such thing after the other.  What is computed for a call does nothing else; whether it
returns a value or fails, and whether failures of its calls are caught, makes no difference.  Calls are listed
in the order in which they end.
-/
inductive Uses (id : CacheId) (limit : Option Int) : World → List TableCall → World → Prop where
  | aside {world world' : World} (events : List Event)
      (same : world'.cache id = { world.cache id with events := events })
      (kept : world.caches.length ≤ world'.caches.length) : Uses id limit world [] world'
  | answered (call : TableCall) (skips : call.starts id limit = false) :
      Uses id limit call.world [call] (left (call.result id limit))
  | computed (call : TableCall) {inner : List TableCall} (starts : call.starts id limit = true)
      (computes : Uses id limit (call.entered id) inner (left (call.compute (call.entered id)))) :
      Uses id limit call.world (inner ++ [call]) (left (call.result id limit))
  | followed {world world' world'' : World} {calls calls' : List TableCall}
      (first : Uses id limit world calls world') (next : Uses id limit world' calls' world'') :
      Uses id limit world (calls ++ calls') world''

/-- What calls do to a table. -/
structure Kept (id : CacheId) (limit : Option Int) (table : Cache) (calls : List TableCall)
    (table' : Cache) : Prop where
  intact : table'.Intact limit
  pending : table'.pending = table.pending
  regular : ∀ call ∈ calls, call.Regular id limit
  between : ∀ call ∈ calls, table.entries <+: (call.before id).entries ∧
    table.pending <+: (call.before id).pending ∧ (call.after id limit).entries <+: table'.entries
  ordered : calls.Pairwise (TableCall.Precedes id limit)
  counted : table'.hits + table'.misses =
    table.hits + table.misses + calls.countP fun call => !call.rejected id limit
  begun : table'.misses = table.misses + calls.countP (·.starts id limit)
  stored : ∃ added, table'.entries = table.entries ++ added ∧ List.Forall₂ (TableCall.Stores id limit) added
    (calls.filter fun call => call.starts id limit && call.returns id limit)

namespace Kept

variable {id : CacheId} {limit : Option Int} {table table' table'' : Cache} {calls calls' : List TableCall}
  {call : TableCall}

theorem entries (kept : Kept id limit table calls table') : table.entries <+: table'.entries := by
  obtain ⟨added, entries, -⟩ := kept.stored
  exact ⟨added, entries.symm⟩

theorem rest (intact : table.Intact limit) (events : List Event) :
    Kept id limit table [] { table with events := events } :=
  ⟨intact.noted events, rfl, nofun, nofun, .nil, rfl, rfl, [], (List.append_nil _).symm, .nil⟩

theorem append (first : Kept id limit table calls table') (next : Kept id limit table' calls' table'') :
    Kept id limit table (calls ++ calls') table'' := by
  refine ⟨next.intact, next.pending.trans first.pending, ?_, ?_, ?_, ?_, ?_, ?_⟩
  · exact List.forall_mem_append.2 ⟨first.regular, next.regular⟩
  · refine List.forall_mem_append.2 ⟨fun call member => ?_, fun call member => ?_⟩
    · obtain ⟨before, flight, after⟩ := first.between call member
      exact ⟨before, flight, after.trans next.entries⟩
    · obtain ⟨before, flight, after⟩ := next.between call member
      exact ⟨first.entries.trans before, first.pending ▸ flight, after⟩
  · refine List.pairwise_append.2 ⟨first.ordered, next.ordered, fun earlier member later member' => .inl ?_⟩
    exact (first.between earlier member).2.2.trans (next.between later member').1
  · rw [List.countP_append, next.counted, first.counted, Nat.add_assoc]
  · rw [List.countP_append, next.begun, first.begun, Nat.add_assoc]
  · obtain ⟨added, entries, stores⟩ := first.stored
    obtain ⟨added', entries', stores'⟩ := next.stored
    refine ⟨added ++ added', ?_, ?_⟩
    · rw [entries', entries, List.append_assoc]
    · rw [List.filter_append]
      exact List.rel_append stores stores'

/-- A call that begins no computation. -/
theorem answered (inside : id < call.world.caches.length) (intact : (call.before id).Intact limit)
    (skips : call.starts id limit = false) :
    Kept id limit (call.before id) [call] (call.after id limit) := by
  obtain ⟨-, answer⟩ := TableCall.after_answered inside intact skips
  -- served or rejected, the call changes only what is counted and noted
  obtain ⟨intact', pending, entries, counted, begun⟩ : (call.after id limit).Intact limit ∧
      (call.after id limit).pending = (call.before id).pending ∧
      (call.after id limit).entries = (call.before id).entries ∧
      (call.after id limit).hits + (call.after id limit).misses =
        (call.before id).hits + (call.before id).misses +
          [call].countP (fun call => !call.rejected id limit) ∧
      (call.after id limit).misses = (call.before id).misses := by
    rw [List.countP_singleton]
    rcases answer with ⟨passed, after⟩ | ⟨rejected, after⟩
    · rw [after, passed]
      refine ⟨?_, rfl, rfl, Nat.add_right_comm _ 1 _, rfl⟩
      exact ⟨intact.isOpen, intact.isTable, intact.distinct, intact.missing, intact.shallow⟩
    · rw [after, rejected]
      exact ⟨intact.noted _, rfl, rfl, rfl, rfl⟩
  have regular : call.Regular id limit := by
    refine ⟨intact, fun starts => ?_, intact', pending, entries ▸ List.prefix_refl _, ?_⟩
    · rw [skips] at starts
      cases starts
    · exact fun _ => call.served intact
  refine ⟨intact', pending, List.forall_mem_singleton.2 regular, List.forall_mem_singleton.2 ?_,
    List.pairwise_singleton _ _, counted, ?_, [], ?_, ?_⟩
  · exact ⟨List.prefix_refl _, List.prefix_refl _, List.prefix_refl _⟩
  · rw [List.countP_singleton, skips]
    exact begun
  · rw [entries, List.append_nil]
  · rw [List.filter_singleton, skips]
    exact .nil

/-- A call whose value is computed by calls. -/
theorem computed (inside : id < call.world.caches.length) (intact : (call.before id).Intact limit)
    (starts : call.starts id limit = true)
    (inside' : id < (left (call.compute (call.entered id))).caches.length)
    (inner : Kept id limit ((call.entered id).cache id) calls
      ((left (call.compute (call.entered id))).cache id)) :
    Kept id limit (call.before id) (calls ++ [call]) (call.after id limit) := by
  obtain ⟨-, ends⟩ := TableCall.after_started intact starts inside'
  have begins := (Cache.starts_iff intact).1 starts
  generalize (left (call.compute (call.entered id))).cache id = done at inner ends
  rw [TableCall.cache_entered inside] at inner
  have flight : done.pending = (call.before id).pending ++ [call.key] := inner.pending
  have among : call.key ∈ done.pending := by
    rw [flight]
    exact List.mem_append_right _ (List.mem_singleton_self _)
  -- what both ends have in common
  obtain ⟨intact', pending, hits, misses, last, entries, stores⟩ : (call.after id limit).Intact limit ∧
      (call.after id limit).pending = (call.before id).pending ∧
      (call.after id limit).hits = done.hits ∧ (call.after id limit).misses = done.misses ∧
      ∃ last, (call.after id limit).entries = done.entries ++ last ∧
        List.Forall₂ (TableCall.Stores id limit) last
          ([call].filter fun call => call.starts id limit && call.returns id limit) := by
    have rest : done.leave.pending = (call.before id).pending := Cache.pending_leave flight
    rcases ends with ⟨value, copy, world', result, same, after⟩ | ⟨fails, after⟩
    · rw [after]
      refine ⟨inner.intact.settle flight copy, rest, rfl, rfl, [(call.key, copy)],
        inner.intact.entries_settle among copy, ?_⟩
      have returns : call.returns id limit = true := by
        unfold TableCall.returns
        rw [result]
      rw [List.filter_singleton, starts, returns]
      exact .cons ⟨rfl, value, world', result, same⟩ .nil
    · rw [after]
      refine ⟨inner.intact.leave, rest, rfl, rfl, [], (List.append_nil _).symm, ?_⟩
      rw [List.filter_singleton, starts, fails]
      exact .nil
  have grows : done.entries <+: (call.after id limit).entries := ⟨last, entries.symm⟩
  have grows' : (call.before id).entries <+: (call.after id limit).entries := inner.entries.trans grows
  have regular : call.Regular id limit := by
    refine ⟨intact, fun _ => ?_, intact', pending, grows', fun _ => call.served intact⟩
    rw [TableCall.cache_entered inside]
    exact intact.enter begins
  refine ⟨intact', pending, ?_, ?_, ?_, ?_, ?_, ?_⟩
  · exact List.forall_mem_append.2 ⟨inner.regular, List.forall_mem_singleton.2 regular⟩
  · refine List.forall_mem_append.2 ⟨fun other member => ?_, List.forall_mem_singleton.2 ?_⟩
    · obtain ⟨before, around, after⟩ := inner.between other member
      exact ⟨before, (List.prefix_append _ _).trans around, after.trans grows⟩
    · exact ⟨List.prefix_refl _, List.prefix_refl _, List.prefix_refl _⟩
  · refine List.pairwise_append.2 ⟨inner.ordered, List.pairwise_singleton _ _, ?_⟩
    refine fun earlier member later last => .inr ?_
    obtain ⟨-, around, after⟩ := inner.between earlier member
    rw [List.mem_singleton.1 last]
    exact ⟨around.subset (List.mem_append_right _ (List.mem_singleton_self _)), after.trans grows⟩
  · rw [hits, misses, inner.counted, List.countP_append, List.countP_singleton,
      TableCall.not_rejected starts, Bool.not_false, if_pos rfl]
    change (call.before id).hits + ((call.before id).misses + 1) + _ = _
    omega
  · rw [misses, inner.begun, List.countP_append, List.countP_singleton, starts, if_pos rfl]
    change (call.before id).misses + 1 + _ = _
    omega
  · obtain ⟨added, stored, stores'⟩ := inner.stored
    refine ⟨added ++ last, ?_, ?_⟩
    · rw [entries, stored, List.append_assoc]
      rfl
    · rw [List.filter_append]
      exact List.rel_append stores' stores

end Kept

/-- Whatever uses a table by calls keeps it. -/
theorem kept_of_uses {id : CacheId} {limit : Option Int} {world world' : World} {calls : List TableCall}
    (uses : Uses id limit world calls world') (inside : id < world.caches.length)
    (intact : (world.cache id).Intact limit) :
    id < world'.caches.length ∧ Kept id limit (world.cache id) calls (world'.cache id) := by
  induction uses with
  | aside events same kept =>
      rw [same]
      exact ⟨Nat.lt_of_lt_of_le inside kept, .rest intact events⟩
  | answered call skips =>
      exact ⟨(TableCall.after_answered inside intact skips).1, .answered inside intact skips⟩
  | computed call starts computes ih =>
      have entered : id < (call.entered id).caches.length :=
        Nat.lt_of_lt_of_eq inside TableCall.length_entered.symm
      have intact' : ((call.entered id).cache id).Intact limit := by
        rw [TableCall.cache_entered inside]
        exact intact.enter ((Cache.starts_iff intact).1 starts)
      obtain ⟨inside', inner⟩ := ih entered intact'
      exact ⟨(TableCall.after_started intact starts inside').1,
        .computed inside intact starts inside' inner⟩
  | followed first next ih ih' =>
      obtain ⟨inside', kept⟩ := ih inside intact
      obtain ⟨inside'', kept'⟩ := ih' inside' kept.intact
      exact ⟨inside'', kept.append kept'⟩

/--
Whatever uses a table by calls, whether these return or fail, leaves in flight what was in flight, and so does
every single call.  No key is in flight twice, with a value, or beyond the limit, neither before a call nor
after it nor when its computation begins.  Values that are stored stay, and a later call with their key
returns a copy without computing anything.  Hits and misses count the calls that no guard rejects, misses
those that begin a computation, and those of them that return store what they return.
-/
theorem calls_keep {id : CacheId} {limit : Option Int} {world world' : World} {calls : List TableCall}
    (uses : Uses id limit world calls world') (inside : id < world.caches.length)
    (intact : (world.cache id).Intact limit) :
    ((world'.cache id).Intact limit ∧ (world'.cache id).pending = (world.cache id).pending) ∧
    (∀ call ∈ calls, call.Regular id limit ∧ (world.cache id).entries <+: (call.before id).entries ∧
      (call.after id limit).entries <+: (world'.cache id).entries) ∧
    calls.Pairwise (fun earlier later =>
      (earlier.after id limit).entries <+: (later.after id limit).entries ∧
      ∀ value, (earlier.after id limit).find? earlier.key = some value → earlier.key = later.key →
        (later.before id).find? later.key = some value) ∧
    ((world'.cache id).hits + (world'.cache id).misses = (world.cache id).hits + (world.cache id).misses +
      calls.countP fun call => !call.rejected id limit) ∧
    (world'.cache id).misses = (world.cache id).misses + calls.countP (·.starts id limit) ∧
    ∃ added, (world'.cache id).entries = (world.cache id).entries ++ added ∧
      List.Forall₂ (TableCall.Stores id limit) added
        (calls.filter fun call => call.starts id limit && call.returns id limit) := by
  obtain ⟨-, kept⟩ := kept_of_uses uses inside intact
  refine ⟨⟨kept.intact, kept.pending⟩, ?_, ?_, kept.counted, kept.begun, kept.stored⟩
  · intro call member
    obtain ⟨before, -, after⟩ := kept.between call member
    exact ⟨kept.regular call member, before, after⟩
  · refine kept.ordered.imp_of_mem fun {earlier later} member member' precedes => ?_
    have regular := kept.regular earlier member
    have regular' := kept.regular later member'
    rcases precedes with before | ⟨around, after⟩
    · refine ⟨before.trans regular'.entries, fun value found same => ?_⟩
      exact Cache.find?_of_prefix before (same ▸ found)
    · refine ⟨after, fun value found same => ?_⟩
      -- the key would be in flight and stored
      rw [same, regular.after.missing later.key (regular.pending ▸ around)] at found
      cases found

def fresh : World := { World.empty with caches := [.empty] }

def callFor (name : String) (compute : Run Term) (world : World) : TableCall :=
  ⟨.ref name, .ofBindings [] [], compute, world⟩

/-- Ask for a name again while its value is computed, and when this is refused for another one. -/
def retried : Run Term :=
  recover (memoize 0 (.ref "A") (.ofBindings [] []) true (some 2) (pure .null)) fun _ =>
    some (memoize 0 (.ref "B") (.ofBindings [] []) true (some 2) (pure (.int 1)))

/-- The refused call leaves the name in flight, and both names are stored in the end. -/
theorem retried_keeps :
    let outer := callFor "A" retried fresh
    let refused := callFor "A" (pure .null) (outer.entered 0)
    let other := callFor "B" (pure (.int 1)) (left (refused.result 0 (some 2)))
    Uses 0 (some 2) fresh [refused, other, outer] (left (outer.result 0 (some 2))) ∧
      0 < fresh.caches.length ∧ (fresh.cache 0).Intact (some 2) ∧
      (refused.after 0 (some 2)).pending = [outer.key] ∧
      ((left (outer.result 0 (some 2))).cache 0).misses = 2 ∧
      ((left (outer.result 0 (some 2))).cache 0).pending = [] := by
  intro outer refused other
  have inner : Uses 0 (some 2) (left (refused.result 0 (some 2))) [other] (left (other.result 0 (some 2))) :=
    .computed other rfl (.aside _ rfl (Nat.le_refl _))
  have uses : Uses 0 (some 2) fresh [refused, other, outer] (left (outer.result 0 (some 2))) :=
    .computed outer rfl (.followed (.answered refused rfl) inner)
  obtain ⟨⟨-, pending⟩, each, -, -, misses, -⟩ := calls_keep uses Nat.zero_lt_one (Cache.intact_empty _)
  refine ⟨uses, Nat.zero_lt_one, Cache.intact_empty _, ?_, misses, pending⟩
  exact (each refused List.mem_cons_self).1.pending

end Run

end ScopedTemplate
