import ScopedTemplate.Proofs.Cache.Related
import ScopedTemplate.Proofs.Lockstep.Access
import ScopedTemplate.Proofs.Resolver.Grows
import ScopedTemplate.Proofs.Run.Quiet

/-!
# Two runs in lockstep

Two runs that begin in worlds that are alike end alike: both with values that are related, or both
with failures that are alike, and in worlds that are alike again.  Where the first run may refuse
what the second one accepts, the second one goes astray instead: it fails, or it leaves a trace.
-/

namespace ScopedTemplate

open Run

/-! ## Worlds -/

/-- Two tables in the same state, with values that are alike. -/
structure Pairing.AlikeTable (p : Pairing) (table table' : Cache) : Prop where
  entries : List.Forall₂ (fun entry entry' => entry.1 = entry'.1 ∧ p.Alike entry.2 entry'.2)
    table.entries table'.entries
  pending : table.pending = table'.pending
  closed : table.closed = table'.closed
  hits : table.hits = table'.hits
  misses : table.misses = table'.misses
  standIn : table.standIn = table'.standIn

/-- Two worlds in the same state, with values that are alike. -/
structure Pairing.AlikeWorld (p : Pairing) (world world' : World) : Prop where
  caches : List.Forall₂ p.AlikeTable world.caches world'.caches
  active : world.active = world'.active
  counts : world.counts = world'.counts
  calls : world.calls = world'.calls
  nextStamp : world.nextStamp = world'.nextStamp
  inside : p.cache < world.caches.length
  /-- What was left in the table was left under an environment that is admitted. -/
  left : ∀ env reference, .left env reference ∈ (world.cache p.cache).events →
    ∃ env', p.admits env env'
  shared : world.active = some p.cache → p.shared
  caught : p.caught ≤ world'.caught.length

theorem Pairing.AlikeWorld.inside' {p : Pairing} {world world' : World}
    (alike : p.AlikeWorld world world') : p.cache < world'.caches.length :=
  alike.caches.length_eq ▸ alike.inside

/-- A run left a trace of what the other one refused, or caught a failure. -/
structure Pairing.Strays (p : Pairing) (world : World) : Prop where
  caught : p.caught ≤ world.caught.length
  strays : (∃ function args, .applied function args ∈ (world.cache p.cache).events ∧
    ∃ arg ∈ args, p.classifier.isRef arg = true) ∨ p.caught < world.caught.length

def Failure.IsRefusal (failure : Failure) : Prop :=
  failure.isMissingKey = false ∧ failure.isExhaustion = false

namespace Pairing

variable {p : Pairing} {world world' : World} {α α' β β' : Type}

theorem Strays.grown (strays : p.Strays world) (grown : World.Grown world world') :
    p.Strays world' := by
  refine ⟨Nat.le_trans strays.caught grown.caught, ?_⟩
  rcases strays.strays with ⟨function, args, noted, refs⟩ | caught
  · exact .inl ⟨function, args, (grown.tables p.cache).events.subset noted, refs⟩
  · exact .inr (Nat.lt_of_lt_of_le caught grown.caught)

theorem Strays.change {id : CacheId} {change : Cache → Cache} (strays : p.Strays world)
    (same : ∀ table : Cache, (change table).events = table.events) :
    p.Strays (world.change id change) := by
  have events : ((world.change id change).cache p.cache).events =
      (world.cache p.cache).events := by
    by_cases other : id = p.cache
    · subst other
      by_cases inside : p.cache < world.caches.length
      · rw [world.cache_change inside, same]
      · rw [World.change, World.setCache, List.set_eq_of_length_le (Nat.not_lt.1 inside)]
    · rw [world.cache_change_of_ne other]
  refine ⟨strays.caught, ?_⟩
  rw [events]
  exact strays.strays

/-- Two runs end alike, or the second one goes astray from where the first one stops. -/
inductive Ends (p : Pairing) (R : α → α' → Prop) :
    EStateM.Result Failure World α → EStateM.Result Failure World α' → Prop where
  | ok {value : α} {value' : α'} {world world' : World} (rel : R value value')
      (alike : p.AlikeWorld world world') : Ends p R (.ok value world) (.ok value' world')
  | error {failure failure' : Failure} {world world' : World}
      (failures : p.AlikeFailure failure failure') (alike : p.AlikeWorld world world') :
      Ends p R (.error failure world) (.error failure' world')
  | refused {failure failure' : Failure} {world world' : World} (diverges : p.diverges)
      (refusal : failure.IsRefusal) (caught : p.caught ≤ world'.caught.length) :
      Ends p R (.error failure world) (.error failure' world')
  | strayed {failure : Failure} {value' : α'} {world world' : World} (diverges : p.diverges)
      (refusal : failure.IsRefusal) (strays : p.Strays world') :
      Ends p R (.error failure world) (.ok value' world')

theorem Strays.after (strays : p.Strays world) {run : Run α} (grows : Grows run) :
    After run world (fun _ => p.Strays) fun _ world' => p.caught ≤ world'.caught.length :=
  (grows.after world).mono (fun _ _ grown => strays.grown grown)
    fun _ _ grown => (strays.grown grown).caught

/-- Runs that follow runs with like ends end alike if they do so from alike worlds. -/
theorem Ends.bind {R : α → α' → Prop} {S : β → β' → Prop} {run : Run α} {run' : Run α'}
    (first : p.Ends R (run world) (run' world')) {next : α → Run β} {next' : α' → Run β'}
    (astray : ∀ value world, p.Strays world → After (next' value) world (fun _ => p.Strays)
      fun _ world' => p.caught ≤ world'.caught.length)
    (then_ends : ∀ value value' done done', R value value' → p.AlikeWorld done done' →
      p.Ends S (next value done) (next' value' done')) :
    p.Ends S ((run >>= next) world) ((run' >>= next') world') := by
  simp only [Bind.bind, EStateM.bind]
  generalize run world = result, run' world' = result' at first
  cases first with
  | ok rel alike => exact then_ends _ _ _ _ rel alike
  | error failures alike => exact .error failures alike
  | refused diverges refusal caught => exact .refused diverges refusal caught
  | @strayed _ value' _ done diverges refusal strays =>
      have left := astray value' done strays
      unfold After at left
      dsimp only
      generalize next' value' done = result at left
      cases result with
      | ok value'' world'' => exact .strayed diverges refusal left
      | error failure'' world'' => exact .refused diverges refusal left

def Lockstep (p : Pairing) (R : α → α' → Prop) (run : Run α) (run' : Run α') : Prop :=
  ∀ world world', p.AlikeWorld world world' → p.Ends R (run world) (run' world')

end Pairing

/-! ## Composed runs -/

namespace Pairing.Lockstep

variable {p : Pairing} {α α' β β' : Type} {R : α → α' → Prop} {S : β → β' → Prop}

theorem pure {value : α} {value' : α'} (rel : R value value') :
    p.Lockstep R (pure value) (pure value') :=
  fun _ _ alike => .ok rel alike

theorem throw {failure failure' : Failure} (alike : p.AlikeFailure failure failure') :
    p.Lockstep R (throw failure : Run α) (throw failure' : Run α') :=
  fun _ _ worlds => .error alike worlds

theorem fail (failure : Failure) :
    p.Lockstep R (MonadExcept.throw failure : Run α) (MonadExcept.throw failure : Run α') :=
  throw (.same failure)

/-- What follows a run that went astray has to leave the trace there. -/
theorem bind_of_strays {run : Run α} {run' : Run α'} (first : p.Lockstep R run run')
    {next : α → Run β} {next' : α' → Run β'}
    (astray : ∀ value world, p.Strays world → After (next' value) world (fun _ => p.Strays)
      fun _ world' => p.caught ≤ world'.caught.length)
    (then_lockstep : ∀ value value', R value value' → p.Lockstep S (next value) (next' value')) :
    p.Lockstep S (run >>= next) (run' >>= next') :=
  fun _ _ alike => (first _ _ alike).bind astray fun _ _ _ _ rel => then_lockstep _ _ rel _ _

theorem bind_of_grows {run : Run α} {run' : Run α'} (first : p.Lockstep R run run')
    {next : α → Run β} {next' : α' → Run β'} (grows : ∀ value, Grows (next' value))
    (then_lockstep : ∀ value value', R value value' → p.Lockstep S (next value) (next' value')) :
    p.Lockstep S (run >>= next) (run' >>= next') :=
  first.bind_of_strays (fun value _ strays => strays.after (grows value)) then_lockstep

theorem bind {run : Run α} {run' : Run α'} (first : p.Lockstep R run run') {next : α → Run β}
    {next' : α' → Run β'} [grows : ∀ value, Grows (next' value)]
    (then_lockstep : ∀ value value', R value value' → p.Lockstep S (next value) (next' value')) :
    p.Lockstep S (run >>= next) (run' >>= next') :=
  first.bind_of_grows grows then_lockstep

theorem mono {R' : α → α' → Prop} {run : Run α} {run' : Run α'} (lockstep : p.Lockstep R run run')
    (imp : ∀ value value', R value value' → R' value value') : p.Lockstep R' run run' := by
  intro world world' alike
  have ends := lockstep world world' alike
  generalize run world = result, run' world' = result' at ends
  cases ends with
  | ok rel alike => exact .ok (imp _ _ rel) alike
  | error failures alike => exact .error failures alike
  | refused diverges refusal caught => exact .refused diverges refusal caught
  | strayed diverges refusal strays => exact .strayed diverges refusal strays

theorem map {run : Run α} {run' : Run α'} (lockstep : p.Lockstep R run run') {change : α → β}
    {change' : α' → β'} (imp : ∀ value value', R value value' → S (change value) (change' value')) :
    p.Lockstep S (change <$> run) (change' <$> run') := by
  rw [← bind_pure_comp, ← bind_pure_comp]
  exact lockstep.bind fun value value' rel => pure (imp value value' rel)

theorem ofResult {result : Except Failure α} {result' : Except Failure α'}
    (alike : p.AlikeResult R result result') :
    p.Lockstep R (Run.ofResult result) (Run.ofResult result') := by
  cases alike with
  | ok rel => exact pure rel
  | error alike => exact throw alike

theorem modify {change change' : World → World}
    (keeps : ∀ {world world'}, p.AlikeWorld world world' →
      p.AlikeWorld (change world) (change' world')) :
    p.Lockstep (fun _ _ => True) (modify change : Run Unit) (modify change' : Run Unit) :=
  fun _ _ alike => .ok trivial (keeps alike)

theorem get : p.Lockstep p.AlikeWorld (get : Run World) (get : Run World) :=
  fun _ _ alike => .ok alike alike

/-! ## What does not touch the tables -/

/-- A record in the trace asks nothing of what follows it. -/
theorem afterLog {level level' : Level} {message message' : String} {next : Unit → Run α}
    {next' : Unit → Run α'} (then_lockstep : p.Lockstep R (next ()) (next' ())) :
    p.Lockstep R (Run.log level message >>= next) (Run.log level' message' >>= next') :=
  fun _ _ alike => then_lockstep _ _ { alike with }

/-- Nor does a record of one run alone. -/
theorem afterOwnLog {level : Level} {message : String} {next : Unit → Run α} {run' : Run α'}
    (then_lockstep : p.Lockstep R (next ()) run') :
    p.Lockstep R (Run.log level message >>= next) run' :=
  fun _ _ alike => then_lockstep _ _ { alike with }

theorem recordCall (stamp : Stamp) (label : String) :
    p.Lockstep (fun _ _ => True) (Run.recordCall stamp label) (Run.recordCall stamp label) := by
  refine modify fun alike => { alike with counts := ?_, calls := ?_ }
  · exact congrArg (World.countCall stamp) alike.counts
  · exact congrArg (label :: ·) alike.calls

theorem note (message : String) : p.Lockstep (fun _ _ => True)
    (MonadStateOf.modifyGet fun world : World =>
      ((), { world with calls := message :: world.calls }) : Run Unit)
    (MonadStateOf.modifyGet fun world : World =>
      ((), { world with calls := message :: world.calls }) : Run Unit) :=
  modify fun alike => { alike with calls := congrArg (message :: ·) alike.calls }

theorem noteCaught (failure failure' : Failure) :
    p.Lockstep (fun _ _ => True) (Run.noteCaught failure) (Run.noteCaught failure') :=
  modify fun alike => { alike with caught := Nat.le_succ_of_le alike.caught }

theorem takeStamps (count : Nat) :
    p.Lockstep Eq (Run.takeStamps count) (Run.takeStamps count) :=
  fun _ _ alike => .ok alike.nextStamp
    { alike with nextStamp := congrArg (· + count) alike.nextStamp }

theorem collectionStamp {size size' : Nat} (same : size = size') :
    p.Lockstep Eq (Run.collectionStamp size) (Run.collectionStamp size') := by
  subst same
  unfold Run.collectionStamp
  split
  · exact (takeStamps 1).map fun _ _ same => congrArg some same
  · exact pure rfl

theorem makeList {items items' : List Term} (each : List.Forall₂ p.Alike items items') :
    p.Lockstep p.Alike (Run.makeList items) (Run.makeList items') := by
  refine (collectionStamp each.length_eq).bind ?_
  rintro stamp _ rfl
  exact pure (alike_list.2 each)

theorem makeTuple {items items' : List Term} (each : List.Forall₂ p.Alike items items') :
    p.Lockstep p.Alike (Run.makeTuple items) (Run.makeTuple items') := by
  refine (collectionStamp each.length_eq).bind ?_
  rintro stamp _ rfl
  exact pure (alike_tuple.2 each)

theorem makeCollection {kind : MapKind} {entries entries' : Entries}
    (each : p.AlikeEntries entries entries') :
    p.Lockstep p.Alike (Standard.makeMap kind entries) (Standard.makeMap kind entries') := by
  refine (collectionStamp each.length_eq).bind ?_
  rintro stamp _ rfl
  exact pure (alike_map.2 each)

theorem makeMap {entries entries' : Entries} (each : p.AlikeEntries entries entries') :
    p.Lockstep p.Alike (Run.makeMap entries) (Run.makeMap entries') :=
  makeCollection each

theorem detach {t t' : Term} (alike : p.Alike t t') :
    p.Lockstep p.Alike (Run.detach t) (Run.detach t') := by
  intro world world' worlds
  have copies := alike.detach world.nextStamp
  unfold Run.detach
  rw [← worlds.nextStamp]
  exact .ok copies.1 { worlds with nextStamp := copies.2 }

theorem snapshot {env env' : Environment Term} (alike : p.AlikeEnv env env') :
    p.Lockstep Eq (Run.snapshot env) (Run.snapshot env') := by
  unfold Run.snapshot
  rw [alike.flatten.areWritable, alike.snapshot]
  split
  · exact pure rfl
  · exact fail _

theorem written {t t' : Term} (alike : p.Alike t t') :
    p.Lockstep Eq (Run.written t) (Run.written t') := by
  unfold Run.written
  rw [alike.isWritable, alike.tagged]
  split
  · exact pure rfl
  · exact fail _

theorem inlineText {t t' : Term} (alike : p.Alike t t') :
    p.Lockstep Eq (Run.inlineText t) (Run.inlineText t') := by
  unfold Run.inlineText
  rw [alike.text?]
  split
  · exact pure rfl
  · exact written alike

end Pairing.Lockstep

/-! ## Tables -/

namespace Pairing

variable {p : Pairing} {world world' : World} {table table' : Cache} {α α' : Type}

theorem AlikeTable.empty : p.AlikeTable .empty .empty := ⟨.nil, rfl, rfl, rfl, rfl, rfl⟩

theorem AlikeTable.find? (alike : p.AlikeTable table table') (key : CacheKey) :
    Option.Rel p.Alike (table.find? key) (table'.find? key) :=
  Cache.Related.find? alike.entries key

theorem AlikeTable.put (alike : p.AlikeTable table table') (key : CacheKey) {t t' : Term}
    (values : p.Alike t t') : p.AlikeTable (table.put key t) (table'.put key t') :=
  { alike with entries := Cache.Related.put alike.entries key values }

theorem AlikeWorld.cache (alike : p.AlikeWorld world world') (id : CacheId) :
    p.AlikeTable (world.cache id) (world'.cache id) := by
  unfold World.cache
  rw [List.getD_eq_getElem?_getD, List.getD_eq_getElem?_getD]
  rcases (getElem?_rel alike.caches id).cases_eq with
    ⟨missing, missing'⟩ | ⟨table, table', found, found', tables⟩
  · rw [missing, missing']
    exact .empty
  · rw [found, found']
    exact tables

theorem forall₂_set {R : α → α' → Prop} {items : List α} {items' : List α'}
    (each : List.Forall₂ R items items') (n : Nat) {a : α} {a' : α'} (rel : R a a') :
    List.Forall₂ R (items.set n a) (items'.set n a') := by
  induction each generalizing n with
  | nil => exact .nil
  | cons first others ih =>
      cases n with
      | zero => exact .cons rel others
      | succ n => exact .cons first (ih n)

def Notes (p : Pairing) (id : CacheId) (change : Cache → Cache) : Prop :=
  id = p.cache → ∀ table env reference, .left env reference ∈ (change table).events →
    .left env reference ∈ table.events ∨ ∃ env', p.admits env env'

theorem AlikeWorld.change (alike : p.AlikeWorld world world') {id : CacheId}
    {change change' : Cache → Cache} (notes : p.Notes id change)
    (keeps : p.AlikeTable (change (world.cache id)) (change' (world'.cache id))) :
    p.AlikeWorld (world.change id change) (world'.change id change') := by
  refine { alike with caches := ?_, inside := ?_, left := ?_ }
  · unfold World.change World.setCache
    dsimp only
    exact forall₂_set alike.caches id keeps
  · rw [World.length_change]
    exact alike.inside
  · intro env reference noted
    by_cases same : id = p.cache
    · subst same
      rw [world.cache_change alike.inside] at noted
      rcases notes rfl _ _ _ noted with before | admitted
      · exact alike.left env reference before
      · exact admitted
    · rw [world.cache_change_of_ne same] at noted
      exact alike.left env reference noted

theorem notes_of_events {id : CacheId} {change : Cache → Cache}
    (same : ∀ table, ∀ env reference, .left env reference ∈ (change table).events →
      .left env reference ∈ table.events) : p.Notes id change :=
  fun _ table env reference noted => .inl (same table env reference noted)

theorem notes_record {id : CacheId} {event : Event} (other : ∀ env reference, event ≠ .left env reference) :
    p.Notes id (Cache.record · event) := by
  refine notes_of_events fun table env reference noted => ?_
  rcases List.mem_cons.1 noted with same | before
  · exact absurd same.symm (other env reference)
  · exact before

namespace Lockstep

/-- A table that is read may be read first. -/
theorem readTable {id : CacheId} {R : α → α' → Prop} {next : Cache → Run α}
    {next' : Cache → Run α'} (then_lockstep : ∀ table table', p.AlikeTable table table' →
      p.Lockstep R (next table) (next' table')) :
    p.Lockstep R (Run.cache id >>= next) (Run.cache id >>= next') :=
  fun world world' alike => then_lockstep _ _ (alike.cache id) world world' alike

/-- A table that is checked may be used if it is one. -/
theorem afterCheck {R : α → α' → Prop} (tables : p.AlikeTable table table') {field : String}
    {next : Unit → Run α} {next' : Unit → Run α'} (then_lockstep : p.Lockstep R (next ()) (next' ())) :
    p.Lockstep R (Run.checkTable table field >>= next) (Run.checkTable table' field >>= next') := by
  unfold Run.checkTable
  rw [tables.standIn]
  cases table'.standIn with
  | some owner => exact fail _
  | none => exact then_lockstep

theorem chain (id : CacheId) : p.Lockstep Eq (Run.chain id) (Run.chain id) := by
  refine readTable fun table table' tables => afterCheck tables (pure ?_)
  unfold Cache.chain
  rw [tables.pending]

theorem changeCache {id : CacheId} {change change' : Cache → Cache} (notes : p.Notes id change)
    (keeps : ∀ {table table'}, p.AlikeTable table table' →
      p.AlikeTable (change table) (change' table')) :
    p.Lockstep (fun _ _ => True) (Run.changeCache id change) (Run.changeCache id change') :=
  fun _ _ alike => .ok trivial (alike.change notes (keeps (alike.cache id)))

/-- A change of a table asks nothing of what follows it. -/
theorem afterChange {id : CacheId} {R : α → α' → Prop} {change change' : Cache → Cache}
    (notes : p.Notes id change)
    (keeps : ∀ {table table'}, p.AlikeTable table table' →
      p.AlikeTable (change table) (change' table'))
    {next : Unit → Run α} {next' : Unit → Run α'}
    (then_lockstep : p.Lockstep R (next ()) (next' ())) :
    p.Lockstep R (Run.changeCache id change >>= next) (Run.changeCache id change' >>= next') :=
  fun _ _ alike => then_lockstep _ _ (alike.change notes (keeps (alike.cache id)))

theorem record {id : CacheId} {event : Event} (event' : Event)
    (other : ∀ env reference, event ≠ .left env reference) :
    p.Lockstep (fun _ _ => True) (Run.record id event) (Run.record id event') :=
  changeCache (notes_record other) fun tables => { tables with }

theorem recordLeft {id : CacheId} {env env' : Environment Term} (reference reference' : Term)
    (admitted : id = p.cache → p.admits env env') :
    p.Lockstep (fun _ _ => True) (Run.record id (.left env reference))
      (Run.record id (.left env' reference')) := by
  refine changeCache ?_ fun tables => { tables with }
  intro same table env'' reference'' noted
  rcases List.mem_cons.1 noted with same' | before
  · cases same'
    exact .inr ⟨env', admitted same⟩
  · exact .inl before

theorem closeCache (id : CacheId) :
    p.Lockstep (fun _ _ => True) (Run.closeCache id) (Run.closeCache id) := by
  refine readTable fun table table' tables => ?_
  refine afterLog ?_
  refine changeCache (notes_of_events fun _ _ _ noted => noted) fun tables => ?_
  exact ⟨.nil, rfl, rfl, tables.hits, tables.misses, tables.standIn⟩

theorem newCache : p.Lockstep (fun id id' => id = id' ∧ p.cache ≠ id) Run.newCache Run.newCache := by
  intro world world' alike
  refine .ok ⟨alike.caches.length_eq, Nat.ne_of_lt alike.inside⟩ { alike with
    caches := List.rel_append alike.caches (.cons .empty .nil), inside := ?_, left := ?_ }
  · exact List.length_append ▸ Nat.lt_add_right _ alike.inside
  · rw [world.cache_append _ alike.inside]
    exact alike.left

/--
What is run at the end does not fail by itself, and forgets at most which table was shared.
-/
theorem andThen_of_grown {run run' : Run Term} {R : Term → Term → Prop} {last last' : Run Unit}
    (grows : ∀ world : World, ∃ active, After last' world
      (fun _ => World.Grown { world with active }) fun _ => World.Grown { world with active })
    (first : p.Lockstep R run run') (after : p.Lockstep (fun _ _ => True) last last')
    (ends : ∀ world, ∃ world', last world = .ok () world') :
    p.Lockstep R (Run.andThen run last) (Run.andThen run' last') := by
  intro world world' alike
  have both := first world world' alike
  unfold Run.andThen
  generalize run world = result, run' world' = result' at both
  cases both with
  | ok rel alike =>
      dsimp only
      have both := after _ _ alike
      generalize last _ = result, last' _ = result' at both
      cases both with
      | ok _ alike => exact .ok rel alike
      | error failures alike => exact .error failures alike
      | refused diverges refusal caught => exact .refused diverges refusal caught
      | strayed diverges refusal strays => exact .strayed diverges refusal strays
  | error failures alike =>
      dsimp only
      have both := after _ _ alike
      generalize last _ = result, last' _ = result' at both
      cases both with
      | ok _ alike => exact .error failures alike
      | error failures alike => exact .error failures alike
      | refused diverges refusal caught => exact .refused diverges refusal caught
      | strayed diverges refusal strays => exact .refused diverges refusal strays.caught
  | @refused _ _ done done' diverges refusal caught =>
      dsimp only
      obtain ⟨_, ended⟩ := ends done
      obtain ⟨active, grown⟩ := grows done'
      unfold After at grown
      rw [ended]
      generalize last' done' = result' at grown
      cases result' with
      | ok _ _ => exact .refused diverges refusal (Nat.le_trans caught grown.caught)
      | error _ _ => exact .refused diverges refusal (Nat.le_trans caught grown.caught)
  | @strayed _ _ done done' diverges refusal strays =>
      dsimp only
      obtain ⟨_, ended⟩ := ends done
      obtain ⟨active, grown⟩ := grows done'
      have astray : p.Strays { done' with active } := ⟨strays.caught, strays.strays⟩
      unfold After at grown
      rw [ended]
      generalize last' done' = result' at grown
      cases result' with
      | ok _ _ => exact .strayed diverges refusal (astray.grown grown)
      | error _ _ => exact .refused diverges refusal (astray.grown grown).caught

theorem andThen {run run' : Run Term} {R : Term → Term → Prop} {last last' : Run Unit}
    [grows : Grows last']
    (first : p.Lockstep R run run') (after : p.Lockstep (fun _ _ => True) last last')
    (ends : ∀ world, ∃ world', last world = .ok () world') :
    p.Lockstep R (Run.andThen run last) (Run.andThen run' last') :=
  andThen_of_grown (fun world => ⟨world.active, grows.after world⟩) first after ends

/-- In a block another table is shared; afterwards it is the one that was shared before. -/
theorem within {run run' : Run Term} {R : Term → Term → Prop} (first : p.Lockstep R run run') :
    p.Lockstep R (Block.within run) (Block.within run') := by
  intro world world' alike
  have leaves : ∀ block : Block, (block.previous = some p.cache → p.shared) →
      p.Lockstep (fun _ _ => True) block.leave block.leave := fun block shared _ _ alike =>
    closeCache block.cache _ _ { alike with active := rfl, shared := shared }
  have grows : ∀ (block : Block) (world : World), ∃ active, After block.leave world
      (fun _ => World.Grown { world with active }) fun _ => World.Grown { world with active } := by
    refine fun block world => ⟨block.previous, after_leave fun noted same => ?_⟩
    exact (World.Grown.of_same same).change
      (((World.Grown.of_same same).tables _).trans ⟨List.suffix_refl _, fun _ => rfl, nofun⟩)
  have entered : p.AlikeWorld world.entered world'.entered :=
    { alike with
      caches := List.rel_append alike.caches (.cons .empty .nil)
      active := congrArg some alike.caches.length_eq
      inside := World.entered_length ▸ Nat.lt_succ_of_lt alike.inside
      left := world.entered_cache alike.inside ▸ alike.left
      shared := fun same => absurd (Option.some.inj same).symm (Nat.ne_of_lt alike.inside) }
  have same : (⟨world.active, world.caches.length⟩ : Block) =
      ⟨world'.active, world'.caches.length⟩ := by
    rw [alike.active, alike.caches.length_eq]
  have ends := andThen_of_grown (grows ⟨world.active, world.caches.length⟩) first
    (leaves ⟨world.active, world.caches.length⟩ alike.shared) (fun _ => ⟨_, rfl⟩) _ _ entered
  change p.Ends R (Run.andThen run (Block.leave ⟨world.active, world.caches.length⟩) world.entered)
    (Run.andThen run' (Block.leave ⟨world'.active, world'.caches.length⟩) world'.entered)
  rw [← same]
  exact ends

/-- A refusal is never recovered from, and recovering from what the other run refused is noted. -/
theorem recover {run run' : Run Term} {R : Term → Term → Prop}
    {handler handler' : Failure → Option (Run Term)} (first : p.Lockstep R run run')
    (handles : ∀ {failure failure'}, p.AlikeFailure failure failure' →
      handler failure = none ∧ handler' failure' = none ∨
        ∃ next next', handler failure = some next ∧ handler' failure' = some next' ∧
          p.Lockstep R next next')
    (passes : p.diverges → ∀ failure, failure.IsRefusal → handler failure = none)
    (strays : p.diverges → ∀ failure next, handler' failure = some next → ∀ world,
      p.caught ≤ world.caught.length →
        After next world (fun _ => p.Strays) fun _ world' => p.caught ≤ world'.caught.length) :
    p.Lockstep R (Run.recover run handler) (Run.recover run' handler') := by
  intro world world' alike
  have both := first world world' alike
  unfold Run.recover
  generalize run world = result, run' world' = result' at both
  cases both with
  | ok rel alike => exact .ok rel alike
  | error failures alike =>
      dsimp only
      rcases handles failures with ⟨stays, stays'⟩ | ⟨next, next', goes, goes', lockstep⟩
      · rw [stays, stays']
        exact .error failures alike
      · rw [goes, goes']
        exact lockstep _ _ alike
  | @refused failure failure' done done' diverges refusal caught =>
      dsimp only
      rw [passes diverges failure refusal]
      cases goes : handler' failure' with
      | none => exact .refused diverges refusal caught
      | some next =>
          have ends := strays diverges failure' next goes done' caught
          unfold After at ends
          dsimp only
          generalize next done' = result at ends
          cases result with
          | ok _ _ => exact .strayed diverges refusal ends
          | error _ _ => exact .refused diverges refusal ends
  | strayed diverges refusal strays =>
      dsimp only
      rw [passes diverges _ refusal]
      exact .strayed diverges refusal strays

theorem reportEndless {ceiling : Int} {id : CacheId} {run run' : Run Term} {R : Term → Term → Prop}
    (first : p.Lockstep R run run') :
    p.Lockstep R (Run.reportEndless ceiling id run) (Run.reportEndless ceiling id run') := by
  refine first.recover ?_ ?_ ?_
  · intro failure failure' alike
    cases exhausted : failure.isExhaustion with
    | false =>
        refine .inl ⟨rfl, ?_⟩
        rw [← alike.isExhaustion, exhausted]
        rfl
    | true =>
        refine .inr ⟨_, _, rfl, by rw [← alike.isExhaustion, exhausted]; rfl, ?_⟩
        refine (chain id).bind ?_
        rintro names _ rfl
        exact fail _
  · intro _ failure refusal
    rw [refusal.2]
    rfl
  · intro _ failure next handled world caught
    split at handled
    · cases handled
      refine after_bind.2 ?_
      have grows : Grows (Run.chain id) := Grows.chain
      have grown := grows.after world
      refine grown.mono (fun _ _ more => ?_) fun _ _ more => Nat.le_trans caught more.caught
      exact Nat.le_trans caught more.caught
    · cases handled

theorem looked_before {key : CacheKey} {env env' : Environment Term} {pending : List CacheKey}
    {served : Bool} {events : List Event} {reference : Term}
    (noted : .left env' reference ∈ Event.lookup key env pending served :: events) :
    .left env' reference ∈ events := by
  rcases List.mem_cons.1 noted with same | before
  · cases same
  · exact before

/-- The value of a key is computed with the key in flight, and stored. -/
theorem enter {id : CacheId} (key : CacheKey) (env env' : Environment Term)
    {compute compute' : Run Term} (computes : p.Lockstep p.Alike compute compute') :
    p.Lockstep p.Alike
      (do
        Run.changeCache id (Cache.enter · key env)
        let value ← Run.andThen compute (Run.changeCache id Cache.leave)
        let stored ← Run.detach value
        Run.changeCache id (Cache.put · key stored)
        return value)
      (do
        Run.changeCache id (Cache.enter · key env')
        let value ← Run.andThen compute' (Run.changeCache id Cache.leave)
        let stored ← Run.detach value
        Run.changeCache id (Cache.put · key stored)
        return value) := by
  have leaves : p.Lockstep (fun _ _ => True) (Run.changeCache id Cache.leave)
      (Run.changeCache id Cache.leave) := by
    refine changeCache (notes_of_events fun _ _ _ noted => noted) fun tables => ?_
    exact { tables with pending := congrArg List.dropLast tables.pending }
  -- What is stored may replace a value, so that it is no matter of forgetting nothing.
  have stores : ∀ {world} stored, p.Strays world →
      p.Strays (world.change id (Cache.put · key stored)) :=
    fun _ strays => strays.change fun _ => rfl
  refine afterChange (notes_of_events fun _ _ _ => looked_before) ?_ ?_
  · exact fun tables => { tables with
      misses := congrArg (· + 1) tables.misses
      pending := congrArg (· ++ [key]) tables.pending }
  refine (computes.andThen leaves fun world => ⟨_, rfl⟩).bind_of_strays ?_
    fun value value' values => ?_
  · exact fun value world strays => stores _ (strays.grown (.of_same ⟨rfl, rfl, rfl⟩))
  refine (detach values).bind_of_strays ?_ fun stored stored' copies => ?_
  · exact fun copy world strays => stores copy strays
  refine afterChange ?_ ?_ ?_
  · exact notes_of_events fun _ _ _ noted => noted
  · exact fun tables => tables.put key copies
  exact pure values

theorem memoize {id : CacheId} {name name' : Term} {env env' : Environment Term}
    (names : p.Alike name name') (envs : p.AlikeEnv env env') (detectCycles : Bool)
    (limit : Option Int) {compute compute' : Run Term}
    (computes : p.Lockstep p.Alike compute compute') :
    p.Lockstep p.Alike (Run.memoize id name env detectCycles limit compute)
      (Run.memoize id name' env' detectCycles limit compute') := by
  have keys : CacheKey.of name' env' = CacheKey.of name env := by
    unfold CacheKey.of
    rw [names.nameText, envs.fingerprint]
  have refused : ∀ {key}, p.Lockstep (fun _ _ => True) (Run.record id (.refused key env))
      (Run.record id (.refused key env')) := fun {_} => record _ fun _ _ => nofun
  unfold Run.memoize
  rw [keys, names.nameText]
  generalize CacheKey.of name env = key
  refine readTable fun table table' tables => afterCheck tables ?_
  have chains : table.chain = table'.chain := congrArg (List.map CacheKey.name) tables.pending
  have chainsFrom : table.chainFrom key = table'.chainFrom key := by
    unfold Cache.chainFrom
    rw [tables.pending]
  rw [tables.closed]
  split
  · exact fail _
  · dsimp only
    rcases (tables.find? key).cases_eq with
      ⟨missing, missing'⟩ | ⟨value, value', found, found', values⟩
    · rw [missing, missing']
      dsimp only
      rw [tables.pending, chains, chainsFrom]
      split
      · exact refused.bind fun _ _ _ => fail _
      · split
        · exact refused.bind fun _ _ _ => fail _
        · exact afterLog (enter key env env' computes)
    · rw [found, found']
      dsimp only
      refine afterChange (notes_of_events fun _ _ _ => looked_before) ?_ (afterLog (detach values))
      exact fun tables => { tables with hits := congrArg (· + 1) tables.hits }

end Lockstep

end Pairing

end ScopedTemplate
