import ScopedTemplate.Proofs.Run.Quiet

/-!
# What holds after a memoized computation

A memoized computation is refused, served from the table, or run and stored.
-/

namespace ScopedTemplate

/-- Why a table cannot be asked. -/
inductive Cache.Unusable (table : Cache) : Failure → Prop where
  | noTable {owner : String} (standIn : table.standIn = some owner) :
      Unusable table (.missingAttribute owner "get_or_compute")
  | closed (closed : table.closed = true) : Unusable table .closed

/-- A table that is open can be asked. -/
theorem Cache.not_unusable {table : Cache} (isOpen : table.closed = false)
    (isTable : table.standIn = none) {failure : Failure} : ¬ table.Unusable failure := by
  rintro (standIn | closed)
  · cases isTable.symm.trans standIn
  · cases isOpen.symm.trans closed

/-- Why a table refuses to compute the value of a key. -/
inductive Cache.Refuses (table : Cache) (key : CacheKey) (detectCycles : Bool)
    (limit : Option Int) : Failure → Prop where
  | inFlight (detects : detectCycles = true) (pending : key ∈ table.pending) :
      Refuses table key detectCycles limit (.cyclic key.name (table.chainFrom key) none)
  | tooDeep {bound : Int} (limited : limit = some bound)
      (deep : bound ≤ (table.pending.length : Int)) :
      Refuses table key detectCycles limit (.cyclic key.name table.chain (some bound))

/-- A table can begin to compute the value of a key. -/
structure Cache.Begins (table : Cache) (key : CacheKey) (detectCycles : Bool)
    (limit : Option Int) : Prop where
  isOpen : table.closed = false
  isTable : table.standIn = none
  missing : table.find? key = none
  notInFlight : detectCycles = true → key ∉ table.pending
  shallow : ∀ bound, limit = some bound → (table.pending.length : Int) < bound

/-- What is neither stored nor refused can be computed. -/
theorem Cache.begins_of_checks {table : Cache} {key : CacheKey} {detectCycles : Bool}
    {limit : Option Int} (isOpen : ¬ table.closed = true) (isTable : table.standIn = none)
    (missing : table.find? key = none)
    (notAgain : ¬ (detectCycles && table.pending.contains key) = true)
    (shallow : ¬ limit.any (· ≤ (table.pending.length : Int)) = true) :
    table.Begins key detectCycles limit := by
  refine ⟨Bool.eq_false_iff.2 isOpen, isTable, missing, ?_, ?_⟩
  · intro detects pending
    apply notAgain
    rw [Bool.and_eq_true, List.contains_iff_mem]
    exact ⟨detects, pending⟩
  · intro bound limited
    refine Int.not_le.1 fun reached => shallow ?_
    exact (Option.any_eq_true _ _).2 ⟨bound, limited, decide_eq_true reached⟩

namespace Cache

theorem mem_store {entries : List (CacheKey × Term)} {key : CacheKey} {value : Term}
    {entry : CacheKey × Term} (member : entry ∈ store key value entries) :
    entry = (key, value) ∨ entry ∈ entries := by
  induction entries with
  | nil => exact .inl (List.mem_singleton.1 member)
  | cons first rest ih =>
      unfold store at member
      split at member
      · rcases List.mem_cons.1 member with rfl | later
        · exact .inl rfl
        · exact .inr (List.mem_cons_of_mem _ later)
      · rcases List.mem_cons.1 member with rfl | later
        · exact .inr List.mem_cons_self
        · rcases ih later with rfl | before
          · exact .inl rfl
          · exact .inr (List.mem_cons_of_mem _ before)

variable {P : Term → Prop} {table : Cache}

theorem forall_put (each : ∀ entry ∈ table.entries, P entry.2) {key : CacheKey} {value : Term}
    (valued : P value) : ∀ entry ∈ (table.put key value).entries, P entry.2 := by
  intro entry member
  rcases mem_store member with rfl | before
  · exact valued
  · exact each entry before

theorem mem_of_find? {key : CacheKey} {value : Term} (found : table.find? key = some value) :
    (key, value) ∈ table.entries := by
  unfold find? at found
  obtain ⟨entry, first, rfl⟩ := Option.map_eq_some_iff.1 found
  have same : entry.1 = key := by simpa using List.find?_some first
  rw [← same]
  exact List.mem_of_find?_eq_some first

theorem of_find? (each : ∀ entry ∈ table.entries, P entry.2) {key : CacheKey} {value : Term}
    (found : table.find? key = some value) : P value :=
  each _ (mem_of_find? found)

end Cache

namespace Run

variable {id : CacheId} {name : Term} {env : Environment Term} {detectCycles : Bool}
  {limit : Option Int} {compute : Run Term} {world : World}
  {ok : Term → World → Prop} {failed : Failure → World → Prop}

/--
What holds after a memoized computation, if it does not depend on the trace: the value that is
stored is a copy of the one that is computed, and so is the value that is served.
-/
theorem after_memoize_stamped
    (ok_same : ∀ value world world', World.SameStamps world world' →
      ok value world → ok value world')
    (unusable : ∀ failure, (world.cache id).Unusable failure → failed failure world)
    (refused : ∀ failure,
      (world.cache id).Refuses (CacheKey.of name env) detectCycles limit failure →
        failed failure (world.change id (Cache.record · (.refused (CacheKey.of name env) env))))
    (served : ∀ value, (world.cache id).find? (CacheKey.of name env) = some value →
      ok (value.detach world.nextStamp).1
        { world.change id (Cache.hit · (CacheKey.of name env) env) with
          nextStamp := (value.detach world.nextStamp).2 })
    (computed : (world.cache id).Begins (CacheKey.of name env) detectCycles limit → ∀ entered,
      World.SameStamps (world.change id (Cache.enter · (CacheKey.of name env) env)) entered →
        After compute entered
          (fun value done => ok value
            (World.change { done.change id Cache.leave with
                nextStamp := (value.detach done.nextStamp).2 } id
              (Cache.put · (CacheKey.of name env) (value.detach done.nextStamp).1)))
          (fun failure done => failed failure (done.change id Cache.leave))) :
    After (memoize id name env detectCycles limit compute) world ok failed := by
  unfold memoize
  refine after_bind.2 (after_cache.2 ?_)
  unfold checkTable
  cases standIn : (world.cache id).standIn with
  | some owner => exact unusable _ (.noTable standIn)
  | none =>
      refine after_bind.2 (after_pure.2 ?_)
      split
      · next closed => exact unusable _ (.closed closed)
      · next isOpen =>
          cases found : (world.cache id).find? (CacheKey.of name env) with
          | some value =>
              simp only [found]
              refine after_bind.2 (after_changeCache.2 (after_bind.2 ?_))
              exact ok_same _ { world.change id (Cache.hit · (CacheKey.of name env) env) with
                nextStamp := (value.detach world.nextStamp).2 } _ ⟨⟨rfl, rfl, rfl⟩, rfl⟩
                (served value found)
          | none =>
              simp only [found]
              split
              · next again =>
                  rw [Bool.and_eq_true, List.contains_iff_mem] at again
                  refine after_bind.2 (after_changeCache.2 ?_)
                  exact refused _ (.inFlight again.1 again.2)
              · next notAgain =>
                  split
                  · next deep =>
                      obtain ⟨bound, limited, reached⟩ := (Option.any_eq_true _ _).1 deep
                      subst limited
                      refine after_bind.2 (after_changeCache.2 ?_)
                      exact refused _ (.tooDeep rfl (of_decide_eq_true reached))
                  · next shallow =>
                      have begins := Cache.begins_of_checks isOpen standIn found notAgain shallow
                      refine after_bind.2 (after_modify.2 (after_bind.2 (after_changeCache.2 ?_)))
                      refine after_bind.2 (after_andThen.2 ?_)
                      refine (computed begins _ ?_).mono ?_ ?_
                      · exact ⟨⟨rfl, rfl, rfl⟩, rfl⟩
                      · intro value done stores
                        refine after_changeCache.2 (after_bind.2 ?_)
                        exact stores
                      · intro failure done left
                        exact after_changeCache.2 left

/-- The same, if what holds does not depend on anything but the tables. -/
theorem after_memoize
    (ok_same : ∀ value world world', World.SameTables world world' →
      ok value world → ok value world')
    (unusable : ∀ failure, (world.cache id).Unusable failure → failed failure world)
    (refused : ∀ failure,
      (world.cache id).Refuses (CacheKey.of name env) detectCycles limit failure →
        failed failure (world.change id (Cache.record · (.refused (CacheKey.of name env) env))))
    (served : ∀ value, (world.cache id).find? (CacheKey.of name env) = some value → ∀ next,
      ok (value.detach next).1 (world.change id (Cache.hit · (CacheKey.of name env) env)))
    (computed : (world.cache id).Begins (CacheKey.of name env) detectCycles limit → ∀ entered,
      World.SameTables (world.change id (Cache.enter · (CacheKey.of name env) env)) entered →
        After compute entered
          (fun value done => ∀ next, ok value ((done.change id Cache.leave).change id
            (Cache.put · (CacheKey.of name env) (value.detach next).1)))
          (fun failure done => failed failure (done.change id Cache.leave))) :
    After (memoize id name env detectCycles limit compute) world ok failed := by
  refine after_memoize_stamped ?_ unusable refused ?_ ?_
  · exact fun value world world' same => ok_same value world world' same.toSameTables
  · intro value found
    exact ok_same _ (world.change id _) _ ⟨rfl, rfl, rfl⟩ (served value found world.nextStamp)
  · intro begins entered same
    refine (computed begins entered same.toSameTables).mono ?_ fun _ _ left => left
    intro value done stores
    exact ok_same _ ((done.change id Cache.leave).change id _) _ ⟨rfl, rfl, rfl⟩
      (stores done.nextStamp)

end Run

end ScopedTemplate
