import ScopedTemplate.Proofs.Cache.Order
import ScopedTemplate.Proofs.Resolver.Fresh

/-!
# Single evaluation

With the detection of cycles on, a key in flight is never computed again, so every key is computed
once unless a computation fails and the failure is caught.  The values are then stored in the order
of the dependencies.
-/

namespace ScopedTemplate

open Run

/-- Every key that was looked up was computed once, and stored before all that needed it. -/
structure Cache.EvaluatedOnce (table : Cache) : Prop where
  /-- The value of a key that is looked up is computed exactly once. -/
  once : ∀ lookup ∈ table.lookups, table.computed.count lookup.key = 1
  /-- What is computed is stored. -/
  stored : table.computed.Perm table.keys
  misses : table.misses = table.entries.length
  hits : table.hits = table.lookups.length - table.misses
  /-- A key that is looked up while another one is computed is stored before it. -/
  before : ∀ lookup ∈ table.lookups, ∀ outer ∈ lookup.pending,
    [lookup.key, outer].Sublist table.keys

namespace Cache

/-- A table with certain keys in flight, none of which is stored. -/
structure Tracked (pending : List CacheKey) (table : Cache) : Prop where
  pending : table.pending = pending
  nodup : table.order.Nodup

theorem evaluatedOnce_of_calm {table : Cache} (tracked : table.Tracked []) (calm : table.Calm) :
    table.EvaluatedOnce := by
  have order : table.order = table.keys := by
    unfold Cache.order
    rw [tracked.pending, List.reverse_nil, List.append_nil]
  have nodup := tracked.nodup
  have computed := calm.computed
  have misses := calm.misses
  have known := calm.known
  have before := calm.ordered
  rw [order] at nodup computed misses known before
  refine ⟨?_, computed, ?_, ?_, before⟩
  · intro lookup member
    rw [computed.count_eq, List.Nodup.count nodup, if_pos (known lookup member)]
  · rw [misses, Cache.keys, List.length_map]
  · rw [← calm.lookups]
    omega

end Cache

namespace Custody

/--
The custody of a table with the keys in flight as its index.  The table is calm as long as no more
failures are caught than there were.
-/
def ordered (cache : CacheId) (shared : Prop) (caughtBefore : Nat) : Custody where
  cache := cache
  shared := shared
  allows := fun resolver => resolver.config.detectCycles = true
  Index := List CacheKey
  holds := fun pending table caught => table.Tracked pending ∧ caughtBefore ≤ caught.length ∧
    (caught.length = caughtBefore → table.Calm)
  broken := fun pending table caught => table.Tracked pending ∧ caughtBefore ≤ caught.length
  broken_of_holds := by
    rintro pending table caught ⟨tracked, grown, _⟩
    exact ⟨tracked, grown⟩
  holds_of_caught := by
    rintro pending table caught failure ⟨tracked, grown⟩
    refine ⟨tracked, Nat.le_succ_of_le grown, ?_⟩
    intro same
    rw [List.length_cons] at same
    omega

variable {cache : CacheId} {shared : Prop} {caughtBefore : Nat}

theorem ordered_note {pending : List CacheKey} {world : World}
    (held : (ordered cache shared caughtBefore).Held pending world) {event : Event}
    (noted : event.isNote = true) :
    (ordered cache shared caughtBefore).Held pending (world.change cache (Cache.record · event)) := by
  have noLookup : event.lookup? = none := by
    cases event with
    | lookup key env pending served => cases noted
    | _ => rfl
  obtain ⟨tracked, grown, calm⟩ := held.holds
  refine held.heldAfter (held.entries cache) ?_
  exact ⟨⟨tracked.pending, tracked.nodup⟩, grown, fun same => (calm same).record noLookup⟩

theorem ordered_notes {event : Event} (noted : event.isNote = true) :
    (ordered cache shared caughtBefore).Keeps (record cache event) fun _ => True :=
  fun _ _ held => after_changeCache.2 ⟨ordered_note held noted, trivial⟩

theorem ordered_hit {pending : List CacheKey} {world : World}
    (held : (ordered cache shared caughtBefore).Held pending world) {key : CacheKey} {value : Term}
    (found : (world.cache cache).find? key = some value) (env : Environment Term) :
    (ordered cache shared caughtBefore).Held pending (world.change cache (Cache.hit · key env)) := by
  obtain ⟨tracked, grown, calm⟩ := held.holds
  refine held.heldAfter (held.entries cache) ?_
  have stored := Cache.mem_keys_of_find? found
  exact ⟨⟨tracked.pending, tracked.nodup⟩, grown, fun same => (calm same).hit stored⟩

theorem ordered_enter {pending : List CacheKey} {world : World}
    (held : (ordered cache shared caughtBefore).Held pending world) {key : CacheKey}
    {limit : Option Int} (begins : (world.cache cache).Begins key true limit)
    (env : Environment Term) :
    (ordered cache shared caughtBefore).Held (pending ++ [key])
      (world.change cache (Cache.enter · key env)) := by
  obtain ⟨tracked, grown, calm⟩ := held.holds
  refine held.heldAfter (held.entries cache) ?_
  refine ⟨⟨?_, ?_⟩, grown, fun same => (calm same).enter⟩
  · change (world.cache cache).pending ++ [key] = pending ++ [key]
    rw [show (world.cache cache).pending = pending from tracked.pending]
  · refine Cache.perm_order_enter.nodup_iff.2 (List.nodup_cons.2 ⟨?_, tracked.nodup⟩)
    intro member
    rcases List.mem_append.1 member with stored | inFlight
    · exact Cache.find?_eq_none.1 begins.missing stored
    · exact begins.notInFlight rfl (List.mem_reverse.1 inFlight)

/-- The innermost key in flight is not stored. -/
theorem not_stored {pending : List CacheKey} {table : Cache} {key : CacheKey}
    (tracked : table.Tracked (pending ++ [key])) : key ∉ table.keys := by
  intro stored
  obtain ⟨_, _, apart⟩ := List.nodup_append.1 tracked.nodup
  refine apart key stored key ?_ rfl
  rw [tracked.pending]
  exact List.mem_reverse.2 (List.mem_append_right _ List.mem_cons_self)

theorem ordered_settle {pending : List CacheKey} {world : World} {key : CacheKey}
    (held : (ordered cache shared caughtBefore).Held (pending ++ [key]) world) {value : Term}
    (safe : (ordered cache shared caughtBefore).Safe value) :
    (ordered cache shared caughtBefore).Held pending
      ((world.change cache Cache.leave).change cache (Cache.put · key value)) := by
  obtain ⟨tracked, grown, calm⟩ := held.holds
  have left : (ordered cache shared caughtBefore).SafeWorld (world.change cache Cache.leave) :=
    held.change (held.entries cache)
  have leaves : (world.change cache Cache.leave).cache cache = (world.cache cache).leave :=
    world.cache_change held.inside Cache.leave
  have missing : key ∉ (world.cache cache).keys := not_stored tracked
  have order : ((world.cache cache).leave.put key value).order = (world.cache cache).order :=
    Cache.order_settle tracked.pending missing value
  refine left.heldAfter (Cache.forall_put (left.entries cache) safe) ?_
  change (ordered cache shared caughtBefore).holds pending
    (((world.change cache Cache.leave).cache cache).put key value) world.caught
  rw [leaves]
  refine ⟨⟨Cache.pending_leave tracked.pending, ?_⟩, grown,
    fun same => (calm same).settle tracked.pending missing value⟩
  rw [order]
  exact tracked.nodup

theorem ordered_abandon {pending : List CacheKey} {world : World} {key : CacheKey}
    (left : (ordered cache shared caughtBefore).Broken (pending ++ [key]) world) :
    (ordered cache shared caughtBefore).Broken pending (world.change cache Cache.leave) := by
  obtain ⟨tracked, grown⟩ := left.broken
  refine left.brokenAfter (left.entries cache) ⟨⟨Cache.pending_leave tracked.pending, ?_⟩, grown⟩
  exact tracked.nodup.sublist Cache.sublist_order_leave

theorem ordered_tends : (ordered cache shared caughtBefore).Tends where
  notes := ordered_notes
  looksUp := by
    intro resolution resolver env name resolves fits bindings
    have detects : resolver.config.detectCycles = true := fits.admits rfl
    unfold lookupName
    split
    · refine (ordered_notes rfl).bind fun _ _ => ?_
      exact .pure ((ordered cache shared caughtBefore).safe_hereditary.text _ _)
    · next binding found =>
        intro pending world held
        rw [detects]
        apply after_memoize
        · rintro value world' world'' same ⟨held', safe⟩
          exact ⟨held'.of_same same, safe⟩
        · intro failure _
          exact held.toBroken
        · intro failure _
          exact (ordered_note held rfl).toBroken
        · intro value stored next
          have safe := Cache.of_find? (held.entries cache) stored
          exact ⟨ordered_hit held stored env, safe.detach next⟩
        · intro begins entered same
          have enters := (ordered_enter held begins env).of_same same
          have resolved := resolves fits (bindings.target? found) bindings
          refine (resolved _ entered enters).mono ?_ ?_
          · rintro value done ⟨held', safe⟩ next
            exact ⟨ordered_settle held' (safe.detach next), safe⟩
          · intro failure done left
            exact ordered_abandon left

end Custody

namespace Resolver

variable {resolver : Resolver Term} {template : Term} {env : Environment Term}
  {given : Option CacheId} {world world' : World} {value : Term}

def asker : Term :=
  .callable .function 0 "f" "f" (.ask none none (.const (.ref "A")) false
    (.const (.map .plain none [(.str "A", .str "x")])) [])

/-- A function that reads a name, or a fallback, in a scope that binds the name to one of its own. -/
def swallower : Term := .map .plain none [
  (.str "::defaults", .map .plain none [
    (.int 1, .int 2),
    (.str "A", .callable .function 0 "f" "f" (.map [(.const (.str "::defaults"), .readView),
      (.const (.str "v"), .const (.int 1))]))]),
  (.str "v", .callable .function 1 "g" "g" (.readOr (.const (.str "A")) (.const (.int 7))))]

/-- A function that asks for itself without the detection of cycles when it is called first. -/
def reenterer : Term :=
  .callable .function 0 "f" "f" (.choose (.add [.count, .const (.int (-1))]) (.const (.int 5))
    (.ask (some { Config.standard with detectCycles := false }) none (.const (.ref "A")) false
      (.map [(.const (.str "A"), .self)]) []))

end Resolver

end ScopedTemplate
