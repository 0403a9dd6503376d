import ScopedTemplate.Cache

/-!
# The order of a table

The keys in flight will be stored innermost first, after the ones that are stored already.  This
order changes only when a computation begins: storing a value moves its key from one part of the
order to the other.  So a key that is looked up while another one is computed comes before it for
good.
-/

namespace ScopedTemplate

/-- A lookup of a key under others in flight. -/
structure Lookup where
  key : CacheKey
  pending : List CacheKey
  served : Bool

def Event.lookup? : Event → Option Lookup
  | .lookup key _ pending served => some ⟨key, pending, served⟩
  | _ => none

namespace Cache

def lookups (table : Cache) : List Lookup := table.events.filterMap Event.lookup?

def computed (table : Cache) : List CacheKey :=
  (table.lookups.filter fun lookup => !lookup.served).map Lookup.key

def keys (table : Cache) : List CacheKey := table.entries.map Prod.fst

/-- The keys in the order in which their values are, or will be, stored. -/
def order (table : Cache) : List CacheKey := table.keys ++ table.pending.reverse

/-- Nothing was computed in vain: what was computed is stored or in flight, and in order. -/
structure Calm (table : Cache) : Prop where
  misses : table.misses = table.order.length
  lookups : table.hits + table.misses = table.lookups.length
  computed : table.computed.Perm table.order
  known : ∀ lookup ∈ table.lookups, lookup.key ∈ table.order
  ordered : ∀ lookup ∈ table.lookups, ∀ outer ∈ lookup.pending,
    [lookup.key, outer].Sublist table.order

theorem calm_empty : empty.Calm where
  misses := rfl
  lookups := rfl
  computed := List.Perm.refl _
  known := by
    intro lookup member
    exact absurd member List.not_mem_nil
  ordered := by
    intro lookup member
    exact absurd member List.not_mem_nil

/-! ## Keys -/

theorem find?_eq_none {table : Cache} {key : CacheKey} :
    table.find? key = none ↔ key ∉ table.keys := by
  unfold find? keys
  rw [Option.map_eq_none_iff, List.find?_eq_none]
  constructor
  · intro missing member
    obtain ⟨entry, inside, same⟩ := List.mem_map.1 member
    exact missing entry inside (decide_eq_true same)
  · intro missing entry inside same
    exact missing (List.mem_map.2 ⟨entry, inside, of_decide_eq_true same⟩)

theorem mem_keys_of_find? {table : Cache} {key : CacheKey} {value : Term}
    (found : table.find? key = some value) : key ∈ table.keys := by
  by_cases member : key ∈ table.keys
  · exact member
  · rw [find?_eq_none.2 member] at found
    cases found

/-- A value under a new key is stored at the end. -/
theorem store_of_not_mem {entries : List (CacheKey × Term)} {key : CacheKey} {value : Term}
    (missing : key ∉ entries.map Prod.fst) : store key value entries = entries ++ [(key, value)] := by
  induction entries with
  | nil => rfl
  | cons entry rest ih =>
      rw [List.map_cons, List.mem_cons, not_or] at missing
      obtain ⟨differ, others⟩ := missing
      unfold store
      rw [if_neg (fun same => differ same.symm), ih others]
      rfl

/-! ## What the operations do to the order -/

section

variable {table : Cache} {key : CacheKey} {env : Environment Term}

theorem order_enter : (table.enter key env).order = table.keys ++ key :: table.pending.reverse := by
  simp [order, enter, keys]

theorem perm_order_enter : (table.enter key env).order.Perm (key :: table.order) := by
  rw [order_enter]
  exact List.perm_middle

theorem sublist_order_enter : table.order.Sublist (table.enter key env).order := by
  rw [order_enter]
  exact (List.Sublist.refl _).append (List.sublist_cons_self _ _)

/-- Storing the value of the innermost key in flight leaves the order as it is. -/
theorem order_settle {before : List CacheKey} (pending : table.pending = before ++ [key])
    (missing : key ∉ table.keys) (value : Term) :
    (table.leave.put key value).order = table.order := by
  unfold order
  have stored : (table.leave.put key value).keys = table.keys ++ [key] := by
    unfold keys put leave
    dsimp only
    rw [store_of_not_mem missing, List.map_append]
    rfl
  have left : (table.leave.put key value).pending = before := by
    simp [put, leave, pending]
  rw [stored, left, pending, List.reverse_append, List.append_assoc]
  rfl

theorem sublist_order_leave : table.leave.order.Sublist table.order := by
  unfold order leave keys
  dsimp only
  exact (List.Sublist.refl _).append (List.dropLast_sublist _).reverse

theorem lookups_hit :
    (table.hit key env).lookups = ⟨key, table.pending, true⟩ :: table.lookups := rfl

theorem lookups_enter :
    (table.enter key env).lookups = ⟨key, table.pending, false⟩ :: table.lookups := rfl

theorem lookups_record {event : Event} (noted : event.lookup? = none) :
    (table.record event).lookups = table.lookups := by
  unfold lookups record
  rw [List.filterMap_cons_none noted]

/-! ## What the operations do to a calm table -/

theorem Calm.record (calm : table.Calm) {event : Event} (noted : event.lookup? = none) :
    (table.record event).Calm := by
  have same : (table.record event).lookups = table.lookups := lookups_record noted
  refine ⟨calm.misses, ?_, ?_, ?_, ?_⟩
  · rw [same]
    exact calm.lookups
  · unfold Cache.computed
    rw [same]
    exact calm.computed
  · rw [same]
    exact calm.known
  · rw [same]
    exact calm.ordered

theorem pair_sublist_append {first second : List CacheKey} {left right : CacheKey}
    (before : left ∈ first) (after : right ∈ second) : [left, right].Sublist (first ++ second) :=
  (List.singleton_sublist.2 before).append (List.singleton_sublist.2 after)

theorem Calm.hit (calm : table.Calm) (stored : key ∈ table.keys) : (table.hit key env).Calm := by
  refine ⟨calm.misses, ?_, calm.computed, ?_, ?_⟩
  · have counted := calm.lookups
    rw [lookups_hit, List.length_cons, ← counted]
    change table.hits + 1 + table.misses = table.hits + table.misses + 1
    omega
  · intro lookup member
    rcases List.mem_cons.1 member with rfl | earlier
    · exact List.mem_append_left _ stored
    · exact calm.known lookup earlier
  · intro lookup member outer above
    rcases List.mem_cons.1 member with rfl | earlier
    · exact pair_sublist_append stored (List.mem_reverse.2 above)
    · exact calm.ordered lookup earlier outer above

theorem Calm.enter (calm : table.Calm) : (table.enter key env).Calm := by
  refine ⟨?_, ?_, ?_, ?_, ?_⟩
  · rw [perm_order_enter.length_eq, List.length_cons, ← calm.misses]
    rfl
  · rw [lookups_enter, List.length_cons, ← calm.lookups]
    rfl
  · unfold Cache.computed
    rw [lookups_enter]
    exact (calm.computed.cons key).trans perm_order_enter.symm
  · intro lookup member
    rcases List.mem_cons.1 member with rfl | earlier
    · exact perm_order_enter.symm.subset List.mem_cons_self
    · exact sublist_order_enter.subset (calm.known lookup earlier)
  · intro lookup member outer above
    rcases List.mem_cons.1 member with rfl | earlier
    · rw [order_enter, List.append_cons]
      exact pair_sublist_append (List.mem_append_right _ List.mem_cons_self)
        (List.mem_reverse.2 above)
    · exact (calm.ordered lookup earlier outer above).trans sublist_order_enter

theorem Calm.settle (calm : table.Calm) {before : List CacheKey}
    (pending : table.pending = before ++ [key]) (missing : key ∉ table.keys) (value : Term) :
    (table.leave.put key value).Calm := by
  have same := order_settle pending missing value
  refine ⟨?_, calm.lookups, ?_, ?_, ?_⟩
  · rw [same]
    exact calm.misses
  · rw [same]
    exact calm.computed
  · rw [same]
    exact calm.known
  · rw [same]
    exact calm.ordered

end

end Cache

end ScopedTemplate
