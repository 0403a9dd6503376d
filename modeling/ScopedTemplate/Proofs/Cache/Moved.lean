import ScopedTemplate.Proofs.Twin.Terms

/-!
# Tables of two environments

Two tables that hold related values for the same names, one under the keys of one environment and the other
under those of another one, answer alike and go on doing so.
-/

namespace ScopedTemplate

def Environment.keyOf (env : Environment Term) (name : String) : CacheKey := ⟨name, env.fingerprint⟩

theorem Environment.keyOf_injective (env : Environment Term) : Function.Injective env.keyOf :=
  fun _ _ same => congrArg CacheKey.name same

theorem Environment.dropWhile_keyOf (env : Environment Term) (name : String) (names : List String) :
    ((names.map env.keyOf).dropWhile (· ≠ env.keyOf name)).map CacheKey.name =
      names.dropWhile (· ≠ name) := by
  induction names with
  | nil => rfl
  | cons first rest ih =>
      by_cases here : first = name
      · simp [here, Function.comp_def, Environment.keyOf]
      · have differs := mt (@env.keyOf_injective first name) here
        simpa [here, differs] using ih

/-- Two tables hold related values for the same names, each under its own environment. -/
structure Cache.Moved (R : Term → Term → Prop) (env env' : Environment Term) (table table' : Cache) :
    Prop where
  entries : List.Forall₂ (fun entry entry' => ∃ name, entry.1 = env.keyOf name ∧
    entry'.1 = env'.keyOf name ∧ R entry.2 entry'.2) table.entries table'.entries
  pending : ∃ names : List String, table.pending = names.map env.keyOf ∧
    table'.pending = names.map env'.keyOf
  closed : table.closed = table'.closed
  standIn : table.standIn = table'.standIn
  hits : table.hits = table'.hits
  misses : table.misses = table'.misses

namespace Cache.Moved

variable {R : Term → Term → Prop} {env env' : Environment Term} {table table' : Cache}

theorem refl_empty (R : Term → Term → Prop) (env env' : Environment Term) :
    Moved R env env' .empty .empty :=
  ⟨.nil, ⟨[], rfl, rfl⟩, rfl, rfl, rfl, rfl⟩

theorem find? (moved : Moved R env env' table table') (name : String) :
    Option.Rel R (table.find? (env.keyOf name)) (table'.find? (env'.keyOf name)) := by
  have each := moved.entries
  unfold Cache.find?
  generalize table.entries = entries, table'.entries = entries' at each
  induction each with
  | nil => exact .none
  | cons first _ ih =>
      obtain ⟨other, key, key', same⟩ := first
      rw [List.find?_cons, List.find?_cons, key, key']
      by_cases here : other = name
      · subst here
        simpa using Option.Rel.some same
      · have differs := mt (@env.keyOf_injective other name) here
        have differs' := mt (@env'.keyOf_injective other name) here
        simpa [differs, differs'] using ih

theorem put (moved : Moved R env env' table table') (name : String) {value value' : Term}
    (same : R value value') :
    Moved R env env' (table.put (env.keyOf name) value) (table'.put (env'.keyOf name) value') := by
  refine { moved with entries := ?_ }
  have each := moved.entries
  unfold Cache.put
  dsimp only
  generalize table.entries = entries, table'.entries = entries' at each
  induction each with
  | nil => exact .cons ⟨name, rfl, rfl, same⟩ .nil
  | @cons entry entry' _ _ first others ih =>
      obtain ⟨other, key, key', values⟩ := first
      unfold Cache.store
      rw [key, key']
      by_cases here : other = name
      · subst here
        rw [if_pos rfl, if_pos rfl]
        exact .cons ⟨other, rfl, rfl, same⟩ others
      · rw [if_neg (mt (@env.keyOf_injective other name) here),
          if_neg (mt (@env'.keyOf_injective other name) here)]
        exact .cons ⟨other, key, key', values⟩ ih

theorem contains (moved : Moved R env env' table table') (name : String) :
    table.pending.contains (env.keyOf name) = table'.pending.contains (env'.keyOf name) := by
  obtain ⟨names, pending, pending'⟩ := moved.pending
  rw [pending, pending', Bool.eq_iff_iff]
  simp [env.keyOf_injective.eq_iff, env'.keyOf_injective.eq_iff]

theorem length (moved : Moved R env env' table table') :
    table.pending.length = table'.pending.length := by
  obtain ⟨names, pending, pending'⟩ := moved.pending
  rw [pending, pending', List.length_map, List.length_map]

theorem chain (moved : Moved R env env' table table') : table.chain = table'.chain := by
  obtain ⟨names, pending, pending'⟩ := moved.pending
  unfold Cache.chain
  rw [pending, pending', List.map_map, List.map_map]
  rfl

theorem chainFrom (moved : Moved R env env' table table') (name : String) :
    table.chainFrom (env.keyOf name) = table'.chainFrom (env'.keyOf name) := by
  obtain ⟨names, pending, pending'⟩ := moved.pending
  unfold Cache.chainFrom
  rw [pending, pending', env.dropWhile_keyOf, env'.dropWhile_keyOf]

theorem hit (moved : Moved R env env' table table') (key key' : CacheKey)
    (scope scope' : Environment Term) :
    Moved R env env' (table.hit key scope) (table'.hit key' scope') :=
  { moved with hits := congrArg (· + 1) moved.hits }

theorem enter (moved : Moved R env env' table table') (name : String)
    (scope scope' : Environment Term) :
    Moved R env env' (table.enter (env.keyOf name) scope) (table'.enter (env'.keyOf name) scope') := by
  obtain ⟨names, pending, pending'⟩ := moved.pending
  refine { moved with misses := congrArg (· + 1) moved.misses, pending := ⟨names ++ [name], ?_, ?_⟩ }
  · simp [Cache.enter, pending]
  · simp [Cache.enter, pending']

theorem leave (moved : Moved R env env' table table') : Moved R env env' table.leave table'.leave := by
  obtain ⟨names, pending, pending'⟩ := moved.pending
  refine { moved with pending := ⟨names.dropLast, ?_, ?_⟩ }
  · simp [Cache.leave, pending]
  · simp [Cache.leave, pending']

end Cache.Moved

end ScopedTemplate
