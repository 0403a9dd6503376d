import ScopedTemplate.Cache
import Mathlib.Data.List.Forall2
import Mathlib.Data.Option.Basic

/-!
# Tables with related values

Two tables that hold related values under the same keys answer alike, and go on doing so when related
values are stored under one key.
-/

namespace ScopedTemplate.Cache

variable {R : Term → Term → Prop} {table table' : Cache}

/-- Two tables hold related values under the same keys, in the same order. -/
def Related (R : Term → Term → Prop) (table table' : Cache) : Prop :=
  List.Forall₂ (fun entry entry' => entry.1 = entry'.1 ∧ R entry.2 entry'.2)
    table.entries table'.entries

theorem Related.find? (related : Related R table table') (key : CacheKey) :
    Option.Rel R (table.find? key) (table'.find? key) := by
  unfold Related at related
  unfold Cache.find?
  generalize table.entries = entries, table'.entries = entries' at related
  induction related with
  | nil => exact .none
  | cons first _ ih =>
      rw [List.find?_cons, List.find?_cons, first.1]
      split
      · exact .some first.2
      · exact ih

theorem Related.put (related : Related R table table') (key : CacheKey) {value value' : Term}
    (values : R value value') : Related R (table.put key value) (table'.put key value') := by
  unfold Related Cache.put at *
  dsimp only
  generalize table.entries = entries, table'.entries = entries' at related
  induction related with
  | nil => exact .cons ⟨rfl, values⟩ .nil
  | cons first others ih =>
      unfold Cache.store
      rw [first.1]
      split
      · exact .cons ⟨rfl, values⟩ others
      · exact .cons first ih

end ScopedTemplate.Cache
