import ScopedTemplate.Number.Numeral
import ScopedTemplate.Term

/-!
# Terms that can be written

An integer with too many digits has no written form, and neither has a term that holds one.
-/

namespace ScopedTemplate.Term

mutual

def isWritable : Term → Bool
  | .int n => !Numeral.isTooLong n
  | .list _ _ items => areWritable items
  | .tuple _ items => areWritable items
  | .map _ _ entries => areWritableEntries entries
  | .set _ items => areWritable items
  | .point _ items => areWritable items
  | _ => true

def areWritable : List Term → Bool
  | [] => true
  | t :: ts => isWritable t && areWritable ts

/-- Whether no integer in entries is too long to be written. -/
def areWritableEntries : List (Term × Term) → Bool
  | [] => true
  | (key, value) :: rest => isWritable key && isWritable value && areWritableEntries rest

end

theorem areWritable_eq_all (ts : List Term) : areWritable ts = ts.all isWritable := by
  induction ts with
  | nil => simp [areWritable]
  | cons t ts ih => simp [areWritable, ih]

end ScopedTemplate.Term
