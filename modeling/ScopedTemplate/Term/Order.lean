import ScopedTemplate.Failure

/-!
# Order of terms

Numbers are ordered by value whatever their type, text by its characters, lists and tuples by their
first difference, and sets by inclusion.  Terms of other types, or of two types that do not go
together, have no order.
-/

namespace ScopedTemplate.Term

mutual

/-- Whether two elements of collections are equal; a term equals itself. -/
def equals (left right : Term) : Bool :=
  left.sameKey right ||
    match left, right with
    | .list _ _ items, .list _ _ others => equalItems items others
    | .tuple _ items, .tuple _ others => equalItems items others
    | .tuple _ items, .point _ others => equalItems items others
    | .point _ items, .tuple _ others => equalItems items others
    | .point _ items, .point _ others => equalItems items others
    | .map _ _ entries, .map _ _ others =>
      entries.length == others.length && equalEntries entries others
    | .set _ items, .set _ others =>
      items.length == others.length && items.all fun item => others.any item.sameKey
    | _, _ => false

def equalItems : List Term → List Term → Bool
  | [], [] => true
  | t :: ts, u :: us => equals t u && equalItems ts us
  | _, _ => false

def equalEntries : List (Term × Term) → Entries → Bool
  | [], _ => true
  | (key, value) :: rest, others =>
    (Entries.find? others key).any (equals value) && equalEntries rest others

end

/-- The order of numbers; a NaN is neither less nor greater than anything. -/
def Key.numberLess? : Key → Key → Option Bool
  | .number left, .number right => some (left < right)
  | .number _, .infinity negative => some !negative
  | .infinity negative, .number _ => some negative
  | .infinity left, .infinity right => some (left && !right)
  | .nan _, .nan _ | .nan _, .number _ | .nan _, .infinity _ => some false
  | .number _, .nan _ | .infinity _, .nan _ => some false
  | _, _ => none

def plainLess? (left right : Term) : Option Bool :=
  match left, right with
  | .text _ s, .text _ t => some (s < t)
  | .bytes bs, .bytes cs => some ((bs.map UInt8.toNat).lex (cs.map UInt8.toNat))
  | .set _ items, .set _ others =>
    some (items.length < others.length && items.all fun item => others.any item.sameKey)
  | left, right => do Key.numberLess? (← left.key?) (← right.key?)

def derivesFrom (t other : Term) : Bool := t.baseType? == some other.exactType

/--
Whether the order of two collections is read from the right, as "greater": a collection of a derived
type is asked first.
-/
def readsBack (back : Bool) (left right : Term) : Bool :=
  if back then !left.derivesFrom right else right.derivesFrom left

def unordered (back : Bool) (left right : Term) : Failure :=
  .type (if back then .notOrdered ">" right.typeName left.typeName
    else .notOrdered "<" left.typeName right.typeName)

mutual

def less (back : Bool) (left right : Term) : Except Failure Bool :=
  match left, right with
  | .list kind stamp items, .list kind' stamp' others =>
    lessItems (readsBack back (.list kind stamp items) (.list kind' stamp' others)) items others
  | .tuple stamp items, .tuple stamp' others =>
    lessItems (readsBack back (.tuple stamp items) (.tuple stamp' others)) items others
  | .tuple stamp items, .point stamp' others =>
    lessItems (readsBack back (.tuple stamp items) (.point stamp' others)) items others
  | .point stamp items, .tuple stamp' others =>
    lessItems (readsBack back (.point stamp items) (.tuple stamp' others)) items others
  | .point stamp items, .point stamp' others =>
    lessItems (readsBack back (.point stamp items) (.point stamp' others)) items others
  | left, right =>
    match plainLess? left right with
    | some answer => .ok answer
    | none => .error (unordered back left right)

/-- Whether elements come before others, by the first difference. -/
def lessItems (back : Bool) : List Term → List Term → Except Failure Bool
  | [], others => .ok !others.isEmpty
  | _ :: _, [] => .ok false
  | t :: ts, u :: us => if equals t u then lessItems back ts us else less back t u

end

def leastFrom (least : Term) : List Term → Except Failure Term
  | [] => .ok least
  | item :: rest => do
    if ← item.less false least then leastFrom item rest else leastFrom least rest

def least : List Term → Except Failure Term
  | [] => .error (.value .emptyMinimum)
  | item :: rest => leastFrom item rest

end ScopedTemplate.Term
