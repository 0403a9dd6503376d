import ScopedTemplate.Term.Type

/-!
# Keys

Mappings find a value by a key up to equality of keys: numbers are compared by value whatever
their type, text by its characters whatever its kind, tuples and points by their elements, and
objects by identity.  `Term.key?` gives the class of a term under this equality, so equal keys are
equal classes; lists, mappings, sets and views are no keys.
-/

namespace ScopedTemplate

/-- A class of equal keys. -/
inductive Key where
  | null
  | removed
  /-- A whole number of units of `2 ^ -1074`. -/
  | number (units : Int)
  | infinity (negative : Bool)
  | nan (stamp : Stamp)
  | text (value : String)
  | bytes (value : List UInt8)
  | object (stamp : Stamp)
  | builtin (name : String)
  | type (name : ValueType)
  /-- A part of the engine, which is known by its type. -/
  | internal (own : ValueType)
  /-- The end of a tuple. -/
  | done
  /-- An element of a tuple before the others. -/
  | item (head rest : Key)
  deriving DecidableEq, Repr

namespace Key

def ofInt (n : Int) : Key := .number (n * Binary64.unitsOfOne)

def ofBinary64 : Binary64 → Key
  | .finite negative units => .number (if negative then -(units : Int) else units)
  | .infinite negative => .infinity negative

def ofBool (b : Bool) : Key := .ofInt (if b then 1 else 0)

def textCode (s : String) : List Nat :=
  s.length :: s.toList.map Char.toNat

def intCode : Int → Nat
  | .ofNat n => 2 * n
  | .negSucc n => 2 * n + 1

def code : Key → List Nat
  | .null => [0]
  | .removed => [1]
  | .number units => [2, intCode units]
  | .infinity negative => [3, negative.toNat]
  | .nan stamp => [4, stamp]
  | .text value => 5 :: textCode value
  | .bytes value => 6 :: value.length :: value.map UInt8.toNat
  | .object stamp => [7, stamp]
  | .builtin name => 8 :: textCode name
  | .type name => 9 :: (textCode name.module ++ textCode name.name)
  | .internal own => 12 :: (textCode own.module ++ textCode own.name)
  | .done => [10]
  | .item head rest => 11 :: (head.code ++ rest.code)

def ble (left right : Key) : Bool := !right.code.lex left.code

end Key

namespace Term

mutual

def key? : Term → Option Key
  | .null => some .null
  | .bool b => some (.ofBool b)
  | .int n => some (.ofInt n)
  | .float x => some (.ofBinary64 x)
  | .nan stamp => some (.nan stamp)
  | .text _ s => some (.text s)
  | .bytes bs => some (.bytes bs)
  | .list .. => none
  | .tuple _ items => keys? items
  | .map .. => none
  | .set .. => none
  | .point _ items => keys? items
  | .removed => some .removed
  | .function stamp .. => some (.object stamp)
  | .callable _ stamp .. => some (.object stamp)
  | .builtin name => some (.builtin name)
  | .type name => some (.type name)
  | .internal own => some (.internal own)
  | .view .. => none

def keys? : List Term → Option Key
  | [] => some .done
  | t :: ts =>
    match key? t, keys? ts with
    | some head, some rest => some (.item head rest)
    | _, _ => none

end

mutual

def unhashable? : Term → Option String
  | .list kind stamp items => some (typeName (.list kind stamp items))
  | .tuple _ items => unhashableItem? items
  | .map kind stamp entries => some (typeName (.map kind stamp entries))
  | .set stamp items => some (typeName (.set stamp items))
  | .point _ items => unhashableItem? items
  | .view stamp resolver env cache => some (typeName (.view stamp resolver env cache))
  | _ => none

def unhashableItem? : List Term → Option String
  | [] => none
  | t :: ts => (unhashable? t) <|> unhashableItem? ts

end

def sameKey (left right : Term) : Bool :=
  match left.key?, right.key? with
  | some k, some l => k == l
  | _, _ => false

@[simp] theorem key?_text (kind : TextKind) (s : String) :
    (Term.text kind s).key? = some (.text s) := by
  simp [key?]

/-- Text of any kind is the same key exactly if its characters are the same. -/
@[simp] theorem sameKey_text (kind kind' : TextKind) (s t : String) :
    (Term.text kind s).sameKey (.text kind' t) = (s == t) := by
  rw [Bool.eq_iff_iff]
  simp [sameKey]

theorem sameKey_iff {left right : Term} :
    left.sameKey right = true ↔ ∃ k, left.key? = some k ∧ right.key? = some k := by
  unfold sameKey
  cases left.key? with
  | none => simp
  | some k =>
    cases right.key? with
    | none => simp
    | some l => simp [eq_comm (a := l)]

/-- What is equal to a key has its class. -/
theorem sameKey_iff_key? {left right : Term} {key : Key} (own : right.key? = some key) :
    left.sameKey right = true ↔ left.key? = some key := by
  rw [sameKey_iff]
  refine ⟨?_, fun same => ⟨key, same, own⟩⟩
  rintro ⟨k, first, second⟩
  rw [first, ← own, second]

theorem sameKey_comm (left right : Term) : left.sameKey right = right.sameKey left := by
  rw [Bool.eq_iff_iff, sameKey_iff, sameKey_iff]
  simp [and_comm]

/-- Equal keys are equal to the same keys. -/
theorem sameKey_congr {left right : Term} (same : left.sameKey right = true) (other : Term) :
    left.sameKey other = right.sameKey other := by
  obtain ⟨k, hleft, hright⟩ := sameKey_iff.1 same
  simp [sameKey, hleft, hright]

end Term

end ScopedTemplate
