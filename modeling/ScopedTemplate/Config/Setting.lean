import ScopedTemplate.Term

/-!
# Loosely typed settings

What a caller or a document gives for a field of the settings, before it is known to fit.
-/

namespace ScopedTemplate

inductive Setting where
  | null
  | bool (value : Bool)
  | int (value : Int)
  | float (value : Binary64)
  | nan
  | text (value : String)
  /-- Text with a character that cannot be encoded. -/
  | broken
  | bytes (value : List UInt8)
  | list (items : List Setting)
  | mapping (entries : List (Setting × Setting))
  /-- A value that no field takes. -/
  | other

namespace Setting

instance : Inhabited Setting := ⟨.null⟩

def text? : Setting → Option String
  | .text s => some s
  | _ => none

def isText : Setting → Bool
  | .text _ | .broken => true
  | _ => false

def number? : Setting → Option (Int ⊕ Binary64)
  | .bool b => some (.inl (if b then 1 else 0))
  | .int n => some (.inl n)
  | .float x => some (x.toInt?.elim (.inr x) .inl)
  | _ => none

def sameKey (first second : Setting) : Bool :=
  match first, second with
  | .null, .null => true
  | .text s, .text t => s == t
  | .bytes s, .bytes t => s == t
  | _, _ => first.number?.isSome && first.number? == second.number?

/-- Entries in the order of their keys' first use; a later value replaces an earlier one. -/
def put (entries : List (Setting × Setting)) (key value : Setting) : List (Setting × Setting) :=
  match entries with
  | [] => [(key, value)]
  | first :: rest =>
    if first.1.sameKey key then (first.1, value) :: rest else first :: put rest key value

end Setting

namespace Term

mutual

/-- A term as a value for a field: every ordered or unordered collection but a mapping is a list. -/
def setting : Term → Setting
  | .null => .null
  | .bool b => .bool b
  | .int n => .int n
  | .float x => .float x
  | .nan _ => .nan
  | .text _ s => .text s
  | .bytes bs => .bytes bs
  | .list _ _ items => .list (settings items)
  | .tuple _ items => .list (settings items)
  | .set _ items => .list (settings items)
  | .point _ items => .list (settings items)
  | _ => .other

def settings : List Term → List Setting
  | [] => []
  | t :: ts => setting t :: settings ts

end

end Term

end ScopedTemplate
