import ScopedTemplate.Term.Entries
import ScopedTemplate.Term.Type

/-!
# Contents

The content of a value, up to which bindings are compared.  Scalars count by exact type and value,
mappings by their keys and the contents under them in any order, lists and tuples by their
elements in order, and everything else, large collections included, by identity.
-/

namespace ScopedTemplate

/-- What a collection of contents is the content of. -/
inductive Shape where
  | map
  | list (kind : ListKind)
  | tuple
  deriving DecidableEq, Repr

/-- The content of a value; two values have equal content exactly if these are equal. -/
inductive Content where
  | scalar (type : ValueType) (key : Key)
  | identity (key : Key)
  /-- The end of a collection. -/
  | empty (shape : Shape)
  /-- An element of a list or tuple before the others. -/
  | item (head rest : Content)
  /-- An entry of a mapping before the ones with greater keys. -/
  | entry (key : Key) (value rest : Content)
  deriving DecidableEq, Repr

namespace Content

def insertEntry {α : Type} (added : Key × α) : List (Key × α) → List (Key × α)
  | [] => [added]
  | first :: rest =>
    if added.1.ble first.1 then added :: first :: rest else first :: insertEntry added rest

def sortEntries {α : Type} : List (Key × α) → List (Key × α)
  | [] => []
  | first :: rest => insertEntry first (sortEntries rest)

def ofEntries (entries : List (Key × Content)) : Content :=
  (sortEntries entries).foldr (fun e rest => .entry e.1 e.2 rest) (.empty .map)

def ofItems (shape : Shape) (items : List Content) : Content :=
  items.foldr .item (.empty shape)

end Content

namespace Term

mutual

def content : Term → Content
  | .null => .scalar (.core "NoneType") .null
  | .bool b => .scalar (.core "bool") (.ofBool b)
  | .int n => .scalar (.core "int") (.ofInt n)
  | .float x => .scalar (.core "float") (.ofBinary64 x)
  | .nan stamp => .scalar (.core "float") (.nan stamp)
  | .text kind s => .scalar (exactType (.text kind s)) (.text s)
  | .bytes bs => .scalar (.core "bytes") (.bytes bs)
  | .list kind stamp items =>
    match stamp with
    | some stamp => .identity (.object stamp)
    | none => .ofItems (.list kind) (contents items)
  | .tuple stamp items =>
    match stamp with
    | some stamp => .identity (.object stamp)
    | none => .ofItems .tuple (contents items)
  | .map _ stamp entries =>
    match stamp with
    | some stamp => .identity (.object stamp)
    | none => .ofEntries (entryContents entries)
  | .set stamp _ => .identity (.object stamp)
  | .point stamp _ => .identity (.object stamp)
  | .removed => .identity .removed
  | .function stamp .. => .identity (.object stamp)
  | .callable _ stamp .. => .identity (.object stamp)
  | .builtin name => .identity (.builtin name)
  | .type name => .identity (.type name)
  | .internal own => .identity (.internal own)
  | .view stamp .. => .identity (.object stamp)

def contents : List Term → List Content
  | [] => []
  | t :: ts => content t :: contents ts

def entryContents : List (Term × Term) → List (Key × Content)
  | [] => []
  | (key, value) :: rest =>
    match key.key? with
    | some k => (k, content value) :: entryContents rest
    | none => entryContents rest

end

theorem contents_eq_map (ts : List Term) : contents ts = ts.map content := by
  induction ts with
  | nil => simp [contents]
  | cons t ts ih => simp [contents, ih]

def scopeContent (bindings : Entries) : Content := .ofEntries (entryContents bindings)

end Term

end ScopedTemplate
