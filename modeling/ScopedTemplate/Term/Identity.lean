import ScopedTemplate.Term

/-!
# Copies

Two ways to copy a term.  `detach` rebuilds plain lists, tuples and mappings and shares everything
else; only large collections can tell.  `renew` makes a whole term anew, so that the stamps given
to it when it was first made are replaced by others.
-/

namespace ScopedTemplate.Term

def restamp (next : Stamp) : Option Stamp → Option Stamp × Stamp
  | some _ => (some next, next + 1)
  | none => (none, next)

mutual

def detach (next : Stamp) : Term → Term × Stamp
  | .list .plain stamp items =>
    let (items, next) := detachItems next items
    let (stamp, next) := restamp next stamp
    (.list .plain stamp items, next)
  | .tuple stamp items =>
    let (items, next) := detachItems next items
    let (stamp, next) := restamp next stamp
    (.tuple stamp items, next)
  | .map .plain stamp entries =>
    let (entries, next) := detachEntries next entries
    let (stamp, next) := restamp next stamp
    (.map .plain stamp entries, next)
  | t => (t, next)

def detachItems (next : Stamp) : List Term → List Term × Stamp
  | [] => ([], next)
  | t :: ts =>
    let (t, next) := detach next t
    let (ts, next) := detachItems next ts
    (t :: ts, next)

def detachEntries (next : Stamp) : List (Term × Term) → List (Term × Term) × Stamp
  | [] => ([], next)
  | (key, value) :: rest =>
    let (value, next) := detach next value
    let (rest, next) := detachEntries next rest
    ((key, value) :: rest, next)

end

/-- A renaming of a block of stamps: `first` up to `last` move to a block that begins at `base`. -/
structure Renewal where
  first : Stamp
  last : Stamp
  base : Stamp

def Renewal.apply (renewal : Renewal) (stamp : Stamp) : Stamp :=
  if renewal.first ≤ stamp ∧ stamp < renewal.last then renewal.base + (stamp - renewal.first)
  else stamp

mutual

def renew (r : Renewal) : Term → Term
  | .nan stamp => .nan (r.apply stamp)
  | .list kind stamp items => .list kind (stamp.map r.apply) (renewItems r items)
  | .tuple stamp items => .tuple (stamp.map r.apply) (renewItems r items)
  | .map kind stamp entries => .map kind (stamp.map r.apply) (renewEntries r entries)
  | .set stamp items => .set (r.apply stamp) (renewItems r items)
  | .point stamp items => .point (r.apply stamp) (renewItems r items)
  | .function stamp name deps doc callee =>
    .function (r.apply stamp) name deps doc (renew r callee)
  | .callable kind stamp label name body =>
    .callable kind (r.apply stamp) label name (renewBody r body)
  | t => t

def renewItems (r : Renewal) : List Term → List Term
  | [] => []
  | t :: ts => renew r t :: renewItems r ts

def renewEntries (r : Renewal) : List (Term × Term) → List (Term × Term)
  | [] => []
  | (key, value) :: rest => (renew r key, renew r value) :: renewEntries r rest

def renewBody (r : Renewal) : Body → Body
  | .arg index => .arg index
  | .const value => .const (renew r value)
  | .fresh first last value => .fresh (r.apply first) (r.apply first + (last - first)) (renew r value)
  | .self => .self
  | .count => .count
  | .list items => .list (renewBodies r items)
  | .tuple items => .tuple (renewBodies r items)
  | .map entries => .map (renewFields r entries)
  | .ref name => .ref (renewBody r name)
  | .concat items => .concat (renewBodies r items)
  | .add items => .add (renewBodies r items)
  | .mul items => .mul (renewBodies r items)
  | .size of => .size (renewBody r of)
  | .item of key => .item (renewBody r of) (renewBody r key)
  | .choose condition yes no =>
    .choose (renewBody r condition) (renewBody r yes) (renewBody r no)
  | .same left right => .same (renewBody r left) (renewBody r right)
  | .typeOf of => .typeOf (renewBody r of)
  | .raise kind message => .raise kind message
  | .attempt body => .attempt (renewBody r body)
  | .sequence items => .sequence (renewBodies r items)
  | .note message => .note message
  | .edit how of => .edit how (renewBody r of)
  | .ask config cache template inView env overrides =>
    .ask config cache (renewBody r template) inView (renewBody r env) (renewFields r overrides)
  | .block body => .block (renewBody r body)
  | .readView => .readView
  | .readItem name => .readItem (renewBody r name)
  | .readOr name fallback => .readOr (renewBody r name) (renewBody r fallback)
  | .readField name => .readField name
  | .readHas name => .readHas (renewBody r name)
  | .readNames => .readNames
  | .readItems => .readItems
  | .readSize => .readSize
  | .readText => .readText
  | .setField name => .setField name
  | .dropField name => .dropField name

def renewBodies (r : Renewal) : List Body → List Body
  | [] => []
  | b :: bs => renewBody r b :: renewBodies r bs

def renewFields (r : Renewal) : List (Body × Body) → List (Body × Body)
  | [] => []
  | (key, body) :: rest => (renewBody r key, renewBody r body) :: renewFields r rest

end

end ScopedTemplate.Term
