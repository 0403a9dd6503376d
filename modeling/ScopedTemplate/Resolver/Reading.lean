import ScopedTemplate.Resolver.Lookup
import ScopedTemplate.Resolver.Member
import ScopedTemplate.Standard

/-!
# Reading

What a body reads from the environment that it is given.  In a resolution that is a view; a callable
that is called with any other term reads that term as what it is, and a function that is given none
reads null.
-/

namespace ScopedTemplate

namespace Term

def index? : Term → Option Int
  | .int n => some n
  | .bool b => some (if b then 1 else 0)
  | _ => none

/-- The element at an index; a negative index counts from the end. -/
def atIndex? {α : Type} (items : List α) (index : Int) : Option α :=
  match if index < 0 then index + items.length else index with
  | .ofNat n => items[n]?
  | .negSucc _ => none

def elementBy (noun : String) (items : List Term) (key : Term) : Except Failure Term :=
  match key.index? with
  | none => .error (.type (.indexExpected noun key.typeName))
  | some index => (atIndex? items index).elim (.error (.outOfRange (noun ++ " "))) .ok

def valueUnder (entries : Entries) (key : Term) : Except Failure Term := do
  key.checkKey
  (Entries.find? entries key).elim (.error (.missingKey key)) .ok

def subscript (t key : Term) : Except Failure Term :=
  match t with
  | .map _ _ entries => valueUnder entries key
  | .list _ _ items => elementBy "list" items key
  | .tuple _ items | .point _ items => elementBy "tuple" items key
  | .text _ s => elementBy "string" (s.toList.map fun c => .str c.toString) key
  | t => .error (.type (.notSubscriptable t.typeName))

def occursIn (part : List Char) : List Char → Bool
  | [] => part.isEmpty
  | c :: rest => part.isPrefixOf (c :: rest) || occursIn part rest

/-- Whether a term contains another one: as a key, an element, or a part of its text. -/
def contains (t item : Term) : Except Failure Bool :=
  match t with
  | .map _ _ entries => do
    item.checkKey
    return Entries.has entries item
  | .set _ items => do
    item.checkKey
    return items.any item.sameKey
  | .list _ _ items | .tuple _ items | .point _ items => .ok (items.any (item.equals ·))
  | .text _ s =>
    match item.text? with
    | some part => .ok (occursIn part.toList s.toList)
    | none => .error (.type (.partExpected item.typeName))
  | t => .error (.type (.notContainer t.typeName))

def withoutField (t : Term) (name : String) : Failure :=
  .missingAttribute ("'" ++ t.typeName ++ "' object") name

end Term

namespace Reading

variable (resolution : Resolution) (source : Term)

def item (name : Term) : Run Term :=
  match source with
  | .view _ resolver env cache => View.item resolution resolver env cache name
  | t => Run.ofResult (t.subscript name)

def itemOr (name fallback : Term) : Run Term :=
  match source with
  | .view _ resolver env cache => View.itemOr resolution resolver env cache name fallback
  | .map _ _ entries =>
    Run.ofResult do
      name.checkKey
      return (Entries.find? entries name).getD fallback
  | t => throw (t.withoutField "get")

/-- A field: a member that every view has, else the value of its name. -/
def field (name : String) : Run Term :=
  match source with
  | .view stamp resolver env cache => do
    let own ← Run.takeStamps 1
    match View.member? name (Term.view stamp resolver env cache).display own with
    | some member => pure member
    | none => View.field resolution resolver env cache name
  | t => throw (t.withoutField name)

def has (name : Term) : Run Bool :=
  match source with
  | .view _ _ env _ => return View.has env name
  | t => Run.ofResult (t.contains name)

def names : Run (List Term) := Run.ofResult (Standard.elements source)

/-- The values of all names. -/
def items : Run Entries :=
  match source with
  | .view _ resolver env cache => View.items resolution resolver env cache
  | .map _ _ entries => pure entries
  | t => throw (t.withoutField "items")

def size : Run Term := Run.ofResult (Standard.sizeOf source)

def write (name : String) : Run Term :=
  match source with
  | .view .. => throw .readOnly
  | t => throw (t.withoutField name)

/-- The source as an environment; what counts as nothing binds nothing. -/
def environment : Run (Environment Term) :=
  match source with
  | .view _ resolver env cache => do
    return .ofBindings (← View.items resolution resolver env cache) []
  | t =>
    if t.isFalsy then pure .empty
    else do return .ofBindings (← Run.ofResult (Standard.entries [t])) []

end Reading

end ScopedTemplate
