import ScopedTemplate.Config
import ScopedTemplate.Number.Binary64

/-!
# Terms

A template is a nested value.  Beside plain data it may hold references, the removal mark,
functions that declare their dependencies, and callables that read the environment through a view.
Function bodies are terms of a small expression language, so that what a function does can be
reasoned about.

Where two values of equal content can still be told apart, the value carries a stamp: functions,
sets, points and NaNs always, collections only beyond `largeCollection` elements.
-/

namespace ScopedTemplate

/-- What tells apart two values of equal content. -/
abbrev Stamp := Nat

def largeCollection : Nat := 1000

/-- A type of values: the module that defines it and its name there. -/
structure ValueType where
  module : String
  name : String
  deriving DecidableEq, Repr

/-- Text is plain data, a reference, or text of a derived type. -/
inductive TextKind where
  | plain
  | ref
  | derived
  deriving DecidableEq, Repr

inductive ListKind where
  | plain
  | rows
  deriving DecidableEq, Repr

/-- A mapping is plain or a frame of columns. -/
inductive MapKind where
  | plain
  | frame
  deriving DecidableEq, Repr

/--
How a callable is made: a bound method, a function of the environment, an object that can be called,
a method that every view has, or a function of values.
-/
inductive CallableKind where
  | method
  | accessor
  | function
  | object
  | procedure
  deriving DecidableEq, Repr

/--
Scopes of bindings, outermost first, below a channel of overrides.  Bindings are pairs of a name
and a value, both of type `α`, without two equal names in one scope.
-/
structure Environment (α : Type) where
  scopes : List (List (α × α))
  overrides : List (α × α)

/-- What a node is to the rules. -/
inductive Kind where
  | ref
  | function
  | callable
  | mapping
  | sequence
  | removed
  | scalar
  deriving DecidableEq, Repr

/-- What a custom rule asks about a node. -/
inductive Test where
  | starts (marker : String)
  | written (form : String)
  | kind (wanted : Kind)
  | bound
  | collected
  | no (test : Test)
  | both (first second : Test)
  deriving DecidableEq, Repr

/--
What a custom rule puts in the place of the term of a node: a term, or what the body of a callable
makes of the node.
-/
inductive Action (α : Type) where
  | put (term : α)
  | call (callable : α)

/-- A rule that a resolver is given beside the built-in ones; `α` is the type of terms. -/
structure CustomRule (α : Type) where
  name : String
  group : String
  description : String
  priority : Int
  test : Test
  action : Action α
  /-- Whether the node is done then, or left to the rules again. -/
  finishes : Bool

/-- A rule that reduces nodes; `α` is the type of terms. -/
inductive Rule (α : Type) where
  | lookup
  | fixpoint
  | application
  | callable
  | nestedDefaults
  | collection
  | removal
  | passThrough
  | custom (rule : CustomRule α)

/-- What decides the kind of a term beside its shape. -/
structure Classifier where
  /-- Types that are never looked into. -/
  leafTypes : List ValueType
  /-- Plain text that starts with this is a reference. -/
  refPrefix : Option String
  deriving DecidableEq, Repr

/-- Settings, a classifier, and rules in the order in which they are tried. -/
structure Resolver (α : Type) where
  config : Config
  classifier : Classifier
  rules : List (Rule α)

/-- The place of a memo table among all tables of a run. -/
abbrev CacheId := Nat

inductive TextEdit where
  | upper
  | drop (count : Nat)
  deriving DecidableEq, Repr

mutual

/-- A template node or a value. -/
inductive Term where
  | null
  | bool (value : Bool)
  | int (value : Int)
  | float (value : Binary64)
  | nan (stamp : Stamp)
  | text (kind : TextKind) (value : String)
  | bytes (value : List UInt8)
  | list (kind : ListKind) (stamp : Option Stamp) (items : List Term)
  | tuple (stamp : Option Stamp) (items : List Term)
  | map (kind : MapKind) (stamp : Option Stamp) (entries : List (Term × Term))
  | set (stamp : Stamp) (items : List Term)
  | point (stamp : Stamp) (items : List Term)
  | removed
  /-- A function with the names of the values it needs, in order. -/
  | function (stamp : Stamp) (name : String) (deps : List String) (doc : Option String)
      (callee : Term)
  /-- Something that can be called; `label` is what the call log shows. -/
  | callable (kind : CallableKind) (stamp : Stamp) (label name : String) (body : Body)
  | builtin (name : String)
  | type (name : ValueType)
  /-- A part of the engine itself that a view gives away. -/
  | internal (type : ValueType)
  /-- A lazy view of an environment that resolves what is read through it. -/
  | view (stamp : Stamp) (resolver : Resolver Term) (env : Environment Term) (cache : CacheId)

/-- What a function computes. -/
inductive Body where
  /-- An argument; a negative index counts from the end. -/
  | arg (index : Int)
  | const (value : Term)
  /-- A copy made anew at every call: stamps from `first` up to `last` are its own. -/
  | fresh (first last : Stamp) (value : Term)
  | self
  | count
  | list (items : List Body)
  | tuple (items : List Body)
  | map (entries : List (Body × Body))
  | ref (name : Body)
  | concat (items : List Body)
  | add (items : List Body)
  | mul (items : List Body)
  | size (of : Body)
  | item (of key : Body)
  | choose (condition yes no : Body)
  | same (left right : Body)
  | typeOf (of : Body)
  | raise (type message : String)
  | attempt (body : Body)
  | sequence (items : List Body)
  | note (message : String)
  | edit (how : TextEdit) (of : Body)
  /--
  Ask for a resolution: with settings and a table, if they are given, in the environment that is read
  or else in what `env` gives, and with overrides.
  -/
  | ask (config : Option Config) (cache : Option CacheId) (template : Body) (inView : Bool)
      (env : Body) (overrides : List (Body × Body))
  /-- In a block of its own, the resolutions in which share a new table. -/
  | block (body : Body)
  | readView
  | readItem (name : Body)
  | readOr (name fallback : Body)
  | readField (name : String)
  | readHas (name : Body)
  | readNames
  | readItems
  | readSize
  | readText
  | setField (name : String)
  | dropField (name : String)

end

instance : Inhabited Body := ⟨.self⟩

/-- Ask for a resolution with the usual settings, in the environment that is read or in none. -/
abbrev Body.resolve (template : Body) (inView : Bool) : Body :=
  .ask none none template inView (.const .null) []

namespace Term

instance : Inhabited Term := ⟨.null⟩

abbrev str (s : String) : Term := .text .plain s

abbrev ref (name : String) : Term := .text .ref name

/-- The characters of any kind of text. -/
def text? : Term → Option String
  | .text _ s => some s
  | _ => none

def isRemoved : Term → Bool
  | .removed => true
  | _ => false

def dependencies? : Term → Option (List String)
  | .function _ _ deps _ _ => some deps
  | _ => none

end Term

end ScopedTemplate
