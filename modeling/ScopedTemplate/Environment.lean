import ScopedTemplate.Term.Content
import ScopedTemplate.Term.Display
import ScopedTemplate.Text.Sorted

/-!
# Environments

An environment is a stack of scopes below a channel of overrides.  A lookup asks the overrides
first and then the scopes, innermost first; `flatten` is the one scope that gives the same answers.
Environments are compared by the content of that scope.
-/

namespace ScopedTemplate

namespace Environment

def empty : Environment Term := ⟨[], []⟩

/-- One scope of bindings, unless it is empty, below overrides. -/
def ofBindings (bindings overrides : Entries) : Environment Term :=
  ⟨if bindings.isEmpty then [] else [bindings], overrides⟩

/-- Enter a scope; an empty one changes nothing. -/
def child (env : Environment Term) (defaults : Entries) : Environment Term :=
  if defaults.isEmpty then env else { env with scopes := env.scopes ++ [defaults] }

/-- Add overrides, which win over earlier ones of the same name. -/
def withOverrides (env : Environment Term) (overrides : Entries) : Environment Term :=
  { env with overrides := Entries.update env.overrides overrides }

def depth (env : Environment Term) : Nat := env.scopes.length

/-- The places a lookup asks, in order. -/
def layers (env : Environment Term) : List Entries := env.overrides :: env.scopes.reverse

def lookup? (env : Environment Term) (name : Term) : Option Term :=
  env.layers.findSome? fun layer => Entries.find? layer name

def binds (env : Environment Term) (name : Term) : Bool := (env.lookup? name).isSome

/-- All scopes merged into one, inner bindings winning and overrides over all. -/
def flatten (env : Environment Term) : Entries :=
  match env.scopes with
  | [] => env.overrides
  | outermost :: inner => (inner ++ [env.overrides]).foldl Entries.update outermost

def names (env : Environment Term) : List Term := Entries.keys env.flatten

def size (env : Environment Term) : Nat := env.flatten.length

def fingerprint (env : Environment Term) : Content := Term.scopeContent env.flatten

@[simp] theorem lookup?_empty (name : Term) : empty.lookup? name = none := rfl

theorem lookup?_eq (env : Environment Term) (name : Term) :
    env.lookup? name = (Entries.find? env.overrides name <|>
      env.scopes.reverse.findSome? fun scope => Entries.find? scope name) := by
  unfold lookup? layers
  rw [List.findSome?_cons]
  cases Entries.find? env.overrides name <;> rfl

/-- A scope that is entered is asked right after the overrides. -/
theorem lookup?_child (env : Environment Term) (defaults : Entries) (name : Term) :
    (env.child defaults).lookup? name =
      (Entries.find? env.overrides name <|> Entries.find? defaults name <|> env.lookup? name) := by
  cases defaults with
  | nil =>
    simp only [child, List.isEmpty_nil, if_true, Entries.find?_nil, lookup?_eq]
    cases Entries.find? env.overrides name <;> rfl
  | cons entry rest =>
    simp only [child, List.isEmpty_cons, Bool.false_eq_true, if_false, lookup?_eq,
      List.reverse_append, List.reverse_singleton, List.singleton_append, List.findSome?_cons]
    cases Entries.find? env.overrides name <;> cases Entries.find? (entry :: rest) name <;> rfl

/-- Overrides that are added are asked first. -/
theorem lookup?_withOverrides (env : Environment Term) (overrides : Entries) (name : Term) :
    (env.withOverrides overrides).lookup? name =
      (Entries.find? overrides.reverse name <|> env.lookup? name) := by
  rw [lookup?_eq, lookup?_eq, withOverrides, Entries.find?_update]
  cases Entries.find? overrides.reverse name <;> rfl

def display (env : Environment Term) : String :=
  "Environment(scopes=" ++ toString env.depth ++ ", names=[" ++
    Term.commas (Text.sort (env.names.map Term.nameText)) ++ "])"

end Environment

namespace Term

def display (t : Term) : String := t.displayWith Environment.display

def asRef (name : Term) : Term := .ref name.nameText

@[simp] theorem asRef_text (kind : TextKind) (s : String) : (Term.text kind s).asRef = .ref s := rfl

def snapshotWidth : Nat := 80

def shortDisplay (t : Term) : String :=
  let text := t.display.toList
  if text.length ≤ snapshotWidth then String.ofList text
  else String.ofList (text.take (snapshotWidth - 3)) ++ "..."

end Term

abbrev Snapshot := List (String × String)

namespace Snapshot

def put (snapshot : Snapshot) (name text : String) : Snapshot :=
  match snapshot with
  | [] => [(name, text)]
  | first :: rest =>
    if first.1 = name then (name, text) :: rest else first :: put rest name text

end Snapshot

def Environment.snapshot (env : Environment Term) : Snapshot :=
  env.flatten.foldl (fun shown entry => Snapshot.put shown entry.1.nameText entry.2.shortDisplay) []

end ScopedTemplate
