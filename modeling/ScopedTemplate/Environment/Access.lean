import ScopedTemplate.Failure

/-!
# Access by arbitrary names

Asking an environment for a name that may be any term.  A term that cannot be a key is refused.
-/

namespace ScopedTemplate.Environment

def find (env : Environment Term) (name : Term) : Except Failure (Option Term) := do
  name.checkKey
  return env.lookup? name

def item (env : Environment Term) (name : Term) : Except Failure Term := do
  match ← env.find name with
  | some value => return value
  | none => .error (.missingKey name)

def itemOr (env : Environment Term) (name fallback : Term) : Except Failure Term :=
  return (← env.find name).getD fallback

def isBound (env : Environment Term) (name : Term) : Except Failure Bool :=
  return (← env.find name).isSome

def contains (env : Environment Term) (name : Term) : Bool :=
  name.text?.isSome && env.binds name

/-- Whether two environments bind the same names to values of the same content. -/
def same (left right : Environment Term) : Bool := left.fingerprint == right.fingerprint

/-- Any text may be asked for. -/
theorem isBound_text (env : Environment Term) (kind : TextKind) (s : String) :
    env.isBound (.text kind s) = .ok (env.binds (.text kind s)) := by
  simp [isBound, find, Term.checkKey, Term.unhashable?, binds, bind, Except.bind, pure, Except.pure]

end ScopedTemplate.Environment
