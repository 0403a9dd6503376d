import ScopedTemplate.Number.Shortest
import ScopedTemplate.Term.Type
import ScopedTemplate.Text.Quoted

/-!
# Displayed terms

The text that stands for a term in messages and snapshots.
-/

namespace ScopedTemplate

def ValueType.display (type : ValueType) : String :=
  if type.module = "builtins" then "<class '" ++ type.name ++ "'>"
  else "<class '" ++ type.module ++ "." ++ type.name ++ "'>"

namespace Term

def commas (parts : List String) : String := ", ".intercalate parts

mutual

def displayWith (showEnv : Environment Term → String) : Term → String
  | .null => "None"
  | .bool b => if b then "True" else "False"
  | .int n => toString n
  | .float x => x.write
  | .nan _ => "nan"
  | .text .ref s => "Ref(" ++ Text.quote s ++ ")"
  | .text _ s => Text.quote s
  | .bytes bs => Text.quoteBytes bs
  | .list _ _ items => "[" ++ commas (displaysWith showEnv items) ++ "]"
  | .tuple _ items =>
    match items with
    | [item] => "(" ++ displayWith showEnv item ++ ",)"
    | items => "(" ++ commas (displaysWith showEnv items) ++ ")"
  | .map _ _ entries => "\x7b" ++ commas (displayEntriesWith showEnv entries) ++ "\x7d"
  | .set _ items =>
    match items with
    | [] => "set()"
    | items => "\x7b" ++ commas (displaysWith showEnv items) ++ "\x7d"
  | .point _ items => "Point(" ++ commas (displayFieldsWith showEnv ["x", "y"] items) ++ ")"
  | .removed => "RMV"
  | .function _ name deps _ _ => "DependencyFn(" ++ name ++ ", deps=[" ++ commas deps ++ "])"
  | .callable .method _ label _ _ => "<bound method UserFn.call of UserFn(" ++ label ++ ")>"
  | .callable .function _ _ name _ | .callable .procedure _ _ name _ => "<function " ++ name ++ " at 0x000000000000>"
  | .callable .object _ label _ _ => "UserFn(" ++ label ++ ")"
  | .builtin name => "<built-in function " ++ name ++ ">"
  | .callable .accessor _ label _ _ => "<bound method " ++ label ++ ">"
  | .type name => name.display
  | .internal own => own.display
  | .view _ _ env _ => "EnvironmentProxy(" ++ showEnv env ++ ")"

def displaysWith (showEnv : Environment Term → String) : List Term → List String
  | [] => []
  | t :: ts => displayWith showEnv t :: displaysWith showEnv ts

def displayEntriesWith (showEnv : Environment Term → String) :
    List (Term × Term) → List String
  | [] => []
  | (key, value) :: rest =>
    (displayWith showEnv key ++ ": " ++ displayWith showEnv value) ::
      displayEntriesWith showEnv rest

def displayFieldsWith (showEnv : Environment Term → String) :
    List String → List Term → List String
  | name :: names, t :: ts =>
    (name ++ "=" ++ displayWith showEnv t) :: displayFieldsWith showEnv names ts
  | _, _ => []

end

def displayName (name : Term) : String := name.displayWith fun _ => ""

/-- The text of a name: the characters of text, the display of anything else. -/
def nameText (name : Term) : String := name.text?.getD name.displayName

@[simp] theorem nameText_text (kind : TextKind) (s : String) : (Term.text kind s).nameText = s := rfl

end Term

end ScopedTemplate
