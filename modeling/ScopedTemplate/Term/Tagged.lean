import ScopedTemplate.Environment
import ScopedTemplate.Text.Compact

/-!
# Tagged text

Terms as compact data text.  Null, truth values, plain text, small integers and plain lists stand
for themselves; every other term is an object with one field, whose name is the tag.
-/

namespace ScopedTemplate.Term

def taggedIntBound : Nat := twoPow 53

def tag (name body : String) : String := Compact.object [(name, body)]

mutual

def tagged : Term → String
  | .null => "null"
  | .bool b => Compact.flag b
  | .int n =>
    if n.natAbs < taggedIntBound then toString n else tag "int" ("\"" ++ toString n ++ "\"")
  | .float x => tag "float" ("\"" ++ x.write ++ "\"")
  | .nan _ => tag "float" "\"nan\""
  | .text .plain s => Text.escape s
  | .text .ref s => tag "ref" (Text.escape s)
  | .text .derived s => tag "text" (Text.escape s)
  | .bytes bs => tag "bytes" ("\"" ++ Text.hexBytes bs ++ "\"")
  | .list .plain _ items => Compact.array (taggedItems items)
  | .list .rows _ items => tag "rows" (Compact.array (taggedItems items))
  | .tuple _ items => tag "tuple" (Compact.array (taggedItems items))
  | .map .plain _ entries => tag "map" (Compact.array (taggedEntries entries))
  | .map .frame _ entries => tag "frame" (Compact.array (taggedEntries entries))
  | .set _ items => tag "set" (Compact.array (Text.sort (taggedItems items)))
  | .point _ items => tag "point" (Compact.array (taggedItems items))
  | .removed => tag "rmv" "true"
  | .function _ name deps doc _ =>
    tag "fn" (Compact.array
      [Text.escape name, Compact.texts deps, Compact.optionalText doc])
  | .callable .method _ label _ _ | .callable .accessor _ label _ _ => tag "call" (Text.escape label)
  | .callable .function _ _ name _ | .callable .procedure _ _ name _ => tag "func" (Text.escape name)
  | .callable .object _ label _ _ => tag "callobj" (Text.escape label)
  | .builtin name => tag "builtin" (Text.escape name)
  | .type name => tag "class" (Text.escape name.name)
  | .internal own => tag "class" (Text.escape own.name)
  | .view _ _ env _ => tag "proxy" (Text.escape ("EnvironmentProxy(" ++ env.display ++ ")"))

def taggedItems : List Term → List String
  | [] => []
  | t :: ts => tagged t :: taggedItems ts

def taggedEntries : List (Term × Term) → List String
  | [] => []
  | (key, value) :: rest => Compact.array [tagged key, tagged value] :: taggedEntries rest

end

end ScopedTemplate.Term
