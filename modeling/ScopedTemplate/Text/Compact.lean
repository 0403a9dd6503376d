import ScopedTemplate.Text.Quoted

/-!
# Compact data text

Objects, arrays and strings written without blanks.
-/

namespace ScopedTemplate.Compact

def array (items : List String) : String := "[" ++ ",".intercalate items ++ "]"

def object (fields : List (String × String)) : String :=
  "\x7b" ++ ",".intercalate (fields.map fun field => Text.escape field.1 ++ ":" ++ field.2) ++
    "\x7d"

def flag (b : Bool) : String := if b then "true" else "false"

def texts (items : List String) : String := array (items.map Text.escape)

def optional (item : Option String) : String := item.getD "null"

def optionalText (item : Option String) : String := optional (item.map Text.escape)

end ScopedTemplate.Compact
