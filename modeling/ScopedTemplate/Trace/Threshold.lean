import ScopedTemplate.Text.Sorted
import ScopedTemplate.Text.Upper
import ScopedTemplate.Trace

/-!
# Thresholds

The least important level that an application wants to see, chosen by a caller or by a variable of
its environment.
-/

namespace ScopedTemplate

/-- A chosen level, with a warning if the choice could not be followed. -/
structure Threshold where
  level : Level
  warning : Option String
  deriving DecidableEq, Repr

namespace Threshold

def variableName : String := "SUBFLOW_LOG_LEVEL"

def ofWord? (word : String) : Option Level := Level.all.find? (·.word == word)

def warningText (word : String) : String :=
  "Warning: Invalid " ++ variableName ++ " '" ++ word ++ "'. Valid levels: " ++
    ", ".intercalate (Text.sort (Level.all.map Level.word)) ++ ". Using INFO."

/-- The level of a word in any case, else the informative one with a warning. -/
def ofText (text : String) : Threshold :=
  let word := Text.upper text
  match ofWord? word with
  | some level => ⟨level, none⟩
  | none => ⟨.info, some (warningText word)⟩

def choose (argument fallback : Option String) : Threshold :=
  ofText (((argument.filter (· ≠ "")) <|> (fallback.filter (· ≠ ""))).getD Level.info.word)

end Threshold

end ScopedTemplate
