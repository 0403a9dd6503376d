import ScopedTemplate.Term
import ScopedTemplate.ValueType.Library.AToC
import ScopedTemplate.ValueType.Library.DToH
import ScopedTemplate.ValueType.Library.Hidden
import ScopedTemplate.ValueType.Library.IToO
import ScopedTemplate.ValueType.Library.PToS
import ScopedTemplate.ValueType.Library.TToZ

/-!
# Known types

The modules whose types a dotted path may name.  Importing a path fails softly when its module is
not known, so that optional libraries can be listed unconditionally, and hard when a known module
has no type of that name.

A type is written as the name that a module shows it under, then its own name behind an equals sign
if that differs, then its own module behind an at sign if that matters.
-/

namespace ScopedTemplate.ValueType

def library : List (String × String) :=
  Library.hidden ++ Library.aToC ++ Library.dToH ++ Library.iToO ++ Library.pToS ++ Library.tToZ

def parts (mark : Char) : List Char → List (List Char)
  | [] => [[]]
  | c :: rest =>
    match parts mark rest with
    | [] => [[c]]
    | first :: others => if c = mark then [] :: first :: others else (c :: first) :: others

def cut (mark : Char) (text : List Char) : List Char × Option (List Char) :=
  match text.dropWhile (· != mark) with
  | [] => (text, none)
  | _ :: rest => (text.takeWhile (· != mark), some rest)

def ofWritten (module : String) (written : List Char) : List Char × ValueType :=
  let (names, home) := cut '@' written
  let (shown, own) := cut '=' names
  (shown, ⟨(home.map String.ofList).getD module, String.ofList (own.getD shown)⟩)

def shownBy (module : String) : List (List Char × ValueType) :=
  (library.filter (·.1 == module)).flatMap fun row =>
    (parts ' ' row.2.toList).map (ofWritten module)

def knowsModule (module : String) : Bool := library.any (·.1 == module)

def moduleField : String := "__class__"

def inModule? (module name : String) : Option ValueType :=
  if name = "" then none
  else if name = moduleField then some ⟨"builtins", "module"⟩
  else ((shownBy module).find? (·.1 == name.toList)).map Prod.snd

def splitPath (path : String) : String × String :=
  let reversed := path.toList.reverse
  let name := (reversed.takeWhile (· != '.')).reverse
  let rest := (reversed.dropWhile (· != '.')).drop 1
  (String.ofList rest.reverse, String.ofList name)

/-- Why a dotted path names no type. -/
inductive PathError where
  | notDotted (path : String)
  | relative (module : String)
  | noType (path : String)
  deriving DecidableEq, Repr

/-- Find the type at a dotted path; an unknown module has none. -/
def ofPath (path : String) : Except PathError (Option ValueType) :=
  let (module, name) := splitPath path
  if module = "" then .error (.notDotted path)
  else if module.toList.head? = some '.' then .error (.relative module)
  else if !knowsModule module then .ok none
  else match inModule? module name with
    | some type => .ok (some type)
    | none => .error (.noType path)

end ScopedTemplate.ValueType
