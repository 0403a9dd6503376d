import ScopedTemplate.Text.Quoted

/-!
# Files

Paths are walked part by part: two points lead to the directory around, and every part but the last
has to be a directory.  Beside the directory in which everything begins, directories are there as
far as files lie in them.
-/

namespace ScopedTemplate

/-- A path by its parts; the first part of an absolute path is a slash. -/
structure Path where
  parts : List String
  deriving DecidableEq, Repr

namespace Path

def pieces : List Char → List (List Char)
  | [] => [[]]
  | c :: rest =>
    match pieces rest with
    | [] => [[c]]
    | first :: others => if c = '/' then [] :: first :: others else (c :: first) :: others

def top : String := "/"

def around : String := ".."

def ofText (text : String) : Path :=
  let parts := (pieces text.toList).filter fun part => part ≠ [] ∧ part ≠ ['.']
  let start := if text.toList.head? = some '/' then [top] else []
  ⟨start ++ parts.map String.ofList⟩

def text (path : Path) : String :=
  match path.parts with
  | [] => "."
  | first :: rest =>
    if first = top then top ++ top.intercalate rest else top.intercalate (first :: rest)

def append (path : Path) (parts : List String) : Path := ⟨path.parts ++ parts⟩

def placeFrom (place : List String) : List String → List String
  | [] => place
  | part :: rest => placeFrom (if part = around then place.dropLast else place ++ [part]) rest

end Path

/-- Why a path leads nowhere. -/
inductive PathFault where
  | nameTooLong (path : Path)
  | isDirectory (path : Path)
  /-- The home directory of nobody. -/
  | noHome
  deriving DecidableEq, Repr

namespace PathFault

def name : PathFault → String
  | .nameTooLong _ => "OSError"
  | .isDirectory _ => "IsADirectoryError"
  | .noHome => "RuntimeError"

def message : PathFault → String
  | .nameTooLong path => "[Errno 36] File name too long: " ++ Text.quote path.text
  | .isDirectory path => "[Errno 21] Is a directory: " ++ Text.quote path.text
  | .noHome => "Could not determine home directory."

end PathFault

inductive FileEntry where
  | file (text : String)
  | directory
  deriving DecidableEq, Repr

/-- The directory in which everything begins, and the texts of files by their places. -/
structure Files where
  base : List String
  texts : List (List String × String)

namespace Files

def nameLimit : Nat := 255

def empty (base : String) : Files := ⟨(Path.ofText base).parts, []⟩

def write (files : Files) (path text : String) : Files :=
  let place := Path.placeFrom [] (Path.ofText path).parts
  { files with texts := (place, text) :: files.texts.filter (·.1 != place) }

def isDirectory (files : Files) (place : List String) : Bool :=
  place == [Path.top] || place.isPrefixOf files.base ||
    files.texts.any fun file => place.isPrefixOf file.1 && place != file.1

def entry? (files : Files) (place : List String) : Option FileEntry :=
  match files.texts.find? (·.1 == place) with
  | some (_, text) => some (.file text)
  | none => if files.isDirectory place then some .directory else none

def walk (files : Files) (path : Path) (place : List String) :
    List String → Except PathFault (Option FileEntry)
  | [] => .ok (files.entry? place)
  | part :: rest =>
    if !files.isDirectory place then .ok none
    else if nameLimit < part.utf8ByteSize then .error (.nameTooLong path)
    else walk files path (Path.placeFrom place [part]) rest

def find? (files : Files) (path : Path) : Except PathFault (Option FileEntry) :=
  files.walk path [] path.parts

end Files

end ScopedTemplate
