import ScopedTemplate.Config.Field
import ScopedTemplate.Config.Files
import ScopedTemplate.Trace
import ScopedTemplate.Yaml.Document

/-!
# Where settings come from

Settings are read from the file that a caller names, else from the one that a variable names, else
from one at the standard place in the home directory; without a file the standard settings hold.  A
second variable overrides the bound on nesting.  A loader reads once and keeps the result.
-/

namespace ScopedTemplate

/-- What decides where settings come from. -/
structure Origin where
  /-- The path that the caller gives. -/
  explicit : Option String
  /-- The path in the variable for it. -/
  chosen : Option String
  /-- The bound on nesting in the variable for it. -/
  depth : Option String
  home : String

namespace Origin

def pathVariable : String := "SUBFLOW_CONFIG"

def depthVariable : String := "SUBFLOW_MAX_DEPTH"

def standardPath (home : String) : Path := (Path.ofText home).append [".subflow", "config.yml"]

def homes : List (String × String) := [("~root", "/root")]

def expandHome (home : String) (path : Path) : Except PathFault Path :=
  match path.parts with
  | [] => .ok path
  | user :: rest =>
    if user = "~" then .ok ((Path.ofText home).append rest)
    else if user.toList.head? = some '~' then
      match homes.find? (·.1 == user) with
      | some (_, home) => .ok ((Path.ofText home).append rest)
      | none => .error .noHome
    else .ok path

def given (text : Option String) : Option String := text.filter (· ≠ "")

abbrev Search := Option (Path × FileEntry) × List TraceRecord

/-- Look for a file that was named; a warning says that it does not exist. -/
def searchNamed (files : Files) (path : Path) (warning : String) : Except PathFault Search := do
  match ← files.find? path with
  | some entry => return (some (path, entry), [])
  | none => return (none, [⟨.warning, warning ++ path.text⟩])

/-- Look for what settings are read from; a file that is named and missing has no substitute. -/
def locate (origin : Origin) (files : Files) : Except PathFault Search := do
  match given origin.explicit, given origin.chosen with
  | some path, _ =>
    searchNamed files (.ofText path) "Explicit resolver config path does not exist: "
  | none, some path =>
    searchNamed files (← expandHome origin.home (.ofText path))
      (pathVariable ++ " path does not exist: ")
  | none, none =>
    let path := standardPath origin.home
    return ((← files.find? path).map fun entry => (path, entry), [])

end Origin

/-- Why settings cannot be loaded. -/
inductive LoadFailure where
  | access (fault : PathFault)
  /-- A file that is no document. -/
  | malformed (path : String)
  /-- A document with a scalar that cannot be read. -/
  | unreadable (failure : Failure)
  /-- A document that is no mapping. -/
  | notMapping (path : String)
  /-- A bound on nesting that is no integer. -/
  | depthNotInteger (text : String)
  /-- A key that is no text. -/
  | keyNotText
  /-- Fields with faults, from a file or from variables. -/
  | invalid (source : String) (errors : List FieldError)

namespace LoadFailure

/-- The wording of a failure; the faults of fields are listed apart. -/
def message : LoadFailure → String
  | .access fault => fault.message
  | .malformed path => "Failed to load resolver config from " ++ path
  | .unreadable failure => failure.message
  | .notMapping path =>
    "Failed to load resolver config from " ++ path ++
      ": config file must contain a YAML dictionary"
  | .depthNotInteger text =>
    Origin.depthVariable ++ " must be an integer, got " ++ Text.quote text
  | .keyNotText => TypeFault.keywordNotText.message
  | .invalid source _ => "Invalid resolver config (" ++ source ++ ")"

def name : LoadFailure → String
  | .access fault => fault.name
  | .unreadable failure => failure.name
  | .keyNotText => "TypeError"
  | _ => "ValueError"

def errors : LoadFailure → Option (List FieldError)
  | .invalid _ errors => some errors
  | _ => none

end LoadFailure

namespace Config

def namedFields (entries : List (Setting × Setting)) : Fields :=
  entries.filterMap fun entry => entry.1.text?.map (·, entry.2)

def checkEncodable (entries : List (Setting × Setting)) : Checked Unit :=
  match entries.filter (·.1.text?.isNone) with
  | [] => .ok ()
  | odd => .error (odd.map fun _ => ⟨["?"], .nameEncoding⟩)

def ofNamed (entries : List (Setting × Setting)) : Checked Config :=
  .apply ((ofFields (namedFields entries)).map fun config _ => config) (checkEncodable entries)

end Config

/-- What a loader leaves to others: reading a text, and making settings of entries by name. -/
structure Libraries where
  parse : String → Yaml.Parsed Setting
  validate : List (Setting × Setting) → Checked Config

namespace Libraries

def usual : Libraries := ⟨Yaml.Document.read, Config.ofNamed⟩

variable (libraries : Libraries)

def entriesOf (path text : String) : Except LoadFailure (List (Setting × Setting)) :=
  match libraries.parse text with
  | .error .malformed => .error (.malformed path)
  | .error (.failure failure) => .error (.unreadable failure)
  | .ok .null => .ok []
  | .ok (.mapping entries) => .ok entries
  | .ok _ => .error (.notMapping path)

def entriesAt : Option (Path × FileEntry) → Except LoadFailure (List (Setting × Setting))
  | none => .ok []
  | some (path, .file text) => libraries.entriesOf path.text text
  | some (path, .directory) => .error (.access (.isDirectory path))

def overrideDepth (entries : List (Setting × Setting)) (depth : Option String) :
    Except LoadFailure (List (Setting × Setting)) :=
  match Origin.given depth with
  | none => .ok entries
  | some text =>
    match Numeral.readInteger 10 text with
    | .ok n => .ok (Setting.put entries (.text "max_depth") (.int n))
    | .error _ => .error (.depthNotInteger text)

/-- Settings from entries; a name has to be text, whatever it says. -/
def configOf (source : String) (entries : List (Setting × Setting)) :
    Except LoadFailure Config :=
  if entries.all (·.1.isText) then (libraries.validate entries).mapError (.invalid source)
  else .error .keyNotText

def configAt (found : Option (Path × FileEntry)) (depth : Option String) :
    Except LoadFailure Config := do
  let entries ← libraries.entriesAt found
  libraries.configOf (found.elim "environment" (·.1.text)) (← overrideDepth entries depth)

end Libraries

/-- Reads settings once and keeps them. -/
structure Loader where
  origin : Origin
  loaded : Option Config

namespace Loader

def path? (loader : Loader) (files : Files) : Option String :=
  match loader.origin.locate files with
  | .ok (some (path, _), _) => some path.text
  | _ => none

def report (found : Option (Path × FileEntry)) : TraceRecord :=
  match found with
  | some (path, _) => ⟨.info, "Loading resolver config from: " ++ path.text⟩
  | none => ⟨.debug, "No resolver config file found, using defaults"⟩

def load (loader : Loader) (files : Files) (libraries : Libraries := .usual) :
    Except LoadFailure (Config × Loader) × List TraceRecord :=
  match loader.loaded with
  | some config => (.ok (config, loader), [])
  | none =>
    match loader.origin.locate files with
    | .error fault => (.error (.access fault), [])
    | .ok (found, warnings) =>
      let result := (libraries.configAt found loader.origin.depth).map fun config =>
        (config, { loader with loaded := some config })
      (result, warnings ++ [report found])

/-- Settings that were loaded once do not depend on the files any more. -/
theorem load_of_loaded {loader : Loader} {config : Config} (kept : loader.loaded = some config)
    (files : Files) (libraries : Libraries) :
    loader.load files libraries = (.ok (config, loader), []) := by
  simp [load, kept]

end Loader

end ScopedTemplate
