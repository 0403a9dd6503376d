import ScopedTemplate.Environment
import ScopedTemplate.Number.Numeral
import ScopedTemplate.Text.Encoding

/-!
# Failures

Everything that can stop a computation, by cause.  `Failure.name` is the class of a failure and
`Failure.message` its wording.
-/

namespace ScopedTemplate

inductive TypeFault where
  | unhashable (type : String)
  | notIntegers (operation : String)
  | notCollection
  | noSize (type : String)
  | notIterable (type : String)
  | notCallable (type : String)
  | singleName (display : String)
  | nameNotText (type : String)
  | notTemplate (type : String)
  | notMapping (type : String)
  | defaultsNotMapping (key : String)
  | relativeImport (module : String)
  /-- An operand that is spread over the arguments of a function. -/
  | notSpreadable (function type : String)
  /-- An argument that is already given by its position. -/
  | repeatedArgument (function name : String)
  /-- An argument that is already given by its name. -/
  | repeatedKeyword (function name : String)
  | keywordNotText
  /-- Operands without the order that a sign asks for. -/
  | notOrdered (sign left right : String)
  /-- A type that says nothing about its instances. -/
  | noInstances (reason : String)
  | needsArgument (function : String)
  | needsOneArgument (function : String) (given : Nat)
  /-- More arguments than a constructor of mappings takes. -/
  | expectsOneArgument (function : String) (given : Nat)
  /-- More arguments than a constructor of texts takes. -/
  | takesArguments (function : String) (most given : Nat)
  | textArgumentExpected (function name type : String)
  | notBytes (type : String)
  | alreadyText
  /-- An element of pairs that has no elements itself. -/
  | notPair (index : Nat)
  | missingArgument (function argument : String)
  | tooManyArguments (function : String) (most given : Nat)
  /-- A key that is no index of a sequence. -/
  | indexExpected (sequence type : String)
  | notSubscriptable (type : String)
  /-- What a text is asked to contain. -/
  | partExpected (type : String)
  | notContainer (type : String)
  /-- A method that is called without its object. -/
  | unbound (method : String)
  | notInvocable (type : String)
  | textExpected (type : String)
  | notDictionary (name type : String)
  | notClass (name type : String)
  deriving DecidableEq, Repr

namespace TypeFault

def countMessage (function : String) (most given : Nat) : String :=
  function ++ "() takes at most " ++ toString most ++ " arguments (" ++ toString given ++ " given)"

/-- The wording of a fault about an index; that about text has a form of its own. -/
def indexMessage (sequence type : String) : String :=
  if sequence = "string" then "string indices must be integers, not '" ++ type ++ "'"
  else sequence ++ " indices must be integers or slices, not " ++ type

def message : TypeFault → String
  | .unhashable type => "unhashable type: '" ++ type ++ "'"
  | .notIntegers operation => operation ++ " expects integers"
  | .notCollection => "len expects a collection"
  | .noSize type => "object of type '" ++ type ++ "' has no len()"
  | .notIterable type => "'" ++ type ++ "' object is not iterable"
  | .notCallable type => "DependencyFn requires a callable, got " ++ type
  | .singleName display =>
    "Dependencies must be a sequence of names, not a single string " ++ display ++ ". Use [" ++
      display ++ "] instead."
  | .nameNotText type => "Dependency name must be a string, got " ++ type
  | .notMapping type => "'" ++ type ++ "' object is not a mapping"
  | .notTemplate type => "Defaults can only be attached to a mapping, got " ++ type
  | .defaultsNotMapping key => "Existing " ++ key ++ " entry is not a mapping"
  | .relativeImport module =>
    "the 'package' argument is required to perform a relative import for " ++ Text.quote module
  | .notSpreadable function type =>
    function ++ "() argument after * must be an iterable, not " ++ type
  | .repeatedArgument function name =>
    function ++ "() got multiple values for argument '" ++ name ++ "'"
  | .repeatedKeyword function name =>
    function ++ "() got multiple values for keyword argument '" ++ name ++ "'"
  | .keywordNotText => "keywords must be strings"
  | .notOrdered sign left right =>
    "'" ++ sign ++ "' not supported between instances of '" ++ left ++ "' and '" ++ right ++ "'"
  | .noInstances reason => reason
  | .needsArgument function => function ++ " expected at least 1 argument, got 0"
  | .needsOneArgument function given =>
    function ++ "() takes exactly one argument (" ++ toString given ++ " given)"
  | .expectsOneArgument function given =>
    function ++ " expected at most 1 argument, got " ++ toString given
  | .takesArguments function most given => countMessage function most given
  | .textArgumentExpected function name type =>
    function ++ "() argument '" ++ name ++ "' must be str, not " ++ type
  | .notBytes type => "decoding to str: need a bytes-like object, " ++ type ++ " found"
  | .alreadyText => "decoding str is not supported"
  | .notPair index =>
    "cannot convert dictionary update sequence element #" ++ toString index ++ " to a sequence"
  | .missingArgument function argument =>
    function ++ "() missing 1 required positional argument: '" ++ argument ++ "'"
  | .tooManyArguments function most given =>
    function ++ "() takes " ++ toString most ++ " positional argument" ++
      (if most = 1 then "" else "s") ++ " but " ++ toString given ++ " were given"
  | .indexExpected sequence type => indexMessage sequence type
  | .notSubscriptable type => "'" ++ type ++ "' object is not subscriptable"
  | .partExpected type =>
    "'in <string>' requires string as left operand, not " ++ type
  | .notContainer type => "argument of type '" ++ type ++ "' is not iterable"
  | .unbound method => "unbound method " ++ method ++ "() needs an argument"
  | .notInvocable type => "'" ++ type ++ "' object is not callable"
  | .textExpected type => "expected string or bytes-like object, got '" ++ type ++ "'"
  | .notDictionary name type =>
    name ++ " must be set to a dictionary, not a '" ++ type ++ "'"
  | .notClass name type => name ++ " must be set to a class, not '" ++ type ++ "' object"

end TypeFault

/-- A value of the right type that an operation has no use for. -/
inductive ValueFault where
  | badName (display : String)
  | emptyDependency
  | successWithoutValue
  | failureWithoutError
  | unknownStatus (display : String)
  | unwrapFailed (error : String)
  | unwrapEmpty
  | leafNotDotted (display : String)
  | leafWithoutType (path : String)
  /-- An integer with more digits than are written. -/
  | tooManyDigits
  /-- The text of an integer with more digits than are read. -/
  | tooManyDigitsGiven (count : Nat)
  /-- The text of no integer in a base. -/
  | notInteger (base : Nat) (text : String)
  /-- The text of no decimal fraction. -/
  | notFloat (text : String)
  /-- A number beyond the codes of characters. -/
  | notCodePoint
  /-- A part of a date or time beyond its range. -/
  | dateRange (reason : String)
  | emptyMinimum
  /-- A name with a character that ends it early. -/
  | nullCharacter
  /-- An element of pairs that has another length than two. -/
  | pairLength (index length : Nat)
  deriving DecidableEq, Repr

namespace ValueFault

def shownWidth : Nat := 200

def message : ValueFault → String
  | .badName display => "Reference name must be a non-empty string, got " ++ display
  | .emptyDependency => "Dependency name must not be empty"
  | .successWithoutValue => "Success result must have a value"
  | .failureWithoutError => "Failed result must have an error message"
  | .unknownStatus display => display ++ " is not a valid AnalysisStatus"
  | .unwrapFailed error => "Cannot unwrap failed result: " ++ error
  | .unwrapEmpty => "Cannot unwrap result: value is None"
  | .leafNotDotted display => "Leaf type must be a dotted path 'module.Type', got " ++ display
  | .leafWithoutType path => "'" ++ path ++ "' does not name a type"
  | .tooManyDigits => Numeral.tooLongMessage none
  | .tooManyDigitsGiven count => Numeral.tooLongMessage (some count)
  | .notInteger base text =>
    "invalid literal for int() with base " ++ toString base ++ ": " ++
      String.ofList ((Text.quote text).toList.take shownWidth)
  | .notFloat text => "could not convert string to float: " ++ Text.quote text
  | .notCodePoint => "chr() arg not in range(0x110000)"
  | .dateRange reason => reason
  | .emptyMinimum => "min() arg is an empty sequence"
  | .nullCharacter => "embedded null character"
  | .pairLength index length =>
    "dictionary update sequence element #" ++ toString index ++ " has length " ++
      toString length ++ "; 2 is required"

def ofNumeral (base : Nat) (text : String) : NumeralFault → ValueFault
  | .malformed => .notInteger base text
  | .tooLong digits => .tooManyDigitsGiven digits

end ValueFault

/-- The cause of a failure. -/
inductive Failure where
  /-- A name or key that cannot be resolved, for a reason, in an environment. -/
  | resolution (key reason : String) (environment : Snapshot)
  /-- References left in the output of a strict resolution. -/
  | unresolved (refs : List String) (environment : Snapshot)
  /-- A lookup in flight again, or one beyond a limit. -/
  | cyclic (key : String) (chain : List String) (limit : Option Int)
  | missingKey (key : Term)
  | missingField (name : String)
  /-- Something without a field that is asked of it. -/
  | missingAttribute (owner field : String)
  /-- A field that is computed and cannot be assigned. -/
  | computedField (owner field : String)
  /-- A field that belongs to the object itself and cannot be assigned. -/
  | fixedField (owner field : String)
  | readOnly
  | outOfRange (collection : String)
  /-- A memo table that was closed. -/
  | closed
  | type (fault : TypeFault)
  | value (fault : ValueFault)
  | encoding (fault : EncodingFault)
  /-- A failure that a function body asks for by the name of its class. -/
  | raised (type message : String)
  /-- Nesting beyond every bound. -/
  | exhausted

instance : Inhabited Failure := ⟨.exhausted⟩

namespace Failure

def chainText (chain : List String) (key : String) : String :=
  " → ".intercalate (if key = "" then chain else chain ++ [key])

def availableText (environment : Snapshot) : String :=
  let names := ", ".intercalate (Text.sort (environment.map Prod.fst))
  if names = "" then "none" else names

def resolutionMessage (key reason : String) (environment : Snapshot) : String :=
  "Cannot resolve '" ++ key ++ "': " ++ reason ++ "\nAvailable bindings: " ++
    availableText environment

def leftoverKey (refs : List String) : String := refs.headD ""

def leftoverReason (refs : List String) : String :=
  "unbound reference(s) left in output: " ++ ", ".intercalate refs

def leftover (refs : List String) (environment : Snapshot) : Failure :=
  .unresolved (Text.sort refs) environment

def cyclicMessage (key : String) (chain : List String) (limit : Option Int) : String :=
  match limit with
  | none => "Cyclic dependency detected for '" ++ key ++ "'. Chain: " ++ chainText chain key
  | some limit =>
    "Resolution depth limit exceeded for '" ++ key ++ "' (limit: " ++ toString limit ++
      "). Chain: " ++ chainText chain key ++
      "\n\nThis usually indicates a dependency cycle. If the chain is legitimate, " ++
      "raise max_depth in ResolverConfig or set SUBFLOW_MAX_DEPTH."

def message : Failure → String
  | .resolution key reason environment => resolutionMessage key reason environment
  | .unresolved refs environment =>
    resolutionMessage (leftoverKey refs) (leftoverReason refs) environment
  | .cyclic key chain limit => cyclicMessage key chain limit
  | .missingKey key => key.display
  | .missingField name => name
  | .missingAttribute owner field =>
    owner ++ " has no attribute '" ++ field ++ "'"
  | .computedField owner field =>
    "property '" ++ field ++ "' of '" ++ owner ++ "' object has no setter"
  | .fixedField owner field =>
    "attribute '" ++ field ++ "' of '" ++ owner ++ "' objects is not writable"
  | .readOnly => "EnvironmentProxy is read-only"
  | .outOfRange collection => collection ++ "index out of range"
  | .closed =>
    "ResolutionCache used after its resolution scope ended. " ++
      "Create a new cache for each top-level resolution."
  | .type fault => fault.message
  | .value fault => fault.message
  | .encoding fault => fault.message
  | .raised kind message => if kind = "KeyError" then Text.quote message else message
  | .exhausted => "maximum recursion depth exceeded"

def name : Failure → String
  | .resolution .. => "ResolutionError"
  | .unresolved .. => "UnresolvedReferenceError"
  | .cyclic .. => "CyclicDependencyError"
  | .missingKey _ => "KeyError"
  | .missingField _ | .missingAttribute .. | .computedField .. | .fixedField .. | .readOnly =>
    "AttributeError"
  | .outOfRange _ => "IndexError"
  | .closed => "RuntimeError"
  | .type _ => "TypeError"
  | .value _ => "ValueError"
  | .encoding fault => fault.name
  | .raised kind _ => kind
  | .exhausted => "RecursionError"

def display? : Failure → Option String
  | .resolution key reason _ =>
    some ("ResolutionError(key=" ++ Text.quote key ++ ", reason=" ++ Text.quote reason ++ ")")
  | .unresolved refs _ =>
    some ("UnresolvedReferenceError(refs=[" ++ ", ".intercalate (refs.map Text.quote) ++ "])")
  | .cyclic key chain limit =>
    some ("CyclicDependencyError(key=" ++ Text.quote key ++ ", depth=" ++
      toString chain.length ++ ", limit=" ++
      (match limit with
        | some limit => toString limit
        | none => "None") ++ ")")
  | .raised "SubstitutionError" message =>
    some ("SubstitutionError(" ++ Text.quote message ++ ")")
  | _ => none

def isMissingKey : Failure → Bool
  | .missingKey _ => true
  | .raised "KeyError" _ => true
  | _ => false

/-- Whether a failure says that nesting went beyond every bound, wherever it comes from. -/
def isExhaustion : Failure → Bool
  | .exhausted => true
  | .raised "RecursionError" _ => true
  | _ => false

def templateKey : String := "<template>"

/-- Nesting without end, reported with the names in flight and the limit of the stack. -/
def endless (ceiling : Int) (chain : List String) : Failure :=
  .cyclic templateKey chain (some ceiling)

def isEndless (failure : Failure) (ceiling : Int := 20000) : Bool :=
  match failure with
  | .cyclic key _ limit => key == templateKey && limit == some ceiling
  | .exhausted => true
  | _ => false

end Failure

namespace ValueFault

def readInteger (base : Nat) (text : String) : Except Failure Int :=
  (Numeral.readInteger base text).mapError fun fault => .value (ofNumeral base text fault)

def readFloat (text : String) : Except Failure (Option Binary64) :=
  match Numeral.readFloat? text with
  | some (.inl value) => .ok (some value)
  | some (.inr (.infinity negative)) => .ok (some (.infinite negative))
  | some (.inr .nan) => .ok none
  | none => .error (.value (.notFloat text))

end ValueFault

def Term.checkKey (t : Term) : Except Failure Unit :=
  match t.unhashable? with
  | some found => .error (.type (.unhashable found))
  | none => .ok ()

end ScopedTemplate
