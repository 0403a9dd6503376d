import ScopedTemplate.Run
import ScopedTemplate.Template
import ScopedTemplate.Term.Order
import ScopedTemplate.Term.Written

/-!
# Standard functions

The functions and types that can be called without being defined: the size and the least element of
a collection, text, mappings and frames.
-/

namespace ScopedTemplate

namespace Term

def size? : Term → Option Nat
  | .text _ s => some s.length
  | .list _ _ items | .tuple _ items | .set _ items | .point _ items => some items.length
  | .map _ _ entries => some entries.length
  | _ => none

end Term

namespace Standard

def sizeOf (t : Term) : Except Failure Term :=
  match t with
  | .bytes bs => .ok (.int bs.length)
  | .view _ _ env _ => .ok (.int env.size)
  | t =>
    match t.size? with
    | some size => .ok (.int size)
    | none => .error (.type (.noSize t.typeName))

def elements (t : Term) : Except Failure (List Term) :=
  (t.elements?).elim (.error (.type (.notIterable t.typeName))) .ok

def least : List Term → Except Failure Term
  | [] => .error (.type (.needsArgument "min"))
  | [t] => do Term.least (← elements t)
  | args => Term.least args

def argumentType : Term → String
  | .null => "None"
  | t => t.typeName

def nameArgument (argument : String) (t : Term) : Except Failure String :=
  match t.text? with
  | none => .error (.type (.textArgumentExpected "str" argument (argumentType t)))
  | some name =>
    if name.toList.contains '\x00' then .error (.value .nullCharacter) else .ok name

def strictHandler : String := "strict"

/-- The text that a term encodes; no bytes are the empty text in every encoding. -/
def decoded (t encoding : Term) (errors : Option Term) : Except Failure Term := do
  let encoding ← nameArgument "encoding" encoding
  let handler ← errors.elim (.ok strictHandler) (nameArgument "errors")
  match t with
  | .bytes [] => return .str ""
  | .bytes bytes => return .str (← (Encoding.decode encoding handler bytes).mapError .encoding)
  | .text .. => throw (.type .alreadyText)
  | t => throw (.type (.notBytes t.typeName))

def text : List Term → Except Failure Term
  | [] => .ok (.str "")
  | [t] =>
    match t.text? with
    | some s => .ok (.str s)
    | none => if t.isWritable then .ok (.str t.display) else .error (.value .tooManyDigits)
  | [t, encoding] => decoded t encoding none
  | [t, encoding, errors] => decoded t encoding (some errors)
  | args => .error (.type (.takesArguments "str" 3 args.length))

def pair (index : Nat) (t : Term) : Except Failure (Term × Term) :=
  match t.elements? with
  | none => .error (.type (.notPair index))
  | some [key, value] => do
    key.checkKey
    return (key, value)
  | some items => .error (.value (.pairLength index items.length))

def pairs (index : Nat) : List Term → Except Failure (List (Term × Term))
  | [] => .ok []
  | t :: ts => do return (← pair index t) :: (← pairs (index + 1) ts)

def mappingTypes : List ValueType := [.core "dict", ⟨"data", "Frame"⟩]

/-- The entries of a mapping made from arguments. -/
def entries : List Term → Except Failure Entries
  | [] => .ok []
  | [.map _ _ entries] => .ok entries
  | [.type name] =>
    if mappingTypes.contains name then .error (.type (.unbound "dict.keys"))
    else .error (.type (.notIterable "type"))
  | [t] => do return Entries.ofPairs (← pairs 0 (← elements t))
  | args => .error (.type (.expectsOneArgument "dict" args.length))

def makeMap (kind : MapKind) (entries : Entries) : Run Term :=
  return .map kind (← Run.collectionStamp entries.length) entries

def call (callee : Term) (args : List Term) : Run Term :=
  match callee with
  | .builtin "len" =>
    match args with
    | [t] => Run.ofResult (sizeOf t)
    | args => throw (.type (.needsOneArgument "len" args.length))
  | .builtin "min" => Run.ofResult (least args)
  | .type ⟨"builtins", "str"⟩ => Run.ofResult (text args)
  | .type ⟨"builtins", "dict"⟩ => do makeMap .plain (← Run.ofResult (entries args))
  | .type ⟨"data", "Frame"⟩ => do makeMap .frame (← Run.ofResult (entries args))
  | callee => throw (.type (.notInvocable callee.typeName))

def documentation? : Term → Option String
  | .builtin "len" => some "Return the number of items in a container."
  | .builtin "min" => some ("min(iterable, *[, default=obj, key=func]) -> value\n" ++
      "min(arg1, arg2, *args, *[, key=func]) -> value\n\n" ++
      "With a single iterable argument, return its smallest item. The\n" ++
      "default keyword-only argument specifies an object to return if\n" ++
      "the provided iterable is empty.\n" ++
      "With two or more arguments, return the smallest argument.")
  | .type ⟨"builtins", "str"⟩ => some ("str(object='') -> str\n" ++
      "str(bytes_or_buffer[, encoding[, errors]]) -> str\n\n" ++
      "Create a new string object from the given object. If encoding or\n" ++
      "errors is specified, then the object must expose a data buffer\n" ++
      "that will be decoded using the given encoding and error handler.\n" ++
      "Otherwise, returns the result of object.__str__() (if defined)\n" ++
      "or repr(object).\n" ++
      "encoding defaults to sys.getdefaultencoding().\n" ++
      "errors defaults to 'strict'.")
  | .type ⟨"builtins", "dict"⟩ => some ("dict() -> new empty dictionary\n" ++
      "dict(mapping) -> new dictionary initialized from a mapping object's\n" ++
      "    (key, value) pairs\n" ++
      "dict(iterable) -> new dictionary initialized as if via:\n" ++
      "    d = \x7b\x7d\n" ++
      "    for k, v in iterable:\n" ++
      "        d[k] = v\n" ++
      "dict(**kwargs) -> new dictionary initialized with the name=value pairs\n" ++
      "    in the keyword argument list.  For example:  dict(one=1, two=2)")
  | .function .. => some ("A function value carrying its own dependency declaration.\n\n" ++
      "    Attributes:\n" ++
      "        fn: Callable invoked with the resolved dependency values, in order\n" ++
      "        deps: Reference names the function needs\n" ++
      "        doc: Human-readable documentation (defaults to fn's docstring)\n" ++
      "        name: Display name (defaults to fn's __name__)")
  | _ => none

end Standard

end ScopedTemplate
