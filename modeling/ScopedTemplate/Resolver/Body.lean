import ScopedTemplate.Resolver.Reading
import ScopedTemplate.Resolver.Rules
import ScopedTemplate.Text.Upper

/-!
# Calls

What a function body computes when it is called, and resolution as a body can ask for it.  The
resolution of terms is again a parameter.
-/

namespace ScopedTemplate

def TextEdit.apply : TextEdit → String → String
  | .upper, s => Text.upper s
  | .drop count, s => String.ofList (s.toList.drop count)

/-- Report nesting without end as a cycle, with the names in flight. -/
def Run.reportEndless (ceiling : Int) (cache : CacheId) (body : Run Term) : Run Term :=
  Run.recover body fun failure =>
    if failure.isExhaustion then some do throw (.endless ceiling (← Run.chain cache)) else none

def Resolver.checkResult (resolver : Resolver Term) (env : Environment Term) (result : Term) :
    Run Unit :=
  if resolver.config.strict then do
    Run.ofResult (resolver.classifier.check result)
    match result.referenceNames resolver.classifier resolver.config.defaultsKey with
    | [] => pure ()
    | refs => do throw (.unresolved refs (← Run.snapshot env))
  else pure ()

def resolveIn (resolution : Resolution) (resolver : Resolver Term) (template : Term)
    (env : Environment Term) (cache : CacheId) : Run Term :=
  Run.reportEndless resolution.ceiling cache do
    let result ← resolution resolver template env cache
    let table ← Run.cache cache
    Run.checkTable table "hits"
    Run.log .debug ("Resolved template: " ++ toString table.hits ++ " cache hits, " ++
      toString table.misses ++ " misses")
    return result

/--
Resolve a template with the table given, else with the one that resolutions share, else with one of
its own that is closed afterwards.
-/
def resolveLeniently (resolution : Resolution) (resolver : Resolver Term) (template : Term)
    (env : Environment Term) (cache : Option CacheId) : Run Term := do
  match cache <|> (← get).active with
  | some cache => resolveIn resolution resolver template env cache
  | none => do
    let own ← Run.newCache
    Run.andThen (resolveIn resolution resolver template env own) (Run.closeCache own)

/-- Resolve a template and check the result. -/
def resolveWith (resolution : Resolution) (resolver : Resolver Term) (template : Term)
    (env : Environment Term) (cache : Option CacheId) : Run Term := do
  let result ← resolveLeniently resolution resolver template env cache
  resolver.checkResult env result
  return result

/-- Resolve as a body asks for it, under the bindings of a source. -/
def resolveFor (resolution : Resolution) (config : Option Config) (cache : Option CacheId)
    (template source : Term) (overrides : Entries) : Run Term := do
  Run.ofResult (Resolver.checkOverrides overrides ["cache", "config"])
  let resolver ← Resolver.ofConfig config
  let env ← Reading.environment resolution source
  resolveWith resolution resolver template (env.withOverrides overrides) cache

/-- What a body knows about the call it is evaluated for. -/
structure Call where
  /-- The function that was called. -/
  self : Term
  /-- What counts its calls. -/
  stamp : Stamp
  args : List Term
  /-- The environment that a callable is given, as a rule through a view. -/
  env : Term

namespace Term

def integers? : List Term → Option (List Int)
  | [] => some []
  | .int n :: rest => (integers? rest).map (n :: ·)
  | _ => none

def elementAt (items : List Term) (index : Term) : Except Failure Term :=
  match index with
  | .int (.ofNat n) => (items[n]?).elim (.error (.outOfRange "")) .ok
  | _ => .error (.outOfRange "")

/-- The value under a key of a mapping, or the element at an index of a list or tuple. -/
def item (collection key : Term) : Except Failure Term :=
  match collection with
  | .map _ _ entries => valueUnder entries key
  | .list _ _ items | .tuple _ items | .point _ items => elementAt items key
  | _ => .error (.outOfRange "")

end Term

section

variable (resolution : Resolution) (call : Call)

mutual

def evalBody : Body → Run Term
  | .arg index => (Term.atIndex? call.args index).elim (throw (.outOfRange "tuple ")) pure
  | .const value => pure value
  | .fresh first last value => do
    let base ← Run.takeStamps (last - first)
    return value.renew ⟨first, last, base⟩
  | .self => pure call.self
  | .count => return .int ((← get).callCount call.stamp)
  | .list items => do Run.makeList (← evalBodies items)
  | .tuple items => do Run.makeTuple (← evalBodies items)
  | .map entries => do Run.makeMap (Entries.ofPairs (← evalFields entries))
  | .ref name => do return .ref (← Run.inlineText (← evalBody name))
  | .concat items => return .str (String.join (← evalTexts items))
  | .add items => return .int (← evalSum items 0)
  | .mul items => do
    match Term.integers? (← evalBodies items) with
    | some factors => return .int (factors.foldl (· * ·) 1)
    | none => throw (.type (.notIntegers "mul"))
  | .size of => do
    match (← evalBody of).size? with
    | some size => return .int size
    | none => throw (.type .notCollection)
  | .item of key => do
    let collection ← evalBody of
    let key ← evalBody key
    Run.ofResult (collection.item key)
  | .choose condition yes no => do
    if (← evalBody condition).isFalsy then evalBody no else evalBody yes
  | .same left right => do
    let left ← Run.written (← evalBody left)
    let right ← Run.written (← evalBody right)
    return .bool (left == right)
  | .typeOf of => return .str (← evalBody of).typeName
  | .raise kind message => throw (.raised kind message)
  | .attempt body =>
    Run.recover (evalBody body) fun failure =>
      if failure.isExhaustion then none
      else some do
        Run.noteCaught failure
        Run.makeList [.str "caught", .str failure.name, .str failure.message]
  | .sequence items => return (← evalBodies items).getLastD .null
  | .note message => do
    modify fun world => { world with calls := message :: world.calls }
    return .null
  | .edit how of => do return .str (how.apply (← Run.inlineText (← evalBody of)))
  | .ask config cache template inView env overrides => do
    let template ← evalBody template
    let source ← (if inView then pure call.env else evalBody env : Run Term)
    let overrides ← evalFields overrides
    resolveFor resolution config cache template source (Entries.ofPairs overrides)
  | .block body => Block.within (evalBody body)
  | .readView => pure call.env
  | .readItem name => do Reading.item resolution call.env (← evalBody name)
  | .readOr name fallback => do
    let name ← evalBody name
    Reading.itemOr resolution call.env name (← evalBody fallback)
  | .readField name => Reading.field resolution call.env name
  | .readHas name => do return .bool (← Reading.has call.env (← evalBody name))
  | .readNames => do Run.makeList (← Reading.names call.env)
  | .readItems => do Run.makeMap (← Reading.items resolution call.env)
  | .readSize => Reading.size call.env
  | .readText => return .str call.env.display
  | .setField name => Reading.write call.env name
  | .dropField name => Reading.write call.env name

def evalBodies : List Body → Run (List Term)
  | [] => pure []
  | body :: rest => do
    let value ← evalBody body
    return value :: (← evalBodies rest)

def evalTexts : List Body → Run (List String)
  | [] => pure []
  | body :: rest => do
    let text ← Run.inlineText (← evalBody body)
    return text :: (← evalTexts rest)

/-- Evaluate the fields of a mapping body; a key is checked when its value is known. -/
def evalFields : List (Body × Body) → Run Entries
  | [] => pure []
  | (key, body) :: rest => do
    let key ← evalBody key
    let value ← evalBody body
    Run.ofResult key.checkKey
    return (key, value) :: (← evalFields rest)

/-- Add integers one by one, and stop at the first term that is none. -/
def evalSum (bodies : List Body) (total : Int) : Run Int :=
  match bodies with
  | [] => pure total
  | body :: rest => do
    match ← evalBody body with
    | .int n => evalSum rest (total + n)
    | _ => throw (.type (.notIntegers "add"))

end

end

def environmentOf (callee : String) (bound : Nat) : List Term → Except Failure Term
  | [] => .error (.type (.missingArgument callee "env"))
  | [env] => .ok env
  | args => .error (.type (.tooManyArguments callee (bound + 1) (bound + args.length)))

/--
Call something with arguments.  A body of a function sees the function as itself, and any other body
what was called.
-/
def invoke (resolution : Resolution) (callee self : Term) (args : List Term) : Run Term :=
  match callee with
  | .callable .accessor stamp _ name body => do
    let env ← Run.ofResult (environmentOf name 1 args)
    evalBody resolution ⟨callee, stamp, [], env⟩ body
  | .callable .method stamp label _ body => do
    let env ← Run.ofResult (environmentOf "UserFn.call" 1 args)
    Run.recordCall stamp label
    evalBody resolution ⟨callee, stamp, [], env⟩ body
  | .callable .function stamp label name body => do
    let env ← Run.ofResult (environmentOf name 0 args)
    Run.recordCall stamp label
    evalBody resolution ⟨callee, stamp, [], env⟩ body
  | .callable _ stamp label _ body => do
    Run.recordCall stamp label
    evalBody resolution ⟨self, stamp, args, .null⟩ body
  | .function stamp name deps doc inner =>
    invoke resolution inner (.function stamp name deps doc inner) args
  | callee => Standard.call callee args

end ScopedTemplate
