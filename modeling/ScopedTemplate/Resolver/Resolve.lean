import ScopedTemplate.Resolver.Step

/-!
# Resolution

Terms are resolved by reducing their nodes, with the resolution of everything below as the same
function one level down.  The stack bounds the levels; a computation that would exceed it is reported
as one that nests without end.
-/

namespace ScopedTemplate

def resolveTerm (ceiling : Int) : Nat → Resolution
  | 0 => ⟨ceiling, fun _ _ _ _ => throw .exhausted⟩
  | levels + 1 => ⟨ceiling, fun resolver term env cache =>
    resolver.resolveNode (resolveTerm ceiling levels) cache term env⟩

variable {ceiling : Int}

@[simp] theorem resolveTerm_zero (resolver : Resolver Term) (term : Term)
    (env : Environment Term) (cache : CacheId) :
    resolveTerm ceiling 0 resolver term env cache = throw .exhausted := rfl

@[simp] theorem ceiling_resolveTerm (levels : Nat) : (resolveTerm ceiling levels).ceiling = ceiling := by
  cases levels <;> rfl

theorem resolveTerm_succ (levels : Nat) (resolver : Resolver Term) (term : Term)
    (env : Environment Term) (cache : CacheId) :
    resolveTerm ceiling (levels + 1) resolver term env cache =
      resolver.resolveNode (resolveTerm ceiling levels) cache term env := rfl

/-- How many levels of nesting there is room for, and the limit that is reported for this room. -/
structure Stack where
  levels : Nat
  ceiling : Int

def Stack.usual : Stack := ⟨10000, 20000⟩

namespace Resolver

def resolve (resolver : Resolver Term) (template : Term) (env : Environment Term)
    (cache : Option CacheId) (stack : Stack := .usual) : Run Term :=
  resolveWith (resolveTerm stack.ceiling stack.levels) resolver template env cache

/-- The resolved value of a name, through a table; a name is anything that can be a key. -/
def cachedResolve (resolver : Resolver Term) (name : Term) (env : Environment Term)
    (cache : CacheId) (stack : Stack := .usual) : Run Term :=
  match name.checkKey with
  | .ok () => lookupName (resolveTerm stack.ceiling stack.levels) resolver env cache name
  | .error failure => throw failure

end Resolver

def callFunction (function : Term) (args : List Term) (stack : Stack := .usual) : Run Term :=
  match function with
  | .function _ _ _ _ callee => invoke (resolveTerm stack.ceiling stack.levels) callee function args
  | term => throw (.type (.notCallable term.typeName))

/-- The values of names, in order; every name has to be there. -/
def argumentsFrom (values : Entries) : List String → Except Failure (List Term)
  | [] => .ok []
  | dep :: rest =>
    match Entries.find? values (.ref dep) with
    | some value => do return value :: (← argumentsFrom values rest)
    | none => .error (.missingKey (.ref dep))

def callWith (function : Term) (values : Entries) (stack : Stack := .usual) : Run Term :=
  match argumentsFrom values (function.dependencies?.getD []) with
  | .ok args => callFunction function args stack
  | .error failure => throw failure

end ScopedTemplate
