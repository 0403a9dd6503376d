import ScopedTemplate.Environment

/-!
# Memo tables

A table holds the resolved value of each pair of a name and an environment fingerprint, and the
pairs whose values are being computed, outermost first.  It also keeps what happened in the
resolutions that use it; nothing reads that but statements about runs.
-/

namespace ScopedTemplate

/-- A name under the bindings of an environment. -/
structure CacheKey where
  name : String
  environment : Content
  deriving DecidableEq, Repr

def CacheKey.of (name : Term) (env : Environment Term) : CacheKey :=
  ⟨name.nameText, env.fingerprint⟩

/-- What happens in a resolution. -/
inductive Event where
  /-- A name was looked up under others in flight: its value was served, or is to be computed. -/
  | lookup (key : CacheKey) (env : Environment Term) (pending : List CacheKey) (served : Bool)
  /-- A lookup was refused, since its key is in flight or too many are. -/
  | refused (key : CacheKey) (env : Environment Term)
  /-- A reference was left as it is. -/
  | left (env : Environment Term) (reference : Term)
  /-- A function was applied to the values of its dependencies. -/
  | applied (function : Term) (args : List Term)
  /-- A value was read through a view. -/
  | read (value : Term)

/-- A memo table. -/
structure Cache where
  entries : List (CacheKey × Term)
  pending : List CacheKey
  closed : Bool
  hits : Nat
  misses : Nat
  /-- How an error names what was given in the place of a table, if something else was. -/
  standIn : Option String
  /-- What happened, newest first. -/
  events : List Event

namespace Cache

/-- A new table, open and without entries. -/
def empty : Cache := ⟨[], [], false, 0, 0, none, []⟩

def ofOther (owner : String) : Cache := ⟨[], [], false, 0, 0, some owner, []⟩

instance : Inhabited Cache := ⟨empty⟩

def find? (cache : Cache) (key : CacheKey) : Option Term :=
  (cache.entries.find? fun entry => entry.1 = key).map Prod.snd

def has (cache : Cache) (key : CacheKey) : Bool := (cache.find? key).isSome

/-- Store a value under a key, in the place of an earlier one. -/
def store (key : CacheKey) (value : Term) : List (CacheKey × Term) → List (CacheKey × Term)
  | [] => [(key, value)]
  | entry :: rest => if entry.1 = key then (key, value) :: rest else entry :: store key value rest

def put (cache : Cache) (key : CacheKey) (value : Term) : Cache :=
  { cache with entries := store key value cache.entries }

def chain (cache : Cache) : List String := cache.pending.map CacheKey.name

def chainFrom (cache : Cache) (key : CacheKey) : List String :=
  (cache.pending.dropWhile (· ≠ key)).map CacheKey.name

def record (cache : Cache) (event : Event) : Cache := { cache with events := event :: cache.events }

def hit (cache : Cache) (key : CacheKey) (env : Environment Term) : Cache :=
  { cache with
    hits := cache.hits + 1
    events := .lookup key env cache.pending true :: cache.events }

def enter (cache : Cache) (key : CacheKey) (env : Environment Term) : Cache :=
  { cache with
    misses := cache.misses + 1
    pending := cache.pending ++ [key]
    events := .lookup key env cache.pending false :: cache.events }

def leave (cache : Cache) : Cache := { cache with pending := cache.pending.dropLast }

def clear (cache : Cache) : Cache :=
  { cache with entries := [], pending := [], hits := 0, misses := 0, events := [] }

/-- Forget all values and refuse further use; the counts stay. -/
def close (cache : Cache) : Cache := { cache with entries := [], pending := [], closed := true }

def size (cache : Cache) : Nat := cache.entries.length

def display (cache : Cache) : String :=
  "ResolutionCache(" ++ (if cache.closed then "closed" else "open") ++ ", entries=" ++
    toString cache.size ++ ")"

@[simp] theorem leave_enter_pending (cache : Cache) (key : CacheKey) (env : Environment Term) :
    (cache.enter key env).leave.pending = cache.pending := by
  simp [enter, leave]

/-- The innermost key is the one that is left. -/
theorem pending_leave {cache : Cache} {before : List CacheKey} {key : CacheKey}
    (pending : cache.pending = before ++ [key]) : cache.leave.pending = before := by
  unfold leave
  rw [pending]
  exact List.dropLast_concat

theorem find?_congr {cache cache' : Cache} (same : cache'.entries = cache.entries) (key : CacheKey) :
    cache'.find? key = cache.find? key := by
  unfold find?
  rw [same]

@[simp] theorem find?_empty (key : CacheKey) : empty.find? key = none := rfl

theorem find?_store (key other : CacheKey) (value : Term) (entries : List (CacheKey × Term)) :
    (store key value entries).find? (fun entry => entry.1 = other) =
      if key = other then some (key, value) else entries.find? fun entry => entry.1 = other := by
  induction entries with
  | nil =>
    simp only [store, List.find?_cons, List.find?_nil]
    by_cases same : key = other <;> simp [same]
  | cons entry rest ih =>
    unfold store
    split
    next same =>
      subst same
      by_cases found : entry.1 = other <;> simp [found]
    next different =>
      by_cases first : entry.1 = other
      · have : key ≠ other := fun same => different (first.trans same.symm)
        simp [first, this]
      · simp [first, ih]

/-- A value that is recorded is found under its key, and the others stay. -/
theorem find?_put (cache : Cache) (key other : CacheKey) (value : Term) :
    (cache.put key value).find? other = if key = other then some value else cache.find? other := by
  unfold put find?
  rw [find?_store]
  split <;> rfl

end Cache

end ScopedTemplate
