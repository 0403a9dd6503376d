import ScopedTemplate.Cache
import ScopedTemplate.Failure
import ScopedTemplate.Term.Identity
import ScopedTemplate.Term.Slot
import ScopedTemplate.Term.Tagged
import ScopedTemplate.Term.Written
import ScopedTemplate.Trace

/-!
# Runs

A run may fail, and whatever happens it leaves a world behind: the memo tables, the table that
resolutions share, the calls made so far, the trace, and the stamps in use.
-/

namespace ScopedTemplate

/-- What a run changes. -/
structure World where
  /-- Memo tables by their place. -/
  caches : List Cache
  /-- The table that resolutions share unless they are given one. -/
  active : Option CacheId
  /-- How often each function was called. -/
  counts : List (Stamp × Nat)
  /-- Labels of the functions called and their notes, newest first. -/
  calls : List String
  /-- Records, newest first. -/
  trace : List TraceRecord
  /-- The next unused stamp. -/
  nextStamp : Stamp
  /-- Failures from which a function went on, newest first; nothing reads them. -/
  caught : List Failure

namespace World

/-- No tables, no calls, no records. -/
def empty : World := ⟨[], none, [], [], [], 0, []⟩

instance : Inhabited World := ⟨empty⟩

def cache (world : World) (id : CacheId) : Cache := world.caches.getD id .empty

def setCache (world : World) (id : CacheId) (cache : Cache) : World :=
  { world with caches := world.caches.set id cache }

def callCount (world : World) (stamp : Stamp) : Nat :=
  ((world.counts.find? (·.1 == stamp)).map Prod.snd).getD 0

def countCall (stamp : Stamp) : List (Stamp × Nat) → List (Stamp × Nat)
  | [] => [(stamp, 1)]
  | entry :: rest =>
    if entry.1 = stamp then (stamp, entry.2 + 1) :: rest else entry :: countCall stamp rest

end World

abbrev Run := EStateM Failure World

namespace Run

def ofResult {α : Type} : Except Failure α → Run α
  | .ok value => pure value
  | .error failure => throw failure

/-- What a failure shows of an environment, if everything in it can be written. -/
def snapshot (env : Environment Term) : Run Snapshot :=
  if Term.areWritableEntries env.flatten then pure env.snapshot
  else throw (.value .tooManyDigits)

def written (t : Term) : Run String :=
  if t.isWritable then pure t.tagged else throw (.value .tooManyDigits)

def inlineText (t : Term) : Run String :=
  match t.text? with
  | some s => pure s
  | none => written t

def log (level : Level) (message : String) : Run Unit :=
  modify fun world => { world with trace := ⟨level, message⟩ :: world.trace }

def cache (id : CacheId) : Run Cache := return (← get).cache id

def changeCache (id : CacheId) (change : Cache → Cache) : Run Unit :=
  modify fun world => world.setCache id (change (world.cache id))

def record (id : CacheId) (event : Event) : Run Unit := changeCache id (Cache.record · event)

def noteCaught (failure : Failure) : Run Unit :=
  modify fun world => { world with caught := failure :: world.caught }

def addCache (table : Cache) : Run CacheId := fun world =>
  .ok world.caches.length { world with caches := world.caches ++ [table] }

def newCache : Run CacheId := addCache .empty

def checkTable (table : Cache) (field : String) : Run Unit :=
  match table.standIn with
  | some owner => throw (.missingAttribute owner field)
  | none => pure ()

/-- The names that are being computed, outermost first. -/
def chain (id : CacheId) : Run (List String) := do
  let table ← cache id
  checkTable table "chain"
  return table.chain

def closeCache (id : CacheId) : Run Unit := do
  let cache ← cache id
  log .debug ("Closing resolution cache: " ++ toString cache.size ++ " entries, " ++
    toString cache.hits ++ " hits, " ++ toString cache.misses ++ " misses")
  changeCache id Cache.close

/-- Take unused stamps; the answer is the first of them. -/
def takeStamps (count : Nat) : Run Stamp := fun world =>
  .ok world.nextStamp { world with nextStamp := world.nextStamp + count }

def collectionStamp (size : Nat) : Run (Option Stamp) :=
  if largeCollection < size then some <$> takeStamps 1 else pure none

def makeList (items : List Term) : Run Term :=
  return .list .plain (← collectionStamp items.length) items

def makeTuple (items : List Term) : Run Term :=
  return .tuple (← collectionStamp items.length) items

/-- A plain mapping just made. -/
def makeMap (entries : Entries) : Run Term :=
  return .map .plain (← collectionStamp entries.length) entries

/-- A set just made; of equal elements the first is kept. -/
def makeSet (items : List Term) : Run Term := do
  let elements := Entries.keys (Entries.ofPairs (items.map (·, .null)))
  return .set (← takeStamps 1) (Term.inSlots elements)

def detach (t : Term) : Run Term := fun world =>
  let (copy, next) := t.detach world.nextStamp
  .ok copy { world with nextStamp := next }

def recordCall (stamp : Stamp) (label : String) : Run Unit :=
  modify fun world => { world with
    counts := World.countCall stamp world.counts
    calls := label :: world.calls }

def andThen (body : Run Term) (after : Run Unit) : Run Term := fun world =>
  match body world with
  | .ok value world =>
    match after world with
    | .ok _ world => .ok value world
    | .error failure world => .error failure world
  | .error failure world =>
    match after world with
    | .ok _ world => .error failure world
    | .error failure world => .error failure world

def recover (body : Run Term) (handler : Failure → Option (Run Term)) : Run Term := fun world =>
  match body world with
  | .ok value world => .ok value world
  | .error failure world =>
    match handler failure with
    | some next => next world
    | none => .error failure world

/--
The value of a name from a memo table, computed on a miss.  A name that is being computed already
is refused if `detectCycles` is set, and so is nesting beyond `limit`.
-/
def memoize (id : CacheId) (name : Term) (env : Environment Term) (detectCycles : Bool)
    (limit : Option Int) (compute : Run Term) : Run Term := do
  let table ← cache id
  checkTable table "get_or_compute"
  if table.closed then throw .closed
  else
    let key := CacheKey.of name env
    match table.find? key with
    | some value => do
      changeCache id (Cache.hit · key env)
      log .debug ("Cache hit: " ++ name.nameText)
      detach value
    | none =>
      if detectCycles && table.pending.contains key then do
        record id (.refused key env)
        throw (.cyclic key.name (table.chainFrom key) none)
      else if limit.any (· ≤ (table.pending.length : Int)) then do
        record id (.refused key env)
        throw (.cyclic key.name table.chain limit)
      else do
        log .debug ("Cache miss: " ++ name.nameText ++ " (depth " ++
          toString table.pending.length ++ ")")
        changeCache id (Cache.enter · key env)
        let value ← andThen compute (changeCache id Cache.leave)
        let stored ← detach value
        changeCache id (Cache.put · key stored)
        return value

end Run

/-- The table that resolutions shared before a block, and the table of the block. -/
structure Block where
  previous : Option CacheId
  cache : CacheId

namespace Block

/-- Begin a block of resolutions that share a new table. -/
def enter : Run Block := do
  let previous := (← get).active
  let cache ← Run.newCache
  modify fun world => { world with active := some cache }
  return ⟨previous, cache⟩

/-- End a block: the table shared before is shared again, and the table of the block closes. -/
def leave (block : Block) : Run Unit := do
  modify fun world => { world with active := block.previous }
  Run.closeCache block.cache

def within (body : Run Term) : Run Term := do
  let block ← enter
  Run.andThen body block.leave

end Block

end ScopedTemplate
