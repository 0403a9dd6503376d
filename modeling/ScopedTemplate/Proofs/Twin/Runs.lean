import ScopedTemplate.Proofs.Twin.Terms

/-!
# Two resolutions side by side

Two resolutions with resolvers that take terms in the same way, each with a table of its own, are compared
step by step.  Which environments and terms stand side by side is a parameter, as is what their worlds have
in common, which failures count as the same, and after which failures nothing more is compared.
-/

namespace ScopedTemplate

open Run

/-- Two worlds go on with the tables that are there left alone, and with the same calls. -/
structure World.Aside (world world' after after' : World) : Prop where
  left : world.Grows after
  right : world'.Grows after'
  calls : ∃ labels, after.calls = labels ++ world.calls ∧ after'.calls = labels ++ world'.calls

def Resolver.overrun (resolver : Resolver Term) (cache : CacheId) (label : String) : Run Term := do
  throw (.cyclic label (← chain cache) (some resolver.config.maxDepth))

/-- Two resolutions and what is compared of them. -/
structure Twin where
  resolver : Resolver Term
  resolver' : Resolver Term
  cache : CacheId
  cache' : CacheId
  /-- Environments that stand side by side. -/
  envs : Environment Term → Environment Term → Prop
  /-- Names that may be looked up under two environments. -/
  names : Environment Term → Environment Term → String → Prop
  /-- Terms that are resolved side by side under two environments. -/
  terms : Environment Term → Environment Term → Term → Term → Prop
  worlds : World → World → Prop
  /-- What is asked of two values. -/
  values : Term → Term → Prop
  failures : Failure → Failure → Prop
  /-- After these failures of the first resolution the second one is not looked at. -/
  stops : Failure → Prop
  /-- After these failures of the second resolution the first one is not looked at. -/
  stops' : Failure → Prop

namespace Twin

variable (t : Twin)

/-- Two runs end with related values, or with related failures, unless one of them stopped. -/
inductive Ends {α β : Type} (R : α → β → Prop) :
    EStateM.Result Failure World α → EStateM.Result Failure World β → Prop where
  | ok {value : α} {value' : β} {world world' : World} (related : R value value')
      (worlds : t.worlds world world') : Ends R (.ok value world) (.ok value' world')
  | error {failure failure' : Failure} {world world' : World} (same : t.failures failure failure')
      (worlds : t.worlds world world') : Ends R (.error failure world) (.error failure' world')
  | stopped {failure : Failure} {world : World} {result' : EStateM.Result Failure World β}
      (stops : t.stops failure) : Ends R (.error failure world) result'
  | stopped' {result : EStateM.Result Failure World α} {failure' : Failure} {world' : World}
      (stops : t.stops' failure') : Ends R result (.error failure' world')

/-- Two runs that begin side by side end so. -/
def Runs {α β : Type} (R : α → β → Prop) (run : Run α) (run' : Run β) : Prop :=
  ∀ world world', t.worlds world world' → t.Ends R (run world) (run' world')

abbrev Fields (R : Term → Term → Prop) : Entries → Entries → Prop :=
  List.Forall₂ fun entry entry' => entry.1 = entry'.1 ∧ R entry.2 entry'.2

/-- How two terms go on side by side. -/
inductive Splits (env env' : Environment Term) : Term → Term → Prop where
  | data {u u' : Term} (looked : t.resolver.classifier.kind u = .scalar ∨
      t.resolver.classifier.kind u = .removed) : Splits env env' u u'
  | reference {kind : TextKind} {s : String}
      (looked : t.resolver.classifier.kind (.text kind s) = .ref) (among : t.names env env' s) :
      Splits env env' (.text kind s) (.text kind s)
  | function {stamp : Stamp} {name : String} {deps : List String} {doc : Option String}
      {callee : Term}
      (looked : t.resolver.classifier.kind (.function stamp name deps doc callee) = .function)
      (among : ∀ dep ∈ deps, t.names env env' dep)
      (terms : t.terms env env' (.function stamp name deps doc callee)
        (.function stamp name deps doc callee)) :
      Splits env env' (.function stamp name deps doc callee) (.function stamp name deps doc callee)
  | callable {c : Term} (looked : t.resolver.classifier.kind c = .callable)
      (terms : t.terms env env' c c) : Splits env env' c c
  | map {kind : MapKind} {stamp stamp' : Option Stamp} {entries entries' : Entries}
      (looked : t.resolver.classifier.kind (.map kind stamp entries) = .mapping)
      (noDefaults : Entries.has entries t.resolver.defaultsKey = false)
      (fields : Fields (t.terms env env') entries entries') :
      Splits env env' (.map kind stamp entries) (.map kind stamp' entries')
  /-- The same scope is entered. -/
  | enters {kind scopeKind : MapKind} {stamp stamp' scopeStamp : Option Stamp}
      {entries entries' scope : Entries}
      (looked : t.resolver.classifier.kind (.map kind stamp entries) = .mapping)
      (found : Entries.find? entries t.resolver.defaultsKey = some (.map scopeKind scopeStamp scope))
      (found' : Entries.find? entries' t.resolver.defaultsKey = some (.map scopeKind scopeStamp scope))
      (envs : t.envs (env.child scope) (env'.child scope))
      (fields : Fields (t.terms (env.child scope) (env'.child scope))
        (Entries.erase entries t.resolver.defaultsKey) (Entries.erase entries' t.resolver.defaultsKey)) :
      Splits env env' (.map kind stamp entries) (.map kind stamp' entries')
  /-- The scope cannot be entered. -/
  | malformed {kind : MapKind} {stamp stamp' : Option Stamp} {entries entries' : Entries}
      {defaults : Term}
      (looked : t.resolver.classifier.kind (.map kind stamp entries) = .mapping)
      (found : Entries.find? entries t.resolver.defaultsKey = some defaults)
      (found' : Entries.find? entries' t.resolver.defaultsKey = some defaults)
      (noScope : defaults.scopeSize? = none)
      (reported : ∀ key reason, t.Runs (fun _ _ => False)
        (do throw (.resolution key reason (← snapshot env)) : Run Step)
        (do throw (.resolution key reason (← snapshot env')) : Run Step)) :
      Splits env env' (.map kind stamp entries) (.map kind stamp' entries')
  | list {kind : ListKind} {stamp stamp' : Option Stamp} {items items' : List Term}
      (looked : t.resolver.classifier.kind (.list kind stamp items) = .sequence)
      (each : List.Forall₂ (t.terms env env') items items') :
      Splits env env' (.list kind stamp items) (.list kind stamp' items')
  | tuple {stamp stamp' : Option Stamp} {items items' : List Term}
      (looked : t.resolver.classifier.kind (.tuple stamp items) = .sequence)
      (each : List.Forall₂ (t.terms env env') items items') :
      Splits env env' (.tuple stamp items) (.tuple stamp' items')

/-- Limits on steps may be exceeded at any time. -/
structure Loose : Prop where
  left : ∀ label (run' : Run Term), t.Runs (fun _ _ => False) (t.resolver.overrun t.cache label) run'
  right : ∀ label (run : Run Term), t.Runs (fun _ _ => False) run (t.resolver'.overrun t.cache' label)

/-- What is asked of a comparison. -/
structure Lawful : Prop where
  akin : t.resolver.Akin t.resolver'
  aside : ∀ {world world' after after'}, t.worlds world world' →
    World.Aside world world' after after' → t.worlds after after'
  noted : ∀ {world world'} {event event' : Event}, event.isNote = true → event'.isNote = true →
    t.worlds world world' → t.worlds (world.change t.cache (Cache.record · event))
      (world'.change t.cache' (Cache.record · event'))
  same : ∀ failure, t.failures failure failure
  missing : ∀ {failure failure'}, t.failures failure failure' →
    failure.isMissingKey = failure'.isMissingKey
  kept : ∀ {failure}, t.stops failure → failure.isMissingKey = false
  kept' : ∀ {failure'}, t.stops' failure' → failure'.isMissingKey = false
  overrun : ∀ label, t.Runs (fun _ _ => False) (t.resolver.overrun t.cache label)
    (t.resolver'.overrun t.cache' label)
  limits : t.resolver.config.maxDepth = t.resolver'.config.maxDepth ∨ t.Loose
  similar : ∀ {env env' u u'}, t.terms env env' u u' → u.Resembles u'
  splits : ∀ {env env' u u'}, t.envs env env' → t.terms env env' u u' → t.Splits env env' u u'
  bound : ∀ {env env' kind s}, t.envs env env' → t.names env env' s →
    (env.target? (.text kind s)).isSome = (env'.target? (.text kind s)).isSome
  dependency : ∀ {env env' function dep value value'}, t.envs env env' → t.names env env' dep →
    t.values value value' →
      t.Runs (fun _ _ => True) (t.resolver.checkDependency function dep env value)
        (t.resolver'.checkDependency function dep env' value')
  resembles : ∀ {u u'}, t.values u u' → u.Resembles u'
  single : ∀ {u u'}, u.Resembles u' →
    t.resolver.classifier.kind u = .scalar ∨ t.resolver.classifier.kind u = .removed → t.values u u'
  reference : ∀ {env env' kind s}, t.envs env env' → t.names env env' s →
    t.resolver.classifier.kind (.text kind s) = .ref → t.values (.text kind s) (.text kind s)
  list : ∀ {stamp stamp' items items'}, List.Forall₂ t.values items items' →
    t.values (.list .plain stamp items) (.list .plain stamp' items')
  tuple : ∀ {stamp stamp' items items'}, List.Forall₂ t.values items items' →
    t.values (.tuple stamp items) (.tuple stamp' items')
  map : ∀ {stamp stamp' entries entries'}, Entries.has entries t.resolver.defaultsKey = false →
    Fields t.values entries entries' → t.values (.map .plain stamp entries) (.map .plain stamp' entries')

end Twin

namespace World

/-- The tables, the table that is shared, and the calls are the same. -/
structure Kept (world after : World) : Prop where
  caches : after.caches = world.caches
  active : after.active = world.active
  calls : after.calls = world.calls

theorem Kept.grows {world after : World} (kept : Kept world after) : Grows world after :=
  ⟨kept.caches ▸ List.prefix_refl _, kept.active⟩

theorem Aside.of_kept {world world' after after' : World} (left : Kept world after)
    (right : Kept world' after') : Aside world world' after after' :=
  ⟨left.grows, right.grows, [], left.calls, right.calls⟩

end World

namespace Twin

variable {t : Twin} {α α' β β' : Type} {R : α → α' → Prop} {S : β → β' → Prop}

theorem Ends.mono {Q : α → α' → Prop} {result : EStateM.Result Failure World α}
    {result' : EStateM.Result Failure World α'} (ends : t.Ends R result result')
    (imp : ∀ value value', R value value' → Q value value') : t.Ends Q result result' := by
  cases ends with
  | ok related worlds => exact .ok (imp _ _ related) worlds
  | error same worlds => exact .error same worlds
  | stopped stops => exact .stopped stops
  | stopped' stops => exact .stopped' stops

namespace Runs

theorem mono {Q : α → α' → Prop} {run : Run α} {run' : Run α'} (runs : t.Runs R run run')
    (imp : ∀ value value', R value value' → Q value value') : t.Runs Q run run' :=
  fun world world' worlds => (runs world world' worlds).mono imp

theorem pure {value : α} {value' : α'} (related : R value value') :
    t.Runs R (pure value) (pure value') :=
  fun _ _ worlds => .ok related worlds

theorem bind {run : Run α} {run' : Run α'} (first : t.Runs R run run') {next : α → Run β}
    {next' : α' → Run β'} (later : ∀ value value', R value value' →
      t.Runs S (next value) (next' value')) : t.Runs S (run >>= next) (run' >>= next') := by
  intro world world' worlds
  have ends := first world world' worlds
  simp only [Bind.bind, EStateM.bind]
  generalize run world = result, run' world' = result' at ends
  cases ends with
  | ok related worlds => exact later _ _ related _ _ worlds
  | error same worlds => exact .error same worlds
  | stopped stops => exact .stopped stops
  | stopped' stops => exact .stopped' stops

section

variable (lawful : t.Lawful)

include lawful

theorem fail {failure failure' : Failure} (same : failure = failure') :
    t.Runs R (throw failure : Run α) (throw failure' : Run α') := by
  subst same
  exact fun _ _ worlds => .error (lawful.same failure) worlds

theorem ofResult {result : Except Failure α} {result' : Except Failure α'}
    (results : ∀ failure, result = .error failure → result' = .error failure)
    (values : ∀ value, result = .ok value → ∃ value', result' = .ok value' ∧ R value value') :
    t.Runs R (ofResult result) (ofResult result') := by
  cases ended : result with
  | error failure =>
      rw [results failure ended]
      exact fail lawful rfl
  | ok value =>
      obtain ⟨value', same, related⟩ := values value ended
      rw [same]
      exact pure related

theorem ofResult_same (result : Except Failure α) :
    t.Runs (fun value value' => value = value' ∧ result = .ok value) (Run.ofResult result)
      (Run.ofResult result) :=
  ofResult lawful (fun _ failed => failed) fun value ended => ⟨value, ended, rfl, ended⟩

theorem aside {run : Run α} {run' : Run α'} (ends : ∀ world world', ∃ value value' after after',
      run world = .ok value after ∧ run' world' = .ok value' after' ∧ R value value' ∧
        World.Aside world world' after after') : t.Runs R run run' := by
  intro world world' worlds
  obtain ⟨value, value', after, after', ended, ended', related, aside⟩ := ends world world'
  rw [ended, ended']
  exact .ok related (lawful.aside worlds aside)

theorem modify {change change' : World → World}
    (asides : ∀ world world', World.Aside world world' (change world) (change' world')) :
    t.Runs (fun _ _ => True) (modify change : Run Unit) (modify change' : Run Unit) :=
  aside lawful fun world world' => ⟨_, _, _, _, rfl, rfl, trivial, asides world world'⟩

theorem log (level level' : Level) (message message' : String) :
    t.Runs (fun _ _ => True) (log level message) (log level' message') :=
  modify lawful fun _ _ => .of_kept ⟨rfl, rfl, rfl⟩ ⟨rfl, rfl, rfl⟩

theorem noteCaught (failure failure' : Failure) :
    t.Runs (fun _ _ => True) (noteCaught failure) (noteCaught failure') :=
  modify lawful fun _ _ => .of_kept ⟨rfl, rfl, rfl⟩ ⟨rfl, rfl, rfl⟩

theorem recordCall (stamp stamp' : Stamp) (label : String) :
    t.Runs (fun _ _ => True) (recordCall stamp label) (recordCall stamp' label) :=
  modify lawful fun _ _ =>
    ⟨⟨List.prefix_refl _, rfl⟩, ⟨List.prefix_refl _, rfl⟩, [label], rfl, rfl⟩

theorem takeStamps (count count' : Nat) :
    t.Runs (fun _ _ => True) (takeStamps count) (takeStamps count') :=
  aside lawful fun _ _ =>
    ⟨_, _, _, _, rfl, rfl, trivial, .of_kept ⟨rfl, rfl, rfl⟩ ⟨rfl, rfl, rfl⟩⟩

theorem collectionStamp (size size' : Nat) :
    t.Runs (fun _ _ => True) (collectionStamp size) (collectionStamp size') := by
  have ends : ∀ size world, ∃ value after, Run.collectionStamp size world = .ok value after ∧
      World.Kept world after := by
    intro size world
    unfold Run.collectionStamp
    split
    · exact ⟨_, _, rfl, rfl, rfl, rfl⟩
    · exact ⟨_, _, rfl, rfl, rfl, rfl⟩
  refine aside lawful fun world world' => ?_
  obtain ⟨value, after, ended, kept⟩ := ends size world
  obtain ⟨value', after', ended', kept'⟩ := ends size' world'
  exact ⟨_, _, _, _, ended, ended', trivial, .of_kept kept kept'⟩

/-- Copies are the same as what was copied but for identity. -/
theorem detach (value value' : Term) :
    t.Runs (fun copy copy' => copy.Resembles value ∧ copy'.Resembles value') (detach value)
      (detach value') :=
  aside lawful fun _ _ => ⟨_, _, _, _, rfl, rfl, ⟨Term.outline_detach _ _, Term.outline_detach _ _⟩,
    .of_kept ⟨rfl, rfl, rfl⟩ ⟨rfl, rfl, rfl⟩⟩

/-- A note is made in both tables. -/
theorem record {event event' : Event} (noted : event.isNote = true) (noted' : event'.isNote = true) :
    t.Runs (fun _ _ => True) (record t.cache event) (record t.cache' event') :=
  fun _ _ worlds => .ok trivial (lawful.noted noted noted' worlds)

end

end Runs

end Twin

end ScopedTemplate
