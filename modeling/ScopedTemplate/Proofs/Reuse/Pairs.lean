import ScopedTemplate.Proofs.Reuse.Fingerprints
import ScopedTemplate.Proofs.Reuse.Tables

/-!
# Resolutions with tables that are used again

Two resolutions go side by side, each with a table whose values are right, if every resolution of the
names in the second table comes to what is stored there.  What the second one stores is of the same sort,
so that its table can be used again, whether it failed or not.
-/

namespace ScopedTemplate

open Run

/-! ## What is kept in a table -/

def Event.computes (key : CacheKey) : Event → Prop
  | .lookup other _ _ served => other = key ∧ served = false
  | _ => False

theorem Event.not_computes_of_isNote {event : Event} (noted : event.isNote = true) (key : CacheKey) :
    ¬ event.computes key := by
  cases event with
  | lookup => cases noted
  | _ => exact id

/-- A table keeps all entries of an earlier one, and nothing that was stored was computed again. -/
structure Cache.Extends (table later : Cache) : Prop where
  kept : ∀ {key value}, table.find? key = some value → later.find? key = some value
  events : ∃ events, later.events = events ++ table.events ∧ ∀ event ∈ events, ∀ key value,
    table.find? key = some value → ¬ event.computes key

namespace Cache.Extends

variable {table later : Cache} {key : CacheKey} {value : Term}

theorem refl (table : Cache) : table.Extends table := ⟨id, [], rfl, nofun⟩

theorem trans {last : Cache} (first : table.Extends later) (second : later.Extends last) :
    table.Extends last where
  kept found := second.kept (first.kept found)
  events := by
    obtain ⟨events, same, others⟩ := first.events
    obtain ⟨events', same', others'⟩ := second.events
    refine ⟨events' ++ events, by rw [same', same, List.append_assoc], fun event member => ?_⟩
    rcases List.mem_append.1 member with among | among
    · exact fun key value found => others' event among key value (first.kept found)
    · exact others event among

/-- One more event, which does not compute what is stored. -/
theorem note (event : Event) (others : ∀ key value, table.find? key = some value → ¬ event.computes key)
    (entries : later.entries = table.entries) (events : later.events = event :: table.events) :
    table.Extends later where
  kept found := (Cache.find?_congr entries _).trans found
  events := ⟨[event], events, fun _ member => List.mem_singleton.1 member ▸ others⟩

theorem record {event : Event} (noted : event.isNote = true) : table.Extends (table.record event) :=
  note event (fun key _ _ => event.not_computes_of_isNote noted key) rfl rfl

theorem hit (key : CacheKey) (env : Environment Term) : table.Extends (table.hit key env) :=
  note _ (fun _ _ _ computes => by cases computes.2) rfl rfl

theorem enter (missing : table.find? key = none) (env : Environment Term) :
    table.Extends (table.enter key env) := by
  refine note _ (fun other value found computes => ?_) rfl rfl
  obtain rfl := computes.1
  rw [missing] at found
  cases found

theorem leave (table : Cache) : table.Extends table.leave := ⟨id, [], rfl, nofun⟩

theorem put (extends' : table.Extends later) (missing : table.find? key = none) :
    table.Extends (later.put key value) where
  kept {other held} found := by
    have differs : key ≠ other := by
      rintro rfl
      rw [missing] at found
      cases found
    rw [Cache.find?_put, if_neg differs]
    exact extends'.kept found
  events := extends'.events

end Cache.Extends

/-! ## Checks -/

/-- A dependency is refused or not whatever the world is, and not as a missing key. -/
theorem Resolver.checkDependency_run (resolver : Resolver Term) (function dep : String)
    (env : Environment Term) (value : Term) (world : World) :
    (resolver.checkDependency function dep env value world = .ok () world ∧
      (resolver.config.checkDependencies && resolver.classifier.isRef value) = false) ∨
    ∃ failure, resolver.checkDependency function dep env value world = .error failure world ∧
      failure.isMissingKey = false ∧
      (resolver.config.checkDependencies && resolver.classifier.isRef value) = true := by
  unfold checkDependency
  split
  · next refuses =>
      right
      unfold Run.snapshot
      split
      · exact ⟨_, rfl, rfl, refuses⟩
      · exact ⟨_, rfl, rfl, refuses⟩
  · next accepts => exact .inl ⟨rfl, Bool.eq_false_iff.2 accepts⟩

/-- What is wrong with a scope is reported whatever the world is, and not as a missing key. -/
theorem Resolver.reported_run {α : Type} (key reason : String) (env : Environment Term) (world : World) :
    ∃ failure, (do throw (.resolution key reason (← snapshot env)) : Run α) world =
      .error failure world ∧ failure.isMissingKey = false := by
  unfold Run.snapshot
  split
  · exact ⟨_, rfl, rfl⟩
  · exact ⟨_, rfl, rfl⟩

/-! ## Two resolutions -/

namespace Site

variable (s : Site)

/-- A table whose entries are right, and all that any resolution of their names comes to. -/
structure Settled (table : Cache) : Prop extends s.Sound table where
  sure : ∀ {key value}, table.find? key = some value → s.Sure table.Stores key value

variable {s} {table table' : Cache} {key : CacheKey} {value : Term}

theorem Settled.of_same (settled : s.Settled table) (entries : table'.entries = table.entries)
    (closed : table'.closed = table.closed) (standIn : table'.standIn = table.standIn) :
    s.Settled table' := by
  refine ⟨settled.toSound.of_same entries closed standIn, fun {key value} found => ?_⟩
  rw [Cache.find?_congr entries] at found
  exact (settled.sure found).mono fun other => (stores_of_same entries).2

/-- A value that is right and sure is put into a table. -/
theorem Settled.put (settled : s.Settled table) (right : s.Right key value)
    (sure : s.Sure table.Stores key value) : s.Settled (table.put key value) := by
  refine ⟨settled.toSound.put right, fun {other held} found => ?_⟩
  have more : ∀ other, table.Stores other → (table.put key value).Stores other :=
    fun other stores => stores_put.2 (.inr stores)
  rw [Cache.find?_put] at found
  split at found
  · next same =>
      cases found
      exact same ▸ sure.mono more
  · exact (settled.sure found).mono more

theorem settled_empty : s.Settled .empty := ⟨sound_empty, nofun⟩

end Site

/-- Two resolutions at a site, and which of them may stop. -/
structure Pair (s : Site) where
  resolver : Resolver Term
  resolver' : Resolver Term
  cache : CacheId
  cache' : CacheId
  /-- Whether a failure of the first resolution ends the comparison. -/
  stops : Bool
  /-- Whether a failure of the second resolution ends the comparison. -/
  stops' : Bool
  pending : List CacheKey
  pending' : List CacheKey
  /-- Keys that the first table may hold alone. -/
  alone : CacheKey → Prop
  /-- The second table at the beginning. -/
  origin : Cache

namespace Pair

variable {s : Site} (p : Pair s)

/-- What is asked of two tables. -/
structure Tables (table table' : Cache) : Prop where
  sound : s.Sound table
  settled : s.Settled table'
  pending : table.pending = p.pending
  pending' : table'.pending = p.pending'
  covered : ∀ {key}, table.Stores key → p.alone key ∨ table'.Stores key
  covers : p.stops = false → ∀ {key}, table'.Stores key → table.Stores key
  kept : p.origin.Extends table'

/-- Two worlds with such tables. -/
structure Worlds (world world' : World) : Prop where
  inside : p.cache < world.caches.length
  inside' : p.cache' < world'.caches.length
  tables : p.Tables (world.cache p.cache) (world'.cache p.cache')

/--
What is compared: values, as long as neither resolution that may stop fails.  Only a missing key is no
reason to stop, since callables go on from it.
-/
def twin : Twin where
  resolver := p.resolver
  resolver' := p.resolver'
  cache := p.cache
  cache' := p.cache'
  envs := s.Alongside
  names env env' name :=
    (∀ binding, env.lookup? (.ref name) = some binding → s.meets env binding) ∧
      ∀ binding, env'.lookup? (.ref name) = some binding → s.meets env' binding
  terms env env' u u' := s.Matches u u' ∧ s.meets env u ∧ s.meets env' u'
  worlds := p.Worlds
  values := s.Same
  failures failure failure' := failure.isMissingKey = failure'.isMissingKey
  stops failure := p.stops = true ∧ failure.isMissingKey = false
  stops' failure := p.stops' = true ∧ failure.isMissingKey = false

/--
Where a stop of the second resolution counts, both have the same resolver and the same names in flight, and
the first one holds no keys alone.
-/
structure Fits : Prop where
  serves : s.serves p.resolver
  serves' : s.serves p.resolver'
  aligned : p.stops' = false →
    p.resolver = p.resolver' ∧ p.pending = p.pending' ∧ ∀ key, ¬ p.alone key
  stops : p.stops = false → p.stops' = false

end Pair

namespace Site

variable (s : Site)

/-- A callable reads names only: two calls that read names side by side go side by side. -/
def Responsive (c : Term) : Prop :=
  ∀ t : Twin, t.Lawful → s.serves t.resolver → s.serves t.resolver' →
    ∀ env env', t.envs env env' → env.BindsAlike env' → s.meets env c → s.meets env' c →
    ∀ ceiling ceiling' levels levels', (∀ kind name, t.Runs s.Same
      (lookupName (resolveTerm ceiling levels) t.resolver env t.cache (.text kind name))
      (lookupName (resolveTerm ceiling' levels') t.resolver' env' t.cache' (.text kind name))) →
    ∀ stamp stamp', t.Runs (fun value value' =>
        s.Matches value value' ∧ s.meets env value ∧ s.meets env' value')
      (invoke (resolveTerm ceiling levels) c c [.view stamp t.resolver env t.cache])
      (invoke (resolveTerm ceiling' levels') c c [.view stamp' t.resolver' env' t.cache'])

/-- Pure functions, callables that read names only, and all that is reached from terms. -/
structure Lawful : Prop where
  akin : ∀ {resolver}, s.serves resolver → s.resolver.Akin resolver
  overrides : ∀ {env env'}, s.visits env → s.visits env' → env.overrides = env'.overrides
  /-- Fingerprints tell what is bound. -/
  tells : ∀ {env env'}, s.visits env → s.visits env' → env.fingerprint = env'.fingerprint →
    env.BindsAlike env'
  reference : ∀ {env kind name binding}, s.meets env (.text kind name) →
    s.resolver.classifier.kind (.text kind name) = .ref →
    env.lookup? (.ref name) = some binding → s.meets env binding
  dependency : ∀ {env stamp name deps doc callee dep binding},
    s.meets env (.function stamp name deps doc callee) →
    s.resolver.classifier.kind (.function stamp name deps doc callee) = .function → dep ∈ deps →
    env.lookup? (.ref dep) = some binding → s.meets env binding
  read : ∀ {env c name binding}, s.meets env c → s.resolver.classifier.kind c = .callable →
    env.lookup? (.ref name) = some binding → s.meets env binding
  pure : ∀ {env f}, s.meets env f → s.resolver.classifier.kind f = .function → f.IsPure
  returned : ∀ {env f args value}, s.meets env f → s.resolver.classifier.kind f = .function →
    (∀ arg ∈ args, s.Value arg) → f.Returns args value → s.meets env value
  matched : ∀ {env f args args' value value'}, s.meets env f →
    s.resolver.classifier.kind f = .function → (∀ arg ∈ args, s.Value arg) →
    List.Forall₂ Term.Resembles args args' → f.Returns args value → f.Returns args' value' →
    value.Resembles value' → s.Matches value value'
  callable : ∀ {env c}, s.meets env c → s.resolver.classifier.kind c = .callable → s.Responsive c
  items : ∀ {env kind stamp items}, s.meets env (.list kind stamp items) →
    s.resolver.classifier.kind (.list kind stamp items) = .sequence → ∀ item ∈ items, s.meets env item
  elements : ∀ {env stamp items}, s.meets env (.tuple stamp items) →
    s.resolver.classifier.kind (.tuple stamp items) = .sequence → ∀ item ∈ items, s.meets env item
  entries : ∀ {env kind stamp entries}, s.meets env (.map kind stamp entries) →
    s.resolver.classifier.kind (.map kind stamp entries) = .mapping →
    Entries.has entries s.resolver.defaultsKey = false → ∀ entry ∈ entries, s.meets env entry.2
  noView : ∀ {env kind stamp entries defaults}, s.meets env (.map kind stamp entries) →
    s.resolver.classifier.kind (.map kind stamp entries) = .mapping →
    Entries.find? entries s.resolver.defaultsKey = some defaults → defaults.isView = false
  scope : ∀ {env kind stamp entries scopeKind scopeStamp scope}, s.meets env (.map kind stamp entries) →
    s.resolver.classifier.kind (.map kind stamp entries) = .mapping →
    Entries.find? entries s.resolver.defaultsKey = some (.map scopeKind scopeStamp scope) →
      s.visits (env.child scope) ∧
        (∀ entry ∈ Entries.erase entries s.resolver.defaultsKey, s.meets (env.child scope) entry.2) ∧
        ∀ {env'}, s.Alongside env env' → (env.child scope).fingerprint = (env'.child scope).fingerprint

/-- Terms of a site are resolved alike in all pairs whose second resolution has so many levels. -/
def Alike (levels' : Nat) : Prop :=
  ∀ p : Pair s, p.Fits → ∀ ceiling ceiling' levels, (p.stops' = false → levels = levels') →
    ∀ {env env' u u'}, s.Alongside env env' → p.twin.terms env env' u u' → p.twin.Runs s.Same
      (resolveTerm ceiling levels p.resolver u env p.cache)
      (resolveTerm ceiling' levels' p.resolver' u' env' p.cache')

variable {s} {p : Pair s} {env env' : Environment Term}

theorem Matches.each {items items' : List Term} (matched : List.Forall₂ s.Matches items items')
    (met : ∀ item ∈ items, s.meets env item) (met' : ∀ item ∈ items', s.meets env' item) :
    List.Forall₂ (p.twin.terms env env') items items' := by
  induction matched with
  | nil => exact .nil
  | cons first _ ih =>
      obtain ⟨here, others⟩ := List.forall_mem_cons.1 met
      obtain ⟨here', others'⟩ := List.forall_mem_cons.1 met'
      exact .cons ⟨first, here, here'⟩ (ih others others')

theorem Matches.fields {entries entries' : Entries} (matched : Twin.Fields s.Matches entries entries')
    (met : ∀ entry ∈ entries, s.meets env entry.2) (met' : ∀ entry ∈ entries', s.meets env' entry.2) :
    Twin.Fields (p.twin.terms env env') entries entries' := by
  induction matched with
  | nil => exact .nil
  | cons first _ ih =>
      obtain ⟨here, others⟩ := List.forall_mem_cons.1 met
      obtain ⟨here', others'⟩ := List.forall_mem_cons.1 met'
      exact .cons ⟨first.1, first.2, here, here'⟩ (ih others others')

namespace Lawful

variable (lawful : s.Lawful)

include lawful

theorem akin_of_serves {resolver resolver' : Resolver Term} (serves : s.serves resolver)
    (serves' : s.serves resolver') : resolver.Akin resolver' :=
  (lawful.akin serves).symm.trans (lawful.akin serves')

theorem alongside_of_keyOf (visits : s.visits env) (visits' : s.visits env') {name name' : String}
    (same : env.keyOf name = env'.keyOf name') : name = name' ∧ s.Alongside env env' :=
  ⟨congrArg CacheKey.name same, visits, visits', lawful.overrides visits visits',
    congrArg CacheKey.environment same⟩

theorem alike (alongside : s.Alongside env env') : env.BindsAlike env' :=
  lawful.tells alongside.visits alongside.visits' alongside.fingerprint

/-- What is met in environments side by side goes on alike. -/
theorem splits {p : Pair s} (serves : s.serves p.resolver) (alongside : s.Alongside env env')
    {u u' : Term} (terms : p.twin.terms env env' u u') : p.twin.Splits env env' u u' := by
  obtain ⟨matched, meets, meets'⟩ := terms
  have akin := lawful.akin serves
  have looks : p.twin.resolver.classifier = s.resolver.classifier := akin.classifier
  have key : p.twin.resolver.defaultsKey = s.resolver.defaultsKey := akin.key
  have same := matched.resembles
  have kinds : s.resolver.classifier.kind u = s.resolver.classifier.kind u' := same.kind
  cases looked : s.resolver.classifier.kind u with
  | scalar => exact .data (.inl (looks ▸ looked))
  | removed => exact .data (.inr (looks ▸ looked))
  | ref =>
      obtain ⟨kind, name, rfl⟩ := Classifier.text_of_ref looked
      obtain rfl := same.text
      exact .reference (looks ▸ looked)
        ⟨fun _ => lawful.reference meets looked, fun _ => lawful.reference meets' looked⟩
  | function =>
      obtain ⟨stamp, name, deps, doc, callee, rfl⟩ := Classifier.function_of_kind looked
      obtain rfl := same.function
      exact .function (looks ▸ looked) (fun _ among => ⟨fun _ => lawful.dependency meets looked among,
        fun _ => lawful.dependency meets' looked among⟩) ⟨matched, meets, meets'⟩
  | callable =>
      obtain ⟨kind, stamp, label, name, body, rfl⟩ := Classifier.callable_of_kind looked
      obtain rfl := same.callable
      exact .callable (looks ▸ looked) ⟨matched, meets, meets'⟩
  | sequence =>
      have looked' := kinds.symm.trans looked
      rcases Classifier.items_of_kind looked with ⟨kind, stamp, elements, rfl⟩ | ⟨stamp, elements, rfl⟩
      · obtain ⟨stamp', elements', rfl, -⟩ := same.list
        exact .list (looks ▸ looked) (Matches.each (matched.items looked)
          (lawful.items meets looked) (lawful.items meets' looked'))
      · obtain ⟨stamp', elements', rfl, -⟩ := same.tuple
        exact .tuple (looks ▸ looked) (Matches.each (matched.elements looked)
          (lawful.elements meets looked) (lawful.elements meets' looked'))
  | mapping =>
      have looked' := kinds.symm.trans looked
      obtain ⟨kind, stamp, entries, rfl⟩ := Classifier.map_of_kind looked
      obtain ⟨stamp', entries', rfl, similar⟩ := same.map
      cases defaulted : Entries.has entries s.resolver.defaultsKey with
      | false =>
          have defaulted' := (Custody.has_of_keys similar.keys _).symm.trans defaulted
          exact .map (looks ▸ looked) (key ▸ defaulted) (Matches.fields (matched.values looked)
            (lawful.entries meets looked defaulted) (lawful.entries meets' looked' defaulted'))
      | true =>
          obtain ⟨defaults, found⟩ := Entries.has_iff.1 defaulted
          -- a scope of defaults is the same in both
          rcases matched with equal | ⟨-, scopeless⟩
          · obtain ⟨-, -, rfl⟩ := Term.map.inj equal
            cases shape : defaults.entries? with
            | some scope =>
                obtain ⟨scopeKind, scopeStamp, rfl⟩ := Term.map_of_entries? shape
                obtain ⟨visits, rest, inner⟩ := lawful.scope meets looked found
                obtain ⟨visits', rest', -⟩ := lawful.scope meets' looked' found
                refine .enters (looks ▸ looked) (key ▸ found) (key ▸ found)
                  ⟨visits, visits', ?_, inner alongside⟩ ?_
                · rw [Environment.overrides_child, Environment.overrides_child, alongside.overrides]
                · rw [key]
                  exact Matches.fields (List.forall₂_same.2 fun _ _ => ⟨rfl, .inl rfl⟩) rest rest'
            | none =>
                have noScope := Term.noScope_of_noView (lawful.noView meets looked found) shape
                refine .malformed (looks ▸ looked) (key ▸ found) (key ▸ found) noScope
                  fun reason label world world' worlds => ?_
                obtain ⟨failure, fails, kept⟩ := Resolver.reported_run reason label env world
                obtain ⟨failure', fails', kept'⟩ := Resolver.reported_run reason label env' world'
                rw [fails, fails']
                exact .error (kept.trans kept'.symm) worlds
          · exact (scopeless.noDefaults looked found).elim

end Lawful

end Site

namespace Pair

variable {s : Site} {p : Pair s} {table table' next next' : Cache} {key : CacheKey}
  {value value' : Term}

/-- Changes that leave alone what two tables have in common. -/
theorem Tables.of_same (tables : p.Tables table table')
    (entries : next.entries = table.entries) (closed : next.closed = table.closed)
    (standIn : next.standIn = table.standIn) (pending : next.pending = table.pending)
    (entries' : next'.entries = table'.entries) (closed' : next'.closed = table'.closed)
    (standIn' : next'.standIn = table'.standIn) (pending' : next'.pending = table'.pending)
    (kept : table'.Extends next') : p.Tables next next' where
  sound := tables.sound.of_same entries closed standIn
  settled := tables.settled.of_same entries' closed' standIn'
  pending := pending.trans tables.pending
  pending' := pending'.trans tables.pending'
  covered stores := (tables.covered ((Site.stores_of_same entries).1 stores)).imp_right
    (Site.stores_of_same entries').2
  covers same _ stores := (Site.stores_of_same entries).2
    (tables.covers same ((Site.stores_of_same entries').1 stores))
  kept := tables.kept.trans kept

theorem Tables.record (tables : p.Tables table table') {event event' : Event}
    (noted' : event'.isNote = true) : p.Tables (table.record event) (table'.record event') :=
  tables.of_same rfl rfl rfl rfl rfl rfl rfl rfl (.record noted')

theorem Tables.hit (tables : p.Tables table table') (key key' : CacheKey)
    (env env' : Environment Term) : p.Tables (table.hit key env) (table'.hit key' env') :=
  tables.of_same rfl rfl rfl rfl rfl rfl rfl rfl (.hit key' env')

theorem Tables.hit_left (tables : p.Tables table table') (key : CacheKey) (env : Environment Term) :
    p.Tables (table.hit key env) table' :=
  tables.of_same rfl rfl rfl rfl rfl rfl rfl rfl (.refl _)

def under (p : Pair s) (key : CacheKey) : Pair s :=
  { p with pending := p.pending ++ [key], pending' := p.pending' ++ [key] }

theorem Fits.under (fits : p.Fits) (key : CacheKey) : (p.under key).Fits where
  serves := fits.serves
  serves' := fits.serves'
  aligned aligned := by
    obtain ⟨same, pending, alone⟩ := fits.aligned aligned
    exact ⟨same, congrArg (· ++ [key]) pending, alone⟩
  stops := fits.stops

theorem Fits.stops_of_stops' (fits : p.Fits) (stops' : p.stops' = true) : p.stops = true := by
  cases stops : p.stops with
  | true => rfl
  | false => exact (fits.stops stops).symm.trans stops'

theorem Tables.enter (tables : p.Tables table table') (missing' : table'.find? key = none)
    (env env' : Environment Term) :
    (p.under key).Tables (table.enter key env) (table'.enter key env') where
  sound := tables.sound.of_same rfl rfl rfl
  settled := tables.settled.of_same rfl rfl rfl
  pending := congrArg (· ++ [key]) tables.pending
  pending' := congrArg (· ++ [key]) tables.pending'
  covered := tables.covered
  covers := tables.covers
  kept := tables.kept.trans (.enter missing' env')

theorem Tables.leave (tables : (p.under key).Tables table table') :
    p.Tables table.leave table'.leave where
  sound := tables.sound.of_same rfl rfl rfl
  settled := tables.settled.of_same rfl rfl rfl
  pending := Cache.pending_leave tables.pending
  pending' := Cache.pending_leave tables.pending'
  covered := tables.covered
  covers := tables.covers
  kept := tables.kept.trans (.leave table')

/-- A key is stored in both tables. -/
theorem Tables.put (tables : p.Tables table table') (right : s.Right key value)
    (right' : s.Right key value') (sure : s.Sure table'.Stores key value')
    (missing : p.origin.find? key = none) : p.Tables (table.put key value) (table'.put key value') where
  sound := tables.sound.put right
  settled := tables.settled.put right' sure
  pending := tables.pending
  pending' := tables.pending'
  covered {other} stores := by
    rcases Site.stores_put.1 stores with same | stores
    · exact .inr (Site.stores_put.2 (.inl same))
    · exact (tables.covered stores).imp_right fun stores => Site.stores_put.2 (.inr stores)
  covers same {other} stores := by
    rcases Site.stores_put.1 stores with here | stores
    · exact Site.stores_put.2 (.inl here)
    · exact Site.stores_put.2 (.inr (tables.covers same stores))
  kept := tables.kept.put missing

/-- What the first resolution computes, the second table holds already. -/
theorem Tables.put_left (tables : p.Tables table table') (stops : p.stops = true)
    (sound : s.Sound next) (pending : next.pending = table.pending)
    (few : ∀ other, next.Stores other → table.Stores other ∨ table'.Stores other)
    (right : s.Right key value) (stores' : table'.Stores key) :
    p.Tables (next.put key value) table' where
  sound := sound.put right
  settled := tables.settled
  pending := pending.trans tables.pending
  pending' := tables.pending'
  covered {other} stores := by
    rcases Site.stores_put.1 stores with rfl | stores
    · exact .inr stores'
    · exact (few other stores).elim tables.covered .inr
  covers same := by rw [stops] at same; cases same
  kept := tables.kept

/-- What the second resolution computes, the first table holds already. -/
theorem Tables.put_right (tables : p.Tables table table') (stops : p.stops = true)
    (settled : s.Settled next') (pending' : next'.pending = table'.pending)
    (kept : table'.Extends next') (right : s.Right key value) (sure : s.Sure next'.Stores key value)
    (missing : table'.find? key = none) : p.Tables table (next'.put key value) where
  sound := tables.sound
  settled := settled.put right sure
  pending := tables.pending
  pending' := pending'.trans tables.pending'
  covered {other} stores := by
    refine (tables.covered stores).imp_right ?_
    rintro ⟨held, found⟩
    exact Site.stores_put.2 (.inr ⟨held, kept.kept found⟩)
  covers same := by rw [stops] at same; cases same
  kept := tables.kept.trans (kept.put missing)

/-- What is missing was missing at the beginning. -/
theorem Tables.missing_origin (tables : p.Tables table table') (missing : table'.find? key = none) :
    p.origin.find? key = none := by
  cases found : p.origin.find? key with
  | none => rfl
  | some value =>
      have later := tables.kept.kept found
      rw [missing] at later
      cases later

theorem Worlds.leave {world world' : World} (worlds : (p.under key).Worlds world world') :
    p.Worlds (world.change p.cache Cache.leave) (world'.change p.cache' Cache.leave) where
  inside := (world.length_change p.cache _).symm ▸ worlds.inside
  inside' := (world'.length_change p.cache' _).symm ▸ worlds.inside'
  tables := by
    have inside : p.cache < world.caches.length := worlds.inside
    have inside' : p.cache' < world'.caches.length := worlds.inside'
    rw [world.cache_change inside, world'.cache_change inside']
    exact worlds.tables.leave

theorem Worlds.change {world world' : World} (worlds : p.Worlds world world')
    {change change' : Cache → Cache}
    (keeps : ∀ {table table'}, p.Tables table table' → p.Tables (change table) (change' table')) :
    p.Worlds (world.change p.cache change) (world'.change p.cache' change') where
  inside := (world.length_change p.cache change).symm ▸ worlds.inside
  inside' := (world'.length_change p.cache' change').symm ▸ worlds.inside'
  tables := by
    rw [world.cache_change worlds.inside, world'.cache_change worlds.inside']
    exact keeps worlds.tables

/-- A limit on steps is reported with the names in flight. -/
theorem overrun_run (resolver : Resolver Term) {id : CacheId} {world : World} (label : String)
    (sound : s.Sound (world.cache id)) : resolver.overrun id label world =
      .error (.cyclic label (world.cache id).chain (some resolver.config.maxDepth)) world := by
  unfold Resolver.overrun
  simp only [bind, EStateM.bind, Run.chain_run sound.isTable]
  rfl

/-- Where limits or names in flight differ, a limit ends the comparison. -/
theorem limits (fits : p.Fits) :
    p.twin.resolver.config.maxDepth = p.twin.resolver'.config.maxDepth ∨ p.twin.Loose := by
  cases stops' : p.stops' with
  | false => exact .inl (congrArg (fun resolver => resolver.config.maxDepth) (fits.aligned stops').1)
  | true =>
      refine .inr ⟨fun label run' world world' worlds => ?_, fun label run world world' worlds => ?_⟩
      · have overruns := overrun_run p.resolver label worlds.tables.sound
        exact overruns ▸ .stopped ⟨fits.stops_of_stops' stops', rfl⟩
      · have overruns := overrun_run p.resolver' label worlds.tables.settled.toSound
        exact overruns ▸ .stopped' ⟨stops', rfl⟩

theorem runs_overrun (label : String) : p.twin.Runs (fun _ _ => False)
    (p.resolver.overrun p.cache label) (p.resolver'.overrun p.cache' label) := by
  intro world world' worlds
  rw [overrun_run _ label worlds.tables.sound, overrun_run _ label worlds.tables.settled.toSound]
  exact .error rfl worlds

/-- A dependency is refused in both resolutions, unless one of them may stop. -/
theorem runs_checkDependency (lawful : s.Lawful) (fits : p.Fits) {env env' : Environment Term}
    {function dep : String} (same : s.Same value value') :
    p.twin.Runs (fun _ _ => True) (p.resolver.checkDependency function dep env value)
      (p.resolver'.checkDependency function dep env' value') := by
  intro world world' worlds
  have isRef : p.resolver'.classifier.isRef value' = p.resolver.classifier.isRef value := by
    rw [(lawful.akin_of_serves fits.serves fits.serves').classifier, same.2.isRef]
  have parts : (p.resolver.config.checkDependencies && p.resolver.classifier.isRef value) =
      (p.resolver'.config.checkDependencies && p.resolver'.classifier.isRef value') ∨
        p.stops' = true := by
    cases stops' : p.stops' with
    | true => exact .inr rfl
    | false => exact .inl (by rw [isRef, (fits.aligned stops').1])
  rcases p.resolver.checkDependency_run function dep env value world with
    ⟨ran, accepts⟩ | ⟨failure, ran, kept, refuses⟩
  · rcases p.resolver'.checkDependency_run function dep env' value' world' with
      ⟨ran', -⟩ | ⟨failure', ran', kept', refuses'⟩
    · rw [ran, ran']
      exact .ok trivial worlds
    · rw [ran, ran']
      refine .stopped' ⟨parts.resolve_left fun same => ?_, kept'⟩
      rw [accepts, refuses'] at same
      cases same
  · rcases p.resolver'.checkDependency_run function dep env' value' world' with
      ⟨ran', accepts'⟩ | ⟨failure', ran', kept', -⟩
    · rw [ran, ran']
      refine .stopped ⟨fits.stops_of_stops' (parts.resolve_left fun same => ?_), kept⟩
      rw [refuses, accepts'] at same
      cases same
    · rw [ran, ran']
      exact .error (kept.trans kept'.symm) worlds

theorem lawful (lawful : s.Lawful) (fits : p.Fits) : p.twin.Lawful where
  akin := lawful.akin_of_serves fits.serves fits.serves'
  aside worlds aside :=
    { inside := worlds.inside.trans_le aside.left.caches.length_le
      inside' := worlds.inside'.trans_le aside.right.caches.length_le
      tables := by
        rw [aside.left.cache worlds.inside, aside.right.cache worlds.inside']
        exact worlds.tables }
  noted _ noted' worlds := worlds.change fun tables => tables.record noted'
  same _ := rfl
  missing := id
  kept := And.right
  kept' := And.right
  overrun := runs_overrun
  limits := limits fits
  similar terms := terms.1.resembles
  splits alongside terms := lawful.splits fits.serves alongside terms
  bound {_ _ kind name} alongside _ :=
    congrArg Option.isSome ((lawful.alike alongside).target? kind name)
  dependency _ _ same := runs_checkDependency lawful fits same
  resembles := And.right
  single {u u'} same looked := by
    have looks : p.twin.resolver.classifier = s.resolver.classifier :=
      (lawful.akin fits.serves).classifier
    rw [looks] at looked
    exact ⟨.data looked, same⟩
  reference {_ _ kind name} _ _ looked := by
    have looks : p.twin.resolver.classifier = s.resolver.classifier :=
      (lawful.akin fits.serves).classifier
    rw [looks] at looked
    exact ⟨.reference looked trivial, rfl⟩
  list each := by
    obtain ⟨values, same⟩ := (List.forall₂_and_left _ _).1 each
    exact ⟨Resolver.isValue_list values, .of_items same⟩
  tuple each := by
    obtain ⟨values, same⟩ := (List.forall₂_and_left _ _).1 each
    exact ⟨Resolver.isValue_tuple values, .of_elements same⟩
  map noDefaults each := by
    obtain ⟨values, same⟩ := Twin.fields_and_left each
    rw [show p.twin.resolver.defaultsKey = s.resolver.defaultsKey from
      (lawful.akin fits.serves).key] at noDefaults
    exact ⟨Resolver.isValue_map noDefaults values, .of_fields same⟩

end Pair

end ScopedTemplate
