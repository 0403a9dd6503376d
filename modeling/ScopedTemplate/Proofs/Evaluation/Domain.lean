import ScopedTemplate.Proofs.Evaluation.Meaning
import ScopedTemplate.Proofs.Run.Memo

/-!
# Domains of evaluation

A domain says which terms and environments a resolution is about, and what it takes of them.  What
is made during a resolution may have an identity; a stage of a domain knows the identities so far,
and what belongs to a domain at a stage belongs to it at every later one.
-/

namespace ScopedTemplate

variable {ceiling : Int}

open Run

def Failure.isLimit : Failure → Bool
  | .cyclic _ _ limit => limit.isSome
  | .exhausted => true
  | _ => false

def Event.scope? : Event → Option (Environment Term)
  | .lookup _ env _ _ => some env
  | .refused _ env => some env
  | _ => none

/-- In an environment a name was looked up. -/
def Arises (events : List Event) (env : Environment Term) : Prop :=
  ∃ event ∈ events, event.scope? = some env

theorem Arises.suffix {events later : List Event} {env : Environment Term}
    (arises : Arises events env) (suffix : events <:+ later) : Arises later env := by
  obtain ⟨event, member, here⟩ := arises
  exact ⟨event, suffix.subset member, here⟩

namespace World

/-- The tables that were there are as they were. -/
structure Grows (world world' : World) : Prop where
  caches : world.caches <+: world'.caches
  active : world'.active = world.active

theorem Grows.cache {world world' : World} (grows : Grows world world') {id : CacheId}
    (inside : id < world.caches.length) : world'.cache id = world.cache id := by
  obtain ⟨more, caches⟩ := grows.caches
  unfold World.cache
  rw [← caches, List.getD_eq_getElem?_getD, List.getD_eq_getElem?_getD,
    List.getElem?_append_left inside]

end World

/-! ## Terms -/

namespace Term

def inner : Term → List Term
  | .list _ _ items => items
  | .tuple _ items => items
  | .map _ _ entries => Entries.values entries
  | _ => []

def keeper (name : String) : Term :=
  .function 0 "keep" [name] none (.callable .procedure 1 "keep" "keep" (.arg 0))

/-- `P` holds of a term and of all that evaluation reaches in it. -/
inductive Everywhere (P : Term → Prop) : Term → Prop where
  | intro {t : Term} (here : P t) (inner : ∀ s ∈ t.inner, Everywhere P s) : Everywhere P t

def withStamp (stamp : Option Stamp) : Term → Term
  | .list kind _ items => .list kind stamp items
  | .tuple _ items => .tuple stamp items
  | .map kind _ entries => .map kind stamp entries
  | t => t

section

variable {P : Term → Prop} {t : Term}

theorem everywhere_iff : t.Everywhere P ↔ P t ∧ ∀ s ∈ t.inner, s.Everywhere P := by
  constructor
  · rintro ⟨here, inner⟩
    exact ⟨here, inner⟩
  · rintro ⟨here, inner⟩
    exact ⟨here, inner⟩

theorem Everywhere.here (each : t.Everywhere P) : P t := (everywhere_iff.1 each).1

theorem Everywhere.mono {Q : Term → Prop} (each : t.Everywhere P) (imp : ∀ s, P s → Q s) :
    t.Everywhere Q := by
  induction each with
  | intro here inner ih => exact ⟨imp _ here, ih⟩

theorem everywhere_list {kind : ListKind} {stamp : Option Stamp} {items : List Term} :
    (Term.list kind stamp items).Everywhere P ↔
      P (.list kind stamp items) ∧ ∀ item ∈ items, item.Everywhere P :=
  everywhere_iff

theorem everywhere_tuple {stamp : Option Stamp} {items : List Term} :
    (Term.tuple stamp items).Everywhere P ↔
      P (.tuple stamp items) ∧ ∀ item ∈ items, item.Everywhere P :=
  everywhere_iff

theorem everywhere_map {kind : MapKind} {stamp : Option Stamp} {entries : Entries} :
    (Term.map kind stamp entries).Everywhere P ↔
      P (.map kind stamp entries) ∧ ∀ entry ∈ entries, entry.2.Everywhere P := by
  refine everywhere_iff.trans (and_congr_right fun _ => ?_)
  exact List.forall_mem_map

/-- What has nothing in it. -/
theorem everywhere_of_inner (noInner : t.inner = []) (here : P t) : t.Everywhere P := by
  refine ⟨here, ?_⟩
  rw [noInner]
  intro s member
  exact absurd member List.not_mem_nil

theorem Everywhere.find? {entries : Entries} (each : ∀ entry ∈ entries, entry.2.Everywhere P)
    {key value : Term} (found : Entries.find? entries key = some value) : value.Everywhere P := by
  obtain ⟨_, member, _⟩ := Entries.mem_of_find? found
  exact each _ member

theorem sizeOf_inner {s : Term} (member : s ∈ t.inner) : sizeOf s < sizeOf t := by
  cases t with
  | list kind stamp items =>
      have smaller := List.sizeOf_lt_of_mem (show s ∈ items from member)
      simp only [list.sizeOf_spec]
      omega
  | tuple stamp items =>
      have smaller := List.sizeOf_lt_of_mem (show s ∈ items from member)
      simp only [tuple.sizeOf_spec]
      omega
  | map kind stamp entries =>
      obtain ⟨⟨key, value⟩, inside, rfl⟩ := List.mem_map.1 (show s ∈ Entries.values entries from member)
      have smaller := List.sizeOf_lt_of_mem inside
      simp only [Prod.mk.sizeOf_spec] at smaller
      simp only [map.sizeOf_spec]
      omega
  | _ => cases member

/-- What holds of a term as soon as it holds of the terms in it holds of every term. -/
theorem inner_induction {P : Term → Prop} (step : ∀ t, (∀ s ∈ t.inner, P s) → P t) (t : Term) :
    P t :=
  step t fun s _ => inner_induction step s
termination_by sizeOf t
decreasing_by exact sizeOf_inner (by assumption)

@[simp] theorem inner_withStamp (stamp : Option Stamp) (t : Term) :
    (t.withStamp stamp).inner = t.inner := by
  cases t <;> rfl

end

end Term

namespace Environment

/-- `P` holds of all bindings. -/
def EachBinding (P : Term → Prop) (env : Environment Term) : Prop :=
  ∀ layer ∈ env.layers, ∀ entry ∈ layer, P entry.2

variable {P : Term → Prop} {env : Environment Term}

theorem eachBinding_iff : env.EachBinding P ↔
    (∀ entry ∈ env.overrides, P entry.2) ∧ ∀ scope ∈ env.scopes, ∀ entry ∈ scope, P entry.2 := by
  simp [EachBinding, layers]

theorem EachBinding.mono {Q : Term → Prop} (each : env.EachBinding P) (imp : ∀ t, P t → Q t) :
    env.EachBinding Q :=
  fun layer inside entry member => imp _ (each layer inside entry member)

theorem EachBinding.lookup? (each : env.EachBinding P) {name value : Term}
    (found : env.lookup? name = some value) : P value := by
  obtain ⟨layer, inside, found⟩ := List.exists_of_findSome?_eq_some found
  obtain ⟨_, member, _⟩ := Entries.mem_of_find? found
  exact each layer inside _ member

/-- A scope that is entered has to keep to `P`, too. -/
theorem EachBinding.child (each : env.EachBinding P) {scope : Entries}
    (more : ∀ entry ∈ scope, P entry.2) : (env.child scope).EachBinding P := by
  unfold Environment.child
  split
  · exact each
  · obtain ⟨overrides, scopes⟩ := eachBinding_iff.1 each
    refine eachBinding_iff.2 ⟨overrides, fun layer inside => ?_⟩
    rcases List.mem_append.1 inside with before | last
    · exact scopes layer before
    · rw [List.mem_singleton.1 last]
      exact more

end Environment

/-- Entries of a mapping that are left or were evaluated; the names of its defaults are the same. -/
structure Entries.Reduced (key : Term) (original entries : Entries) : Prop where
  keys : (Entries.keys entries).Sublist (Entries.keys original)
  scope : ∀ kind stamp scope, Entries.find? entries key = some (.map kind stamp scope) →
    ∃ kind' stamp' scope', Entries.find? original key = some (.map kind' stamp' scope') ∧
      Entries.keys scope = Entries.keys scope'

/-! ## Domains -/

/-- The terms and environments that a resolution is about. -/
structure Domain where
  meaning : Meaning
  /-- Whether the order of the entries of mappings is forgotten. -/
  sorts : Bool
  Stage : Type
  Later : Stage → Stage → Prop
  /-- The next unused stamp at a stage. -/
  reached : Stage → Stamp → Prop
  /-- What may stand at a place of a term. -/
  fits : Stage → Term → Prop
  admits : Stage → Environment Term → Prop
  /-- What is assumed of the events of a resolution. -/
  trusts : List Event → Prop

namespace Domain

variable (domain : Domain)

/-- Terms that belong to a domain at a stage. -/
def Holds (stage : domain.Stage) (t : Term) : Prop := t.Everywhere (domain.fits stage)

/--
Functions of the domain leave the tables as they are, and what they give depends on the outlines of
their arguments only.
-/
def IsPure : Prop :=
  ∀ ⦃stage world stamp name deps doc callee args ceiling⦄ levels, domain.reached stage world.nextStamp →
    domain.Holds stage (.function stamp name deps doc callee) →
    (∀ arg ∈ args, domain.Holds stage arg) →
      After (invoke (resolveTerm ceiling levels) callee (.function stamp name deps doc callee) args) world
        (fun result world' => world.Grows world' ∧ (∃ stage', domain.Later stage stage' ∧
          domain.reached stage' world'.nextStamp ∧ domain.Holds stage' result) ∧
          domain.meaning.apply (.function stamp name deps doc callee)
            (args.map (Term.outline domain.sorts)) = some (result.outline domain.sorts))
        (fun failure world' => world.Grows world' ∧
          (∃ stage', domain.Later stage stage' ∧ domain.reached stage' world'.nextStamp) ∧
          (failure.isLimit = false → domain.meaning.apply (.function stamp name deps doc callee)
            (args.map (Term.outline domain.sorts)) = none))

variable {domain} in
/-- A domain without other functions is pure. -/
theorem isPure_keeper (name : String) (refl : ∀ stage, domain.Later stage stage)
    (gives : domain.meaning.apply = fun _ args => args[0]?)
    (alone : ∀ {stage t}, domain.fits stage t → Classifier.shapeKind t = .function →
      t = .keeper name) : domain.IsPure := by
  intro stage world stamp label deps doc callee args ceiling levels reached holds valued
  cases alone holds.here rfl
  rw [gives]
  refine after_bind.2 (after_modify.2 ?_)
  cases args with
  | nil => exact ⟨⟨List.prefix_refl _, rfl⟩, ⟨stage, refl stage, reached⟩, fun _ => rfl⟩
  | cons arg rest =>
      exact ⟨⟨List.prefix_refl _, rfl⟩,
        ⟨stage, refl stage, reached, valued arg List.mem_cons_self⟩, rfl⟩

/-- The terms that take the place of others are of the domain, and functions are pure in it. -/
structure Lawful : Prop where
  rules : domain.meaning.resolver.rules = Rule.standard
  refl : ∀ stage, domain.Later stage stage
  trans : ∀ {first second third}, domain.Later first second → domain.Later second third →
    domain.Later first third
  fits_later : ∀ {stage stage' t}, domain.Later stage stage' → domain.fits stage t →
    domain.fits stage' t
  admits_later : ∀ {stage stage' env}, domain.Later stage stage' → domain.admits stage env →
    domain.admits stage' env
  declarative : ∀ {stage t}, domain.fits stage t →
    Classifier.shapeKind t ≠ .callable ∧ t.isView = false
  name : ∀ stage s, domain.fits stage (.ref s)
  binding : ∀ {stage env name value}, domain.admits stage env → env.lookup? name = some value →
    domain.Holds stage value
  child : ∀ {stage env kind stamp entries kind' stamp' scope}, domain.admits stage env →
    domain.Holds stage (.map kind stamp entries) →
    Entries.find? entries domain.meaning.resolver.defaultsKey = some (.map kind' stamp' scope) →
      domain.admits stage (env.child scope) ∧
        (env.child scope).bindings domain.sorts = (env.bindings domain.sorts).enter
          domain.meaning.pinned (Entries.mapValues (Term.outline domain.sorts) scope)
  list : ∀ stage items, domain.fits stage (.list .plain none items)
  tuple : ∀ stage items, domain.fits stage (.tuple none items)
  map : ∀ {stage kind stamp original entries}, domain.fits stage (.map kind stamp original) →
    Entries.Reduced domain.meaning.resolver.defaultsKey original entries →
      domain.fits stage (.map .plain none entries)
  /-- What is made gets the next stamp. -/
  stamped : ∀ {stage next} {t : Term}, domain.reached stage next → domain.fits stage (t.withStamp none) →
    ∃ stage', domain.Later stage stage' ∧ domain.reached stage' (next + 1) ∧
      domain.fits stage' (t.withStamp (some next))
  applied : domain.IsPure
  trusts_suffix : ∀ {events later}, events <:+ later → domain.trusts later → domain.trusts events
  /-- A fingerprint tells what names are bound to. -/
  agree : ∀ {stage events env env'}, domain.trusts events → Arises events env →
    Arises events env' → domain.admits stage env → domain.admits stage env' →
    env.fingerprint = env'.fingerprint → env.bindings domain.sorts = env'.bindings domain.sorts

variable {domain} {stage stage' : domain.Stage}

theorem Lawful.holds_later (lawful : domain.Lawful) {t : Term} (later : domain.Later stage stage')
    (holds : domain.Holds stage t) : domain.Holds stage' t :=
  holds.mono fun _ => lawful.fits_later later

/-- A collection that is given the next stamp belongs to the domain then. -/
theorem Lawful.holds_stamped (lawful : domain.Lawful) {next : Stamp} {t : Term}
    (reached : domain.reached stage next) (holds : domain.Holds stage (t.withStamp none)) :
    ∃ stage', domain.Later stage stage' ∧ domain.reached stage' (next + 1) ∧
      domain.Holds stage' (t.withStamp (some next)) := by
  obtain ⟨here, inner⟩ := Term.everywhere_iff.1 holds
  obtain ⟨stage', later, reached', fits⟩ := lawful.stamped reached here
  refine ⟨stage', later, reached', fits, fun s member => ?_⟩
  rw [Term.inner_withStamp] at member inner
  exact lawful.holds_later later (inner s member)

/-- The same for the stamp of a copy. -/
theorem Lawful.holds_restamped (lawful : domain.Lawful) (t : Term) {next : Stamp}
    (reached : domain.reached stage next) (holds : domain.Holds stage (t.withStamp none))
    (stamp : Option Stamp) :
    ∃ stage', domain.Later stage stage' ∧ domain.reached stage' (Term.restamp next stamp).2 ∧
      domain.Holds stage' (t.withStamp (Term.restamp next stamp).1) := by
  cases stamp with
  | none => exact ⟨stage, lawful.refl stage, reached, holds⟩
  | some _ => exact lawful.holds_stamped reached holds

theorem keys_detachEntries (next : Stamp) (entries : Entries) :
    Entries.keys (Term.detachEntries next entries).1 = Entries.keys entries := by
  unfold Entries.keys
  induction entries generalizing next with
  | nil => rfl
  | cons entry rest ih => rw [Term.detachEntries, List.map_cons, List.map_cons, ih]

/-- A copy of a mapping is a copy of its scope of defaults, too. -/
theorem scope_detachEntries (next : Stamp) (entries : Entries) (key : Term) {kind : MapKind}
    {stamp : Option Stamp} {scope : Entries}
    (found : Entries.find? (Term.detachEntries next entries).1 key = some (.map kind stamp scope)) :
    ∃ kind' stamp' scope', Entries.find? entries key = some (.map kind' stamp' scope') ∧
      Entries.keys scope = Entries.keys scope' := by
  induction entries generalizing next with
  | nil => cases found
  | cons entry rest ih =>
      rw [Term.detachEntries, Entries.find?_cons] at found
      rw [Entries.find?_cons]
      split at found
      · next same =>
          rw [if_pos same]
          cases shape : entry.2 with
          | map kind' stamp' scope' =>
              rw [shape] at found
              cases kind' with
              | plain =>
                  rw [Term.detach] at found
                  cases found
                  exact ⟨_, _, _, rfl, keys_detachEntries next scope'⟩
              | frame =>
                  cases found
                  exact ⟨_, _, _, rfl, rfl⟩
          | list kind' _ _ =>
              rw [shape] at found
              cases kind' <;> cases found
          | _ =>
              rw [shape] at found
              cases found
      · next differs =>
          rw [if_neg differs]
          exact ih _ found

mutual

/-- A copy belongs to the domain when its stamps are taken. -/
theorem Lawful.detach (lawful : domain.Lawful) {stage : domain.Stage} {next : Stamp}
    (reached : domain.reached stage next) : (t : Term) → domain.Holds stage t →
      ∃ stage', domain.Later stage stage' ∧ domain.reached stage' (t.detach next).2 ∧
        domain.Holds stage' (t.detach next).1
  | .list .plain stamp items, holds => by
      obtain ⟨stage', later, reached', each⟩ :=
        Lawful.detachItems lawful reached items (Term.everywhere_list.1 holds).2
      have copied : domain.Holds stage' (.list .plain none (Term.detachItems next items).1) :=
        Term.everywhere_list.2 ⟨lawful.list _ _, each⟩
      obtain ⟨stage'', later', reached'', made⟩ := lawful.holds_restamped
        (.list .plain none (Term.detachItems next items).1) reached' copied stamp
      exact ⟨stage'', lawful.trans later later', reached'', made⟩
  | .tuple stamp items, holds => by
      obtain ⟨stage', later, reached', each⟩ :=
        Lawful.detachItems lawful reached items (Term.everywhere_tuple.1 holds).2
      have copied : domain.Holds stage' (.tuple none (Term.detachItems next items).1) :=
        Term.everywhere_tuple.2 ⟨lawful.tuple _ _, each⟩
      obtain ⟨stage'', later', reached'', made⟩ := lawful.holds_restamped
        (.tuple none (Term.detachItems next items).1) reached' copied stamp
      exact ⟨stage'', lawful.trans later later', reached'', made⟩
  | .map .plain stamp entries, holds => by
      obtain ⟨here, values⟩ := Term.everywhere_map.1 holds
      obtain ⟨stage', later, reached', each⟩ :=
        Lawful.detachEntries lawful reached entries values
      have copied : domain.Holds stage' (.map .plain none (Term.detachEntries next entries).1) := by
        refine Term.everywhere_map.2 ⟨lawful.map (lawful.fits_later later here) ⟨?_, ?_⟩, each⟩
        · rewrite [keys_detachEntries]
          exact List.Sublist.refl _
        · exact fun _ _ _ found => scope_detachEntries next entries _ found
      obtain ⟨stage'', later', reached'', made⟩ := lawful.holds_restamped
        (.map .plain none (Term.detachEntries next entries).1) reached' copied stamp
      exact ⟨stage'', lawful.trans later later', reached'', made⟩
  | .list .rows _ _, holds | .map .frame _ _, holds | .null, holds | .bool _, holds
  | .int _, holds | .float _, holds | .nan _, holds | .text _ _, holds | .bytes _, holds
  | .set _ _, holds | .point _ _, holds | .removed, holds | .function _ _ _ _ _, holds
  | .callable _ _ _ _ _, holds | .builtin _, holds | .type _, holds | .internal _, holds
  | .view _ _ _ _, holds => ⟨stage, lawful.refl stage, reached, holds⟩

theorem Lawful.detachItems (lawful : domain.Lawful) {stage : domain.Stage} {next : Stamp}
    (reached : domain.reached stage next) : (items : List Term) →
      (∀ item ∈ items, domain.Holds stage item) → ∃ stage', domain.Later stage stage' ∧
        domain.reached stage' (Term.detachItems next items).2 ∧
        ∀ item ∈ (Term.detachItems next items).1, domain.Holds stage' item
  | [], _ => ⟨stage, lawful.refl stage, reached, fun item member => absurd member List.not_mem_nil⟩
  | t :: ts, holds => by
      obtain ⟨first, others⟩ := List.forall_mem_cons.1 holds
      obtain ⟨stage', later, reached', copied⟩ := Lawful.detach lawful reached t first
      obtain ⟨stage'', later', reached'', each⟩ := Lawful.detachItems lawful reached' ts
        fun item member => lawful.holds_later later (others item member)
      refine ⟨stage'', lawful.trans later later', reached'', ?_⟩
      exact List.forall_mem_cons.2 ⟨lawful.holds_later later' copied, each⟩

theorem Lawful.detachEntries (lawful : domain.Lawful) {stage : domain.Stage} {next : Stamp}
    (reached : domain.reached stage next) : (entries : List (Term × Term)) →
      (∀ entry ∈ entries, domain.Holds stage entry.2) → ∃ stage', domain.Later stage stage' ∧
        domain.reached stage' (Term.detachEntries next entries).2 ∧
        ∀ entry ∈ (Term.detachEntries next entries).1, domain.Holds stage' entry.2
  | [], _ => ⟨stage, lawful.refl stage, reached, fun item member => absurd member List.not_mem_nil⟩
  | (key, value) :: rest, holds => by
      obtain ⟨first, others⟩ := List.forall_mem_cons.1 holds
      obtain ⟨stage', later, reached', copied⟩ := Lawful.detach lawful reached value first
      obtain ⟨stage'', later', reached'', each⟩ := Lawful.detachEntries lawful reached' rest
        fun entry member => lawful.holds_later later (others entry member)
      refine ⟨stage'', lawful.trans later later', reached'', ?_⟩
      exact List.forall_mem_cons.2 ⟨lawful.holds_later later' copied, each⟩

end

end Domain

end ScopedTemplate
