import ScopedTemplate.Proofs.Evaluation.Outcome

/-!
# Resolution refines evaluation

A resolver with the built-in rules and a fresh table gives a template the value that its plain
meaning gives it, if fingerprints tell the environments apart in which names are looked up.  It fails
when there is no such value, or when a limit is met.
-/

namespace ScopedTemplate

open Run

/-! ## Declarative terms -/

/-- A term that is no callable and no view of an environment; if it is a function, it is a known one. -/
structure Term.IsDeclarative (functions : Term → Prop) (t : Term) : Prop where
  noCallable : Classifier.shapeKind t ≠ .callable
  noView : t.isView = false
  known : Classifier.shapeKind t = .function → functions t

/-- Terms that are declarative at every place that evaluation reaches. -/
abbrev Term.Declarative (functions : Term → Prop) (t : Term) : Prop :=
  t.Everywhere (Term.IsDeclarative functions)

/-- In environments with one fingerprint names are bound to the same. -/
def Discerning (events : List Event) : Prop :=
  ∀ env env', Arises events env → Arises events env' → env.fingerprint = env'.fingerprint →
    env.bindings false = env'.bindings false

/-- The same, perhaps up to the order of mappings. -/
def Discerns (sorts : Bool) (events : List Event) : Prop :=
  ∀ env env', Arises events env → Arises events env' → env.fingerprint = env'.fingerprint →
    env.bindings sorts = env'.bindings sorts

theorem Discerns.suffix {sorts : Bool} {events later : List Event} (suffix : events <:+ later)
    (discerns : Discerns sorts later) : Discerns sorts events :=
  fun env env' arises arises' => discerns env env' (arises.suffix suffix) (arises'.suffix suffix)

/-- Lookups in one environment only cannot confuse environments. -/
theorem discerning_of_replicate {events : List Event} (count : Nat) (env : Environment Term)
    (scopes : events.filterMap Event.scope? = List.replicate count env) : Discerning events := by
  have alone : ∀ arisen, Arises events arisen → arisen = env := by
    rintro arisen ⟨event, member, here⟩
    have inside : arisen ∈ events.filterMap Event.scope? := List.mem_filterMap.2 ⟨event, member, here⟩
    rw [scopes] at inside
    exact List.eq_of_mem_replicate inside
  intro first second arises arises' _
  rw [alone first arises, alone second arises']

namespace Domain

variable (functions : Term → Prop) (meaning : Meaning)

/-- Declarative terms under a fixed set of overridden names, perhaps up to the order of mappings. -/
def discerning (sorts : Bool) : Domain where
  meaning := meaning
  sorts := sorts
  Stage := Unit
  Later _ _ := True
  reached _ _ := True
  fits _ := Term.IsDeclarative functions
  admits _ env := env.EachBinding (Term.Declarative functions) ∧ env.pinned = meaning.pinned
  trusts := Discerns sorts

/-- Declarative terms under a fixed set of overridden names. -/
def declarative : Domain where
  meaning := meaning
  sorts := false
  Stage := Unit
  Later _ _ := True
  reached _ _ := True
  fits _ := Term.IsDeclarative functions
  admits _ env := env.EachBinding (Term.Declarative functions) ∧ env.pinned = meaning.pinned
  trusts := Discerning

variable {functions} {meaning}

/-- A stamp does not matter. -/
theorem isDeclarative_withStamp {t : Term} {stamp : Option Stamp}
    (holds : (t.withStamp none).IsDeclarative functions) :
    (t.withStamp stamp).IsDeclarative functions := by
  cases t with
  | list _ _ _ => exact ⟨nofun, rfl, nofun⟩
  | tuple _ _ => exact ⟨nofun, rfl, nofun⟩
  | map _ _ _ => exact ⟨nofun, rfl, nofun⟩
  | _ => exact holds

theorem lawful_discerning {sorts : Bool} (rules : meaning.resolver.rules = Rule.standard)
    (pure : (discerning functions meaning sorts).IsPure) :
    (discerning functions meaning sorts).Lawful where
  rules := rules
  refl _ := trivial
  trans _ _ := trivial
  fits_later _ fits := fits
  admits_later _ admits := admits
  declarative fits := ⟨fits.noCallable, fits.noView⟩
  name _ _ := ⟨nofun, rfl, nofun⟩
  binding admits found := admits.1.lookup? found
  child := by
    intro stage env kind stamp entries kind' stamp' scope admits holds found
    have inner := Term.Everywhere.find? (Term.everywhere_map.1 holds).2 found
    refine ⟨⟨admits.1.child (Term.everywhere_map.1 inner).2, ?_⟩, ?_⟩
    · rw [Environment.pinned_child]
      exact admits.2
    · rw [Environment.bindings_child, admits.2]
      rfl
  list _ _ := ⟨nofun, rfl, nofun⟩
  tuple _ _ := ⟨nofun, rfl, nofun⟩
  map _ _ := ⟨nofun, rfl, nofun⟩
  stamped _ fits := ⟨(), trivial, trivial, isDeclarative_withStamp fits⟩
  applied := pure
  trusts_suffix suffix discerns := discerns.suffix suffix
  agree discerns arises arises' _ _ same := discerns _ _ arises arises' same

theorem lawful_declarative (rules : meaning.resolver.rules = Rule.standard)
    (pure : (declarative functions meaning).IsPure) : (declarative functions meaning).Lawful :=
  lawful_discerning rules pure

end Domain

namespace Resolver

variable {resolver : Resolver Term} {template : Term} {env : Environment Term}
  {given : Option CacheId} {world : World} {functions : Term → Prop}
  {apply : Term → List Term → Option Term}

/-- A resolver that is not strict returns what it resolves. -/
theorem after_lenient (lenient : resolver.config.strict = false) {resolution : Resolution}
    {ok : Term → World → Prop} {failed : Failure → World → Prop}
    (holds : After (resolveLeniently resolution resolver template env given) world ok failed) :
    After (resolveWith resolution resolver template env given) world ok failed := by
  refine after_bind.2 (holds.mono ?_ fun _ _ ends => ends)
  intro value world' ends
  unfold checkResult
  rw [lenient]
  exact ends

/--
With the built-in rules and a fresh table, what a resolver returns for a declarative template is the
value that the template has, and the template has none if the resolver fails for another reason than
a limit, provided that functions are pure and fingerprints tell apart the environments that arise.
-/
theorem resolve_refines (stack : Stack) (rules : resolver.rules = Rule.standard)
    (lenient : resolver.config.strict = false)
    (pure : (Domain.declarative functions ⟨resolver, env.pinned, apply⟩).IsPure)
    (new : ∀ id, (given <|> world.active) = some id →
      id < world.caches.length ∧ world.cache id = .empty)
    (declared : template.Declarative functions)
    (bindings : env.EachBinding (Term.Declarative functions)) :
    (∀ value world', resolver.resolve template env given stack world = .ok value world' →
      Discerning (world'.cache (world.tableFor given)).events →
        (Meaning.mk resolver env.pinned apply).Evaluates (env.bindings false)
          (template.outline false) (value.outline false)) ∧
      ∀ failure world', resolver.resolve template env given stack world = .error failure world' →
        Discerning (world'.cache (world.tableFor given)).events → failure.isLimit = true ∨
          ∀ value, ¬ (Meaning.mk resolver env.pinned apply).Evaluates (env.bindings false)
            (template.outline false) value := by
  let domain := Domain.declarative functions ⟨resolver, env.pinned, apply⟩
  have lawful : domain.Lawful := Domain.lawful_declarative rules pure
  have admits : domain.admits () env := ⟨bindings, rfl⟩
  have reached : domain.reached () world.nextStamp := trivial
  have ends := after_lenient lenient
    (lawful.resolveLeniently stack.ceiling stack.levels new reached declared admits)
  refine ⟨fun value world' run discerning => (ends.of_ok run).2 discerning, ?_⟩
  intro failure world' run discerning
  cases limit : failure.isLimit with
  | true => exact .inl rfl
  | false =>
      refine .inr ?_
      rintro value ⟨depth, found⟩
      have limited := ends.of_error run discerning depth value found fun entry member =>
        absurd member List.not_mem_nil
      rw [limit] at limited
      cases limited

/-- A function of what a scope of defaults binds, by way of another name. -/
theorem kept_default_refines : ∃ world',
    standard.resolve (.map .plain none [
        (.str "::defaults", .map .plain none [(.str "A", .ref "B")]), (.str "v", .keeper "A")])
      ⟨[[(.str "B", .str "x")]], []⟩ none .usual .empty =
        .ok (.map .plain none [(.str "v", .str "x")]) world' ∧
      (Meaning.mk standard (fun _ => false) fun _ args => args[0]?).Evaluates
        (Environment.bindings false ⟨[[(.str "B", .str "x")]], []⟩)
        (.map .plain none [
          (.str "::defaults", .map .plain none [(.str "A", .ref "B")]), (.str "v", .keeper "A")])
        (.map .plain none [(.str "v", .str "x")]) := by
  have text : ∀ kind s, (Term.text kind s).Declarative (· = .keeper "A") :=
    fun _ _ => Term.everywhere_of_inner rfl ⟨nofun, rfl, nofun⟩
  have keeper : (Term.keeper "A").Declarative (· = .keeper "A") :=
    Term.everywhere_of_inner rfl ⟨nofun, rfl, fun _ => rfl⟩
  have declared : Term.Declarative (· = .keeper "A") (.map .plain none [
      (.str "::defaults", .map .plain none [(.str "A", .ref "B")]), (.str "v", .keeper "A")]) := by
    refine Term.everywhere_map.2 ⟨⟨nofun, rfl, nofun⟩, ?_⟩
    simp only [List.forall_mem_cons, Term.everywhere_map]
    exact ⟨⟨⟨nofun, rfl, nofun⟩, text _ _, nofun⟩, keeper, nofun⟩
  have bindings : Environment.EachBinding (Term.Declarative (· = .keeper "A"))
      ⟨[[(.str "B", .str "x")]], []⟩ := by
    refine Environment.eachBinding_iff.2 ⟨nofun, ?_⟩
    simp only [List.forall_mem_cons]
    exact ⟨⟨text _ _, nofun⟩, nofun⟩
  have pure : (Domain.declarative (· = .keeper "A")
      ⟨standard, fun _ => false, fun _ args => args[0]?⟩).IsPure := by
    refine Domain.isPure_keeper "A" (fun _ => trivial) rfl ?_
    intro stage t fits
    have declared : t.IsDeclarative (· = .keeper "A") := fits
    exact declared.known
  have new : ∀ id, ((none : Option CacheId) <|> World.empty.active) = some id →
      id < World.empty.caches.length ∧ World.empty.cache id = .empty := by
    rintro id ⟨⟩
  have rules : standard.rules = Rule.standard := rfl
  have lenient : standard.config.strict = false := rfl
  have refines := (resolve_refines .usual rules lenient pure new declared bindings).1
  -- Both names are looked up in the scope of the defaults.
  exact ⟨_, rfl, refines _ _ rfl (discerning_of_replicate 2
    ⟨[[(.str "B", .str "x")], [(.str "A", .ref "B")]], []⟩ rfl)⟩

end Resolver

end ScopedTemplate
