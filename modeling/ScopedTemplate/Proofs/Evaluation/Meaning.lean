import ScopedTemplate.Proofs.Term.Outline

/-!
# What templates mean

The plain reading of the rules: a template is evaluated by recursion under what its names are bound
to, without a table, without limits, and without a search for cycles.  Terms are read as outlines,
and functions by what they give for the outlines of their arguments.

Evaluation is bounded by the depth of the recursion; a term has a value if it has one at some depth,
and then it has the same one at every greater depth.
-/

namespace ScopedTemplate

/-! ## Bindings -/

abbrev Bindings := String → Option Term

namespace Bindings

/-- The binding of a name, unless the name is bound to itself. -/
def target? (bindings : Bindings) (name : String) : Option Term :=
  (bindings name).filter fun binding => !isSelfBinding binding (.ref name)

/-- Enter a scope, which binds all names anew but the pinned ones. -/
def enter (bindings : Bindings) (pinned : String → Bool) (scope : Entries) : Bindings := fun name =>
  if pinned name then bindings name else Entries.find? scope (.ref name) <|> bindings name

end Bindings

namespace Environment

def bindings (sorts : Bool) (env : Environment Term) : Bindings := fun name =>
  (env.lookup? (.ref name)).map (Term.outline sorts)

/-- The names that scopes cannot bind anew, since they are overridden. -/
def pinned (env : Environment Term) (name : String) : Bool := Entries.has env.overrides (.ref name)

variable {sorts : Bool} {env : Environment Term}

theorem find?_asRef (entries : Entries) (kind : TextKind) (s : String) :
    Entries.find? entries (.text kind s) = Entries.find? entries (.ref s) := by
  have same : (Term.text kind s).sameKey (.ref s) = true := by simp
  induction entries with
  | nil => rfl
  | cons entry rest ih =>
      rw [Entries.find?_cons, Entries.find?_cons, ih, Term.sameKey_comm, Term.sameKey_congr same,
        Term.sameKey_comm]

theorem lookup?_asRef (env : Environment Term) (kind : TextKind) (s : String) :
    env.lookup? (.text kind s) = env.lookup? (.ref s) := by
  unfold lookup?
  refine congrArg (List.findSome? · env.layers) (funext fun layer => ?_)
  exact find?_asRef layer kind s

theorem isSelfBinding_outline (binding name : Term) :
    isSelfBinding (binding.outline sorts) name = isSelfBinding binding name := by
  unfold isSelfBinding
  rw [Term.text?_outline]

/-- A name has the same target in an environment and in what it binds. -/
theorem target?_bindings (env : Environment Term) (kind : TextKind) (s : String) :
    (env.bindings sorts).target? s = (env.target? (.text kind s)).map (Term.outline sorts) := by
  unfold Bindings.target? Environment.bindings Environment.target?
  rw [lookup?_asRef env kind s]
  cases env.lookup? (.ref s) with
  | none => rfl
  | some binding =>
      have self : isSelfBinding (binding.outline sorts) (.ref s) =
          isSelfBinding binding (.text kind s) := isSelfBinding_outline binding _
      simp only [Option.map_some, Option.filter_some, self]
      cases isSelfBinding binding (.text kind s) <;> rfl

/-- A scope that is entered binds all names but the overridden ones. -/
theorem bindings_child (env : Environment Term) (scope : Entries) :
    (env.child scope).bindings sorts =
      (env.bindings sorts).enter env.pinned (Entries.mapValues (Term.outline sorts) scope) := by
  funext name
  have here : ∀ env : Environment Term, env.bindings sorts name =
      (env.lookup? (.ref name)).map (Term.outline sorts) := fun _ => rfl
  unfold Bindings.enter pinned Entries.has
  rw [here, here, lookup?_child, lookup?_eq, Entries.find?_mapValues]
  cases Entries.find? env.overrides (.ref name) with
  | some value => rfl
  | none => cases Entries.find? scope (.ref name) <;> rfl

@[simp] theorem pinned_child (env : Environment Term) (scope : Entries) :
    (env.child scope).pinned = env.pinned := by
  unfold child pinned
  split <;> rfl

/-- The order of a scope does not matter when it is entered. -/
theorem enter_arrange (bindings : Bindings) (pinned : String → Bool) (scope : Entries) :
    bindings.enter pinned (Entries.arrange sorts scope) = bindings.enter pinned scope := by
  funext name
  unfold Bindings.enter
  rw [Entries.find?_arrange]

end Environment

/-! ## Evaluation -/

/-- What decides the value of a term beside the bindings of names. -/
structure Meaning where
  /-- Settings and leaf types. -/
  resolver : Resolver Term
  /-- The names that scopes of defaults cannot bind anew. -/
  pinned : String → Bool
  /-- What a function gives for arguments. -/
  apply : Term → List Term → Option Term

def Entries.traverse (change : Term → Option Term) (entries : Entries) : Option Entries :=
  entries.mapM fun entry => (change entry.2).map (Prod.mk entry.1)

namespace Meaning

variable (meaning : Meaning)

section

variable (value : Bindings → Term → Option Term) (bindings : Bindings)

def nameValue (name : String) : Option Term :=
  match bindings.target? name with
  | none => some (.ref name)
  | some binding => value bindings binding

/-- The value of a function: that of what it gives for the values of its dependencies. -/
def applied (function : Term) (deps : List String) : Option Term := do
  let args ← deps.mapM (nameValue value bindings)
  if meaning.resolver.config.checkDependencies && args.any meaning.resolver.classifier.isRef then none
  else value bindings (← meaning.apply function args)

/-- The value of a mapping without defaults: the values of its entries, unless they are dropped. -/
def gathered (entries : Entries) : Option Term := do
  let values ← entries.traverse (value bindings)
  (meaning.resolver.checkValues (Entries.values values)).toOption
  return .map .plain none (values.filter (!meaning.resolver.drops ·.2))

def mapped (entries : Entries) : Option Term :=
  match Entries.find? entries meaning.resolver.defaultsKey with
  | none => gathered meaning value bindings entries
  | some (.map _ _ scope) =>
    gathered meaning value (bindings.enter meaning.pinned scope)
      (Entries.erase entries meaning.resolver.defaultsKey)
  | some _ => none

def elements (items : List Term) : Option (List Term) := do
  let values ← items.mapM (value bindings)
  (meaning.resolver.checkValues values).toOption
  return values.filter (!meaning.resolver.drops ·)

def valueOf (t : Term) (kind : Kind) : Option Term :=
  match kind, t with
  | .ref, .text kind s => (bindings.target? s).elim (some (.text kind s)) (value bindings)
  | .function, .function stamp name deps doc callee =>
    applied meaning value bindings (.function stamp name deps doc callee) deps
  | .mapping, .map _ _ entries => mapped meaning value bindings entries
  | .sequence, .list _ _ items => (elements meaning value bindings items).map (.list .plain none)
  | .sequence, .tuple _ items => (elements meaning value bindings items).map (.tuple none)
  | .removed, t | .scalar, t => some t
  | _, _ => none

end

def evaluate : Nat → Bindings → Term → Option Term
  | 0, _, _ => none
  | depth + 1, bindings, t => do
    let kind ← (meaning.resolver.classifier.classify t).toOption
    valueOf meaning (evaluate depth) bindings t kind

def Evaluates (bindings : Bindings) (t value : Term) : Prop :=
  ∃ depth, meaning.evaluate depth bindings t = some value

end Meaning

/-! ## Many terms -/

section

variable {α β : Type} {change change' : α → Option β} {items : List α} {results : List β}

theorem mapM_cons_eq_some {item : α} {result : List β} :
    (item :: items).mapM change = some result ↔
      ∃ first rest, change item = some first ∧ items.mapM change = some rest ∧
        result = first :: rest := by
  rw [List.mapM_cons]
  cases change item with
  | none => simp
  | some first => cases items.mapM change <;> simp [eq_comm]

theorem mapM_mono (imp : ∀ item ∈ items, ∀ result, change item = some result →
    change' item = some result) (found : items.mapM change = some results) :
    items.mapM change' = some results := by
  induction items generalizing results with
  | nil => exact found
  | cons item rest ih =>
      obtain ⟨first, others, here, later, rfl⟩ := mapM_cons_eq_some.1 found
      obtain ⟨imp_first, imp_rest⟩ := List.forall_mem_cons.1 imp
      exact mapM_cons_eq_some.2 ⟨first, others, imp_first _ here, ih imp_rest later, rfl⟩

end

namespace Entries

variable {change : Term → Option Term} {entries values : Entries}

theorem traverse_cons_eq_some {key t : Term} :
    traverse change ((key, t) :: entries) = some values ↔
      ∃ value rest, change t = some value ∧ traverse change entries = some rest ∧
        values = (key, value) :: rest := by
  refine mapM_cons_eq_some.trans ?_
  cases change t with
  | none => simp
  | some value => simp [traverse]

/-- All of the values are changed. -/
theorem traverse_eq_some : traverse change entries = some values ↔
    (∀ entry ∈ entries, (change entry.2).isSome = true) ∧
      values = mapValues (fun t => (change t).getD .null) entries := by
  induction entries generalizing values with
  | nil =>
      refine ⟨fun found => ⟨fun entry member => absurd member List.not_mem_nil, ?_⟩, ?_⟩
      · exact (Option.some.inj found).symm
      · rintro ⟨_, rfl⟩
        rfl
  | cons entry rest ih =>
      refine traverse_cons_eq_some.trans ?_
      rw [List.forall_mem_cons]
      unfold mapValues at ih ⊢
      rw [List.map_cons]
      constructor
      · rintro ⟨value, others, here, later, rfl⟩
        obtain ⟨each, rfl⟩ := ih.1 later
        refine ⟨⟨Option.isSome_iff_exists.2 ⟨value, here⟩, each⟩, ?_⟩
        dsimp only
        rw [here, Option.getD_some]
      · rintro ⟨⟨here, each⟩, rfl⟩
        obtain ⟨value, found⟩ := Option.isSome_iff_exists.1 here
        refine ⟨value, _, found, ih.2 ⟨each, rfl⟩, ?_⟩
        dsimp only
        rw [found, Option.getD_some]

/-- Entries may be put in order before or after what is under their keys is changed. -/
theorem traverse_arrange (sorts : Bool) :
    traverse change (arrange sorts entries) = (traverse change entries).map (arrange sorts) := by
  refine Option.ext fun values => ?_
  rw [Option.map_eq_some_iff, traverse_eq_some]
  constructor
  · rintro ⟨each, rfl⟩
    refine ⟨_, traverse_eq_some.2 ⟨fun entry member => each entry (mem_arrange.2 member), rfl⟩, ?_⟩
    exact arrange_mapValues _ entries
  · rintro ⟨found, changed, rfl⟩
    obtain ⟨each, rfl⟩ := traverse_eq_some.1 changed
    exact ⟨fun entry member => each entry (mem_arrange.1 member), arrange_mapValues _ entries⟩

theorem traverse_mono {change' : Term → Option Term}
    (imp : ∀ t value, change t = some value → change' t = some value)
    (found : traverse change entries = some values) : traverse change' entries = some values := by
  refine mapM_mono (fun entry _ result changed => ?_) found
  obtain ⟨value, here, rfl⟩ := Option.map_eq_some_iff.1 changed
  exact Option.map_eq_some_iff.2 ⟨value, imp _ _ here, rfl⟩

end Entries

namespace Meaning

variable {meaning : Meaning} {bindings : Bindings}

/-! ## Depth -/

section

variable {value value' : Bindings → Term → Option Term} {result : Term}

theorem nameValue_mono (imp : ∀ bindings t result, value bindings t = some result →
    value' bindings t = some result) {name : String}
    (found : nameValue value bindings name = some result) :
    nameValue value' bindings name = some result := by
  unfold nameValue at found ⊢
  split
  · next unbound =>
      rw [unbound] at found
      exact found
  · next binding bound =>
      rw [bound] at found
      exact imp _ _ _ found

theorem applied_mono (imp : ∀ bindings t result, value bindings t = some result →
    value' bindings t = some result) {function : Term} {deps : List String}
    (found : meaning.applied value bindings function deps = some result) :
    meaning.applied value' bindings function deps = some result := by
  unfold applied at found ⊢
  obtain ⟨args, valued, found⟩ := Option.bind_eq_some_iff.1 found
  refine Option.bind_eq_some_iff.2 ⟨args, mapM_mono (fun _ _ _ => nameValue_mono imp) valued, ?_⟩
  split
  · next refused =>
      rw [if_pos refused] at found
      cases found
  · next accepted =>
      rw [if_neg accepted] at found
      obtain ⟨made, gives, found⟩ := Option.bind_eq_some_iff.1 found
      exact Option.bind_eq_some_iff.2 ⟨made, gives, imp _ _ _ found⟩

theorem gathered_mono (imp : ∀ bindings t result, value bindings t = some result →
    value' bindings t = some result) {entries : Entries}
    (found : meaning.gathered value bindings entries = some result) :
    meaning.gathered value' bindings entries = some result := by
  unfold gathered at found ⊢
  obtain ⟨values, valued, found⟩ := Option.bind_eq_some_iff.1 found
  exact Option.bind_eq_some_iff.2 ⟨values, Entries.traverse_mono (imp _) valued, found⟩

theorem mapped_mono (imp : ∀ bindings t result, value bindings t = some result →
    value' bindings t = some result) {entries : Entries}
    (found : meaning.mapped value bindings entries = some result) :
    meaning.mapped value' bindings entries = some result := by
  unfold mapped at found ⊢
  split at found
  · exact gathered_mono imp found
  · exact gathered_mono imp found
  · cases found

theorem elements_mono (imp : ∀ bindings t result, value bindings t = some result →
    value' bindings t = some result) {items results : List Term}
    (found : meaning.elements value bindings items = some results) :
    meaning.elements value' bindings items = some results := by
  unfold elements at found ⊢
  obtain ⟨values, valued, found⟩ := Option.bind_eq_some_iff.1 found
  exact Option.bind_eq_some_iff.2 ⟨values, mapM_mono (fun _ _ => imp _ _) valued, found⟩

theorem valueOf_mono (imp : ∀ bindings t result, value bindings t = some result →
    value' bindings t = some result) {t : Term} {kind : Kind}
    (found : meaning.valueOf value bindings t kind = some result) :
    meaning.valueOf value' bindings t kind = some result := by
  unfold valueOf at found ⊢
  split at found
  · next s =>
      cases target : bindings.target? s with
      | none =>
          rw [target] at found
          exact found
      | some binding =>
          rw [target] at found
          exact imp _ _ _ found
  · exact applied_mono imp found
  · exact mapped_mono imp found
  · obtain ⟨results, valued, rfl⟩ := Option.map_eq_some_iff.1 found
    exact Option.map_eq_some_iff.2 ⟨results, elements_mono imp valued, rfl⟩
  · obtain ⟨results, valued, rfl⟩ := Option.map_eq_some_iff.1 found
    exact Option.map_eq_some_iff.2 ⟨results, elements_mono imp valued, rfl⟩
  · exact found
  · exact found
  · cases found

end

theorem evaluate_succ {depth : Nat} {t result : Term}
    (found : meaning.evaluate depth bindings t = some result) :
    meaning.evaluate (depth + 1) bindings t = some result := by
  induction depth generalizing bindings t result with
  | zero => cases found
  | succ depth ih =>
      obtain ⟨kind, classified, found⟩ := Option.bind_eq_some_iff.1 found
      exact Option.bind_eq_some_iff.2 ⟨kind, classified, valueOf_mono (fun _ _ _ => ih) found⟩

/-- A value at some depth is the value at every greater depth. -/
theorem evaluate_mono {depth depth' : Nat} (le : depth ≤ depth') {t result : Term}
    (found : meaning.evaluate depth bindings t = some result) :
    meaning.evaluate depth' bindings t = some result := by
  induction le with
  | refl => exact found
  | step _ ih => exact evaluate_succ ih

/-- A term has one value at most. -/
theorem Evaluates.unique {t value value' : Term} (first : meaning.Evaluates bindings t value)
    (second : meaning.Evaluates bindings t value') : value = value' := by
  obtain ⟨depth, found⟩ := first
  obtain ⟨depth', found'⟩ := second
  have later := evaluate_mono (Nat.le_max_left depth depth') found
  have later' := evaluate_mono (Nat.le_max_right depth depth') found'
  exact Option.some.inj (later.symm.trans later')

/-! ## Outlines of collections -/

section

variable {value : Bindings → Term → Option Term} {sorts : Bool}

theorem checkValues_toOption {resolver : Resolver Term} {values : List Term} {done : Unit} :
    (resolver.checkValues values).toOption = some done ↔ resolver.checkValues values = .ok () := by
  cases resolver.checkValues values <;> simp [Except.toOption]

theorem checkValues_outline {resolver : Resolver Term} {values : List Term} :
    resolver.checkValues (values.map (Term.outline sorts)) = .ok () ↔
      resolver.checkValues values = .ok () := by
  rw [Resolver.checkValues_eq_ok, Resolver.checkValues_eq_ok]
  simp

theorem checkValues_arrange {resolver : Resolver Term} {values : Entries} :
    resolver.checkValues (Entries.values
        (Entries.mapValues (Term.outline sorts) (Entries.arrange sorts values))) = .ok () ↔
      resolver.checkValues (Entries.values values) = .ok () := by
  have same : Entries.values (Entries.mapValues (Term.outline sorts) (Entries.arrange sorts values)) =
      (Entries.values (Entries.arrange sorts values)).map (Term.outline sorts) := by
    simp [Entries.values, Entries.mapValues]
  have perm := (Entries.arrange_perm sorts values).map Prod.snd
  rw [same, checkValues_outline, Resolver.checkValues_eq_ok, Resolver.checkValues_eq_ok]
  unfold Entries.values
  simp only [perm.mem_iff]

theorem gathered_eq_some {entries : Entries} {result : Term} :
    meaning.gathered value bindings entries = some result ↔
      ∃ values, entries.traverse (value bindings) = some values ∧
        meaning.resolver.checkValues (Entries.values values) = .ok () ∧
        result = .map .plain none (values.filter (!meaning.resolver.drops ·.2)) := by
  unfold gathered
  simp only [bind, pure, Option.bind_eq_some_iff, checkValues_toOption, exists_const,
    Option.some.injEq, eq_comm (b := result)]

theorem elements_eq_some {items results : List Term} :
    meaning.elements value bindings items = some results ↔
      ∃ values, items.mapM (value bindings) = some values ∧
        meaning.resolver.checkValues values = .ok () ∧
        results = values.filter (!meaning.resolver.drops ·) := by
  unfold elements
  simp only [bind, pure, Option.bind_eq_some_iff, checkValues_toOption, exists_const,
    Option.some.injEq, eq_comm (b := results)]

/-- The entries of the outline of a mapping have values if those of the mapping do. -/
theorem gathered_outline {entries values : Entries} {stamp : Option Stamp}
    (found : (Entries.mapValues (Term.outline sorts) entries).traverse (value bindings) =
      some (Entries.mapValues (Term.outline sorts) values))
    (checked : meaning.resolver.checkValues (Entries.values values) = .ok ()) :
    meaning.gathered value bindings
        (Entries.mapValues (Term.outline sorts) (Entries.arrange sorts entries)) =
      some ((Term.map .plain stamp (values.filter (!meaning.resolver.drops ·.2))).outline sorts) := by
  have accepted : meaning.resolver.checkValues (Entries.values
      (Entries.mapValues (Term.outline sorts) (Entries.arrange sorts values))) = .ok () :=
    checkValues_arrange.2 checked
  refine gathered_eq_some.2 ⟨_, ?_, accepted, ?_⟩
  · rw [← Entries.arrange_mapValues, Entries.traverse_arrange, found, ← Entries.arrange_mapValues]
    rfl
  · rw [Term.outline_map, Entries.arrange_filter]
    unfold Entries.mapValues
    rw [List.filter_map]
    simp [Function.comp_def]

theorem traverse_of_gathered {entries : Entries} {result : Term}
    (found : meaning.gathered value bindings
      (Entries.mapValues (Term.outline sorts) (Entries.arrange sorts entries)) = some result) :
    ∃ values, (Entries.mapValues (Term.outline sorts) entries).traverse (value bindings) =
        some values ∧
      meaning.resolver.checkValues (Entries.values (Entries.arrange sorts values)) = .ok () := by
  obtain ⟨_, valued, checked, _⟩ := gathered_eq_some.1 found
  rw [← Entries.arrange_mapValues, Entries.traverse_arrange] at valued
  obtain ⟨values, traversed, rfl⟩ := Option.map_eq_some_iff.1 valued
  exact ⟨values, traversed, checked⟩

end

end Meaning

end ScopedTemplate
