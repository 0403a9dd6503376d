import ScopedTemplate.Proofs.Sharing.Answers

/-!
# Names that are overridden

Whatever scopes bind a name to that is overridden, nothing comes of it.  Two requests with the same
overrides that differ in such bindings only have the same value, although they look up names under
other fingerprints.
-/

namespace ScopedTemplate

variable {stack : Stack}

open Run

/-- Nothing is left out under a key that is not there. -/
theorem Entries.erase_of_find? {entries : Entries} {key : Term}
    (missing : Entries.find? entries key = none) : Entries.erase entries key = entries := by
  induction entries with
  | nil => rfl
  | cons entry rest ih =>
      rw [Entries.find?_cons] at missing
      unfold Entries.erase at ih ⊢
      rw [List.filter_cons]
      cases same : entry.1.sameKey key with
      | true => rw [same] at missing; cases missing
      | false =>
          rw [same] at missing
          rw [ih missing]
          rfl

/-! ## Terms without the bindings of pinned names -/

def Term.bindsPinned (pinned : String → Bool) (key : Term) : Bool := key.text?.any pinned

namespace Term

variable (resolver : Resolver Term) (pinned : String → Bool)

mutual

/--
A term of which the scopes of defaults bind no pinned name, at any depth.  Leaves are not looked
into.
-/
def unpinned : Term → Term
  | .list kind stamp items =>
    if resolver.classifier.isLeaf (.list kind stamp items) then .list kind stamp items
    else .list kind stamp (unpinnedItems items)
  | .tuple stamp items =>
    if resolver.classifier.isLeaf (.tuple stamp items) then .tuple stamp items
    else .tuple stamp (unpinnedItems items)
  | .map kind stamp entries =>
    if resolver.classifier.isLeaf (.map kind stamp entries) then .map kind stamp entries
    else .map kind stamp (unpinnedEntries entries)
  | t => t

def unpinnedItems : List Term → List Term
  | [] => []
  | t :: ts => unpinned t :: unpinnedItems ts

def unpinnedEntries : List (Term × Term) → List (Term × Term)
  | [] => []
  | (key, value) :: rest =>
    (key, if key.sameKey resolver.defaultsKey then unpinnedDefaults value else unpinned value) ::
      unpinnedEntries rest

def unpinnedDefaults : Term → Term
  | .map kind stamp scope => .map kind stamp (unpinnedScope scope)
  | t => t

/-- A scope without the pinned names; what it binds other names to may hold scopes again. -/
def unpinnedScope : List (Term × Term) → List (Term × Term)
  | [] => []
  | (key, value) :: rest =>
    if key.bindsPinned pinned then unpinnedScope rest
    else (key, unpinned value) :: unpinnedScope rest

end

end Term

namespace Term

variable {resolver : Resolver Term} {pinned : String → Bool} {t : Term}

attribute [local simp] unpinned in
/-- Only collections hold scopes. -/
theorem unpinned_of_kind (single : resolver.classifier.isCollection t = false) :
    unpinned resolver pinned t = t := by
  unfold Classifier.isCollection Classifier.kind at single
  cases leaf : resolver.classifier.isLeaf t with
  | true => cases t <;> simp [leaf]
  | false =>
      rw [leaf] at single
      cases t with
      | list _ _ _ | tuple _ _ | map _ _ _ => cases single
      | _ => rfl

theorem unpinnedItems_eq_map (items : List Term) :
    unpinnedItems resolver pinned items = items.map (unpinned resolver pinned) := by
  induction items with
  | nil => rw [unpinnedItems, List.map_nil]
  | cons item rest ih => rw [unpinnedItems, List.map_cons, ih]

theorem unpinned_list {kind : ListKind} {stamp : Option Stamp} {items : List Term}
    (looked : resolver.classifier.kind (.list kind stamp items) = .sequence) :
    unpinned resolver pinned (.list kind stamp items) =
      .list kind stamp (items.map (unpinned resolver pinned)) := by
  rw [unpinned, isLeaf_of_kind (by rw [looked]; decide) rfl, if_neg nofun, unpinnedItems_eq_map]

theorem unpinned_tuple {stamp : Option Stamp} {items : List Term}
    (looked : resolver.classifier.kind (.tuple stamp items) = .sequence) :
    unpinned resolver pinned (.tuple stamp items) =
      .tuple stamp (items.map (unpinned resolver pinned)) := by
  rw [unpinned, isLeaf_of_kind (by rw [looked]; decide) rfl, if_neg nofun, unpinnedItems_eq_map]

theorem unpinned_map {kind : MapKind} {stamp : Option Stamp} {entries : Entries}
    (looked : resolver.classifier.kind (.map kind stamp entries) = .mapping) :
    unpinned resolver pinned (.map kind stamp entries) =
      .map kind stamp (unpinnedEntries resolver pinned entries) := by
  rw [unpinned, isLeaf_of_kind (by rw [looked]; decide) rfl, if_neg nofun]

@[simp] theorem types_unpinned (t : Term) : (t.unpinned resolver pinned).types = t.types := by
  cases t with
  | list kind stamp items => rw [unpinned]; split <;> cases kind <;> rfl
  | tuple stamp items => rw [unpinned]; split <;> rfl
  | map kind stamp entries => rw [unpinned]; split <;> cases kind <;> rfl
  | _ => rfl

@[simp] theorem text?_unpinned (t : Term) : (t.unpinned resolver pinned).text? = t.text? := by
  cases t with
  | list kind stamp items => rw [unpinned]; split <;> rfl
  | tuple stamp items => rw [unpinned]; split <;> rfl
  | map kind stamp entries => rw [unpinned]; split <;> rfl
  | _ => rfl

@[simp] theorem classify_unpinned {classifier : Classifier} (t : Term) :
    classifier.classify (t.unpinned resolver pinned) = classifier.classify t := by
  have checks : classifier.check (t.unpinned resolver pinned) = classifier.check t := by
    unfold Classifier.check Classifier.refusal?
    rw [Classifier.refusalAmong?_of_types t.types_unpinned]
  have same : (t.unpinned resolver pinned).isRemoved = t.isRemoved ∧
      classifier.isRef (t.unpinned resolver pinned) = classifier.isRef t ∧
      Classifier.shapeKind (t.unpinned resolver pinned) = Classifier.shapeKind t := by
    cases t with
    | list kind stamp items => rw [unpinned]; split <;> exact ⟨rfl, rfl, rfl⟩
    | tuple stamp items => rw [unpinned]; split <;> exact ⟨rfl, rfl, rfl⟩
    | map kind stamp entries => rw [unpinned]; split <;> exact ⟨rfl, rfl, rfl⟩
    | _ => exact ⟨rfl, rfl, rfl⟩
  obtain ⟨removed, isRef, shape⟩ := same
  unfold Classifier.classify Classifier.kind Classifier.isLeaf isInstance
  rw [checks, removed, types_unpinned, isRef, shape]

/-! ### Scopes -/

theorem find?_unpinnedEntries (entries : Entries) :
    Entries.find? (unpinnedEntries resolver pinned entries) resolver.defaultsKey =
      (Entries.find? entries resolver.defaultsKey).map (unpinnedDefaults resolver pinned) := by
  induction entries with
  | nil => rfl
  | cons entry rest ih =>
      rw [unpinnedEntries, Entries.find?_cons, Entries.find?_cons, ih]
      cases entry.1.sameKey resolver.defaultsKey <;> rfl

theorem erase_unpinnedEntries (entries : Entries) :
    Entries.erase (unpinnedEntries resolver pinned entries) resolver.defaultsKey =
      Entries.mapValues (unpinned resolver pinned) (Entries.erase entries resolver.defaultsKey) := by
  unfold Entries.erase Entries.mapValues
  induction entries with
  | nil => rfl
  | cons entry rest ih =>
      rw [unpinnedEntries, List.filter_cons, List.filter_cons, ih]
      cases entry.1.sameKey resolver.defaultsKey <;> rfl

/-- A name that is not pinned is bound to the same but for the scopes in it. -/
theorem find?_unpinnedScope {name : String} (free : pinned name = false) (scope : Entries) :
    Entries.find? (unpinnedScope resolver pinned scope) (.ref name) =
      (Entries.find? scope (.ref name)).map (unpinned resolver pinned) := by
  induction scope with
  | nil => rfl
  | cons entry rest ih =>
      rw [unpinnedScope, Entries.find?_cons]
      split
      · next binds =>
          have differs : entry.1.sameKey (.ref name) = false := by
            obtain ⟨s, text, isPinned⟩ := (Option.any_eq_true _ _).1 binds
            refine Bool.eq_false_iff.2 fun same => ?_
            cases shape : entry.1 with
            | text kind s' =>
                rw [shape] at text same
                cases text
                rw [beq_iff_eq.1 ((sameKey_text _ _ _ _).symm.trans same), free] at isPinned
                cases isPinned
            | _ => rw [shape] at text; cases text
          rw [ih, differs, if_neg nofun]
      · rw [Entries.find?_cons, ih]
        cases entry.1.sameKey (.ref name) <;> rfl

end Term

/-! ## Evaluation -/

namespace Meaning

variable {meaning : Meaning}

def unpinned (meaning : Meaning) (bindings : Bindings) : Bindings := fun name =>
  (bindings name).map (Term.unpinned meaning.resolver meaning.pinned)

theorem target?_unpinned (bindings : Bindings) (name : String) :
    (meaning.unpinned bindings).target? name =
      (bindings.target? name).map (Term.unpinned meaning.resolver meaning.pinned) := by
  unfold Bindings.target? unpinned
  cases bindings name with
  | none => rfl
  | some binding =>
      have self : isSelfBinding (binding.unpinned meaning.resolver meaning.pinned) (.ref name) =
          isSelfBinding binding (.ref name) := by
        unfold isSelfBinding
        rw [Term.text?_unpinned]
      simp only [Option.map_some, Option.filter_some, self]
      cases isSelfBinding binding (.ref name) <;> rfl

/-- A scope may be left what it binds pinned names to when it is entered. -/
theorem unpinned_enter (bindings : Bindings) (scope : Entries) :
    meaning.unpinned (bindings.enter meaning.pinned scope) =
      (meaning.unpinned bindings).enter meaning.pinned
        (Term.unpinnedScope meaning.resolver meaning.pinned scope) := by
  funext name
  unfold unpinned Bindings.enter
  cases free : meaning.pinned name with
  | true => rfl
  | false =>
      rw [if_neg nofun, if_neg nofun, Term.find?_unpinnedScope free]
      cases Entries.find? scope (.ref name) <;> rfl

section

variable {value : Bindings → Term → Option Term} (same : ∀ bindings t, value bindings t =
  value (meaning.unpinned bindings) (t.unpinned meaning.resolver meaning.pinned))

include same

theorem gathered_unpinned (bindings : Bindings) (entries : Entries) :
    meaning.gathered value bindings entries = meaning.gathered value (meaning.unpinned bindings)
      (Entries.mapValues (Term.unpinned meaning.resolver meaning.pinned) entries) := by
  unfold gathered Entries.traverse Entries.mapValues
  rw [List.mapM_map]
  simp only [Function.comp_def, ← same]

theorem mapped_unpinned (bindings : Bindings) (entries : Entries) :
    meaning.mapped value bindings entries = meaning.mapped value (meaning.unpinned bindings)
      (Term.unpinnedEntries meaning.resolver meaning.pinned entries) := by
  unfold mapped
  rw [Term.find?_unpinnedEntries]
  cases found : Entries.find? entries meaning.resolver.defaultsKey with
  | none =>
      have whole := @Term.find?_unpinnedEntries meaning.resolver meaning.pinned entries
      rw [found] at whole
      rw [Option.map_none, ← Entries.erase_of_find? whole, Term.erase_unpinnedEntries,
        Entries.erase_of_find? found]
      exact gathered_unpinned same bindings entries
  | some defaults =>
      cases defaults with
      | map kind stamp scope =>
          rw [Term.erase_unpinnedEntries]
          refine (gathered_unpinned same _ _).trans ?_
          rw [unpinned_enter]
          rfl
      | _ => rfl

theorem elements_unpinned (bindings : Bindings) (items : List Term) :
    meaning.elements value bindings items = meaning.elements value (meaning.unpinned bindings)
      (items.map (Term.unpinned meaning.resolver meaning.pinned)) := by
  unfold elements
  rw [List.mapM_map]
  simp only [Function.comp_def, ← same]

end

theorem applied_eq_none (noFunctions : ∀ function args, meaning.apply function args = none)
    {value : Bindings → Term → Option Term} {bindings : Bindings} {function : Term}
    {deps : List String} : meaning.applied value bindings function deps = none := by
  unfold applied
  cases deps.mapM (nameValue value bindings) with
  | none => rfl
  | some args =>
      simp only [bind, Option.bind_some, noFunctions, Option.bind_none]
      split <;> rfl

/-- Without functions the bindings of pinned names do not matter for a value. -/
theorem evaluate_unpinned (noFunctions : ∀ function args, meaning.apply function args = none)
    (depth : Nat) (bindings : Bindings) (t : Term) :
    meaning.evaluate depth bindings t = meaning.evaluate depth (meaning.unpinned bindings)
      (t.unpinned meaning.resolver meaning.pinned) := by
  induction depth generalizing bindings t with
  | zero => rfl
  | succ depth ih =>
      unfold evaluate
      rw [Term.classify_unpinned]
      cases classified : meaning.resolver.classifier.classify t with
      | error failure => rfl
      | ok kind =>
          have looked := (Classifier.kind_of_classify classified).symm
          show meaning.valueOf (meaning.evaluate depth) bindings t kind =
            meaning.valueOf (meaning.evaluate depth) (meaning.unpinned bindings)
              (t.unpinned meaning.resolver meaning.pinned) kind
          have single : kind.isCollection = false →
              t.unpinned meaning.resolver meaning.pinned = t := by
            intro single
            refine Term.unpinned_of_kind ?_
            unfold Classifier.isCollection
            rw [looked, single]
          cases kind with
          | ref =>
              rw [single rfl]
              obtain ⟨kind, s, rfl⟩ := Classifier.text_of_ref looked
              unfold valueOf
              dsimp only
              rw [target?_unpinned]
              cases bindings.target? s with
              | none => rfl
              | some binding => exact ih _ _
          | function =>
              rw [single rfl]
              obtain ⟨stamp, name, deps, doc, callee, rfl⟩ := Classifier.function_of_kind looked
              exact (applied_eq_none noFunctions).trans (applied_eq_none noFunctions).symm
          | mapping =>
              obtain ⟨kind, stamp, entries, rfl⟩ := Classifier.map_of_kind looked
              rw [Term.unpinned_map looked]
              exact mapped_unpinned ih bindings entries
          | sequence =>
              rcases Classifier.items_of_kind looked with
                ⟨kind, stamp, items, rfl⟩ | ⟨stamp, items, rfl⟩
              · rw [Term.unpinned_list looked]
                exact congrArg (Option.map (Term.list .plain none)) (elements_unpinned ih bindings items)
              · rw [Term.unpinned_tuple looked]
                exact congrArg (Option.map (Term.tuple none)) (elements_unpinned ih bindings items)
          | _ =>
              rw [single rfl]
              rfl

end Meaning

/-! ## Requests with the same overrides -/

namespace Environment

/-- Overrides are found first, and a name that is not overridden is found in the bindings. -/
theorem lookup?_ofBindings (bindings overrides : Entries) (name : Term) :
    (Environment.ofBindings bindings overrides).lookup? name =
      (Entries.find? overrides name <|> Entries.find? bindings name) := by
  rw [lookup?_eq]
  unfold ofBindings
  cases bindings with
  | nil => rfl
  | cons entry rest => cases found : Entries.find? (entry :: rest) name <;> simp [found]

end Environment

def Entries.overridden (overrides : Entries) (name : String) : Bool :=
  Entries.has overrides (.ref name)

/-- What matters of a template: no identity, no order of mappings, no bindings of pinned names. -/
def Term.relevant (resolver : Resolver Term) (pinned : String → Bool) (t : Term) : Term :=
  (t.outline true).unpinned resolver pinned

def Entries.relevant (resolver : Resolver Term) (pinned : String → Bool) (bindings : Entries) :
    Entries :=
  Term.unpinnedScope resolver pinned
    (Entries.mapValues (Term.outline true) (Entries.arrange true bindings))

/-- Data without functions, where mappings have names as keys. -/
abbrev Term.IsData (labels : List Term) (t : Term) : Prop :=
  t.Everywhere (Term.IsOrdinary (fun _ => False) labels)

/-- Names that are bound to data without functions. -/
structure Entries.BindData (labels : List Term) (bindings : Entries) : Prop where
  named : bindings.Named
  values : ∀ binding ∈ bindings, binding.2.IsData labels

namespace Entries

variable {labels : List Term} {entries : Entries}

theorem bindData_of_names (names : List String) (nodup : names.Nodup)
    (keys : keys entries = names.map Term.str) (values : ∀ entry ∈ entries, entry.2.IsData labels) :
    entries.BindData labels :=
  ⟨named_of_names names nodup keys, values⟩

/-- Names that are bound to data make a mapping that is data. -/
theorem BindData.isData (bound : entries.BindData labels) :
    Term.IsData labels (.map .plain none entries) :=
  Term.everywhere_map.2 ⟨⟨rfl, bound.named, nofun⟩, bound.values⟩

end Entries

def Domain.data (meaning : Meaning) : Domain := .ordinary (fun _ => False) (fun _ => True) meaning

namespace Domain

variable {meaning : Meaning} {labels : List Term} {env : Environment Term}

theorem lawful_data (rules : meaning.resolver.rules = Rule.standard) : (data meaning).Lawful :=
  lawful_ordinary rules fun _ _ _ _ _ _ _ _ _ _ _ holds => holds.here.1.1.elim

theorem holds_data {t : Term} (isData : t.IsData labels) : (data meaning).Holds labels t := by
  refine isData.mono fun s ordinary => ⟨ordinary, ?_⟩
  cases s with
  | map kind stamp entries => exact fun _ _ _ _ _ _ => trivial
  | _ => trivial

theorem admits_data (bound : ∀ layer ∈ env.layers, Entries.BindData labels layer)
    (pins : env.pinned = meaning.pinned) : (data meaning).admits labels env := by
  refine ⟨fun layer inside => (bound layer inside).named, ?_, fun name _ => congrFun pins name⟩
  exact fun layer inside entry member => holds_data ((bound layer inside).values entry member)

end Domain

namespace Meaning

variable {meaning : Meaning} {bindings bindings' overrides : Entries}

/-- Under the same overrides bindings are told apart by what matters of them only. -/
theorem unpinned_ofBindings (pins : meaning.pinned = overrides.overridden)
    (same : bindings.relevant meaning.resolver meaning.pinned =
      bindings'.relevant meaning.resolver meaning.pinned) :
    meaning.unpinned ((Environment.ofBindings bindings overrides).bindings true) =
      meaning.unpinned ((Environment.ofBindings bindings' overrides).bindings true) := by
  have free : ∀ (bindings : Entries) {name : String}, meaning.pinned name = false →
      ((Entries.find? bindings (.ref name)).map (Term.outline true)).map
          (Term.unpinned meaning.resolver meaning.pinned) =
        Entries.find? (bindings.relevant meaning.resolver meaning.pinned) (.ref name) := by
    intro bindings name free
    unfold Entries.relevant
    rw [Term.find?_unpinnedScope free, Entries.find?_mapValues, Entries.find?_arrange]
  funext name
  unfold unpinned Environment.bindings
  rw [Environment.lookup?_ofBindings, Environment.lookup?_ofBindings]
  cases found : Entries.find? overrides (.ref name) with
  | some value => rfl
  | none =>
      have isFree : meaning.pinned name = false := by
        rw [pins, Entries.overridden, Entries.has, found]
        rfl
      exact (free bindings isFree).trans ((congrArg (Entries.find? · _) same).trans
        (free bindings' isFree).symm)

end Meaning

namespace Resolver

variable {resolver : Resolver Term} {template template' value : Term}
  {bindings bindings' overrides : Entries} {labels labels' : List Term}
  {given given' : Option CacheId} {world world' ended : World}

/-- A resolution of data gives it its value under its bindings, unless a limit is met. -/
theorem resolve_data (stack : Stack) (rules : resolver.rules = Rule.standard)
    (labelled : labels.length = world.nextStamp)
    (new : ∀ id, (given <|> world.active) = some id →
      id < world.caches.length ∧ world.cache id = .empty)
    (data : template.IsData labels) (bound : bindings.BindData labels)
    (overridden : overrides.BindData labels) :
    After (resolver.resolve template (.ofBindings bindings overrides) given stack) world
      (fun value _ => (Meaning.mk resolver overrides.overridden fun _ _ => none).Evaluates
          ((Environment.ofBindings bindings overrides).bindings true) (template.outline true)
          (value.outline true) ∧ resolver.AcceptsResult value)
      (fun failure _ => ∀ value, (Meaning.mk resolver overrides.overridden fun _ _ => none).Evaluates
          ((Environment.ofBindings bindings overrides).bindings true) (template.outline true)
          (value.outline true) → resolver.AcceptsResult value → failure.isLimit = true) := by
  have bindings_bound : ∀ layer ∈ (Environment.ofBindings bindings overrides).layers,
      layer.BindData labels := by
    intro layer member
    rcases List.mem_cons.1 member with rfl | inside
    · exact overridden
    · rw [List.mem_reverse] at inside
      unfold Environment.ofBindings at inside
      split at inside
      · cases inside
      · rw [List.mem_singleton.1 inside]
        exact bound
  have lawful : (Domain.data ⟨resolver, overrides.overridden, fun _ _ => none⟩).Lawful :=
    Domain.lawful_data rules
  exact lawful.resolve_accepted stack rfl (fun _ => trivial) new labelled (Domain.holds_data data)
    (Domain.admits_data bindings_bound rfl)

/--
Overrides make every other binding of their names irrelevant: if a template without functions has a
value, one that differs from it only in what environment and scopes of defaults bind overridden
names to has the same value, unless a limit is met.
-/
theorem resolve_overridden (rules : resolver.rules = Rule.standard)
    (labelled : labels.length = world.nextStamp) (labelled' : labels'.length = world'.nextStamp)
    (new : ∀ id, (given <|> world.active) = some id →
      id < world.caches.length ∧ world.cache id = .empty)
    (new' : ∀ id, (given' <|> world'.active) = some id →
      id < world'.caches.length ∧ world'.cache id = .empty)
    (data : template.IsData labels) (data' : template'.IsData labels')
    (bound : bindings.BindData labels) (bound' : bindings'.BindData labels')
    (overridden : overrides.BindData labels) (overridden' : overrides.BindData labels')
    (sameTemplate : template.relevant resolver overrides.overridden =
      template'.relevant resolver overrides.overridden)
    (sameBindings : bindings.relevant resolver overrides.overridden =
      bindings'.relevant resolver overrides.overridden)
    (run : resolver.resolve template (.ofBindings bindings overrides) given stack world =
      .ok value ended) :
    (∃ value' ended', resolver.resolve template' (.ofBindings bindings' overrides) given' stack world' =
        .ok value' ended' ∧ value'.outline true = value.outline true) ∨
      ∃ failure ended', resolver.resolve template' (.ofBindings bindings' overrides) given' stack world' =
        .error failure ended' ∧ failure.isLimit = true := by
  obtain ⟨⟨depth, found⟩, accepts⟩ :=
    (resolve_data stack rules labelled new data bound overridden).of_ok run
  have evaluates : (Meaning.mk resolver overrides.overridden fun _ _ => none).Evaluates
      ((Environment.ofBindings bindings' overrides).bindings true) (template'.outline true)
      (value.outline true) := by
    refine ⟨depth, ?_⟩
    rw [Meaning.evaluate_unpinned fun _ _ => rfl] at found ⊢
    rw [← Meaning.unpinned_ofBindings rfl sameBindings]
    exact (congrArg _ sameTemplate).symm.trans found
  have ends := resolve_data stack rules labelled' new' data' bound' overridden'
  cases run' : resolver.resolve template' (.ofBindings bindings' overrides) given' stack world' with
  | ok value' ended' => exact .inl ⟨value', ended', rfl, (ends.of_ok run').1.unique evaluates⟩
  | error failure ended' =>
      exact .inr ⟨failure, ended', rfl, ends.of_error run' value evaluates accepts⟩

def succeeds (body : Run Term) (world : World) : Bool :=
  match body world with
  | .ok _ _ => true
  | .error _ _ => false

theorem ok_of_succeeds {body : Run Term} (done : succeeds body world = true) :
    ∃ value ended, body world = .ok value ended := by
  unfold succeeds at done
  split at done
  · next value ended run => exact ⟨value, ended, run⟩
  · cases done

/-- A template whose defaults bind an overridden name, and the same one where they do not. -/
def masking : Term := .map .plain none [
  (.str "::defaults", .map .plain none [(.str "A", .str "two"), (.str "B", .ref "A")]),
  (.str "v", .ref "B"), (.str "w", .ref "C")]

@[inherit_doc masking]
def unmasking : Term := .map .plain none [
  (.str "::defaults", .map .plain none [(.str "B", .ref "A")]),
  (.str "v", .ref "B"), (.str "w", .ref "C")]

def guarded (binding : Term) : Term := .map .plain none [
  (.str "::defaults", .map .plain none [(.str "A", binding)]), (.str "x", .ref "A")]

/-- The name is bound by the defaults, by the environment, and by the scope in a binding. -/
theorem masking_agrees : ∃ value ended,
    standard.resolve masking (.ofBindings [(.str "C", guarded (.str "four"))] [(.str "A", .str "one")])
        none .usual .empty = .ok value ended ∧
      ((∃ value' ended', standard.resolve unmasking
          (.ofBindings [(.str "A", .str "three"), (.str "C", guarded (.ref "A"))]
            [(.str "A", .str "one")]) none .usual .empty = .ok value' ended' ∧
          value'.outline true = value.outline true) ∨
        ∃ failure ended', standard.resolve unmasking
          (.ofBindings [(.str "A", .str "three"), (.str "C", guarded (.ref "A"))]
            [(.str "A", .str "one")]) none .usual .empty = .error failure ended' ∧
          failure.isLimit = true) := by
  have text : ∀ kind s, kind ≠ .derived → Term.IsData [] (.text kind s) :=
    fun _ _ simple => Term.everywhere_of_inner rfl simple
  have data : ∀ (names : List String) (entries : Entries), names.Nodup →
      Entries.keys entries = names.map Term.str → (∀ entry ∈ entries, entry.2.IsData []) →
        Term.IsData [] (.map .plain none entries) :=
    fun names entries nodup keys values =>
      Term.everywhere_map.2 ⟨⟨rfl, Entries.named_of_names names nodup keys, nofun⟩, values⟩
  have isGuarded : ∀ binding, Term.IsData [] binding → Term.IsData [] (guarded binding) := by
    intro binding bound
    refine data ["::defaults", "x"] _ (by decide) rfl ?_
    simp only [List.forall_mem_cons]
    refine ⟨data ["A"] _ (by decide) rfl ?_, text _ _ nofun, nofun⟩
    simp only [List.forall_mem_cons]
    exact ⟨bound, nofun⟩
  have isMasking : masking.IsData [] := by
    refine data ["::defaults", "v", "w"] _ (by decide) rfl ?_
    simp only [List.forall_mem_cons]
    refine ⟨data ["A", "B"] _ (by decide) rfl ?_, text _ _ nofun, text _ _ nofun, nofun⟩
    simp only [List.forall_mem_cons]
    exact ⟨text _ _ nofun, text _ _ nofun, nofun⟩
  have isUnmasking : unmasking.IsData [] := by
    refine data ["::defaults", "v", "w"] _ (by decide) rfl ?_
    simp only [List.forall_mem_cons]
    refine ⟨data ["B"] _ (by decide) rfl ?_, text _ _ nofun, text _ _ nofun, nofun⟩
    simp only [List.forall_mem_cons]
    exact ⟨text _ _ nofun, nofun⟩
  have bound : Entries.BindData [] [(.str "C", guarded (.str "four"))] := by
    refine ⟨Entries.named_of_names ["C"] (by decide) rfl, ?_⟩
    simp only [List.forall_mem_cons]
    exact ⟨isGuarded _ (text _ _ nofun), nofun⟩
  have bound' : Entries.BindData [] [(.str "A", .str "three"), (.str "C", guarded (.ref "A"))] := by
    refine ⟨Entries.named_of_names ["A", "C"] (by decide) rfl, ?_⟩
    simp only [List.forall_mem_cons]
    exact ⟨text _ _ nofun, isGuarded _ (text _ _ nofun), nofun⟩
  have overridden : Entries.BindData [] [(.str "A", .str "one")] := by
    refine ⟨Entries.named_of_names ["A"] (by decide) rfl, ?_⟩
    simp only [List.forall_mem_cons]
    exact ⟨text _ _ nofun, nofun⟩
  have new : ∀ id, ((none : Option CacheId) <|> World.empty.active) = some id →
      id < World.empty.caches.length ∧ World.empty.cache id = .empty := by
    rintro id ⟨⟩
  have done : succeeds (standard.resolve masking
      (.ofBindings [(.str "C", guarded (.str "four"))] [(.str "A", .str "one")]) none .usual) .empty =
        true := by
    decide +kernel
  obtain ⟨value, ended, run⟩ := ok_of_succeeds done
  exact ⟨value, ended, run, resolve_overridden rfl rfl rfl new new isMasking isUnmasking bound
    bound' overridden overridden rfl rfl run⟩

end Resolver

end ScopedTemplate
