import ScopedTemplate.Resolver.Resolve

/-!
# What holds everywhere in a term

A term is made of other terms: elements, keys and values, the body of a function, and what a view
carries.  `Term.OnlyViews` says which views may occur in a term at any depth.  No operation on terms
makes a view, so each of them keeps to the views that were there.
-/

namespace ScopedTemplate

namespace Entries

def terms (entries : Entries) : List Term := entries.flatMap fun entry => [entry.1, entry.2]

/-- `P` holds of all keys and all values. -/
def Each (P : Term → Prop) (entries : Entries) : Prop :=
  ∀ entry ∈ entries, P entry.1 ∧ P entry.2

end Entries

namespace Environment

def terms (env : Environment Term) : List Term := env.layers.flatMap Entries.terms

/-- `P` holds of all names and all bindings. -/
def Each (P : Term → Prop) (env : Environment Term) : Prop :=
  ∀ layer ∈ env.layers, Entries.Each P layer

end Environment

mutual

def Body.constants : Body → List Term
  | .const value => [value]
  | .fresh _ _ value => [value]
  | .list items => Body.constantsOfItems items
  | .tuple items => Body.constantsOfItems items
  | .map entries => Body.constantsOfFields entries
  | .ref name => name.constants
  | .concat items => Body.constantsOfItems items
  | .add items => Body.constantsOfItems items
  | .mul items => Body.constantsOfItems items
  | .size of => of.constants
  | .item of key => of.constants ++ key.constants
  | .choose condition yes no => condition.constants ++ (yes.constants ++ no.constants)
  | .same left right => left.constants ++ right.constants
  | .typeOf of => of.constants
  | .attempt body => body.constants
  | .sequence items => Body.constantsOfItems items
  | .edit _ of => of.constants
  | .ask _ _ template _ env overrides =>
    template.constants ++ (env.constants ++ Body.constantsOfFields overrides)
  | .block body => body.constants
  | .readItem name => name.constants
  | .readOr name fallback => name.constants ++ fallback.constants
  | .readHas name => name.constants
  | .arg _ | .self | .count | .raise _ _ | .note _ | .readView | .readField _ | .readNames
  | .readItems | .readSize | .readText | .setField _ | .dropField _ => []

def Body.constantsOfItems : List Body → List Term
  | [] => []
  | body :: rest => body.constants ++ Body.constantsOfItems rest

def Body.constantsOfFields : List (Body × Body) → List Term
  | [] => []
  | (key, body) :: rest => key.constants ++ (body.constants ++ Body.constantsOfFields rest)

end

/-- The term that an action puts in the place of another, or that it calls. -/
def Action.term : Action Term → Term
  | .put term | .call term => term

def Resolver.replacements (resolver : Resolver Term) : List Term :=
  resolver.rules.filterMap fun rule =>
    match rule with
    | .custom rule => some rule.action.term
    | _ => none

/-- Resolvers that differ at most in what they refuse in the end. -/
structure Resolver.Similar (left right : Resolver Term) : Prop where
  classifier : right.classifier = left.classifier
  rules : right.rules = left.rules
  maxDepth : right.config.maxDepth = left.config.maxDepth
  detectCycles : right.config.detectCycles = left.config.detectCycles
  removeEmpty : right.config.removeEmpty = left.config.removeEmpty
  defaultsKey : right.config.defaultsKey = left.config.defaultsKey

theorem Resolver.Similar.refl (resolver : Resolver Term) : resolver.Similar resolver :=
  ⟨rfl, rfl, rfl, rfl, rfl, rfl⟩

theorem Resolver.Similar.symm {left right : Resolver Term} (similar : left.Similar right) :
    right.Similar left :=
  ⟨similar.classifier.symm, similar.rules.symm, similar.maxDepth.symm, similar.detectCycles.symm,
    similar.removeEmpty.symm, similar.defaultsKey.symm⟩

theorem Resolver.Similar.trans {left middle right : Resolver Term} (first : left.Similar middle)
    (second : middle.Similar right) : left.Similar right :=
  ⟨second.classifier.trans first.classifier, second.rules.trans first.rules,
    second.maxDepth.trans first.maxDepth, second.detectCycles.trans first.detectCycles,
    second.removeEmpty.trans first.removeEmpty, second.defaultsKey.trans first.defaultsKey⟩

theorem Resolver.Similar.replacements {left right : Resolver Term} (similar : left.Similar right) :
    right.replacements = left.replacements := by
  unfold Resolver.replacements
  rw [similar.rules]

namespace Term

def parts : Term → List Term
  | .list _ _ items | .tuple _ items | .set _ items | .point _ items => items
  | .map _ _ entries => Entries.terms entries
  | .function _ _ _ _ callee => [callee]
  | .callable _ _ _ _ body => body.constants
  | .view _ resolver env _ => resolver.replacements ++ env.terms
  | _ => []

def isView : Term → Bool
  | .view .. => true
  | _ => false

/-- Every view in a term is allowed by its resolver and its table. -/
inductive OnlyViews (allowed : Resolver Term → CacheId → Prop) : Term → Prop where
  | view {stamp : Stamp} {resolver : Resolver Term} {env : Environment Term} {cache : CacheId}
      (here : allowed resolver cache)
      (parts : ∀ s ∈ (Term.view stamp resolver env cache).parts, OnlyViews allowed s) :
      OnlyViews allowed (.view stamp resolver env cache)
  | other {t : Term} (noView : t.isView = false) (parts : ∀ s ∈ t.parts, OnlyViews allowed s) :
      OnlyViews allowed t

end Term

/-! ## Entries -/

namespace Entries

variable {P : Term → Prop} {entries : Entries}

theorem each_iff_terms : Each P entries ↔ ∀ t ∈ terms entries, P t := by
  constructor
  · intro each t inside
    obtain ⟨entry, member, among⟩ := List.mem_flatMap.1 inside
    rcases List.mem_cons.1 among with rfl | last
    · exact (each entry member).1
    · rw [List.mem_singleton.1 last]
      exact (each entry member).2
  · intro holds entry member
    constructor
    · exact holds _ (List.mem_flatMap.2 ⟨entry, member, by simp⟩)
    · exact holds _ (List.mem_flatMap.2 ⟨entry, member, by simp⟩)

@[simp] theorem each_nil : Each P [] := by
  intro entry member
  exact absurd member (List.not_mem_nil)

@[simp] theorem each_cons {entry : Term × Term} {rest : Entries} :
    Each P (entry :: rest) ↔ (P entry.1 ∧ P entry.2) ∧ Each P rest :=
  List.forall_mem_cons

theorem Each.mono {Q : Term → Prop} (each : Each P entries) (imp : ∀ t, P t → Q t) :
    Each Q entries :=
  fun entry member => ⟨imp _ (each entry member).1, imp _ (each entry member).2⟩

theorem Each.sublist {fewer : Entries} (each : Each P entries) (sub : fewer.Sublist entries) :
    Each P fewer :=
  fun entry member => each entry (sub.subset member)

theorem mem_of_find? {key value : Term} (found : find? entries key = some value) :
    ∃ same : Term, (same, value) ∈ entries ∧ same.sameKey key = true := by
  induction entries with
  | nil => cases found
  | cons entry rest ih =>
      rw [find?_cons] at found
      split at found
      · next same =>
          cases found
          exact ⟨entry.1, List.mem_cons_self, same⟩
      · obtain ⟨key', member, same⟩ := ih found
        exact ⟨key', List.mem_cons_of_mem _ member, same⟩

theorem has_eq_any (entries : Entries) (key : Term) :
    has entries key = entries.any fun entry => entry.1.sameKey key := by
  unfold has
  induction entries with
  | nil => rfl
  | cons entry rest ih =>
      rw [find?_cons, List.any_cons]
      cases entry.1.sameKey key with
      | true => rfl
      | false => exact ih

/-- Fewer entries have fewer keys. -/
theorem has_of_sublist {fewer : Entries} (sub : fewer.Sublist entries) {key : Term}
    (missing : has entries key = false) : has fewer key = false := by
  rw [has_eq_any, List.any_eq_false] at missing ⊢
  exact fun entry member => missing entry (sub.subset member)

theorem Each.find? (each : Each P entries) {key value : Term}
    (found : Entries.find? entries key = some value) : P value := by
  obtain ⟨_, member, _⟩ := mem_of_find? found
  exact (each _ member).2

theorem Each.insert (each : Each P entries) {key value : Term} (keyed : P key) (valued : P value) :
    Each P (Entries.insert entries key value) := by
  induction entries with
  | nil =>
      unfold Entries.insert
      exact each_cons.2 ⟨⟨keyed, valued⟩, each_nil⟩
  | cons entry rest ih =>
      obtain ⟨first, others⟩ := each_cons.1 each
      unfold Entries.insert
      split
      · exact each_cons.2 ⟨⟨first.1, valued⟩, others⟩
      · exact each_cons.2 ⟨first, ih others⟩

theorem Each.update (each : Each P entries) {additions : Entries} (more : Each P additions) :
    Each P (Entries.update entries additions) := by
  induction additions generalizing entries with
  | nil => exact each
  | cons entry rest ih =>
      obtain ⟨first, others⟩ := each_cons.1 more
      rw [update_cons]
      exact ih (each.insert first.1 first.2) others

theorem Each.ofPairs (each : Each P entries) : Each P (Entries.ofPairs entries) :=
  each_nil.update each

theorem Each.erase (each : Each P entries) (key : Term) : Each P (Entries.erase entries key) :=
  each.sublist List.filter_sublist

theorem Each.keys (each : Each P entries) : ∀ key ∈ Entries.keys entries, P key := by
  intro key member
  obtain ⟨entry, inside, rfl⟩ := List.mem_map.1 member
  exact (each entry inside).1

end Entries

/-! ## Environments -/

namespace Environment

variable {P : Term → Prop} {env : Environment Term}

theorem each_iff_terms : env.Each P ↔ ∀ t ∈ env.terms, P t := by
  constructor
  · intro each t inside
    obtain ⟨layer, member, among⟩ := List.mem_flatMap.1 inside
    exact Entries.each_iff_terms.1 (each layer member) t among
  · intro holds layer member
    refine Entries.each_iff_terms.2 fun t inside => ?_
    exact holds t (List.mem_flatMap.2 ⟨layer, member, inside⟩)

theorem each_iff :
    env.Each P ↔ Entries.Each P env.overrides ∧ ∀ scope ∈ env.scopes, Entries.Each P scope := by
  unfold Each layers
  simp only [List.mem_cons, List.mem_reverse, forall_eq_or_imp]

theorem Each.mono {Q : Term → Prop} (each : env.Each P) (imp : ∀ t, P t → Q t) : env.Each Q :=
  fun layer member => (each layer member).mono imp

theorem each_empty : empty.Each P := by
  refine each_iff.2 ⟨Entries.each_nil, ?_⟩
  intro scope member
  exact absurd member List.not_mem_nil

theorem Each.lookup? (each : env.Each P) {name value : Term}
    (found : env.lookup? name = some value) : P value := by
  obtain ⟨layer, member, inside⟩ := List.exists_of_findSome?_eq_some found
  exact (each layer member).find? inside

theorem Each.target? (each : env.Each P) {name value : Term}
    (found : env.target? name = some value) : P value := by
  unfold Environment.target? at found
  exact each.lookup? (Option.eq_some_of_filter_eq_some found)

theorem Each.child (each : env.Each P) {defaults : Entries} (more : Entries.Each P defaults) :
    (env.child defaults).Each P := by
  unfold Environment.child
  split
  · exact each
  · obtain ⟨overrides, scopes⟩ := each_iff.1 each
    refine each_iff.2 ⟨overrides, ?_⟩
    intro scope member
    rcases List.mem_append.1 member with before | last
    · exact scopes scope before
    · rw [List.mem_singleton.1 last]
      exact more

theorem each_ofBindings {bindings overrides : Entries} (bound : Entries.Each P bindings)
    (overridden : Entries.Each P overrides) : (ofBindings bindings overrides).Each P := by
  refine each_iff.2 ⟨overridden, ?_⟩
  intro scope member
  unfold ofBindings at member
  dsimp only at member
  split at member
  · exact absurd member List.not_mem_nil
  · rw [List.mem_singleton.1 member]
    exact bound

theorem Each.withOverrides (each : env.Each P) {overrides : Entries}
    (overridden : Entries.Each P overrides) : (env.withOverrides overrides).Each P :=
  each_iff.2 ⟨(each_iff.1 each).1.update overridden, (each_iff.1 each).2⟩

theorem each_foldl_update {layers : List Entries} {start : Entries} (each : Entries.Each P start)
    (more : ∀ layer ∈ layers, Entries.Each P layer) :
    Entries.Each P (layers.foldl Entries.update start) := by
  induction layers generalizing start with
  | nil => exact each
  | cons layer rest ih =>
      rw [List.foldl_cons]
      refine ih (each.update (more layer List.mem_cons_self)) ?_
      intro other member
      exact more other (List.mem_cons_of_mem _ member)

theorem Each.flatten (each : env.Each P) : Entries.Each P env.flatten := by
  obtain ⟨overrides, scopes⟩ := each_iff.1 each
  unfold Environment.flatten
  cases shape : env.scopes with
  | nil => exact overrides
  | cons outermost inner =>
      dsimp only
      rw [shape] at scopes
      refine each_foldl_update (scopes outermost List.mem_cons_self) ?_
      intro layer member
      rcases List.mem_append.1 member with before | last
      · exact scopes layer (List.mem_cons_of_mem _ before)
      · rw [List.mem_singleton.1 last]
        exact overrides

theorem Each.names (each : env.Each P) : ∀ name ∈ env.names, P name := each.flatten.keys

end Environment

/-! ## Terms -/

namespace Term

variable {allowed : Resolver Term → CacheId → Prop}

theorem isView_eq_false {t : Term}
    (other : ∀ stamp resolver env cache, t ≠ .view stamp resolver env cache) : t.isView = false := by
  cases t with
  | view stamp resolver env cache => exact absurd rfl (other stamp resolver env cache)
  | _ => rfl

theorem OnlyViews.mono {allowed' : Resolver Term → CacheId → Prop}
    (imp : ∀ resolver cache, allowed resolver cache → allowed' resolver cache) {t : Term}
    (only : OnlyViews allowed t) : OnlyViews allowed' t := by
  induction only with
  | view here parts ih => exact .view (imp _ _ here) ih
  | other noView parts ih => exact .other noView ih

theorem onlyViews_view {stamp : Stamp} {resolver : Resolver Term} {env : Environment Term}
    {cache : CacheId} : OnlyViews allowed (.view stamp resolver env cache) ↔
      allowed resolver cache ∧ (∀ t ∈ resolver.replacements, OnlyViews allowed t) ∧
        env.Each (OnlyViews allowed) := by
  constructor
  · intro only
    cases only with
    | view here parts =>
        refine ⟨here, ?_, ?_⟩
        · intro t member
          exact parts t (List.mem_append_left _ member)
        · refine Environment.each_iff_terms.2 fun t member => ?_
          exact parts t (List.mem_append_right _ member)
    | other noView parts => cases noView
  · rintro ⟨here, replacements, bindings⟩
    refine .view here fun t member => ?_
    rcases List.mem_append.1 member with inRules | inEnv
    · exact replacements t inRules
    · exact Environment.each_iff_terms.1 bindings t inEnv

theorem onlyViews_iff {t : Term} (noView : t.isView = false) :
    OnlyViews allowed t ↔ ∀ s ∈ t.parts, OnlyViews allowed s := by
  constructor
  · intro only
    cases only with
    | view here parts => cases noView
    | other _ parts => exact parts
  · exact .other noView

/-- What has nothing in it has no views in it. -/
theorem onlyViews_of_parts {t : Term} (noView : t.isView = false) (noParts : t.parts = []) :
    OnlyViews allowed t := by
  refine .other noView ?_
  rw [noParts]
  intro s member
  exact absurd member List.not_mem_nil

@[simp] theorem onlyViews_null : OnlyViews allowed .null := onlyViews_of_parts rfl rfl

@[simp] theorem onlyViews_removed : OnlyViews allowed .removed := onlyViews_of_parts rfl rfl

@[simp] theorem onlyViews_text (kind : TextKind) (s : String) : OnlyViews allowed (.text kind s) :=
  onlyViews_of_parts rfl rfl

@[simp] theorem onlyViews_int (n : Int) : OnlyViews allowed (.int n) := onlyViews_of_parts rfl rfl

@[simp] theorem onlyViews_bool (b : Bool) : OnlyViews allowed (.bool b) := onlyViews_of_parts rfl rfl

@[simp] theorem onlyViews_builtin (name : String) : OnlyViews allowed (.builtin name) :=
  onlyViews_of_parts rfl rfl

@[simp] theorem onlyViews_type (name : ValueType) : OnlyViews allowed (.type name) :=
  onlyViews_of_parts rfl rfl

@[simp] theorem onlyViews_internal (own : ValueType) : OnlyViews allowed (.internal own) :=
  onlyViews_of_parts rfl rfl

@[simp] theorem onlyViews_list {kind : ListKind} {stamp : Option Stamp} {items : List Term} :
    OnlyViews allowed (.list kind stamp items) ↔ ∀ t ∈ items, OnlyViews allowed t :=
  onlyViews_iff rfl

@[simp] theorem onlyViews_tuple {stamp : Option Stamp} {items : List Term} :
    OnlyViews allowed (.tuple stamp items) ↔ ∀ t ∈ items, OnlyViews allowed t :=
  onlyViews_iff rfl

@[simp] theorem onlyViews_map {kind : MapKind} {stamp : Option Stamp} {entries : Entries} :
    OnlyViews allowed (.map kind stamp entries) ↔ Entries.Each (OnlyViews allowed) entries :=
  (onlyViews_iff rfl).trans Entries.each_iff_terms.symm

theorem onlyViews_function {stamp : Stamp} {name : String} {deps : List String}
    {doc : Option String} {callee : Term} :
    OnlyViews allowed (.function stamp name deps doc callee) ↔ OnlyViews allowed callee :=
  (onlyViews_iff rfl).trans List.forall_mem_singleton

theorem onlyViews_callable {kind : CallableKind} {stamp : Stamp} {label name : String}
    {body : Body} : OnlyViews allowed (.callable kind stamp label name body) ↔
      ∀ t ∈ body.constants, OnlyViews allowed t :=
  onlyViews_iff rfl

end Term

end ScopedTemplate
