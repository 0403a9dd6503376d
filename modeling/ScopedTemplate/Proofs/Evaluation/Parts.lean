import ScopedTemplate.Proofs.Bindings.Pinned

/-!
# Parts of a template

A term is resolved by way of its parts, in order and in an environment of theirs.  It is stuck at a
place where defaults are no mapping if all that comes before the place has a value; so the place is
decided by the template and the environment.
-/

namespace ScopedTemplate

open Run

namespace Resolver

variable (resolver : Resolver Term)

def unscoped : Term → Term
  | .map kind stamp entries => .map kind stamp (Entries.erase entries resolver.defaultsKey)
  | t => t

def within? (env : Environment Term) (t : Term) : Option (Environment Term) :=
  match t.entries?.bind (Entries.find? · resolver.defaultsKey) with
  | none => some env
  | some defaults => defaults.entries?.map env.child

def parts? (env : Environment Term) (t : Term) : Option (Environment Term × List Term) :=
  match resolver.classifier.kind t with
  | .ref => some (env, (env.target? t).toList)
  | .mapping | .sequence => (resolver.within? env t).map (·, (resolver.unscoped t).inner)
  | _ => some (env, [])

variable {resolver} {env inner : Environment Term} {t : Term} {items : List Term}

/-! ### By kind -/

variable (resolver) (env) in
inductive Parted : Term → Environment Term → List Term → Prop where
  | target {t binding : Term} (isRef : resolver.classifier.kind t = .ref)
      (bound : env.target? t = some binding) : Parted t env [binding]
  | left {t : Term} (isRef : resolver.classifier.kind t = .ref) (unbound : env.target? t = none) :
      Parted t env []
  | single {t : Term} (noRef : resolver.classifier.kind t ≠ .ref)
      (single : (resolver.classifier.kind t).isCollection = false) : Parted t env []
  | plain {t : Term} (isCollection : (resolver.classifier.kind t).isCollection = true)
      (missing : t.entries?.bind (Entries.find? · resolver.defaultsKey) = none) :
      Parted t env t.inner
  | nested {kind kind' : MapKind} {stamp stamp' : Option Stamp} {entries scope : Entries}
      (isMap : resolver.classifier.kind (.map kind stamp entries) = .mapping)
      (found : Entries.find? entries resolver.defaultsKey = some (.map kind' stamp' scope)) :
      Parted (.map kind stamp entries) (env.child scope)
        (Entries.values (Entries.erase entries resolver.defaultsKey))

theorem map_of_entries? {entries : Entries} (found : t.entries? = some entries) :
    ∃ kind stamp, t = .map kind stamp entries := by
  cases t with
  | map kind stamp _ =>
      cases found
      exact ⟨kind, stamp, rfl⟩
  | _ => cases found

theorem mapping_of_isCollection {kind : MapKind} {stamp : Option Stamp} {entries : Entries}
    (isCollection : (resolver.classifier.kind (.map kind stamp entries)).isCollection = true) :
    resolver.classifier.kind (.map kind stamp entries) = .mapping := by
  cases looked : resolver.classifier.kind (.map kind stamp entries) with
  | mapping => rfl
  | sequence => rcases Classifier.items_of_kind looked with ⟨_, _, _, same⟩ | ⟨_, _, same⟩ <;> cases same
  | _ => rw [looked] at isCollection; cases isCollection

/-- Only defaults are left out of a term. -/
theorem unscoped_of_missing
    (missing : t.entries?.bind (Entries.find? · resolver.defaultsKey) = none) :
    resolver.unscoped t = t := by
  cases t with
  | map kind stamp entries =>
      exact congrArg (Term.map kind stamp) (Entries.erase_of_find? missing)
  | _ => rfl

theorem within?_defaults {kind : MapKind} {stamp : Option Stamp} {entries : Entries} {defaults : Term}
    (found : Entries.find? entries resolver.defaultsKey = some defaults) :
    resolver.within? env (.map kind stamp entries) = defaults.entries?.map env.child := by
  have here : (Term.map kind stamp entries).entries?.bind (Entries.find? · resolver.defaultsKey) =
      some defaults := found
  unfold within?
  rw [here]

theorem parts?_ref (isRef : resolver.classifier.kind t = .ref) :
    resolver.parts? env t = some (env, (env.target? t).toList) := by
  unfold parts?
  rw [isRef]

theorem parts?_collection (isCollection : (resolver.classifier.kind t).isCollection = true) :
    resolver.parts? env t = (resolver.within? env t).map (·, (resolver.unscoped t).inner) := by
  unfold parts?
  cases kind : resolver.classifier.kind t with
  | mapping | sequence => rfl
  | _ => rw [kind] at isCollection; cases isCollection

theorem parts?_single (noRef : resolver.classifier.kind t ≠ .ref)
    (single : (resolver.classifier.kind t).isCollection = false) :
    resolver.parts? env t = some (env, []) := by
  unfold parts?
  cases kind : resolver.classifier.kind t with
  | ref => exact absurd kind noRef
  | mapping | sequence => rw [kind] at single; cases single
  | _ => rfl

theorem Parted.parts?_eq (parted : resolver.Parted env t inner items) :
    resolver.parts? env t = some (inner, items) := by
  cases parted with
  | target isRef bound | left isRef bound =>
      rw [parts?_ref isRef, bound]
      rfl
  | single noRef single => exact parts?_single noRef single
  | plain isCollection missing =>
      rw [parts?_collection isCollection, unscoped_of_missing missing]
      unfold within?
      rw [missing, Option.map_some]
  | nested isMap found =>
      rw [parts?_collection (by rw [isMap]; rfl), within?_defaults found]
      rfl

theorem parted_of_parts? (parts : resolver.parts? env t = some (inner, items)) :
    resolver.Parted env t inner items := by
  by_cases isRef : resolver.classifier.kind t = .ref
  · rw [parts?_ref isRef] at parts
    cases bound : env.target? t with
    | none =>
        rw [bound] at parts
        cases parts
        exact .left isRef bound
    | some binding =>
        rw [bound] at parts
        cases parts
        exact .target isRef bound
  · cases isCollection : (resolver.classifier.kind t).isCollection with
    | false =>
        rw [parts?_single isRef isCollection] at parts
        cases parts
        exact .single isRef isCollection
    | true =>
        rw [parts?_collection isCollection] at parts
        cases found : t.entries?.bind (Entries.find? · resolver.defaultsKey) with
        | none =>
            unfold within? at parts
            rw [unscoped_of_missing found, found] at parts
            cases parts
            exact .plain isCollection found
        | some defaults =>
            obtain ⟨entries, isMap, found'⟩ := Option.bind_eq_some_iff.1 found
            obtain ⟨kind, stamp, rfl⟩ := map_of_entries? isMap
            obtain ⟨_, led, same⟩ := Option.map_eq_some_iff.1 parts
            rw [within?_defaults found'] at led
            obtain ⟨scope, isScope, rfl⟩ := Option.map_eq_some_iff.1 led
            obtain ⟨kind', stamp', rfl⟩ := map_of_entries? isScope
            cases same
            exact .nested (mapping_of_isCollection isCollection) found'

/-- What holds everywhere in a term and what its names are bound to holds everywhere in its parts. -/
theorem Parted.everywhere {P : Term → Prop} (parted : resolver.Parted env t inner items)
    (holds : t.Everywhere P) (bindings : env.EachBinding (Term.Everywhere P)) :
    inner.EachBinding (Term.Everywhere P) ∧ ∀ item ∈ items, item.Everywhere P := by
  cases parted with
  | target isRef bound =>
      refine ⟨bindings, fun item member => ?_⟩
      rw [List.mem_singleton.1 member]
      exact bindings.lookup? (Option.eq_some_of_filter_eq_some bound)
  | left _ _ | single _ _ => exact ⟨bindings, fun item member => absurd member List.not_mem_nil⟩
  | plain _ _ => exact ⟨bindings, (Term.everywhere_iff.1 holds).2⟩
  | nested isMap found =>
      have entries := (Term.everywhere_map.1 holds).2
      have scope := (Term.everywhere_map.1 (Term.Everywhere.find? entries found)).2
      refine ⟨bindings.child scope, fun item member => ?_⟩
      obtain ⟨entry, kept, rfl⟩ := List.mem_map.1 member
      exact entries entry (List.mem_filter.1 kept).1

variable (resolver) in
def Nests (t : Term) : Prop :=
  ∀ defaults, t.entries?.bind (Entries.find? · resolver.defaultsKey) = some defaults →
    ∃ scope, defaults.entries? = some scope

variable (resolver) in
/-- All defaults in a term, and in what names are bound to, are mappings. -/
def NestsIn (env : Environment Term) (t : Term) : Prop :=
  t.Everywhere resolver.Nests ∧ env.EachBinding (Term.Everywhere resolver.Nests)

theorem Nests.parts? (nests : resolver.Nests t) (env : Environment Term) :
    resolver.parts? env t ≠ none := by
  unfold Resolver.parts?
  cases resolver.classifier.kind t with
  | mapping | sequence =>
      dsimp only
      unfold within?
      cases found : t.entries?.bind (Entries.find? · resolver.defaultsKey) with
      | none => nofun
      | some defaults =>
          obtain ⟨scope, shape⟩ := nests defaults found
          dsimp only
          rw [shape]
          nofun
  | _ => nofun

end Resolver

namespace Domain

variable (domain : Domain)

def HasValue (env : Environment Term) (t : Term) : Prop :=
  ∃ value, domain.meaning.Evaluates (env.bindings domain.sorts) (t.outline domain.sorts) value

/-- The resolution of a term comes to defaults at a place that are no mapping. -/
inductive Stuck : Environment Term → Term → Environment Term → Prop where
  | defaults {env : Environment Term} {t : Term} (malformed : domain.meaning.resolver.parts? env t = none) :
      Stuck env t env
  | part {env inner place : Environment Term} {t item : Term} {before after : List Term}
      (parts : domain.meaning.resolver.parts? env t = some (inner, before ++ item :: after))
      (valued : ∀ s ∈ before, domain.HasValue inner s) (stuck : Stuck inner item place) :
      Stuck env t place

def StuckAmong (env : Environment Term) (items : List Term) (place : Environment Term) : Prop :=
  ∃ before item after, items = before ++ item :: after ∧ (∀ s ∈ before, domain.HasValue env s) ∧
    domain.Stuck env item place

variable {domain} {stage : domain.Stage} {env inner place : Environment Term} {t item : Term}
  {items : List Term}

theorem StuckAmong.stuck (among : domain.StuckAmong inner items place)
    (parts : domain.meaning.resolver.parts? env t = some (inner, items)) :
    domain.Stuck env t place := by
  obtain ⟨before, item, after, rfl, valued, stuck⟩ := among
  exact .part parts valued stuck

theorem Stuck.among (stuck : domain.Stuck env item place) (rest : List Term) :
    domain.StuckAmong env (item :: rest) place :=
  ⟨[], item, rest, rfl, fun _ member => absurd member List.not_mem_nil, stuck⟩

theorem StuckAmong.cons (valued : domain.HasValue env item)
    (among : domain.StuckAmong env items place) : domain.StuckAmong env (item :: items) place := by
  obtain ⟨before, later, after, rfl, each, stuck⟩ := among
  exact ⟨item :: before, later, after, rfl, List.forall_mem_cons.2 ⟨valued, each⟩, stuck⟩

/-! ## Values -/

/-- The parts of a term of a domain belong to it. -/
theorem Lawful.parts_hold (lawful : domain.Lawful) (holds : domain.Holds stage t)
    (admits : domain.admits stage env)
    (parts : domain.meaning.resolver.parts? env t = some (inner, items)) :
    domain.admits stage inner ∧ ∀ item ∈ items, domain.Holds stage item := by
  cases Resolver.parted_of_parts? parts with
  | target isRef bound =>
      refine ⟨admits, fun item member => ?_⟩
      rw [List.mem_singleton.1 member]
      exact lawful.binding admits (Option.eq_some_of_filter_eq_some bound)
  | left _ _ | single _ _ => exact ⟨admits, fun item member => absurd member List.not_mem_nil⟩
  | plain _ _ => exact ⟨admits, (Term.everywhere_iff.1 holds).2⟩
  | nested isMap found =>
      refine ⟨(lawful.child admits holds found).1, fun item member => ?_⟩
      obtain ⟨entry, kept, rfl⟩ := List.mem_map.1 member
      exact (Term.everywhere_map.1 holds).2 entry (List.mem_filter.1 kept).1

/-- The entries of a mapping with a value have values. -/
theorem values_of_gathered {entries : Entries} {depth : Nat} {value : Term}
    (found : domain.meaning.gathered (domain.meaning.evaluate depth) (env.bindings domain.sorts)
      (Entries.mapValues (Term.outline domain.sorts) (Entries.arrange domain.sorts entries)) =
        some value) : ∀ item ∈ Entries.values entries, domain.HasValue env item := by
  obtain ⟨values, traversed, _⟩ := Meaning.traverse_of_gathered found
  intro item member
  obtain ⟨entry, inside, rfl⟩ := List.mem_map.1 member
  have valued := (Entries.traverse_eq_some.1 traversed).1 _ (List.mem_map.2 ⟨entry, inside, rfl⟩)
  obtain ⟨result, here⟩ := Option.isSome_iff_exists.1 valued
  exact ⟨result, depth, here⟩

/-- Elements have values if all of them are found. -/
theorem values_of_mapM {items values : List Term} {depth : Nat}
    (found : (items.map (Term.outline domain.sorts)).mapM
      (domain.meaning.evaluate depth (env.bindings domain.sorts)) = some values) :
    ∀ item ∈ items, domain.HasValue env item := by
  induction items generalizing values with
  | nil => exact fun item member => absurd member List.not_mem_nil
  | cons item rest ih =>
      obtain ⟨first, others, here, later, _⟩ := mapM_cons_eq_some.1 found
      exact List.forall_mem_cons.2 ⟨⟨first, depth, here⟩, ih later⟩

/-- The items of a sequence with a value have values. -/
theorem values_of_elements {items results : List Term} {depth : Nat}
    (found : domain.meaning.elements (domain.meaning.evaluate depth) (env.bindings domain.sorts)
      (items.map (Term.outline domain.sorts)) = some results) :
    ∀ item ∈ items, domain.HasValue env item := by
  obtain ⟨values, valued, _⟩ := Meaning.elements_eq_some.1 found
  exact values_of_mapM valued

/-- What a mapping with a value consists of has values, below its defaults if it has some. -/
theorem Lawful.mapping_valued (lawful : domain.Lawful) {mapKind : MapKind} {stamp : Option Stamp}
    {entries : Entries} {depth : Nat} {value : Term}
    (holds : domain.Holds stage (.map mapKind stamp entries)) (admits : domain.admits stage env)
    (looked : domain.meaning.resolver.classifier.kind (.map mapKind stamp entries) = .mapping)
    (found : domain.meaning.mapped (domain.meaning.evaluate depth) (env.bindings domain.sorts)
      (Entries.mapValues (Term.outline domain.sorts) (Entries.arrange domain.sorts entries)) =
        some value) :
    ∃ inner items,
      domain.meaning.resolver.parts? env (.map mapKind stamp entries) = some (inner, items) ∧
        ∀ item ∈ items, domain.HasValue inner item := by
  cases defaulted : Entries.find? entries domain.meaning.resolver.defaultsKey with
  | none =>
      have isCollection : (domain.meaning.resolver.classifier.kind
          (.map mapKind stamp entries)).isCollection = true := by
        rw [looked]
        rfl
      have noDefaults : Entries.has entries domain.meaning.resolver.defaultsKey = false :=
        Entries.has_eq_false_iff.2 defaulted
      refine ⟨env, _, (Resolver.Parted.plain isCollection defaulted).parts?_eq, ?_⟩
      exact values_of_gathered ((mapped_plain depth noDefaults).symm.trans found)
  | some defaults =>
      cases shape : defaults.entries? with
      | none => cases (mapped_malformed depth defaulted shape).symm.trans found
      | some scope =>
          obtain ⟨kind', stamp', rfl⟩ := Resolver.map_of_entries? shape
          obtain ⟨_, enters⟩ := lawful.child admits holds defaulted
          refine ⟨_, _, (Resolver.Parted.nested looked defaulted).parts?_eq, ?_⟩
          exact values_of_gathered ((mapped_scoped depth defaulted enters).symm.trans found)

/-- The parts of a term with a value have values. -/
theorem Lawful.parts_valued (lawful : domain.Lawful) (holds : domain.Holds stage t)
    (admits : domain.admits stage env) (valued : domain.HasValue env t) :
    ∃ inner items, domain.meaning.resolver.parts? env t = some (inner, items) ∧
      ∀ item ∈ items, domain.HasValue inner item := by
  obtain ⟨value, depth, found⟩ := valued
  cases depth with
  | zero => cases found
  | succ depth =>
      obtain ⟨kind, classified, found⟩ := Option.bind_eq_some_iff.1 found
      have looked : domain.meaning.resolver.classifier.kind t = kind := by
        rw [Classifier.classify_outline] at classified
        cases classify : domain.meaning.resolver.classifier.classify t with
        | error failure => rw [classify] at classified; cases classified
        | ok _ =>
            rw [classify] at classified
            cases classified
            exact (Classifier.kind_of_classify classify).symm
      have alone : kind ≠ .ref → kind.isCollection = false → ∃ inner items,
          domain.meaning.resolver.parts? env t = some (inner, items) ∧
            ∀ item ∈ items, domain.HasValue inner item := by
        intro noRef single
        rw [← looked] at noRef single
        exact ⟨env, [], Resolver.parts?_single noRef single,
          fun item member => absurd member List.not_mem_nil⟩
      cases kind with
      | ref =>
          obtain ⟨textKind, s, rfl⟩ := Classifier.text_of_ref looked
          refine ⟨env, _, Resolver.parts?_ref looked, fun item member => ?_⟩
          have bound := Option.mem_toList.1 member
          have target : (env.bindings domain.sorts).target? s =
              some (item.outline domain.sorts) := by
            rw [Environment.target?_bindings env textKind s, bound]
            rfl
          have means : ((env.bindings domain.sorts).target? s).elim (some (.text textKind s))
              (domain.meaning.evaluate depth (env.bindings domain.sorts)) = some value := found
          rw [target] at means
          exact ⟨value, depth, means⟩
      | mapping =>
          obtain ⟨mapKind, stamp, entries, rfl⟩ := Classifier.map_of_kind looked
          rw [Term.outline_map] at found
          exact lawful.mapping_valued holds admits looked found
      | sequence =>
          have isCollection : (domain.meaning.resolver.classifier.kind t).isCollection = true := by
            rw [looked]
            rfl
          rcases Classifier.items_of_kind looked with
            ⟨listKind, stamp, items, rfl⟩ | ⟨stamp, items, rfl⟩
          · rw [Term.outline_list] at found
            obtain ⟨results, elements, _⟩ := Option.map_eq_some_iff.1 found
            refine ⟨env, _, (Resolver.Parted.plain isCollection rfl).parts?_eq, ?_⟩
            exact values_of_elements elements
          · rw [Term.outline_tuple] at found
            obtain ⟨results, elements, _⟩ := Option.map_eq_some_iff.1 found
            refine ⟨env, _, (Resolver.Parted.plain isCollection rfl).parts?_eq, ?_⟩
            exact values_of_elements elements
      | _ => exact alone (by decide) rfl

/-- What is stuck has no value. -/
theorem Lawful.noValue (lawful : domain.Lawful) (holds : domain.Holds stage t)
    (admits : domain.admits stage env) (stuck : domain.Stuck env t place) :
    ¬ domain.HasValue env t := by
  intro valued
  induction stuck with
  | defaults malformed =>
      obtain ⟨inner, items, parts, _⟩ := lawful.parts_valued holds admits valued
      cases malformed.symm.trans parts
  | @part env inner place t item before after parts _ _ ih =>
      obtain ⟨_, _, parts', each⟩ := lawful.parts_valued holds admits valued
      cases parts.symm.trans parts'
      obtain ⟨admits', holds'⟩ := lawful.parts_hold holds admits parts
      have member : item ∈ before ++ item :: after := List.mem_append_cons_self
      exact ih (holds' _ member) admits' (each _ member)

/-- Nothing is stuck where all defaults are mappings. -/
theorem Stuck.not_nestsIn (stuck : domain.Stuck env t place) :
    ¬ domain.meaning.resolver.NestsIn env t := by
  rintro ⟨nests, bindings⟩
  induction stuck with
  | defaults malformed => exact nests.here.parts? _ malformed
  | part parts _ _ ih =>
      obtain ⟨bindings, items⟩ := (Resolver.parted_of_parts? parts).everywhere nests bindings
      exact ih (items _ List.mem_append_cons_self) bindings

/-- The first item that lacks a property is the same however a list is split. -/
theorem first_unique {α : Type} {P : α → Prop} {before before' after after' : List α} {x x' : α}
    (same : before ++ x :: after = before' ++ x' :: after') (each : ∀ y ∈ before, P y)
    (each' : ∀ y ∈ before', P y) (lacks : ¬ P x) (lacks' : ¬ P x') : x = x' := by
  induction before generalizing before' with
  | nil =>
      cases before' with
      | nil => exact (List.cons.inj same).1
      | cons first _ =>
          obtain ⟨rfl, _⟩ := List.cons.inj same
          exact absurd (each' x List.mem_cons_self) lacks
  | cons first rest ih =>
      cases before' with
      | nil =>
          obtain ⟨rfl, _⟩ := List.cons.inj same
          exact absurd (each first List.mem_cons_self) lacks'
      | cons first' rest' =>
          exact ih (List.cons.inj same).2 (List.forall_mem_cons.1 each).2
            (List.forall_mem_cons.1 each').2

/-- A term is stuck at one place at most. -/
theorem Lawful.stuck_unique (lawful : domain.Lawful) (holds : domain.Holds stage t)
    (admits : domain.admits stage env) {place' : Environment Term}
    (stuck : domain.Stuck env t place) (stuck' : domain.Stuck env t place') : place = place' := by
  induction stuck with
  | defaults malformed =>
      cases stuck' with
      | defaults _ => rfl
      | part parts _ _ => cases malformed.symm.trans parts
  | @part env inner place t item before after parts valued stuck ih =>
      cases stuck' with
      | defaults malformed => cases malformed.symm.trans parts
      | @part _ inner' _ _ item' before' after' parts' valued' stuck' =>
          obtain ⟨admits', holds'⟩ := lawful.parts_hold holds admits parts
          obtain ⟨rfl, same⟩ := Prod.mk.inj (Option.some.inj (parts.symm.trans parts'))
          have member : item ∈ before ++ item :: after := List.mem_append_cons_self
          have member' : item' ∈ before ++ item :: after := by
            rw [same]
            exact List.mem_append_cons_self
          have unvalued := lawful.noValue (holds' _ member) admits' stuck
          have unvalued' := lawful.noValue (holds' _ member') admits' stuck'
          obtain rfl := first_unique same valued valued' unvalued unvalued'
          exact ih (holds' _ member) admits' stuck'

end Domain

end ScopedTemplate
