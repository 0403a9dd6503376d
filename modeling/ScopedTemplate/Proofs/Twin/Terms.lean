import ScopedTemplate.Proofs.Evaluation.Domain
import ScopedTemplate.Proofs.Removal.Pruned
import ScopedTemplate.Proofs.Resolver.Nodes
import ScopedTemplate.Proofs.Resolver.Rewriting

/-!
# Terms that are resolved side by side

Terms that are the same but for the identity of their data, terms in which no scope of defaults can be
entered, and resolvers that take terms in the same way.
-/

namespace ScopedTemplate

variable {ceiling : Int}

open Run

/-- What stands in one of two related lists is related to something in the other one. -/
theorem exists_of_forall₂ {α β : Type} {R : α → β → Prop} {items : List α} {items' : List β}
    (each : List.Forall₂ R items items') {item' : β} (member : item' ∈ items') :
    ∃ item ∈ items, R item item' := by
  induction each with
  | nil => cases member
  | @cons item other rest rest' first _ ih =>
      rcases List.mem_cons.1 member with rfl | later
      · exact ⟨item, List.mem_cons_self, first⟩
      · obtain ⟨item', inside, related⟩ := ih later
        exact ⟨item', List.mem_cons_of_mem _ inside, related⟩

theorem Entries.find?_text (entries : Entries) (kind : TextKind) (s : String) :
    Entries.find? entries (.text kind s) = Entries.find? entries (.ref s) := by
  induction entries with
  | nil => rfl
  | cons entry rest ih =>
      have same : entry.1.sameKey (.text kind s) = entry.1.sameKey (.ref s) := by
        unfold Term.sameKey
        rw [Term.key?_text, Term.key?_text]
      rw [Entries.find?_cons, Entries.find?_cons, same, ih]

/-- Text of any kind names the same binding. -/
theorem Environment.lookup?_text (env : Environment Term) (kind : TextKind) (s : String) :
    env.lookup? (.text kind s) = env.lookup? (.ref s) := by
  unfold Environment.lookup?
  exact congrArg (List.findSome? · env.layers) (funext fun layer => Entries.find?_text layer kind s)

/-! ## Terms that are the same but for identity -/

/-- Terms are the same but for the identity of their data. -/
def Term.Resembles (t t' : Term) : Prop := t.outline false = t'.outline false

namespace Term.Resembles

variable {t t' : Term} {classifier : Classifier}

theorem refl (t : Term) : t.Resembles t := rfl

theorem symm (same : t.Resembles t') : t'.Resembles t := Eq.symm same

theorem trans {t'' : Term} (same : t.Resembles t') (same' : t'.Resembles t'') : t.Resembles t'' :=
  Eq.trans same same'

theorem classify (same : t.Resembles t') : classifier.classify t = classifier.classify t' := by
  rw [← @Classifier.classify_outline _ false t, same, Classifier.classify_outline]

theorem kind (same : t.Resembles t') : classifier.kind t = classifier.kind t' := by
  rw [← @Classifier.kind_outline _ false t, same, Classifier.kind_outline]

theorem check (same : t.Resembles t') : classifier.check t = classifier.check t' := by
  rw [← @Classifier.check_outline _ false t, same, Classifier.check_outline]

theorem isRef (same : t.Resembles t') : classifier.isRef t = classifier.isRef t' := by
  rw [← @Classifier.isRef_outline _ false t, same, Classifier.isRef_outline]

theorem isRemoved (same : t.Resembles t') : t.isRemoved = t'.isRemoved := by
  rw [← @isRemoved_outline false t, same, isRemoved_outline]

theorem drops {resolver : Resolver Term} (same : t.Resembles t') :
    resolver.drops t = resolver.drops t' := by
  rw [← @Resolver.drops_outline _ false t, same, Resolver.drops_outline]

theorem referenceNames (same : t.Resembles t') (key : String) :
    t.referenceNames classifier key = t'.referenceNames classifier key := by
  unfold Term.referenceNames
  rw [← references_outline_false t, same, references_outline_false]

/-- Only collections and a few values have an identity, so that text has none. -/
theorem text {kind : TextKind} {s : String} (same : (Term.text kind s).Resembles t) :
    t = .text kind s := by
  cases t with
  | text kind' s' => exact (same : _ = _).symm
  | _ => simp [Resembles, outline] at same

/-- References have no identity. -/
theorem eq_of_isRef (same : t.Resembles t') (isRef : classifier.isRef t = true) : t' = t := by
  cases t with
  | text kind s => exact same.text
  | _ => simp [Classifier.isRef] at isRef

theorem function {stamp : Stamp} {name : String} {deps : List String} {doc : Option String}
    {callee : Term} (same : (Term.function stamp name deps doc callee).Resembles t) :
    t = .function stamp name deps doc callee := by
  cases t with
  | function => exact (same : _ = _).symm
  | _ => simp [Resembles, outline] at same

theorem callable {kind : CallableKind} {stamp : Stamp} {label name : String} {body : Body}
    (same : (Term.callable kind stamp label name body).Resembles t) :
    t = .callable kind stamp label name body := by
  cases t with
  | callable => exact (same : _ = _).symm
  | _ => simp [Resembles, outline] at same

theorem items {items items' : List Term}
    (same : items.map (outline false) = items'.map (outline false)) :
    List.Forall₂ Resembles items items' := by
  induction items generalizing items' with
  | nil =>
      cases items' with
      | nil => exact .nil
      | cons => cases same
  | cons item rest ih =>
      cases items' with
      | nil => cases same
      | cons item' rest' =>
          obtain ⟨first, others⟩ := List.cons.inj same
          exact .cons first (ih others)

theorem map_items {items items' : List Term} (each : List.Forall₂ Resembles items items') :
    items.map (outline false) = items'.map (outline false) := by
  induction each with
  | nil => rfl
  | cons first _ ih => rw [List.map_cons, List.map_cons, first, ih]

abbrev Fields : Entries → Entries → Prop :=
  List.Forall₂ fun entry entry' => entry.1 = entry'.1 ∧ Resembles entry.2 entry'.2

theorem fields {entries entries' : Entries}
    (same : Entries.mapValues (outline false) entries = Entries.mapValues (outline false) entries') :
    Fields entries entries' := by
  unfold Entries.mapValues at same
  induction entries generalizing entries' with
  | nil =>
      cases entries' with
      | nil => exact .nil
      | cons => cases same
  | cons entry rest ih =>
      cases entries' with
      | nil => cases same
      | cons entry' rest' =>
          obtain ⟨first, others⟩ := List.cons.inj same
          exact .cons (Prod.mk.inj first) (ih others)

theorem Fields.mapValues {entries entries' : Entries} (each : Fields entries entries') :
    Entries.mapValues (outline false) entries = Entries.mapValues (outline false) entries' := by
  unfold Entries.mapValues
  induction each with
  | nil => rfl
  | cons first _ ih => rw [List.map_cons, List.map_cons, first.1, first.2, ih]

theorem Fields.keys {entries entries' : Entries} (each : Fields entries entries') :
    Entries.keys entries = Entries.keys entries' := by
  unfold Entries.keys
  induction each with
  | nil => rfl
  | cons first _ ih => rw [List.map_cons, List.map_cons, first.1, ih]

theorem list {kind : ListKind} {stamp : Option Stamp} {items : List Term}
    (same : (Term.list kind stamp items).Resembles t) :
    ∃ stamp' items', t = .list kind stamp' items' ∧ List.Forall₂ Resembles items items' := by
  cases t with
  | list kind' stamp' items' =>
      unfold Resembles at same
      rw [outline_list, outline_list] at same
      obtain ⟨rfl, -, each⟩ := Term.list.inj same
      exact ⟨stamp', items', rfl, Resembles.items each⟩
  | _ => simp [Resembles, outline] at same

theorem tuple {stamp : Option Stamp} {items : List Term}
    (same : (Term.tuple stamp items).Resembles t) :
    ∃ stamp' items', t = .tuple stamp' items' ∧ List.Forall₂ Resembles items items' := by
  cases t with
  | tuple stamp' items' =>
      unfold Resembles at same
      rw [outline_tuple, outline_tuple] at same
      obtain ⟨-, each⟩ := Term.tuple.inj same
      exact ⟨stamp', items', rfl, Resembles.items each⟩
  | _ => simp [Resembles, outline] at same

theorem map {kind : MapKind} {stamp : Option Stamp} {entries : Entries}
    (same : (Term.map kind stamp entries).Resembles t) :
    ∃ stamp' entries', t = .map kind stamp' entries' ∧ Fields entries entries' := by
  cases t with
  | map kind' stamp' entries' =>
      unfold Resembles at same
      rw [outline_map, outline_map] at same
      obtain ⟨rfl, -, each⟩ := Term.map.inj same
      exact ⟨stamp', entries', rfl, Resembles.fields each⟩
  | _ => simp [Resembles, outline] at same

theorem of_items {kind : ListKind} {stamp stamp' : Option Stamp} {items items' : List Term}
    (each : List.Forall₂ Resembles items items') :
    (Term.list kind stamp items).Resembles (.list kind stamp' items') := by
  unfold Resembles
  rw [outline_list, outline_list, map_items each]

theorem of_elements {stamp stamp' : Option Stamp} {items items' : List Term}
    (each : List.Forall₂ Resembles items items') :
    (Term.tuple stamp items).Resembles (.tuple stamp' items') := by
  unfold Resembles
  rw [outline_tuple, outline_tuple, map_items each]

theorem of_fields {kind : MapKind} {stamp stamp' : Option Stamp} {entries entries' : Entries}
    (each : Fields entries entries') :
    (Term.map kind stamp entries).Resembles (.map kind stamp' entries') := by
  unfold Resembles
  rw [outline_map, outline_map]
  exact congrArg (Term.map kind none) each.mapValues

theorem typeName (same : t.Resembles t') : t.typeName = t'.typeName := by
  cases t with
  | text => rw [same.text]
  | function => rw [same.function]
  | callable => rw [same.callable]
  | list kind =>
      obtain ⟨_, _, rfl, _⟩ := same.list
      cases kind <;> rfl
  | tuple =>
      obtain ⟨_, _, rfl, _⟩ := same.tuple
      rfl
  | map kind =>
      obtain ⟨_, _, rfl, _⟩ := same.map
      cases kind <;> rfl
  | _ => cases t' <;> simp_all [Resembles, outline] <;> rfl

theorem label (same : t.Resembles t') : t.label = t'.label := by
  have unlabelled : ∀ u : Term, u.label = u.typeName ∨ (∃ kind s, u = .text kind s) ∨
      ∃ stamp name deps doc callee, u = .function stamp name deps doc callee := by
    intro u
    cases u with
    | text kind s => exact .inr (.inl ⟨kind, s, rfl⟩)
    | function stamp name deps doc callee => exact .inr (.inr ⟨stamp, name, deps, doc, callee, rfl⟩)
    | _ => exact .inl rfl
  rcases unlabelled t with label | ⟨_, _, rfl⟩ | ⟨_, _, _, _, _, rfl⟩
  · rcases unlabelled t' with label' | ⟨_, _, rfl⟩ | ⟨_, _, _, _, _, rfl⟩
    · rw [label, label', same.typeName]
    · rw [same.symm.text]
    · rw [same.symm.function]
  · rw [same.text]
  · rw [same.function]

theorem checkValues {resolver : Resolver Term} {items items' : List Term}
    (each : List.Forall₂ Resembles items items') :
    resolver.checkValues items = resolver.checkValues items' := by
  unfold Resolver.checkValues
  split
  · induction each with
    | nil => rfl
    | cons first _ ih =>
        simp only [List.forM_eq_forM, List.forM_cons] at ih ⊢
        rw [first.isRemoved, first.check, ih]
  · rfl

theorem Fields.values {entries entries' : Entries} (each : Fields entries entries') :
    List.Forall₂ Resembles (Entries.values entries) (Entries.values entries') := by
  unfold Entries.values
  induction each with
  | nil => exact .nil
  | cons first _ ih => exact .cons first.2 ih

end Term.Resembles

namespace Term

theorem map_of_entries? {t : Term} {entries : Entries} (found : t.entries? = some entries) :
    ∃ kind stamp, t = .map kind stamp entries := by
  cases t with
  | map kind stamp entries =>
      cases found
      exact ⟨kind, stamp, rfl⟩
  | _ => cases found

theorem noScope_of_noView {t : Term} (noView : t.isView = false) (noMap : t.entries? = none) :
    t.scopeSize? = none := by
  cases t with
  | map => cases noMap
  | view => cases noView
  | _ => rfl

end Term

/-! ## Terms without scopes -/

namespace Resolver

/--
No scope of defaults can be entered in a term, its references and the dependencies of its functions are
among some names, and what it calls is known.
-/
inductive Confined (resolver : Resolver Term) (names : String → Prop) (called : Term → Prop) :
    Term → Prop where
  | data {t : Term} (looked : resolver.classifier.kind t = .scalar ∨
      resolver.classifier.kind t = .removed) : Confined resolver names called t
  | reference {kind : TextKind} {s : String}
      (looked : resolver.classifier.kind (.text kind s) = .ref) (among : names s) :
      Confined resolver names called (.text kind s)
  | function {stamp : Stamp} {name : String} {deps : List String} {doc : Option String}
      {callee : Term}
      (looked : resolver.classifier.kind (.function stamp name deps doc callee) = .function)
      (among : ∀ dep ∈ deps, names dep) (known : called (.function stamp name deps doc callee)) :
      Confined resolver names called (.function stamp name deps doc callee)
  | callable {t : Term} (looked : resolver.classifier.kind t = .callable) (known : called t) :
      Confined resolver names called t
  | map {kind : MapKind} {stamp : Option Stamp} {entries : Entries}
      (looked : resolver.classifier.kind (.map kind stamp entries) = .mapping)
      (noDefaults : Entries.has entries resolver.defaultsKey = false)
      (values : ∀ entry ∈ entries, Confined resolver names called entry.2) :
      Confined resolver names called (.map kind stamp entries)
  | list {kind : ListKind} {stamp : Option Stamp} {items : List Term}
      (looked : resolver.classifier.kind (.list kind stamp items) = .sequence)
      (each : ∀ item ∈ items, Confined resolver names called item) :
      Confined resolver names called (.list kind stamp items)
  | tuple {stamp : Option Stamp} {items : List Term}
      (looked : resolver.classifier.kind (.tuple stamp items) = .sequence)
      (each : ∀ item ∈ items, Confined resolver names called item) :
      Confined resolver names called (.tuple stamp items)

/-- Terms in which no scope of defaults can be entered, with known functions and callables. -/
abbrev Scopeless (resolver : Resolver Term) (called : Term → Prop) : Term → Prop :=
  resolver.Confined (fun _ => True) called

namespace Confined

variable {resolver : Resolver Term} {names : String → Prop} {called : Term → Prop}

theorem values {kind : MapKind} {stamp : Option Stamp} {entries : Entries}
    (confined : resolver.Confined names called (.map kind stamp entries))
    (looked : resolver.classifier.kind (.map kind stamp entries) = .mapping) :
    ∀ entry ∈ entries, resolver.Confined names called entry.2 := by
  cases confined with
  | data other => rcases other with other | other <;> rw [looked] at other <;> cases other
  | callable other => rw [looked] at other; cases other
  | map _ _ values => exact values

theorem items {kind : ListKind} {stamp : Option Stamp} {items : List Term}
    (confined : resolver.Confined names called (.list kind stamp items))
    (looked : resolver.classifier.kind (.list kind stamp items) = .sequence) :
    ∀ item ∈ items, resolver.Confined names called item := by
  cases confined with
  | data other => rcases other with other | other <;> rw [looked] at other <;> cases other
  | callable other => rw [looked] at other; cases other
  | list _ each => exact each

theorem elements {stamp : Option Stamp} {items : List Term}
    (confined : resolver.Confined names called (.tuple stamp items))
    (looked : resolver.classifier.kind (.tuple stamp items) = .sequence) :
    ∀ item ∈ items, resolver.Confined names called item := by
  cases confined with
  | data other => rcases other with other | other <;> rw [looked] at other <;> cases other
  | callable other => rw [looked] at other; cases other
  | tuple _ each => exact each

theorem known_function {stamp : Stamp} {name : String} {deps : List String} {doc : Option String}
    {callee : Term} (confined : resolver.Confined names called (.function stamp name deps doc callee))
    (looked : resolver.classifier.kind (.function stamp name deps doc callee) = .function) :
    called (.function stamp name deps doc callee) := by
  cases confined with
  | data other => rcases other with other | other <;> rw [looked] at other <;> cases other
  | callable other => rw [looked] at other; cases other
  | function _ _ known => exact known

theorem known_callable {t : Term} (confined : resolver.Confined names called t)
    (looked : resolver.classifier.kind t = .callable) : called t := by
  cases confined with
  | data other => rcases other with other | other <;> rw [looked] at other <;> cases other
  | callable _ known => exact known
  | reference other => rw [looked] at other; cases other
  | function other => rw [looked] at other; cases other
  | map other => rw [looked] at other; cases other
  | list other => rw [looked] at other; cases other
  | tuple other => rw [looked] at other; cases other

theorem noDefaults {kind : MapKind} {stamp : Option Stamp} {entries : Entries} {defaults : Term}
    (confined : resolver.Confined names called (.map kind stamp entries))
    (looked : resolver.classifier.kind (.map kind stamp entries) = .mapping) :
    Entries.find? entries resolver.defaultsKey ≠ some defaults := by
  intro found
  cases confined with
  | data other => rcases other with other | other <;> rw [looked] at other <;> cases other
  | callable other => rw [looked] at other; cases other
  | map _ noDefaults _ => cases (Entries.has_eq_false_iff.1 noDefaults).symm.trans found

end Confined

variable {resolver : Resolver Term} {names names' : String → Prop} {called called' : Term → Prop} {t : Term}

theorem Confined.mono (confined : resolver.Confined names called t)
    (more : ∀ name, names name → names' name) (known : ∀ f, called f → called' f) :
    resolver.Confined names' called' t := by
  induction confined with
  | data looked => exact .data looked
  | reference looked among => exact .reference looked (more _ among)
  | function looked among knows =>
      exact .function looked (fun dep member => more dep (among dep member)) (known _ knows)
  | callable looked knows => exact .callable looked (known _ knows)
  | map looked noDefaults _ ih => exact .map looked noDefaults ih
  | list looked _ ih => exact .list looked ih
  | tuple looked _ ih => exact .tuple looked ih

/-- What is the same but for identity is confined alike. -/
theorem Confined.of_resembles (confined : resolver.Confined names called t) {t' : Term}
    (same : t.Resembles t') : resolver.Confined names called t' := by
  induction confined generalizing t' with
  | data looked => exact .data (looked.imp same.kind.symm.trans same.kind.symm.trans)
  | reference looked among =>
      obtain rfl := same.text
      exact .reference looked among
  | function looked among knows =>
      obtain rfl := same.function
      exact .function looked among knows
  | @callable t looked knows =>
      have isCallable := Classifier.shape_of_kind looked (by decide) (by decide)
      have alike : t' = t := by
        cases t with
        | callable => exact same.callable
        | _ => cases isCallable
      exact alike ▸ .callable looked knows
  | map looked noDefaults _ ih =>
      have looked' := same.kind.symm.trans looked
      obtain ⟨stamp', entries', rfl, fields⟩ := same.map
      refine .map looked' ((Custody.has_of_keys fields.keys _).symm.trans noDefaults) ?_
      intro entry' member
      obtain ⟨entry, inside, -, values⟩ := exists_of_forall₂ fields member
      exact ih entry inside values
  | list looked _ ih =>
      have looked' := same.kind.symm.trans looked
      obtain ⟨stamp', items', rfl, items⟩ := same.list
      refine .list looked' fun item' member => ?_
      obtain ⟨item, inside, values⟩ := exists_of_forall₂ items member
      exact ih item inside values
  | tuple looked _ ih =>
      have looked' := same.kind.symm.trans looked
      obtain ⟨stamp', items', rfl, items⟩ := same.tuple
      refine .tuple looked' fun item' member => ?_
      obtain ⟨item, inside, values⟩ := exists_of_forall₂ items member
      exact ih item inside values

/-! ## Values -/

/-- What resolved terms are made of: data, and references to some names. -/
abbrev IsValue (resolver : Resolver Term) (names : String → Prop) : Term → Prop :=
  resolver.Confined names fun _ => False

theorem isValue_null (resolver : Resolver Term) (names : String → Prop) :
    resolver.IsValue names .null := by
  rcases Classifier.kind_cases resolver.classifier .null with
    scalar | ⟨-, _, _, text⟩ | ⟨shape, -⟩
  · exact .data (.inl scalar)
  · cases text
  · exact .data (.inl shape)

/-- Data, and references to what some values refer to. -/
def MadeOf (resolver : Resolver Term) (args : List Term) (value : Term) : Prop :=
  ∀ names, (∀ arg ∈ args, resolver.IsValue names arg) → resolver.IsValue names value

/-- Text is a value or a reference. -/
theorem isValue_text {kind : TextKind} {s : String} (among : names s) :
    resolver.IsValue names (.text kind s) := by
  rcases Classifier.kind_cases resolver.classifier (.text kind s) with
    scalar | ⟨isRef, -⟩ | ⟨shape, -⟩
  · exact .data (.inl scalar)
  · exact .reference isRef among
  · exact .data (.inl shape)

/-- Plain collections are values if what is in them is, whatever the leaves are. -/
theorem isValue_list {stamp : Option Stamp} {items : List Term}
    (each : ∀ item ∈ items, resolver.IsValue names item) :
    resolver.IsValue names (.list .plain stamp items) := by
  rcases Classifier.kind_cases resolver.classifier (.list .plain stamp items) with
    scalar | ⟨-, _, _, text⟩ | ⟨shape, -⟩
  · exact .data (.inl scalar)
  · cases text
  · exact .list shape each

theorem isValue_tuple {stamp : Option Stamp} {items : List Term}
    (each : ∀ item ∈ items, resolver.IsValue names item) :
    resolver.IsValue names (.tuple stamp items) := by
  rcases Classifier.kind_cases resolver.classifier (.tuple stamp items) with
    scalar | ⟨-, _, _, text⟩ | ⟨shape, -⟩
  · exact .data (.inl scalar)
  · cases text
  · exact .tuple shape each

theorem isValue_map {stamp : Option Stamp} {entries : Entries}
    (noDefaults : Entries.has entries resolver.defaultsKey = false)
    (each : ∀ entry ∈ entries, resolver.IsValue names entry.2) :
    resolver.IsValue names (.map .plain stamp entries) := by
  rcases Classifier.kind_cases resolver.classifier (.map .plain stamp entries) with
    scalar | ⟨-, _, _, text⟩ | ⟨shape, -⟩
  · exact .data (.inl scalar)
  · cases text
  · exact .map shape noDefaults each

/-! ## Resolvers that take terms in the same way -/

/-- Resolvers with the built-in rules that differ in limits and strictness only. -/
structure Akin (resolver resolver' : Resolver Term) : Prop where
  rules : resolver.rules = Rule.standard
  rules' : resolver'.rules = Rule.standard
  classifier : resolver'.classifier = resolver.classifier
  defaultsKey : resolver'.config.defaultsKey = resolver.config.defaultsKey
  removeEmpty : resolver'.config.removeEmpty = resolver.config.removeEmpty

theorem Akin.refl (rules : resolver.rules = Rule.standard) : resolver.Akin resolver :=
  ⟨rules, rules, rfl, rfl, rfl⟩

theorem Akin.symm {resolver' : Resolver Term} (akin : resolver.Akin resolver') :
    resolver'.Akin resolver :=
  ⟨akin.rules', akin.rules, akin.classifier.symm, akin.defaultsKey.symm, akin.removeEmpty.symm⟩

theorem Akin.trans {resolver' resolver'' : Resolver Term} (akin : resolver.Akin resolver')
    (akin' : resolver'.Akin resolver'') : resolver.Akin resolver'' :=
  ⟨akin.rules, akin'.rules', akin'.classifier.trans akin.classifier,
    akin'.defaultsKey.trans akin.defaultsKey, akin'.removeEmpty.trans akin.removeEmpty⟩

namespace Akin

variable {resolver' : Resolver Term} (akin : resolver.Akin resolver')

include akin

theorem key : resolver'.defaultsKey = resolver.defaultsKey :=
  congrArg Term.str akin.defaultsKey

theorem drops : resolver'.drops = resolver.drops := by
  funext value
  unfold Resolver.drops
  rw [akin.classifier, akin.removeEmpty]

theorem checkValues (values : List Term) : resolver'.checkValues values = resolver.checkValues values := by
  unfold Resolver.checkValues
  rw [akin.classifier, akin.removeEmpty]

theorem gathered {t : Term} (gathered : resolver.Gathered t) : resolver'.Gathered t := by
  cases gathered with
  | map noDefaults => exact .map (akin.key ▸ noDefaults)
  | list => exact .list
  | tuple => exact .tuple

end Akin

/-! ## Arguments -/

/-- The last values are the first ones from the end. -/
theorem find?_latest (values : Entries) (key : Term) :
    Entries.find? (Entries.ofPairs values) key = Entries.find? values.reverse key := by
  unfold Entries.ofPairs
  rw [Entries.find?_update, Entries.find?_nil]
  simp only [Option.orElse_eq_orElse, Option.orElse_eq_or, Option.or_none]

/-- Arguments are values of names, or null. -/
theorem mem_arguments {P : Term → Prop} (null : P .null) {values : Entries}
    (each : ∀ entry ∈ values, P entry.2) {deps : List String} :
    ∀ arg ∈ arguments deps values, P arg := by
  unfold arguments
  dsimp only
  refine List.forall_mem_map.2 fun dep _ => ?_
  rw [find?_latest]
  cases found : Entries.find? values.reverse (.ref dep) with
  | none => exact null
  | some value =>
      obtain ⟨key, member, -⟩ := Entries.mem_of_find? found
      exact each _ (List.mem_reverse.1 member)

/-- Related arguments are found among related values. -/
theorem arguments_related {R : Term → Term → Prop} (null : R .null .null) {values values' : Entries}
    (each : List.Forall₂ (fun entry entry' => entry.1 = entry'.1 ∧ R entry.2 entry'.2) values values')
    (deps : List String) : List.Forall₂ R (arguments deps values) (arguments deps values') := by
  unfold arguments
  dsimp only
  induction deps with
  | nil => exact .nil
  | cons dep rest ih =>
      refine .cons ?_ ih
      dsimp only
      rw [find?_latest, find?_latest]
      have found := Entries.find?_related (List.rel_reverse each) (.ref dep)
      generalize Entries.find? values.reverse (.ref dep) = value,
        Entries.find? values'.reverse (.ref dep) = value' at found
      cases found with
      | none => exact null
      | some related => exact related

end Resolver

namespace Term

/-! ## What functions give -/

def Returns : Term → List Term → Term → Prop
  | .function stamp name deps doc callee, args, value => ∃ ceiling levels world after,
      invoke (resolveTerm ceiling levels) callee (.function stamp name deps doc callee) args world =
        .ok value after
  | _, _, _ => False

/-- A function gives plain data, and what its arguments refer to. -/
def GivesData (resolver : Resolver Term) (f : Term) : Prop :=
  ∀ args value, f.Returns args value → resolver.MadeOf args value

theorem givesData_keeper (resolver : Resolver Term) (name : String) :
    GivesData resolver (keeper name) := by
  rintro args value ⟨ceiling, levels, world, after, ended⟩ names values
  cases args with
  | nil => cases ended
  | cons arg rest =>
      cases ended
      exact values value List.mem_cons_self

end Term

namespace Environment

/-- What is looked up is the same if what is bound is the same. -/
theorem target?_related {env env' : Environment Term} {name : String}
    (same : Option.Rel Term.Resembles (env.lookup? (.ref name)) (env'.lookup? (.ref name)))
    (kind : TextKind) :
    Option.Rel Term.Resembles (env.target? (.text kind name)) (env'.target? (.text kind name)) := by
  unfold target?
  rw [env.lookup?_text kind, env'.lookup?_text kind]
  generalize env.lookup? (.ref name) = bound, env'.lookup? (.ref name) = bound' at same
  cases same with
  | none => exact .none
  | @some binding binding' same =>
      have text : binding.text? = binding'.text? := by
        rw [← @Term.text?_outline false binding, same, Term.text?_outline]
      have self : isSelfBinding binding (.text kind name) = isSelfBinding binding' (.text kind name) := by
        unfold isSelfBinding
        rw [text]
      rw [Option.filter_some, Option.filter_some, self]
      split
      · exact .some same
      · exact .none

end Environment

end ScopedTemplate
