import ScopedTemplate.Resolver.Step
import ScopedTemplate.Proofs.Term.Access

/-!
# Normal forms

A value in normal form is a scalar, the removal mark, a reference that was left, or a plain
collection of such values, none of which would be left out of it.
-/

namespace ScopedTemplate

/-! ## Kinds and shapes -/

namespace Classifier

variable {classifier : Classifier} {t : Term}

theorem kind_of_classify {kind : Kind} (found : classifier.classify t = .ok kind) :
    kind = classifier.kind t := by
  unfold classify at found
  split at found
  · obtain ⟨_, _, found⟩ := Except.bind_eq_ok.1 found
    cases found
    rfl
  · cases found
    rfl

/-- A kind other than that of a scalar is the kind of the shape, or that of a reference. -/
theorem kind_cases (classifier : Classifier) (t : Term) :
    classifier.kind t = .scalar ∨ (classifier.kind t = .ref ∧ ∃ kind s, t = .text kind s) ∨
      (classifier.kind t = shapeKind t ∧ (t.isRemoved = true ∨ classifier.isLeaf t = false)) := by
  unfold kind
  by_cases removed : t.isRemoved = true
  · refine .inr (.inr ⟨?_, .inl removed⟩)
    cases t with
    | removed => rfl
    | _ => cases removed
  · rw [if_neg removed]
    cases leaf : classifier.isLeaf t with
    | true => exact .inl rfl
    | false =>
        cases ref : classifier.isRef t with
        | true =>
            refine .inr (.inl ⟨rfl, ?_⟩)
            cases t with
            | text kind s => exact ⟨kind, s, rfl⟩
            | _ => cases ref
        | false => exact .inr (.inr ⟨rfl, .inr rfl⟩)

theorem shape_of_kind {kind : Kind} (found : classifier.kind t = kind) (differs : kind ≠ .scalar)
    (noRef : kind ≠ .ref) : shapeKind t = kind := by
  rcases kind_cases classifier t with scalar | ⟨ref, _⟩ | ⟨shape, _⟩
  · exact absurd (found.symm.trans scalar) differs
  · exact absurd (found.symm.trans ref) noRef
  · exact shape.symm.trans found

theorem text_of_ref (found : classifier.kind t = .ref) : ∃ kind s, t = .text kind s := by
  rcases kind_cases classifier t with scalar | ⟨_, text⟩ | ⟨shape, _⟩
  · rw [found] at scalar
    cases scalar
  · exact text
  · rw [found] at shape
    refine absurd shape.symm ?_
    cases t <;> simp [shapeKind]
    -- only a callable is left, which is a function with dependencies or not
    split <;> simp

theorem removed_of_kind (found : classifier.kind t = .removed) : t = .removed := by
  have shape := shape_of_kind found (by decide) (by decide)
  cases t with
  | removed => rfl
  | callable kind stamp label name body => cases kind <;> cases shape
  | _ => cases shape

theorem function_of_kind (found : classifier.kind t = .function) :
    ∃ stamp name deps doc callee, t = .function stamp name deps doc callee := by
  have shape := shape_of_kind found (by decide) (by decide)
  cases t with
  | function stamp name deps doc callee => exact ⟨stamp, name, deps, doc, callee, rfl⟩
  | callable kind stamp label name body => cases kind <;> cases shape
  | _ => cases shape

theorem callable_of_kind (found : classifier.kind t = .callable) :
    ∃ kind stamp label name body, t = .callable kind stamp label name body := by
  have shape := shape_of_kind found (by decide) (by decide)
  cases t with
  | callable kind stamp label name body => exact ⟨kind, stamp, label, name, body, rfl⟩
  | _ => cases shape

theorem map_of_kind (found : classifier.kind t = .mapping) :
    ∃ kind stamp entries, t = .map kind stamp entries := by
  have shape := shape_of_kind found (by decide) (by decide)
  cases t with
  | map kind stamp entries => exact ⟨kind, stamp, entries, rfl⟩
  | callable kind stamp label name body => cases kind <;> cases shape
  | _ => cases shape

theorem items_of_kind (found : classifier.kind t = .sequence) :
    (∃ kind stamp items, t = .list kind stamp items) ∨ ∃ stamp items, t = .tuple stamp items := by
  have shape := shape_of_kind found (by decide) (by decide)
  cases t with
  | list kind stamp items => exact .inl ⟨kind, stamp, items, rfl⟩
  | tuple stamp items => exact .inr ⟨stamp, items, rfl⟩
  | callable kind stamp label name body => cases kind <;> cases shape
  | _ => cases shape

/-- What is of more types is a leaf more often. -/
theorem isLeaf_of_types {t u : Term} (types : ∀ type ∈ t.types, type ∈ u.types)
    (leaf : classifier.isLeaf t = true) : classifier.isLeaf u = true := by
  obtain ⟨type, among, has⟩ := List.any_eq_true.1 leaf
  refine List.any_eq_true.2 ⟨type, among, ?_⟩
  exact List.contains_iff_mem.2 (types type (List.contains_iff_mem.1 has))

/-- A plain mapping has the kind of any mapping that is no leaf. -/
theorem kind_plainMap {kind : MapKind} {stamp stamp' : Option Stamp} {entries entries' : Entries}
    (found : classifier.kind (.map kind stamp entries) = .mapping) :
    classifier.kind (.map .plain stamp' entries') = .mapping := by
  have types : ∀ type ∈ (Term.map .plain stamp' entries').types,
      type ∈ (Term.map kind stamp entries).types := by
    intro type
    cases kind <;> simp [Term.types, Term.exactType, Term.baseType?, Term.abstractTypes,
      Term.numberTypes, Term.conversionTypes]
    grind
  cases leaf : classifier.isLeaf (.map .plain stamp' entries') with
  | true =>
      rw [kind_of_isLeaf (isLeaf_of_types types leaf) rfl] at found
      cases found
  | false => simp [Classifier.kind, leaf, Term.isRemoved, isRef, shapeKind]

/-- A plain list has the kind of any list that is no leaf. -/
theorem kind_plainList {kind : ListKind} {stamp stamp' : Option Stamp} {items items' : List Term}
    (found : classifier.kind (.list kind stamp items) = .sequence) :
    classifier.kind (.list .plain stamp' items') = .sequence := by
  have types : ∀ type ∈ (Term.list .plain stamp' items').types,
      type ∈ (Term.list kind stamp items).types := by
    intro type
    cases kind <;> simp [Term.types, Term.exactType, Term.baseType?, Term.abstractTypes,
      Term.numberTypes, Term.conversionTypes]
    grind
  cases leaf : classifier.isLeaf (.list .plain stamp' items') with
  | true =>
      rw [kind_of_isLeaf (isLeaf_of_types types leaf) rfl] at found
      cases found
  | false => simp [Classifier.kind, leaf, Term.isRemoved, isRef, shapeKind]

end Classifier

namespace Term

/-- What is neither a scalar nor the removal mark is no leaf. -/
theorem isLeaf_of_kind {classifier : Classifier} {t : Term} (differs : classifier.kind t ≠ .scalar)
    (kept : t.isRemoved = false) : classifier.isLeaf t = false :=
  Bool.eq_false_iff.2 fun leaf => differs (Classifier.kind_of_isLeaf leaf kept)

end Term

/-! ## Positions -/

namespace Term

/-- What a collection holds directly; leaves are not looked into. -/
inductive Child (classifier : Classifier) : Term → Term → Prop where
  | value {kind : MapKind} {stamp : Option Stamp} {entries : Entries} {entry : Term × Term}
      (looked : classifier.kind (.map kind stamp entries) = .mapping) (member : entry ∈ entries) :
      Child classifier (.map kind stamp entries) entry.2
  | element {kind : ListKind} {stamp : Option Stamp} {items : List Term} {item : Term}
      (looked : classifier.kind (.list kind stamp items) = .sequence) (member : item ∈ items) :
      Child classifier (.list kind stamp items) item
  | component {stamp : Option Stamp} {items : List Term} {item : Term}
      (looked : classifier.kind (.tuple stamp items) = .sequence) (member : item ∈ items) :
      Child classifier (.tuple stamp items) item

/-- What stands at some position of a term, the top included. -/
inductive Position (classifier : Classifier) (t : Term) : Term → Prop where
  | top : Position classifier t t
  | inner {parent s : Term} (above : Position classifier t parent)
      (child : Child classifier parent s) : Position classifier t s

end Term

namespace Resolver

/-- A reference was left by an environment that does not bind it to anything else. -/
def Left (events : List Event) (t : Term) : Prop :=
  ∃ env, Event.left env t ∈ events ∧ env.target? t = none

theorem Left.suffix {events later : List Event} (suffix : events <:+ later) {t : Term}
    (left : Left events t) : Left later t := by
  obtain ⟨env, noted, unbound⟩ := left
  exact ⟨env, suffix.subset noted, unbound⟩

/-- What is at the positions of a value in normal form. -/
structure NormalForm (resolver : Resolver Term) (events : List Event) (value : Term) : Prop where
  noFunction : ∀ t, value.Position resolver.classifier t →
    resolver.classifier.kind t ≠ .function ∧ resolver.classifier.kind t ≠ .callable
  mapping : ∀ t, value.Position resolver.classifier t → resolver.classifier.kind t = .mapping →
    ∃ stamp entries, t = .map .plain stamp entries ∧
      Entries.has entries resolver.defaultsKey = false
  sequence : ∀ t, value.Position resolver.classifier t → resolver.classifier.kind t = .sequence →
    ∃ stamp items, t = .list .plain stamp items ∨ t = .tuple stamp items
  reference : ∀ t, value.Position resolver.classifier t → resolver.classifier.kind t = .ref →
    Left events t
  /-- Below the top nothing is left that would be removed. -/
  kept : ∀ parent t, value.Position resolver.classifier parent →
    Term.Child resolver.classifier parent t → t ≠ .removed ∧
      (resolver.config.removeEmpty = true →
        (resolver.classifier.kind t).isCollection = true → t.size? ≠ some 0)

/-- The normal form of a value by its shape; a collection takes two steps to make. -/
inductive Normal (resolver : Resolver Term) (left : Term → Prop) : Term → Prop where
  | removed : Normal resolver left .removed
  | scalar {t : Term} (kind : resolver.classifier.kind t = .scalar) : Normal resolver left t
  | ref {t : Term} (kind : resolver.classifier.kind t = .ref) (isLeft : left t) :
      Normal resolver left t
  | map {stamp : Option Stamp} {entries : Entries}
      (kind : resolver.classifier.kind (.map .plain stamp entries) = .mapping)
      (deep : 2 ≤ resolver.config.maxDepth)
      (noDefaults : Entries.has entries resolver.defaultsKey = false)
      (kept : ∀ entry ∈ entries, resolver.drops entry.2 = false)
      (values : ∀ entry ∈ entries, Normal resolver left entry.2) :
      Normal resolver left (.map .plain stamp entries)
  | list {stamp : Option Stamp} {items : List Term}
      (kind : resolver.classifier.kind (.list .plain stamp items) = .sequence)
      (deep : 2 ≤ resolver.config.maxDepth)
      (kept : ∀ item ∈ items, resolver.drops item = false)
      (values : ∀ item ∈ items, Normal resolver left item) :
      Normal resolver left (.list .plain stamp items)
  | tuple {stamp : Option Stamp} {items : List Term}
      (kind : resolver.classifier.kind (.tuple stamp items) = .sequence)
      (deep : 2 ≤ resolver.config.maxDepth)
      (kept : ∀ item ∈ items, resolver.drops item = false)
      (values : ∀ item ∈ items, Normal resolver left item) :
      Normal resolver left (.tuple stamp items)

namespace Normal

variable {resolver : Resolver Term} {left left' : Term → Prop} {t : Term}

theorem mono (normal : Normal resolver left t) (imp : ∀ s, left s → left' s) :
    Normal resolver left' t := by
  induction normal with
  | removed => exact .removed
  | scalar kind => exact .scalar kind
  | ref kind isLeft => exact .ref kind (imp _ isLeft)
  | map kind deep noDefaults kept values ih => exact .map kind deep noDefaults kept ih
  | list kind deep kept values ih => exact .list kind deep kept ih
  | tuple kind deep kept values ih => exact .tuple kind deep kept ih

/-- What is refused in the end makes no difference to normal forms. -/
theorem of_similar {resolver' : Resolver Term} (similar : resolver.Similar resolver')
    (normal : Normal resolver left t) : Normal resolver' left t := by
  have kinds : ∀ {t kind}, resolver.classifier.kind t = kind → resolver'.classifier.kind t = kind :=
    fun found => similar.classifier ▸ found
  have drops : ∀ t, resolver'.drops t = resolver.drops t := by
    intro t
    unfold drops
    rw [similar.removeEmpty, similar.classifier]
  have key : resolver'.defaultsKey = resolver.defaultsKey := congrArg Term.str similar.defaultsKey
  have deeper : 2 ≤ resolver.config.maxDepth → 2 ≤ resolver'.config.maxDepth :=
    fun deep => similar.maxDepth ▸ deep
  induction normal with
  | removed => exact .removed
  | scalar kind => exact .scalar (kinds kind)
  | ref kind isLeft => exact .ref (kinds kind) isLeft
  | map kind deep noDefaults kept values ih =>
      exact .map (kinds kind) (deeper deep) (key ▸ noDefaults)
        (fun entry member => (drops entry.2).trans (kept entry member)) ih
  | list kind deep kept values ih =>
      exact .list (kinds kind) (deeper deep) (fun item member => (drops item).trans (kept item member))
        ih
  | tuple kind deep kept values ih =>
      exact .tuple (kinds kind) (deeper deep) (fun item member => (drops item).trans (kept item member))
        ih

theorem suffix {events later : List Event} (normal : Normal resolver (Left events) t)
    (suffix : events <:+ later) : Normal resolver (Left later) t :=
  normal.mono fun _ => Left.suffix suffix

/-- What is in a value in normal form is kept and in normal form. -/
theorem child {s : Term} (normal : Normal resolver left t)
    (child : Term.Child resolver.classifier t s) :
    Normal resolver left s ∧ resolver.drops s = false := by
  cases child with
  | value looked member =>
      cases normal with
      | scalar kind => exact absurd (looked.symm.trans kind) (by decide)
      | ref kind isLeft => exact absurd (looked.symm.trans kind) (by decide)
      | map kind deep noDefaults kept values => exact ⟨values _ member, kept _ member⟩
  | element looked member =>
      cases normal with
      | scalar kind => exact absurd (looked.symm.trans kind) (by decide)
      | ref kind isLeft => exact absurd (looked.symm.trans kind) (by decide)
      | list kind deep kept values => exact ⟨values _ member, kept _ member⟩
  | component looked member =>
      cases normal with
      | scalar kind => exact absurd (looked.symm.trans kind) (by decide)
      | ref kind isLeft => exact absurd (looked.symm.trans kind) (by decide)
      | tuple kind deep kept values => exact ⟨values _ member, kept _ member⟩

theorem position {s : Term} (normal : Normal resolver left t)
    (position : t.Position resolver.classifier s) : Normal resolver left s := by
  induction position with
  | top => exact normal
  | inner above child ih => exact (ih.child child).1

theorem kind_ne (normal : Normal resolver left t) :
    resolver.classifier.kind t ≠ .function ∧ resolver.classifier.kind t ≠ .callable := by
  cases normal with
  | removed => exact ⟨by simp, by simp⟩
  | scalar kind => simp [kind]
  | ref kind isLeft => simp [kind]
  | map kind deep noDefaults kept values => simp [kind]
  | list kind deep kept values => simp [kind]
  | tuple kind deep kept values => simp [kind]

theorem normalForm {events : List Event} {value : Term}
    (normal : Normal resolver (Left events) value) : NormalForm resolver events value where
  noFunction := fun t at_t => (normal.position at_t).kind_ne
  mapping := by
    intro t at_t looked
    cases normal.position at_t with
    | removed => cases looked
    | scalar kind => exact absurd (looked.symm.trans kind) (by decide)
    | ref kind isLeft => exact absurd (looked.symm.trans kind) (by decide)
    | map kind deep noDefaults kept values => exact ⟨_, _, rfl, noDefaults⟩
    | list kind deep kept values => exact absurd (looked.symm.trans kind) (by decide)
    | tuple kind deep kept values => exact absurd (looked.symm.trans kind) (by decide)
  sequence := by
    intro t at_t looked
    cases normal.position at_t with
    | removed => cases looked
    | scalar kind => exact absurd (looked.symm.trans kind) (by decide)
    | ref kind isLeft => exact absurd (looked.symm.trans kind) (by decide)
    | map kind deep noDefaults kept values => exact absurd (looked.symm.trans kind) (by decide)
    | list kind deep kept values => exact ⟨_, _, .inl rfl⟩
    | tuple kind deep kept values => exact ⟨_, _, .inr rfl⟩
  reference := by
    intro t at_t looked
    cases normal.position at_t with
    | removed => cases looked
    | scalar kind => exact absurd (looked.symm.trans kind) (by decide)
    | ref kind isLeft => exact isLeft
    | map kind deep noDefaults kept values => exact absurd (looked.symm.trans kind) (by decide)
    | list kind deep kept values => exact absurd (looked.symm.trans kind) (by decide)
    | tuple kind deep kept values => exact absurd (looked.symm.trans kind) (by decide)
  kept := by
    intro parent t above child
    have kept := ((normal.position above).child child).2
    unfold drops at kept
    rw [Bool.or_eq_false_iff] at kept
    refine ⟨?_, ?_⟩
    · rintro rfl
      exact absurd kept.1 (by decide)
    · intro removes collection empty
      have kept := kept.2
      rw [removes, empty] at kept
      simp [Classifier.isCollection, collection] at kept

end Normal

/-! ## Copies -/

theorem kind_detach (classifier : Classifier) (next : Stamp) (t : Term) :
    classifier.kind (t.detach next).1 = classifier.kind t := by
  cases t with
  | list kind stamp items => cases kind <;> rfl
  | map kind stamp entries => cases kind <;> rfl
  | _ => rfl

theorem length_detachItems (next : Stamp) (items : List Term) :
    (Term.detachItems next items).1.length = items.length := by
  induction items generalizing next with
  | nil => rfl
  | cons t rest ih => simp [Term.detachItems, ih]

theorem length_detachEntries (next : Stamp) (entries : Entries) :
    (Term.detachEntries next entries).1.length = entries.length := by
  induction entries generalizing next with
  | nil => rfl
  | cons entry rest ih => simp [Term.detachEntries, ih]

theorem size?_detach (next : Stamp) (t : Term) : (t.detach next).1.size? = t.size? := by
  cases t with
  | list kind stamp items =>
      cases kind with
      | plain => simp [Term.detach, Term.size?, length_detachItems]
      | rows => rfl
  | tuple stamp items => simp [Term.detach, Term.size?, length_detachItems]
  | map kind stamp entries =>
      cases kind with
      | plain => simp [Term.detach, Term.size?, length_detachEntries]
      | frame => rfl
  | _ => rfl

theorem drops_detach (resolver : Resolver Term) (next : Stamp) (t : Term) :
    resolver.drops (t.detach next).1 = resolver.drops t := by
  have removed : (t.detach next).1.isRemoved = t.isRemoved := by
    cases t with
    | list kind stamp items => cases kind <;> rfl
    | map kind stamp entries => cases kind <;> rfl
    | _ => rfl
  unfold drops Classifier.isCollection
  rw [kind_detach, size?_detach, removed]

theorem mem_detachItems {next : Stamp} {items : List Term} {item : Term}
    (member : item ∈ (Term.detachItems next items).1) :
    ∃ original ∈ items, ∃ next', item = (original.detach next').1 := by
  induction items generalizing next with
  | nil => cases member
  | cons t rest ih =>
      rw [Term.detachItems] at member
      rcases List.mem_cons.1 member with rfl | later
      · exact ⟨t, List.mem_cons_self, next, rfl⟩
      · obtain ⟨original, inside, next', rfl⟩ := ih later
        exact ⟨original, List.mem_cons_of_mem _ inside, next', rfl⟩

theorem mem_detachEntries {next : Stamp} {entries : Entries} {entry : Term × Term}
    (member : entry ∈ (Term.detachEntries next entries).1) :
    ∃ original ∈ entries, ∃ next', entry = (original.1, (original.2.detach next').1) := by
  induction entries generalizing next with
  | nil => cases member
  | cons first rest ih =>
      rw [Term.detachEntries] at member
      rcases List.mem_cons.1 member with rfl | later
      · exact ⟨first, List.mem_cons_self, next, rfl⟩
      · obtain ⟨original, inside, next', rfl⟩ := ih later
        exact ⟨original, List.mem_cons_of_mem _ inside, next', rfl⟩

theorem has_detachEntries (next : Stamp) (entries : Entries) (key : Term) :
    Entries.has (Term.detachEntries next entries).1 key = Entries.has entries key := by
  induction entries generalizing next with
  | nil => rfl
  | cons first rest ih =>
      unfold Entries.has at ih ⊢
      rw [Term.detachEntries, Entries.find?_cons, Entries.find?_cons]
      split
      · rfl
      · exact ih _

/-- A copy of a value in normal form is in normal form. -/
theorem Normal.detach {resolver : Resolver Term} {left : Term → Prop} {t : Term}
    (normal : Normal resolver left t) (next : Stamp) :
    Normal resolver left (t.detach next).1 := by
  induction normal generalizing next with
  | removed => exact .removed
  | scalar kind =>
      refine .scalar ?_
      rw [kind_detach]
      exact kind
  | @ref t kind isLeft =>
      obtain ⟨textKind, s, rfl⟩ := Classifier.text_of_ref kind
      exact .ref kind isLeft
  | @map stamp entries kind deep noDefaults kept values ih =>
      rw [Term.detach]
      refine .map ?_ deep ?_ ?_ ?_
      · exact kind
      · rw [has_detachEntries]
        exact noDefaults
      · intro entry member
        obtain ⟨original, inside, next', rfl⟩ := mem_detachEntries member
        rw [drops_detach]
        exact kept original inside
      · intro entry member
        obtain ⟨original, inside, next', rfl⟩ := mem_detachEntries member
        exact ih original inside next'
  | @list stamp items kind deep kept values ih =>
      rw [Term.detach]
      refine .list kind deep ?_ ?_
      · intro item member
        obtain ⟨original, inside, next', rfl⟩ := mem_detachItems member
        rw [drops_detach]
        exact kept original inside
      · intro item member
        obtain ⟨original, inside, next', rfl⟩ := mem_detachItems member
        exact ih original inside next'
  | @tuple stamp items kind deep kept values ih =>
      rw [Term.detach]
      refine .tuple kind deep ?_ ?_
      · intro item member
        obtain ⟨original, inside, next', rfl⟩ := mem_detachItems member
        rw [drops_detach]
        exact kept original inside
      · intro item member
        obtain ⟨original, inside, next', rfl⟩ := mem_detachItems member
        exact ih original inside next'

end Resolver

end ScopedTemplate
