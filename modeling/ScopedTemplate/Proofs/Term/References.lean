import ScopedTemplate.Proofs.Term.Outline
import ScopedTemplate.Text.Sorted

/-!
# References at positions

What the search for references finds in a value in normal form are the references at its positions:
no mapping in it has a scope of defaults, which would not be looked into.
-/

namespace ScopedTemplate

namespace Term

variable {classifier : Classifier} {t s : Term} {name : String}

/-- A position is the top, or a position of a child. -/
theorem position_iff : t.Position classifier s ↔
    s = t ∨ ∃ u, Child classifier t u ∧ u.Position classifier s := by
  constructor
  · intro position
    induction position with
    | top => exact .inl rfl
    | @inner parent s above child ih =>
        rcases ih with rfl | ⟨u, first, below⟩
        · exact .inr ⟨s, child, .top⟩
        · exact .inr ⟨u, first, below.inner child⟩
  · rintro (rfl | ⟨u, first, below⟩)
    · exact .top
    · induction below with
      | top => exact .inner .top first
      | inner above child ih => exact ih.inner child

/-- A reference to a name is at some position. -/
def RefersTo (classifier : Classifier) (t : Term) (name : String) : Prop :=
  ∃ kind, t.Position classifier (.text kind name) ∧ classifier.kind (.text kind name) = .ref

/-- A term without children that is no reference refers to nothing. -/
theorem not_refersTo (noRef : classifier.kind t ≠ .ref) (alone : ∀ s, ¬ Child classifier t s) :
    ¬ t.RefersTo classifier name := by
  rintro ⟨kind, position, isRef⟩
  rcases position_iff.1 position with rfl | ⟨u, first, _⟩
  · exact noRef isRef
  · exact alone u first

/-- A term that is no reference refers to what its children refer to. -/
theorem refersTo_iff (noRef : classifier.kind t ≠ .ref) :
    t.RefersTo classifier name ↔ ∃ s, Child classifier t s ∧ s.RefersTo classifier name := by
  constructor
  · rintro ⟨kind, position, isRef⟩
    rcases position_iff.1 position with rfl | ⟨u, first, below⟩
    · exact absurd isRef noRef
    · exact ⟨u, first, kind, below, isRef⟩
  · rintro ⟨s, first, kind, below, isRef⟩
    exact ⟨kind, position_iff.2 (.inr ⟨s, first, below⟩), isRef⟩

theorem not_child_of_kind (noMapping : classifier.kind t ≠ .mapping)
    (noSequence : classifier.kind t ≠ .sequence) (s : Term) : ¬ Child classifier t s := by
  intro child
  cases child with
  | value looked => exact noMapping looked
  | element looked => exact noSequence looked
  | component looked => exact noSequence looked

/-- The search finds nothing in scalars. -/
theorem references_of_scalar (scalar : classifier.kind t = .scalar) (key : String) :
    t.references classifier key = [] := by
  cases leaf : classifier.isLeaf t with
  | true => cases t <;> simp [references, leaf]
  | false =>
      unfold Classifier.kind at scalar
      rw [leaf] at scalar
      cases t with
      | text kind s =>
          cases found : classifier.isRef (.text kind s) with
          | true => simp [found, isRemoved] at scalar
          | false => simp [references, found]
      | list | tuple | map => cases scalar
      | _ => simp [references]

/-- What is a reference and no leaf is found as such. -/
theorem references_of_ref {kind : TextKind} (found : classifier.kind (.text kind name) = .ref)
    (key : String) : (Term.text kind name).references classifier key = [name] := by
  have notLeaf : classifier.isLeaf (.text kind name) = false :=
    isLeaf_of_kind (by rw [found]; decide) rfl
  unfold Classifier.kind at found
  rw [notLeaf] at found
  cases isRef : classifier.isRef (.text kind name) with
  | true => simp [references, notLeaf, isRef]
  | false =>
      rw [isRef] at found
      cases found

/-- The names of the references ascend without repetition. -/
theorem referenceNames_pairwise (classifier : Classifier) (key : String) (t : Term) :
    (t.referenceNames classifier key).Pairwise (· < ·) := by
  have distinct : (t.referenceNames classifier key).Nodup :=
    (Text.sort_perm _).nodup_iff.2 (Text.distinct_nodup _)
  refine (Text.sort_pairwise _).imp₂ ?_ distinct
  intro first second before differ
  exact Std.lt_of_le_of_ne before differ

theorem mem_referenceNames {key : String} :
    name ∈ t.referenceNames classifier key ↔ name ∈ t.references classifier key := by
  unfold referenceNames
  rw [(Text.sort_perm _).mem_iff, Text.mem_distinct]

end Term

namespace Resolver

variable {resolver : Resolver Term} {left : Term → Prop} {t : Term} {name : String}

/-- In a value in normal form the search finds the references at its positions. -/
theorem Normal.mem_references (normal : Normal resolver left t) :
    name ∈ t.references resolver.classifier resolver.config.defaultsKey ↔
      t.RefersTo resolver.classifier name := by
  induction normal with
  | removed =>
      refine iff_of_false (by simp [Term.references]) (Term.not_refersTo (by simp) ?_)
      exact Term.not_child_of_kind (by simp) (by simp)
  | scalar kind =>
      rw [Term.references_of_scalar kind]
      refine iff_of_false List.not_mem_nil (Term.not_refersTo (by simp [kind]) ?_)
      exact Term.not_child_of_kind (by simp [kind]) (by simp [kind])
  | ref kind isLeft =>
      obtain ⟨textKind, s, rfl⟩ := Classifier.text_of_ref kind
      rw [Term.references_of_ref kind, List.mem_singleton]
      constructor
      · rintro rfl
        exact ⟨textKind, .top, kind⟩
      · rintro ⟨kind', position, _⟩
        rcases Term.position_iff.1 position with same | ⟨u, child, _⟩
        · cases same
          rfl
        · cases child
  | @map stamp entries kind deep noDefaults kept values ih =>
      have notLeaf := Term.isLeaf_of_kind (by rw [kind]; decide) rfl
      rw [Term.refersTo_iff (by simp [kind]), Term.references, if_neg (by simp [notLeaf]),
        Term.mem_referencesInEntries]
      constructor
      · rintro ⟨entry, member, _, inside⟩
        exact ⟨entry.2, .value kind member, (ih entry member).1 inside⟩
      · rintro ⟨s, child, refers⟩
        cases child with
        | @value _ _ _ entry _ member =>
            refine ⟨entry, member, ?_, (ih entry member).2 refers⟩
            rw [Entries.has_eq_any, List.any_eq_false] at noDefaults
            exact Bool.eq_false_iff.2 (noDefaults entry member)
  | @list stamp items kind deep kept values ih =>
      have notLeaf := Term.isLeaf_of_kind (by rw [kind]; decide) rfl
      rw [Term.refersTo_iff (by simp [kind]), Term.references, if_neg (by simp [notLeaf]),
        Term.mem_referencesInItems]
      constructor
      · rintro ⟨item, member, inside⟩
        exact ⟨item, .element kind member, (ih item member).1 inside⟩
      · rintro ⟨s, child, refers⟩
        cases child with
        | element _ member => exact ⟨s, member, (ih s member).2 refers⟩
  | @tuple stamp items kind deep kept values ih =>
      have notLeaf := Term.isLeaf_of_kind (by rw [kind]; decide) rfl
      rw [Term.refersTo_iff (by simp [kind]), Term.references, if_neg (by simp [notLeaf]),
        Term.mem_referencesInItems]
      constructor
      · rintro ⟨item, member, inside⟩
        exact ⟨item, .component kind member, (ih item member).1 inside⟩
      · rintro ⟨s, child, refers⟩
        cases child with
        | component _ member => exact ⟨s, member, (ih s member).2 refers⟩

end Resolver

end ScopedTemplate
