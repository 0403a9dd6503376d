import ScopedTemplate.Proofs.Cycles.Reference
import ScopedTemplate.Proofs.Term.Normal
import ScopedTemplate.Proofs.Term.Outline

/-!
# Terms without hollow children

Pruning leaves out of every mapping and sequence the children that are empty collections after their
own pruning.  The top of a term is never left out, and leaves are not looked into.
-/

namespace ScopedTemplate

def Classifier.isHollow (classifier : Classifier) (t : Term) : Bool :=
  classifier.isCollection t && t.size? == some 0

/-- A collection is a mapping or a sequence. -/
theorem Classifier.kind_of_isCollection {classifier : Classifier} {t : Term}
    (collection : classifier.isCollection t = true) :
    classifier.kind t = .mapping ∨ classifier.kind t = .sequence := by
  unfold Classifier.isCollection Kind.isCollection at collection
  simpa using collection

namespace Term

variable (classifier : Classifier)

mutual

/-- A term without the children that are hollow when they are pruned themselves, at any depth. -/
def pruned : Term → Term
  | .list kind stamp items =>
    if classifier.isLeaf (.list kind stamp items) then .list kind stamp items
    else .list kind stamp (prunedItems items)
  | .tuple stamp items =>
    if classifier.isLeaf (.tuple stamp items) then .tuple stamp items
    else .tuple stamp (prunedItems items)
  | .map kind stamp entries =>
    if classifier.isLeaf (.map kind stamp entries) then .map kind stamp entries
    else .map kind stamp (prunedEntries entries)
  | t => t

def prunedItems : List Term → List Term
  | [] => []
  | t :: ts =>
    if classifier.isHollow (pruned t) then prunedItems ts else pruned t :: prunedItems ts

def prunedEntries : List (Term × Term) → List (Term × Term)
  | [] => []
  | (key, value) :: rest =>
    if classifier.isHollow (pruned value) then prunedEntries rest
    else (key, pruned value) :: prunedEntries rest

end

end Term

namespace Term

variable {classifier : Classifier}

attribute [local simp] pruned in
/-- Only collections have children. -/
theorem pruned_of_kind {t : Term} (single : classifier.isCollection t = false) :
    t.pruned classifier = t := by
  unfold Classifier.isCollection Classifier.kind at single
  cases leaf : classifier.isLeaf t with
  | true => cases t <;> simp [leaf]
  | false =>
      rw [leaf] at single
      cases t with
      | list _ _ _ | tuple _ _ | map _ _ _ => cases single
      | _ => rfl

theorem pruned_list {kind : ListKind} {stamp : Option Stamp} {items : List Term}
    (looked : classifier.kind (.list kind stamp items) = .sequence) :
    (Term.list kind stamp items).pruned classifier =
      .list kind stamp (prunedItems classifier items) := by
  rw [pruned, isLeaf_of_kind (by rw [looked]; decide) rfl, if_neg nofun]

theorem pruned_tuple {stamp : Option Stamp} {items : List Term}
    (looked : classifier.kind (.tuple stamp items) = .sequence) :
    (Term.tuple stamp items).pruned classifier = .tuple stamp (prunedItems classifier items) := by
  rw [pruned, isLeaf_of_kind (by rw [looked]; decide) rfl, if_neg nofun]

theorem pruned_map {kind : MapKind} {stamp : Option Stamp} {entries : Entries}
    (looked : classifier.kind (.map kind stamp entries) = .mapping) :
    (Term.map kind stamp entries).pruned classifier =
      .map kind stamp (prunedEntries classifier entries) := by
  rw [pruned, isLeaf_of_kind (by rw [looked]; decide) rfl, if_neg nofun]

@[simp] theorem types_pruned (t : Term) : (t.pruned classifier).types = t.types := by
  cases t with
  | list kind stamp items => rw [pruned]; split <;> cases kind <;> rfl
  | tuple stamp items => rw [pruned]; split <;> rfl
  | map kind stamp entries => rw [pruned]; split <;> cases kind <;> rfl
  | _ => rfl

@[simp] theorem isRemoved_pruned (t : Term) : (t.pruned classifier).isRemoved = t.isRemoved := by
  cases t with
  | list kind stamp items => rw [pruned]; split <;> rfl
  | tuple stamp items => rw [pruned]; split <;> rfl
  | map kind stamp entries => rw [pruned]; split <;> rfl
  | _ => rfl

@[simp] theorem check_pruned (t : Term) :
    classifier.check (t.pruned classifier) = classifier.check t := by
  unfold Classifier.check Classifier.refusal?
  rw [Classifier.refusalAmong?_of_types t.types_pruned]

@[simp] theorem isHollow_outline {sorts : Bool} (t : Term) :
    classifier.isHollow (t.outline sorts) = classifier.isHollow t := by
  unfold Classifier.isHollow Classifier.isCollection
  rw [Classifier.kind_outline, size?_outline]

/-! ## References -/

variable {defaultsKey : String}

/-- There is no reference in a hollow term. -/
theorem references_of_isHollow {t : Term} (hollow : classifier.isHollow t = true) :
    t.references classifier defaultsKey = [] := by
  obtain ⟨collection, empty⟩ := Bool.and_eq_true_iff.1 hollow
  rcases Classifier.kind_of_isCollection collection with looked | looked
  · obtain ⟨kind, stamp, entries, rfl⟩ := Classifier.map_of_kind looked
    obtain rfl := List.eq_nil_of_length_eq_zero (by simpa [size?] using empty)
    rw [references_map looked, referencesInEntries]
  · rcases Classifier.items_of_kind looked with ⟨kind, stamp, items, rfl⟩ | ⟨stamp, items, rfl⟩
    · obtain rfl := List.eq_nil_of_length_eq_zero (by simpa [size?] using empty)
      rw [references_list looked, referencesInItems]
    · obtain rfl := List.eq_nil_of_length_eq_zero (by simpa [size?] using empty)
      rw [references_tuple looked, referencesInItems]

mutual

/-- Pruning leaves out no reference. -/
theorem references_pruned : (t : Term) →
    (t.pruned classifier).references classifier defaultsKey = t.references classifier defaultsKey
  | .list kind stamp items => by
      have looked : classifier.isLeaf (.list kind stamp (prunedItems classifier items)) =
          classifier.isLeaf (.list kind stamp items) := by
        cases kind <;> rfl
      rw [pruned]
      split
      · rfl
      · next notLeaf =>
          rw [references, references, looked, if_neg notLeaf, if_neg notLeaf,
            references_prunedItems items]
  | .tuple stamp items => by
      have looked : classifier.isLeaf (.tuple stamp (prunedItems classifier items)) =
          classifier.isLeaf (.tuple stamp items) := rfl
      rw [pruned]
      split
      · rfl
      · next notLeaf =>
          rw [references, references, looked, if_neg notLeaf, if_neg notLeaf,
            references_prunedItems items]
  | .map kind stamp entries => by
      have looked : classifier.isLeaf (.map kind stamp (prunedEntries classifier entries)) =
          classifier.isLeaf (.map kind stamp entries) := by
        cases kind <;> rfl
      rw [pruned]
      split
      · rfl
      · next notLeaf =>
          rw [references, references, looked, if_neg notLeaf, if_neg notLeaf,
            references_prunedEntries entries]
  | .null | .bool _ | .int _ | .float _ | .nan _ | .text _ _ | .bytes _ | .set _ _ | .point _ _
  | .removed | .function _ _ _ _ _ | .callable _ _ _ _ _ | .builtin _ | .type _ | .internal _
  | .view _ _ _ _ => rfl

theorem references_prunedItems : (items : List Term) →
    referencesInItems classifier defaultsKey (prunedItems classifier items) =
      referencesInItems classifier defaultsKey items
  | [] => rfl
  | t :: ts => by
      have first := references_pruned t
      have others := references_prunedItems ts
      rw [prunedItems, referencesInItems, ← first, ← others]
      split
      · next hollow => rw [references_of_isHollow hollow, List.nil_append]
      · rw [referencesInItems]

theorem references_prunedEntries : (entries : List (Term × Term)) →
    referencesInEntries classifier defaultsKey (prunedEntries classifier entries) =
      referencesInEntries classifier defaultsKey entries
  | [] => rfl
  | (key, value) :: rest => by
      have first := references_pruned value
      have others := references_prunedEntries rest
      rw [prunedEntries, referencesInEntries, ← first, ← others]
      split
      · next hollow =>
          rw [references_of_isHollow hollow, List.nil_append]
          split <;> rfl
      · rw [referencesInEntries]

end

mutual

/-- The references of a term are those of its outline, in order. -/
theorem references_outline_false : (t : Term) →
    (t.outline false).references classifier defaultsKey = t.references classifier defaultsKey
  | .list kind stamp items => by
      have looked : classifier.isLeaf (.list kind none (outlineItems false items)) =
          classifier.isLeaf (.list kind stamp items) := by
        cases kind <;> rfl
      rw [outline, references, references, looked, references_outlineItems_false items]
  | .tuple stamp items => by
      have looked : classifier.isLeaf (.tuple none (outlineItems false items)) =
          classifier.isLeaf (.tuple stamp items) := rfl
      rw [outline, references, references, looked, references_outlineItems_false items]
  | .map kind stamp entries => by
      have looked : classifier.isLeaf (.map kind none (outlineEntries false entries)) =
          classifier.isLeaf (.map kind stamp entries) := by
        cases kind <;> rfl
      show (Term.map kind none (outlineEntries false entries)).references classifier defaultsKey = _
      rw [references, references, looked, references_outlineEntries_false entries]
  | .null | .bool _ | .int _ | .float _ | .nan _ | .text _ _ | .bytes _ | .set _ _ | .point _ _
  | .removed | .function _ _ _ _ _ | .callable _ _ _ _ _ | .builtin _ | .type _ | .internal _
  | .view _ _ _ _ => rfl

theorem references_outlineItems_false : (items : List Term) →
    referencesInItems classifier defaultsKey (outlineItems false items) =
      referencesInItems classifier defaultsKey items
  | [] => rfl
  | t :: ts => by
      rw [outlineItems, referencesInItems, referencesInItems, references_outline_false t,
        references_outlineItems_false ts]

theorem references_outlineEntries_false : (entries : List (Term × Term)) →
    referencesInEntries classifier defaultsKey (outlineEntries false entries) =
      referencesInEntries classifier defaultsKey entries
  | [] => rfl
  | (key, value) :: rest => by
      rw [outlineEntries, referencesInEntries, referencesInEntries, references_outline_false value,
        references_outlineEntries_false rest]

end

/-! ## Values of two resolutions -/

/-- A value is what another one becomes if it is pruned, up to identity. -/
def Trims (classifier : Classifier) (whole trimmed : Term) : Prop :=
  trimmed.outline false = (whole.outline false).pruned classifier

namespace Trims

variable {whole trimmed : Term}

theorem isRemoved (trims : Trims classifier whole trimmed) :
    trimmed.isRemoved = whole.isRemoved := by
  rw [← @isRemoved_outline false, trims, isRemoved_pruned, isRemoved_outline]

theorem check (trims : Trims classifier whole trimmed) :
    classifier.check trimmed = classifier.check whole := by
  rw [← @Classifier.check_outline _ false, trims, check_pruned, Classifier.check_outline]

theorem referenceNames (trims : Trims classifier whole trimmed) :
    trimmed.referenceNames classifier defaultsKey = whole.referenceNames classifier defaultsKey := by
  unfold Term.referenceNames
  rw [← references_outline_false trimmed, trims, references_pruned, references_outline_false]

theorem detach (trims : Trims classifier whole trimmed) (next next' : Stamp) :
    Trims classifier (whole.detach next).1 (trimmed.detach next').1 := by
  unfold Trims
  rw [outline_detach, outline_detach]
  exact trims

/-- What has no children is pruned already. -/
theorem of_kind (single : classifier.isCollection whole = false) :
    Trims classifier whole whole := by
  refine (pruned_of_kind ?_).symm
  unfold Classifier.isCollection at single ⊢
  rw [Classifier.kind_outline]
  exact single

end Trims

end Term

end ScopedTemplate
