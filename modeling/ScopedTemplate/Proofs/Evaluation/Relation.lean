import ScopedTemplate.Proofs.Evaluation.Meaning
import Mathlib.Data.List.Forall2

/-!
# Evaluation as a relation

A collection has a value exactly if all that is in it does, at whatever depth each of them has it.
-/

namespace ScopedTemplate

namespace Meaning

variable {meaning : Meaning} {bindings : Bindings}

/-! ## Many terms -/

/-- Terms have values at a common depth if each has one. -/
theorem mapM_evaluates {items values : List Term} :
    (∃ depth, items.mapM (meaning.evaluate depth bindings) = some values) ↔
      List.Forall₂ (meaning.Evaluates bindings) items values := by
  constructor
  · rintro ⟨depth, found⟩
    induction items generalizing values with
    | nil =>
        obtain rfl := Option.some.inj found
        exact .nil
    | cons item rest ih =>
        obtain ⟨first, others, here, later, rfl⟩ := mapM_cons_eq_some.1 found
        exact .cons ⟨depth, here⟩ (ih later)
  · intro each
    induction each with
    | nil => exact ⟨0, rfl⟩
    | cons first _ ih =>
        obtain ⟨depth, here⟩ := first
        obtain ⟨depth', later⟩ := ih
        refine ⟨max depth depth', mapM_cons_eq_some.2 ⟨_, _, ?_, ?_, rfl⟩⟩
        · exact evaluate_mono (Nat.le_max_left _ _) here
        · exact mapM_mono (fun _ _ _ => evaluate_mono (Nat.le_max_right _ _)) later

abbrev EvaluatesEntries (meaning : Meaning) (bindings : Bindings) : Entries → Entries → Prop :=
  List.Forall₂ fun entry value => value.1 = entry.1 ∧ meaning.Evaluates bindings entry.2 value.2

theorem traverse_evaluates {entries values : Entries} :
    (∃ depth, entries.traverse (meaning.evaluate depth bindings) = some values) ↔
      meaning.EvaluatesEntries bindings entries values := by
  constructor
  · rintro ⟨depth, found⟩
    induction entries generalizing values with
    | nil =>
        obtain rfl := Option.some.inj found
        exact .nil
    | cons entry rest ih =>
        obtain ⟨value, others, here, later, rfl⟩ := Entries.traverse_cons_eq_some.1 found
        exact .cons ⟨rfl, depth, here⟩ (ih later)
  · intro each
    induction each with
    | nil => exact ⟨0, rfl⟩
    | @cons entry value _ _ first _ ih =>
        obtain ⟨key, item⟩ := entry
        obtain ⟨key', result⟩ := value
        obtain ⟨rfl, depth, here⟩ := first
        obtain ⟨depth', later⟩ := ih
        refine ⟨max depth depth', Entries.traverse_cons_eq_some.2 ⟨_, _, ?_, ?_, rfl⟩⟩
        · exact evaluate_mono (Nat.le_max_left _ _) here
        · exact Entries.traverse_mono (fun _ _ => evaluate_mono (Nat.le_max_right _ _)) later

/-! ## Collections -/

/-- The value of a term of a kind takes one more level. -/
theorem evaluates_iff {t value : Term} {kind : Kind}
    (classified : meaning.resolver.classifier.classify t = .ok kind) :
    meaning.Evaluates bindings t value ↔
      ∃ depth, meaning.valueOf (meaning.evaluate depth) bindings t kind = some value := by
  constructor
  · rintro ⟨depth, found⟩
    cases depth with
    | zero => cases found
    | succ depth =>
        rw [evaluate, classified] at found
        exact ⟨depth, found⟩
  · rintro ⟨depth, found⟩
    refine ⟨depth + 1, ?_⟩
    rw [evaluate, classified]
    exact found

theorem evaluates_elements {items results : List Term} :
    (∃ depth, meaning.elements (meaning.evaluate depth) bindings items = some results) ↔
      ∃ values, List.Forall₂ (meaning.Evaluates bindings) items values ∧
        meaning.resolver.checkValues values = .ok () ∧
        results = values.filter (!meaning.resolver.drops ·) := by
  simp only [elements_eq_some, ← mapM_evaluates]
  constructor
  · rintro ⟨depth, values, found, gathered⟩
    exact ⟨values, ⟨depth, found⟩, gathered⟩
  · rintro ⟨values, ⟨depth, found⟩, gathered⟩
    exact ⟨depth, values, found, gathered⟩

theorem evaluates_gathered {entries : Entries} {result : Term} :
    (∃ depth, meaning.gathered (meaning.evaluate depth) bindings entries = some result) ↔
      ∃ values, meaning.EvaluatesEntries bindings entries values ∧
        meaning.resolver.checkValues (Entries.values values) = .ok () ∧
        result = .map .plain none (values.filter (!meaning.resolver.drops ·.2)) := by
  simp only [gathered_eq_some, ← traverse_evaluates]
  constructor
  · rintro ⟨depth, values, found, gathered⟩
    exact ⟨values, ⟨depth, found⟩, gathered⟩
  · rintro ⟨values, ⟨depth, found⟩, gathered⟩
    exact ⟨depth, values, found, gathered⟩

theorem evaluates_list {kind : ListKind} {stamp : Option Stamp} {items : List Term} {value : Term}
    (classified : meaning.resolver.classifier.classify (.list kind stamp items) = .ok .sequence) :
    meaning.Evaluates bindings (.list kind stamp items) value ↔
      ∃ values, List.Forall₂ (meaning.Evaluates bindings) items values ∧
        meaning.resolver.checkValues values = .ok () ∧
        value = .list .plain none (values.filter (!meaning.resolver.drops ·)) := by
  rw [evaluates_iff classified]
  simp only [valueOf, Option.map_eq_some_iff]
  constructor
  · rintro ⟨depth, results, found, rfl⟩
    obtain ⟨values, each, passed, rfl⟩ := evaluates_elements.1 ⟨depth, found⟩
    exact ⟨values, each, passed, rfl⟩
  · rintro ⟨values, each, passed, rfl⟩
    obtain ⟨depth, found⟩ := evaluates_elements.2 ⟨values, each, passed, rfl⟩
    exact ⟨depth, _, found, rfl⟩

/-- A mapping without defaults has a value if all of its entries do. -/
theorem evaluates_map {kind : MapKind} {stamp : Option Stamp} {entries : Entries} {value : Term}
    (classified : meaning.resolver.classifier.classify (.map kind stamp entries) = .ok .mapping)
    (noDefaults : Entries.find? entries meaning.resolver.defaultsKey = none) :
    meaning.Evaluates bindings (.map kind stamp entries) value ↔
      ∃ values, meaning.EvaluatesEntries bindings entries values ∧
        meaning.resolver.checkValues (Entries.values values) = .ok () ∧
        value = .map .plain none (values.filter (!meaning.resolver.drops ·.2)) := by
  rw [evaluates_iff classified]
  simp only [valueOf, mapped, noDefaults]
  exact evaluates_gathered

end Meaning

end ScopedTemplate
