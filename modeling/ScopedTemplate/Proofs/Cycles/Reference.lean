import Mathlib.Data.List.Chain
import Mathlib.Logic.Relation
import ScopedTemplate.Proofs.Evaluation.Meaning
import ScopedTemplate.Proofs.Term.Normal

/-!
# References between bindings

A name refers to the references in its binding, unless it is bound to itself.  Following references
from a template leads along paths; they end everywhere unless one of them comes back to a name.
-/

namespace ScopedTemplate

open Relation

/-- Data and references: no functions and no scopes of defaults outside of leaves. -/
inductive Term.Plain (resolver : Resolver Term) : Term → Prop where
  | data {t : Term} (looked : resolver.classifier.kind t = .scalar ∨
      resolver.classifier.kind t = .removed) : Plain resolver t
  | reference {t : Term} (looked : resolver.classifier.kind t = .ref) : Plain resolver t
  | map {kind : MapKind} {stamp : Option Stamp} {entries : Entries}
      (looked : resolver.classifier.kind (.map kind stamp entries) = .mapping)
      (noDefaults : Entries.has entries resolver.defaultsKey = false)
      (values : ∀ entry ∈ entries, Plain resolver entry.2) :
      Plain resolver (.map kind stamp entries)
  | list {kind : ListKind} {stamp : Option Stamp} {items : List Term}
      (looked : resolver.classifier.kind (.list kind stamp items) = .sequence)
      (each : ∀ item ∈ items, Plain resolver item) : Plain resolver (.list kind stamp items)
  | tuple {stamp : Option Stamp} {items : List Term}
      (looked : resolver.classifier.kind (.tuple stamp items) = .sequence)
      (each : ∀ item ∈ items, Plain resolver item) : Plain resolver (.tuple stamp items)

theorem Term.Plain.kind_ne {resolver : Resolver Term} {t : Term} (plain : t.Plain resolver) :
    resolver.classifier.kind t ≠ .function ∧ resolver.classifier.kind t ≠ .callable := by
  cases plain with
  | data looked => rcases looked with looked | looked <;> rw [looked] <;> exact ⟨nofun, nofun⟩
  | reference looked => rw [looked]; exact ⟨nofun, nofun⟩
  | map looked _ _ => rw [looked]; exact ⟨nofun, nofun⟩
  | list looked _ => rw [looked]; exact ⟨nofun, nofun⟩
  | tuple looked _ => rw [looked]; exact ⟨nofun, nofun⟩

/-! ## References of terms -/

namespace Term

variable {classifier : Classifier} {defaultsKey : String} {t : Term}

theorem references_data (looked : classifier.kind t = .scalar ∨ classifier.kind t = .removed) :
    t.references classifier defaultsKey = [] := by
  cases t with
  | text kind s =>
      cases leaf : classifier.isLeaf (.text kind s) <;>
        cases isRef : classifier.isRef (.text kind s) <;>
        simp_all [references, Classifier.kind, isRemoved]
  | list kind stamp items =>
      cases leaf : classifier.isLeaf (.list kind stamp items) <;>
        simp_all [references, Classifier.kind, isRemoved, Classifier.isRef, Classifier.shapeKind]
  | tuple stamp items =>
      cases leaf : classifier.isLeaf (.tuple stamp items) <;>
        simp_all [references, Classifier.kind, isRemoved, Classifier.isRef, Classifier.shapeKind]
  | map kind stamp entries =>
      cases leaf : classifier.isLeaf (.map kind stamp entries) <;>
        simp_all [references, Classifier.kind, isRemoved, Classifier.isRef, Classifier.shapeKind]
  | _ => simp [references]

theorem references_text {kind : TextKind} {s : String}
    (looked : classifier.kind (.text kind s) = .ref) :
    (Term.text kind s).references classifier defaultsKey = [s] := by
  have notLeaf := isLeaf_of_kind (t := .text kind s) (by rw [looked]; decide) rfl
  cases isRef : classifier.isRef (.text kind s) <;>
    simp_all [references, Classifier.kind, isRemoved, Classifier.shapeKind]

theorem references_list {kind : ListKind} {stamp : Option Stamp} {items : List Term}
    (looked : classifier.kind (.list kind stamp items) = .sequence) :
    (Term.list kind stamp items).references classifier defaultsKey =
      referencesInItems classifier defaultsKey items := by
  have notLeaf := isLeaf_of_kind (t := .list kind stamp items) (by rw [looked]; decide) rfl
  simp [references, notLeaf]

theorem references_tuple {stamp : Option Stamp} {items : List Term}
    (looked : classifier.kind (.tuple stamp items) = .sequence) :
    (Term.tuple stamp items).references classifier defaultsKey =
      referencesInItems classifier defaultsKey items := by
  have notLeaf := isLeaf_of_kind (t := .tuple stamp items) (by rw [looked]; decide) rfl
  simp [references, notLeaf]

theorem references_map {kind : MapKind} {stamp : Option Stamp} {entries : Entries}
    (looked : classifier.kind (.map kind stamp entries) = .mapping) :
    (Term.map kind stamp entries).references classifier defaultsKey =
      referencesInEntries classifier defaultsKey entries := by
  have notLeaf := isLeaf_of_kind (t := .map kind stamp entries) (by rw [looked]; decide) rfl
  simp [references, notLeaf]

end Term

/-! ## Paths -/

namespace Resolver

variable (resolver : Resolver Term) (env : Environment Term) (roots : List String)

def referencesOf (t : Term) : List String :=
  t.references resolver.classifier resolver.config.defaultsKey

/-- A reference occurs in what a name is bound to. -/
def RefersTo (name other : String) : Prop :=
  ∃ binding, env.target? (.ref name) = some binding ∧ other ∈ resolver.referencesOf binding

/-- Following references from a name comes to an end on every way. -/
def Ends (name : String) : Prop := Acc (fun other name => resolver.RefersTo env name other) name

/-- Names that refer to one another in turn, from one of some roots on. -/
structure Path (names : List String) : Prop where
  starts : ∀ name, names.head? = some name → name ∈ roots
  linked : names.IsChain (resolver.RefersTo env)

/-- From the roots a name is reached that refers to itself, by way of others or not. -/
def Circles : Prop :=
  ∃ root ∈ roots, ∃ name, ReflTransGen (resolver.RefersTo env) root name ∧
    TransGen (resolver.RefersTo env) name name

variable {resolver} {env} {roots} {name : String} {names : List String}

theorem ends_of_unbound (unbound : env.target? (.ref name) = none) : resolver.Ends env name := by
  refine ⟨name, ?_⟩
  rintro other ⟨binding, bound, _⟩
  rw [unbound] at bound
  cases bound

theorem ends_of_binding {binding : Term} (bound : env.target? (.ref name) = some binding)
    (each : ∀ other ∈ resolver.referencesOf binding, resolver.Ends env other) :
    resolver.Ends env name := by
  refine ⟨name, ?_⟩
  rintro other ⟨binding', bound', among⟩
  rw [bound] at bound'
  cases bound'
  exact each other among

theorem Ends.notCircular (ends : resolver.Ends env name) :
    ¬ TransGen (resolver.RefersTo env) name name := by
  induction ends with
  | intro name _ ih =>
      intro circle
      obtain ⟨other, refers, back⟩ := TransGen.head'_iff.1 circle
      exact ih other refers (TransGen.tail' back refers)

theorem Ends.reached {other : String} (ends : resolver.Ends env name)
    (reaches : ReflTransGen (resolver.RefersTo env) name other) : resolver.Ends env other := by
  induction reaches with
  | refl => exact ends
  | tail _ refers ih => exact ih.inv refers

/-- Where all references end there is no circle. -/
theorem not_circles_of_ends (ends : ∀ root ∈ roots, resolver.Ends env root) :
    ¬ resolver.Circles env roots := by
  rintro ⟨root, among, name, reaches, circle⟩
  exact ((ends root among).reached reaches).notCircular circle

namespace Path

theorem root (among : name ∈ roots) : resolver.Path env roots [name] := by
  refine ⟨?_, .singleton name⟩
  rintro _ ⟨⟩
  exact among

/-- A path goes on with a name that its last one refers to. -/
theorem extend {other : String} (path : resolver.Path env roots (names ++ [name]))
    (refers : resolver.RefersTo env name other) :
    resolver.Path env roots (names ++ [name] ++ [other]) := by
  refine ⟨?_, List.isChain_append.2 ⟨path.linked, .singleton other, ?_⟩⟩
  · intro first found
    refine path.starts first ?_
    rw [← found]
    cases names <;> rfl
  · intro last isLast next isNext
    simp only [List.getLast?_append, List.getLast?_singleton, Option.some_or,
      Option.mem_some_iff, List.head?_cons] at isLast isNext
    rw [← isLast, ← isNext]
    exact refers

theorem left {others : List String} (path : resolver.Path env roots (names ++ others)) :
    resolver.Path env roots names := by
  refine ⟨fun first found => path.starts first ?_, (List.isChain_append.1 path.linked).1⟩
  rw [List.head?_append, found]
  rfl

/-- On a path every name leads to the later ones. -/
theorem pairwise (path : resolver.Path env roots names) :
    names.Pairwise (TransGen (resolver.RefersTo env)) :=
  List.isChain_iff_pairwise.1 (path.linked.imp fun _ _ => TransGen.single)

theorem reached (path : resolver.Path env roots names) (member : name ∈ names) :
    ∃ root ∈ roots, ReflTransGen (resolver.RefersTo env) root name := by
  cases names with
  | nil => cases member
  | cons first rest =>
      refine ⟨first, path.starts first rfl, ?_⟩
      rcases List.mem_cons.1 member with rfl | later
      · exact .refl
      · exact (List.rel_of_pairwise_cons path.pairwise later).to_reflTransGen

/-- A path that comes back to a name has gone in a circle. -/
theorem circles (path : resolver.Path env roots (names ++ [name])) (again : name ∈ names) :
    resolver.Circles env roots := by
  obtain ⟨root, among, reaches⟩ := path.left.reached again
  refine ⟨root, among, name, reaches, ?_⟩
  exact (List.pairwise_append.1 path.pairwise).2.2 name again name List.mem_cons_self

/-- Without circles no name is met twice. -/
theorem nodup (path : resolver.Path env roots names) (noCircle : ¬ resolver.Circles env roots) :
    names.Nodup := by
  have pairwise := path.pairwise
  refine pairwise.imp_of_mem ?_
  rintro name other member _ leads rfl
  obtain ⟨root, among, reaches⟩ := path.reached member
  exact noCircle ⟨root, among, name, reaches, leads⟩

end Path

end Resolver

end ScopedTemplate
