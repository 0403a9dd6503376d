import ScopedTemplate.Proofs.Cycles.Tracing
import ScopedTemplate.Proofs.Evaluation.Rendering

/-!
# References by a naming convention

With a prefix set, plain text that is longer than the prefix and begins with it is a reference.
Marking turns such text into references.  What is marked is to a resolver without a prefix what it
was before to the resolver with the prefix.
-/

namespace ScopedTemplate

/-! ## Marking -/

namespace Term

variable (start : String)

mutual

/-- Turn text that extends a prefix into references; keys are left as they are. -/
def marked : Term → Term
  | .text .plain s => if Classifier.extendsText start s then .ref s else .str s
  | .list kind stamp items => .list kind stamp (markedItems items)
  | .tuple stamp items => .tuple stamp (markedItems items)
  | .map kind stamp entries => .map kind stamp (markedEntries entries)
  | t => t

def markedItems : List Term → List Term
  | [] => []
  | t :: ts => marked t :: markedItems ts

def markedEntries : List (Term × Term) → List (Term × Term)
  | [] => []
  | (key, value) :: rest => (key, marked value) :: markedEntries rest

end

variable {start} {sorts : Bool}

theorem markedItems_eq_map (items : List Term) : markedItems start items = items.map (marked start) := by
  induction items with
  | nil => rw [markedItems, List.map_nil]
  | cons t rest ih => rw [markedItems, List.map_cons, ih]

theorem markedEntries_eq_mapValues (entries : Entries) :
    markedEntries start entries = Entries.mapValues (marked start) entries := by
  unfold Entries.mapValues
  induction entries with
  | nil => rw [markedEntries, List.map_nil]
  | cons entry rest ih => rw [markedEntries, List.map_cons, ih]

@[simp] theorem marked_list (kind : ListKind) (stamp : Option Stamp) (items : List Term) :
    marked start (.list kind stamp items) = .list kind stamp (items.map (marked start)) := by
  rw [marked, markedItems_eq_map]

@[simp] theorem marked_tuple (stamp : Option Stamp) (items : List Term) :
    marked start (.tuple stamp items) = .tuple stamp (items.map (marked start)) := by
  rw [marked, markedItems_eq_map]

@[simp] theorem marked_map (kind : MapKind) (stamp : Option Stamp) (entries : Entries) :
    marked start (.map kind stamp entries) =
      .map kind stamp (Entries.mapValues (marked start) entries) := by
  rw [marked, markedEntries_eq_mapValues]

@[simp] theorem marked_ref (s : String) : marked start (.ref s) = .ref s := rfl

@[simp] theorem marked_derived (s : String) :
    marked start (.text .derived s) = .text .derived s := rfl

theorem marked_str (s : String) : marked start (.str s) =
    if Classifier.extendsText start s then .ref s else .str s := rfl

/-- Marked text is text of the same characters. -/
theorem marked_text (start : String) (kind : TextKind) (s : String) :
    ∃ kind', marked start (.text kind s) = .text kind' s := by
  cases kind with
  | plain =>
      rw [marked_str]
      split <;> exact ⟨_, rfl⟩
  | _ => exact ⟨_, rfl⟩

@[simp] theorem text?_marked (t : Term) : (t.marked start).text? = t.text? := by
  cases t with
  | text kind s =>
      obtain ⟨kind', same⟩ := marked_text start kind s
      rw [same]
      rfl
  | list _ _ _ | tuple _ _ | map _ _ _ => simp [text?]
  | _ => rfl

@[simp] theorem isRemoved_marked (t : Term) : (t.marked start).isRemoved = t.isRemoved := by
  cases t with
  | text kind s =>
      obtain ⟨kind', same⟩ := marked_text start kind s
      rw [same]
      rfl
  | list _ _ _ | tuple _ _ | map _ _ _ => simp [isRemoved]
  | _ => rfl

@[simp] theorem size?_marked (t : Term) : (t.marked start).size? = t.size? := by
  cases t with
  | text kind s =>
      obtain ⟨kind', same⟩ := marked_text start kind s
      rw [same]
      rfl
  | list _ _ _ | tuple _ _ | map _ _ _ => simp [size?, Entries.mapValues]
  | _ => rfl

/-- Outlines are marked like what they are outlines of. -/
theorem outline_marked (start : String) (t : Term) :
    (t.marked start).outline sorts = (t.outline sorts).marked start := by
  induction t using inner_induction with
  | step t ih =>
      cases t with
      | list kind stamp items =>
          simp only [marked_list, outline_list, List.map_map]
          exact congrArg _ (List.map_congr_left ih)
      | tuple stamp items =>
          simp only [marked_tuple, outline_tuple, List.map_map]
          exact congrArg _ (List.map_congr_left ih)
      | map kind stamp entries =>
          simp only [marked_map, outline_map, Entries.arrange_mapValues, Entries.mapValues_mapValues]
          refine congrArg _ (Entries.mapValues_congr fun entry member => ih _ ?_)
          exact List.mem_map_of_mem (Entries.mem_arrange.1 member)
      | text kind s =>
          obtain ⟨kind', same⟩ := marked_text start kind s
          rw [same, outline_text, outline_text, same]
      | _ => rfl

@[simp] theorem inner_marked (t : Term) : (t.marked start).inner = t.inner.map (marked start) := by
  cases t with
  | text kind s =>
      obtain ⟨kind', same⟩ := marked_text start kind s
      rw [same]
      rfl
  | list _ _ _ | tuple _ _ | map _ _ _ => simp [inner]
  | _ => rfl

@[simp] theorem entries?_marked (t : Term) :
    (t.marked start).entries? = t.entries?.map (Entries.mapValues (marked start)) := by
  cases t with
  | text kind s =>
      obtain ⟨kind', same⟩ := marked_text start kind s
      rw [same]
      rfl
  | list _ _ _ | tuple _ _ | map _ _ _ => simp [entries?]
  | _ => rfl

/-! ## Outlines of outlines -/

@[simp] theorem outline_outline (t : Term) : (t.outline false).outline sorts = t.outline sorts := by
  induction t using inner_induction with
  | step t ih =>
      cases t with
      | list kind stamp items =>
          simp only [outline_list, List.map_map]
          exact congrArg _ (List.map_congr_left ih)
      | tuple stamp items =>
          simp only [outline_tuple, List.map_map]
          exact congrArg _ (List.map_congr_left ih)
      | map kind stamp entries =>
          simp only [outline_map, Entries.arrange_mapValues, Entries.mapValues_mapValues]
          refine congrArg _ (Entries.mapValues_congr fun entry member => ih _ ?_)
          exact List.mem_map_of_mem (Entries.mem_arrange.1 member)
      | _ => rfl

@[simp] theorem inner_outline (t : Term) : (t.outline false).inner = t.inner.map (outline false) := by
  cases t with
  | list _ _ _ | tuple _ _ => simp [inner]
  | map kind stamp entries =>
      rw [outline_map]
      exact Entries.values_mapValues _ entries
  | _ => rfl

@[simp] theorem entries?_outline (t : Term) :
    (t.outline false).entries? = t.entries?.map (Entries.mapValues (outline false)) := by
  cases t with
  | map kind stamp entries =>
      rw [outline_map]
      rfl
  | _ => rfl

/-! ## Terms that can be written -/

theorem areWritable_map {change : Term → Term} {items : List Term}
    (each : ∀ item ∈ items, (change item).isWritable = item.isWritable) :
    areWritable (items.map change) = areWritable items := by
  rw [areWritable_eq_all, areWritable_eq_all, List.all_map, Bool.eq_iff_iff, List.all_eq_true,
    List.all_eq_true]
  exact forall₂_congr fun item member => iff_of_eq (congrArg (· = true) (each item member))

theorem areWritableEntries_mapValues {change : Term → Term} {entries : Entries}
    (each : ∀ value ∈ Entries.values entries, (change value).isWritable = value.isWritable) :
    areWritableEntries (Entries.mapValues change entries) = areWritableEntries entries := by
  induction entries with
  | nil => rfl
  | cons entry rest ih =>
      obtain ⟨first, others⟩ := List.forall_mem_cons.1 each
      have later : areWritableEntries (rest.map fun entry => (entry.1, change entry.2)) =
          areWritableEntries rest := ih others
      unfold Entries.mapValues
      rw [List.map_cons, areWritableEntries, first, later]
      rfl

theorem isWritable_outline (t : Term) : (t.outline false).isWritable = t.isWritable := by
  induction t using inner_induction with
  | step t ih =>
      cases t with
      | list kind stamp items =>
          rw [outline_list, isWritable, isWritable]
          exact areWritable_map ih
      | tuple stamp items =>
          rw [outline_tuple, isWritable, isWritable]
          exact areWritable_map ih
      | map kind stamp entries =>
          rw [outline_map, isWritable, isWritable]
          exact areWritableEntries_mapValues ih
      | _ => simp [outline, isWritable]

theorem isWritable_marked (t : Term) : (t.marked start).isWritable = t.isWritable := by
  induction t using inner_induction with
  | step t ih =>
      cases t with
      | list kind stamp items =>
          rw [marked_list, isWritable, isWritable]
          exact areWritable_map ih
      | tuple stamp items =>
          rw [marked_tuple, isWritable, isWritable]
          exact areWritable_map ih
      | map kind stamp entries =>
          rw [marked_map, isWritable, isWritable]
          exact areWritableEntries_mapValues ih
      | text kind s =>
          obtain ⟨kind', same⟩ := marked_text start kind s
          rw [same]
          rfl
      | _ => rfl

end Term

/-! ## Resolvers with and without a prefix -/

/-- The resolver with the built-in rules, without leaf types and with a prefix of references. -/
def Resolver.naming (config : Config) (start : Option String) : Resolver Term :=
  ⟨{ config with refPrefix := start }, .ofPrefix [] start, Rule.standard⟩

namespace Resolver

variable {config : Config} {start : String} {given : Option String} {sorts : Bool}

/-- Settings without leaf types make such a resolver. -/
theorem load_naming (noLeafTypes : config.leafTypes = []) :
    load { config with refPrefix := given } [] [] = pure (naming config given) := by
  cases config
  cases noLeafTypes
  rfl

theorem tells_naming : (naming config given).Tells := tells_of_nil rfl

theorem isLeaf_naming (t : Term) : (naming config given).classifier.isLeaf t = false := rfl

theorem isRef_marked (proper : start ≠ "") (t : Term) :
    (naming config none).classifier.isRef (t.marked start) =
      (naming config (some start)).classifier.isRef t := by
  cases t with
  | text kind s =>
      cases kind with
      | plain =>
          have found : (naming config (some start)).classifier.isRef (.str s) =
              Classifier.extendsText start s := by
            simp [naming, Classifier.ofPrefix, Classifier.isRef, Option.filter, proper]
          rw [found, Term.marked_str]
          cases Classifier.extendsText start s <;> rfl
      | _ => rfl
  | list _ _ _ | tuple _ _ | map _ _ _ => simp [Classifier.isRef]
  | _ => rfl

/-- Marked terms are to a resolver without a prefix what they were before to one with it. -/
@[simp] theorem kind_marked (proper : start ≠ "") (t : Term) :
    (naming config none).classifier.kind (t.marked start) =
      (naming config (some start)).classifier.kind t := by
  have shape : Classifier.shapeKind (t.marked start) = Classifier.shapeKind t := by
    cases t with
    | text kind s =>
        obtain ⟨kind', same⟩ := Term.marked_text start kind s
        rw [same]
        rfl
    | list _ _ _ | tuple _ _ | map _ _ _ => simp [Classifier.shapeKind]
    | _ => rfl
  unfold Classifier.kind
  rw [Term.isRemoved_marked, isLeaf_naming, isLeaf_naming, isRef_marked proper, shape]

theorem drops_marked (proper : start ≠ "") (t : Term) :
    (naming config none).drops (t.marked start) = (naming config (some start)).drops t := by
  unfold drops Classifier.isCollection
  rw [kind_marked proper, Term.isRemoved_marked, Term.size?_marked]
  rfl

/-- The references of what is marked are those that there were before. -/
theorem references_marked (proper : start ≠ "") (defaultsKey : String) (t : Term) :
    (t.marked start).references (naming config none).classifier defaultsKey =
      t.references (naming config (some start)).classifier defaultsKey := by
  have items : ∀ {items : List Term}, (∀ item ∈ items,
      (item.marked start).references (naming config none).classifier defaultsKey =
        item.references (naming config (some start)).classifier defaultsKey) →
      Term.referencesInItems (naming config none).classifier defaultsKey
          (items.map (Term.marked start)) =
        Term.referencesInItems (naming config (some start)).classifier defaultsKey items := by
    intro items each
    induction items with
    | nil => rfl
    | cons item rest ih =>
        obtain ⟨first, others⟩ := List.forall_mem_cons.1 each
        rw [List.map_cons, Term.referencesInItems, Term.referencesInItems, first, ih others]
  induction t using Term.inner_induction with
  | step t ih =>
      cases t with
      | list kind stamp inside =>
          rw [Term.marked_list, Term.references, Term.references, isLeaf_naming, isLeaf_naming,
            if_neg nofun, if_neg nofun]
          exact items ih
      | tuple stamp inside =>
          rw [Term.marked_tuple, Term.references, Term.references, isLeaf_naming, isLeaf_naming,
            if_neg nofun, if_neg nofun]
          exact items ih
      | map kind stamp entries =>
          rw [Term.marked_map, Term.references, Term.references, isLeaf_naming, isLeaf_naming,
            if_neg nofun, if_neg nofun]
          unfold Entries.mapValues
          induction entries with
          | nil => rfl
          | cons entry rest more =>
              obtain ⟨first, others⟩ := List.forall_mem_cons.1 ih
              rw [List.map_cons, Term.referencesInEntries, Term.referencesInEntries, first,
                more others]
      | text kind s =>
          have isRef : (naming config none).classifier.isRef _ = _ := isRef_marked proper (.text kind s)
          obtain ⟨kind', same⟩ := Term.marked_text start kind s
          rw [same] at isRef ⊢
          rw [Term.references, Term.references, isLeaf_naming, isLeaf_naming, isRef]
      | _ => simp [Term.marked, Term.references]

/-- Strict settings accept a value exactly if they accept it marked. -/
theorem acceptsResult_marked (proper : start ≠ "") {value value' : Term}
    (marks : value'.outline sorts = (value.outline sorts).marked start) :
    (naming config none).AcceptsResult value' ↔
      (naming config (some start)).AcceptsResult value := by
  have accepts : (naming config none).AcceptsResult (value.marked start) ↔
      (naming config (some start)).AcceptsResult value := by
    have references : (value.marked start).references (naming config none).classifier _ = _ :=
      references_marked proper config.defaultsKey value
    unfold AcceptsResult
    rw [tells_naming.check, tells_naming.check]
    exact imp_congr_right fun _ => and_congr_right fun _ => iff_of_eq (congrArg (· = []) references)
  rw [← accepts]
  rw [← Term.outline_marked] at marks
  exact ⟨acceptsResult_of_outline marks, acceptsResult_of_outline marks.symm⟩

/-! ### What rules look at -/

theorem renders_outline (resolver : Resolver Term) : resolver.Renders resolver (Term.outline false) where
  key := rfl
  kind := Classifier.kind_outline
  text? := Term.text?_outline
  entries? := Term.entries?_outline
  inner := Term.inner_outline

theorem renders_marked (proper : start ≠ "") :
    (naming config (some start)).Renders (naming config none) (Term.marked start) where
  key := rfl
  kind := kind_marked proper
  text? := Term.text?_marked
  entries? := Term.entries?_marked
  inner := Term.inner_marked

/-- Without leaf types all values pass. -/
theorem checkValues_naming (values : List Term) : (naming config given).checkValues values = .ok () :=
  tells_naming.checkValues values

theorem classify_naming (t : Term) :
    (naming config given).classifier.classify t = .ok ((naming config given).classifier.kind t) :=
  tells_naming.classify t

end Resolver

/-! ## Evaluation -/

/-- Results in a list may be changed one by one. -/
theorem mapM_map_results {α β γ δ : Type} {change : α → β} {result : γ → δ} {value : α → Option γ}
    {value' : β → Option δ} (same : ∀ item, (value item).map result = value' (change item))
    (items : List α) : (items.mapM value).map (List.map result) = (items.map change).mapM value' := by
  induction items with
  | nil => rfl
  | cons item rest ih =>
      rw [List.map_cons, List.mapM_cons, List.mapM_cons, ← same, ← ih]
      cases value item with
      | none => rfl
      | some found => cases rest.mapM value <;> rfl

theorem Entries.traverse_mapValues {change : Term → Term} {value value' : Term → Option Term}
    (same : ∀ t, (value t).map change = value' (change t)) (entries : Entries) :
    (entries.traverse value).map (mapValues change) = (mapValues change entries).traverse value' := by
  refine mapM_map_results (fun entry => ?_) entries
  rw [← same]
  cases value entry.2 <;> rfl

/-- What names are bound to, marked. -/
def Bindings.marked (start : String) (bindings : Bindings) : Bindings := fun name =>
  (bindings name).map (Term.marked start)

/-- Evaluation with a prefix of references or without one, where there are no functions. -/
def Meaning.naming (config : Config) (pinned : String → Bool) (given : Option String) : Meaning :=
  ⟨Resolver.naming config given, pinned, fun _ _ => none⟩

namespace Meaning

variable {config : Config} {start : String} {pinned : String → Bool} {bindings : Bindings}

theorem target?_marked (name : String) :
    (bindings.marked start).target? name = (bindings.target? name).map (Term.marked start) := by
  unfold Bindings.target? Bindings.marked
  cases bindings name with
  | none => rfl
  | some binding =>
      have self : isSelfBinding (binding.marked start) (.ref name) =
          isSelfBinding binding (.ref name) := by
        unfold isSelfBinding
        rw [Term.text?_marked]
      simp only [Option.map_some, Option.filter_some, self]
      cases isSelfBinding binding (.ref name) <;> rfl

theorem enter_marked (scope : Entries) : (bindings.enter pinned scope).marked start =
    (bindings.marked start).enter pinned (Entries.mapValues (Term.marked start) scope) := by
  funext name
  unfold Bindings.marked Bindings.enter
  cases pinned name with
  | true => rfl
  | false =>
      rw [if_neg nofun, if_neg nofun, Entries.find?_mapValues]
      cases Entries.find? scope (.ref name) <;> rfl

theorem elements_naming {given : Option String} {value : Bindings → Term → Option Term}
    (items : List Term) : (naming config pinned given).elements value bindings items =
      (items.mapM (value bindings)).map
        (List.filter (!(Resolver.naming config given).drops ·)) := by
  unfold elements
  cases items.mapM (value bindings) with
  | none => rfl
  | some values =>
      have passes : (naming config pinned given).resolver.checkValues values = .ok () :=
        Resolver.checkValues_naming values
      simp only [bind, Option.bind_some, passes]
      rfl

theorem gathered_naming {given : Option String} {value : Bindings → Term → Option Term}
    (entries : Entries) : (naming config pinned given).gathered value bindings entries =
      (entries.traverse (value bindings)).map fun values =>
        .map .plain none (values.filter (!(Resolver.naming config given).drops ·.2)) := by
  unfold gathered
  cases entries.traverse (value bindings) with
  | none => rfl
  | some values =>
      have passes : (naming config pinned given).resolver.checkValues (Entries.values values) =
          .ok () := Resolver.checkValues_naming _
      simp only [bind, Option.bind_some, passes]
      rfl

section

variable {value value' : Bindings → Term → Option Term} (proper : start ≠ "")
  (same : ∀ bindings t,
    (value bindings t).map (Term.marked start) = value' (bindings.marked start) (t.marked start))

include proper same

theorem elements_marked (bindings : Bindings) (items : List Term) :
    ((naming config pinned (some start)).elements value bindings items).map
        (List.map (Term.marked start)) =
      (naming config pinned none).elements value' (bindings.marked start)
        (items.map (Term.marked start)) := by
  rw [elements_naming, elements_naming, ← mapM_map_results (same bindings), Option.map_map,
    Option.map_map]
  refine congrArg (Option.map · _) (funext fun values => ?_)
  simp [List.filter_map, Function.comp_def, Resolver.drops_marked proper]

theorem gathered_marked (bindings : Bindings) (entries : Entries) :
    ((naming config pinned (some start)).gathered value bindings entries).map (Term.marked start) =
      (naming config pinned none).gathered value' (bindings.marked start)
        (Entries.mapValues (Term.marked start) entries) := by
  rw [gathered_naming, gathered_naming, ← Entries.traverse_mapValues (same bindings),
    Option.map_map, Option.map_map]
  refine congrArg (Option.map · _) (funext fun values => ?_)
  unfold Entries.mapValues
  simp [List.filter_map, Function.comp_def, Resolver.drops_marked proper, Entries.mapValues]

theorem mapped_marked (bindings : Bindings) (entries : Entries) :
    ((naming config pinned (some start)).mapped value bindings entries).map (Term.marked start) =
      (naming config pinned none).mapped value' (bindings.marked start)
        (Entries.mapValues (Term.marked start) entries) := by
  unfold mapped
  rw [Entries.find?_mapValues]
  have key : (naming config pinned none).resolver.defaultsKey =
      (naming config pinned (some start)).resolver.defaultsKey := rfl
  rw [key]
  cases Entries.find? entries (naming config pinned (some start)).resolver.defaultsKey with
  | none => exact gathered_marked proper same bindings entries
  | some defaults =>
      cases defaults with
      | map kind stamp scope =>
          rw [Option.map_some, Term.marked_map]
          dsimp only
          rw [Entries.erase_mapValues, gathered_marked proper same, enter_marked]
          rfl
      | text kind s =>
          obtain ⟨kind', text⟩ := Term.marked_text start kind s
          rw [Option.map_some, text]
          rfl
      | list _ _ _ | tuple _ _ =>
          simp
      | _ => rfl

end

/-- Evaluation with a prefix is evaluation of what is marked without one. -/
theorem evaluate_marked (proper : start ≠ "") (depth : Nat) (bindings : Bindings) (t : Term) :
    ((naming config pinned (some start)).evaluate depth bindings t).map (Term.marked start) =
      (naming config pinned none).evaluate depth (bindings.marked start) (t.marked start) := by
  induction depth generalizing bindings t with
  | zero => rfl
  | succ depth ih =>
      have classified : ∀ {given} (t : Term),
          (naming config pinned given).resolver.classifier.classify t =
            .ok ((Resolver.naming config given).classifier.kind t) := Resolver.classify_naming
      unfold evaluate
      rw [classified, classified, Resolver.kind_marked proper]
      show ((naming config pinned (some start)).valueOf _ bindings t _).map _ =
        (naming config pinned none).valueOf _ (bindings.marked start) (t.marked start) _
      cases looked : (Resolver.naming config (some start)).classifier.kind t with
      | ref =>
          obtain ⟨kind, s, rfl⟩ := Classifier.text_of_ref looked
          obtain ⟨kind', text⟩ := Term.marked_text start kind s
          rw [text]
          unfold valueOf
          dsimp only
          rw [target?_marked]
          cases bindings.target? s with
          | none => exact congrArg some text
          | some binding => exact ih bindings binding
      | function =>
          obtain ⟨stamp, name, deps, doc, callee, rfl⟩ := Classifier.function_of_kind looked
          have none_of : ∀ {given value bindings}, (naming config pinned given).applied value bindings
              (.function stamp name deps doc callee) deps = none :=
            applied_eq_none fun _ _ => rfl
          exact (congrArg (Option.map _) none_of).trans none_of.symm
      | mapping =>
          obtain ⟨kind, stamp, entries, rfl⟩ := Classifier.map_of_kind looked
          rw [Term.marked_map]
          exact mapped_marked proper ih bindings entries
      | sequence =>
          rcases Classifier.items_of_kind looked with
            ⟨kind, stamp, items, rfl⟩ | ⟨stamp, items, rfl⟩
          · rw [Term.marked_list]
            unfold valueOf
            dsimp only
            rw [← elements_marked proper ih, Option.map_map, Option.map_map]
            exact congrArg (Option.map · _) (funext fun values => Term.marked_list _ _ _)
          · rw [Term.marked_tuple]
            unfold valueOf
            dsimp only
            rw [← elements_marked proper ih, Option.map_map, Option.map_map]
            exact congrArg (Option.map · _) (funext fun values => Term.marked_tuple _ _)
      | _ => rfl

end Meaning

end ScopedTemplate
