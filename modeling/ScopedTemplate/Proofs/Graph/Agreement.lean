import ScopedTemplate.Proofs.Cycles.Exact
import ScopedTemplate.Proofs.Graph.Order

/-!
# Graphs and resolutions agree

For bindings without functions and defaults the edges of the graph are the references that a
resolution follows, but for those from a name to itself.  So an order is found exactly if no bound
name fails for a cycle.
-/

namespace ScopedTemplate

variable {ceiling : Int} {stack : Stack}

open Run

variable {resolver : Resolver Term} {bindings : Entries} {name other : String}

/-- Keys are texts, and no two are the same. -/
structure Entries.IsScope (entries : Entries) : Prop where
  texts : ∀ entry ∈ entries, ∃ kind s, entry.1 = .text kind s
  distinct : (entries.map fun entry => entry.1.nameText).Nodup

namespace Entries

/-- A name is found exactly in its entry. -/
theorem IsScope.find?_iff {entries : Entries} (isScope : entries.IsScope) {value : Term} :
    find? entries (.ref name) = some value ↔
      ∃ entry ∈ entries, entry.1.nameText = name ∧ entry.2 = value := by
  obtain ⟨texts, distinct⟩ := isScope
  induction entries with
  | nil => simp
  | cons entry rest ih =>
      obtain ⟨⟨kind, s, here⟩, there⟩ := List.forall_mem_cons.1 texts
      rw [List.map_cons, List.nodup_cons] at distinct
      rw [find?_cons, List.exists_mem_cons_iff, ← ih there distinct.2, here, Term.sameKey_text,
        Term.nameText_text]
      by_cases same : s = name
      · have absent : ¬ find? rest (.ref name) = some value := by
          rw [ih there distinct.2]
          rintro ⟨entry', member, again, _⟩
          apply distinct.1
          rw [here, Term.nameText_text, same]
          exact List.mem_map.2 ⟨entry', member, again⟩
        simp [same, absent]
      · simp [same]

end Entries

theorem Environment.eachBinding_ofBindings {P : Term → Prop}
    (each : ∀ binding ∈ bindings, P binding.2) : (ofBindings bindings []).EachBinding P := by
  refine eachBinding_iff.2 ⟨nofun, fun scope inside => ?_⟩
  unfold ofBindings at inside
  split at inside
  · cases inside
  · rw [List.mem_singleton.1 inside]
    exact each

namespace Resolver

def graphOf (resolver : Resolver Term) (bindings : Entries) : Graph :=
  .ofBindings bindings resolver.classifier resolver.config.defaultsKey

theorem graphOf_proper (bindings : Entries) : (resolver.graphOf bindings).Proper :=
  Graph.ofBindings_proper _ _ _

theorem graphOf_table (isScope : bindings.IsScope) : (resolver.graphOf bindings).table =
    bindings.map fun binding => (binding.1.nameText, Graph.declared resolver.classifier
      resolver.config.defaultsKey binding.1.nameText binding.2) :=
  Graph.tableOf_eq _ _ isScope.distinct

/-- What data depends on are its references to other names. -/
theorem mem_declared {t : Term} (data : t.dependencies? = none) :
    other ∈ Graph.declared resolver.classifier resolver.config.defaultsKey name t ↔
      other ∈ resolver.referencesOf t ∧ other ≠ name := by
  rw [Graph.declared_of_data data, List.mem_filter, bne_iff_ne]
  unfold Term.referenceNames
  rw [(Text.sort_perm _).mem_iff, Text.mem_distinct]
  rfl

/-- A name has a target if its entry does not bind it to itself. -/
theorem target?_ofBindings (isScope : bindings.IsScope) {binding : Term} :
    (Environment.ofBindings bindings []).target? (.ref name) = some binding ↔
      (∃ entry ∈ bindings, entry.1.nameText = name ∧ entry.2 = binding) ∧
        isSelfBinding binding (.ref name) = false := by
  have found : (Environment.ofBindings bindings []).lookup? (.ref name) =
      Entries.find? bindings (.ref name) := by
    cases bindings with
    | nil => rfl
    | cons entry rest =>
        rw [Environment.lookup?_eq]
        change (none <|> List.findSome? _ [_]) = _
        simp
  unfold Environment.target?
  rw [Option.filter_eq_some_iff, found, isScope.find?_iff, Bool.not_eq_true']

/-- What is bound to its own text has no other references. -/
theorem referencesOf_selfBinding {binding : Term}
    (self : isSelfBinding binding (.ref name) = true) :
    ∀ other ∈ resolver.referencesOf binding, other = name := by
  intro other among
  cases binding with
  | text kind s =>
      have same : s = name := by simpa [isSelfBinding, Term.text?] using self
      unfold referencesOf at among
      rw [Term.references] at among
      split at among
      · cases among
      · split at among
        · exact (List.mem_singleton.1 among).trans same
        · cases among
  | _ => cases self

/-- A name depends on the names that it refers to, except on itself. -/
theorem mem_dependencies_iff (isScope : bindings.IsScope)
    (data : ∀ binding ∈ bindings, binding.2.dependencies? = none) :
    other ∈ (resolver.graphOf bindings).dependencies name ↔
      resolver.RefersTo (.ofBindings bindings []) name other ∧ other ≠ name := by
  rw [(graphOf_proper bindings).mem_dependencies, graphOf_table isScope]
  constructor
  · rintro ⟨row, inside, rfl, among⟩
    obtain ⟨binding, member, rfl⟩ := List.mem_map.1 inside
    obtain ⟨among, differs⟩ := (mem_declared (data binding member)).1 among
    have notSelf : isSelfBinding binding.2 (.ref binding.1.nameText) = false :=
      Bool.eq_false_iff.2 fun self => differs (referencesOf_selfBinding self other among)
    have target := (target?_ofBindings isScope).2 ⟨⟨binding, member, rfl, rfl⟩, notSelf⟩
    exact ⟨⟨binding.2, target, among⟩, differs⟩
  · rintro ⟨⟨_, target, among⟩, differs⟩
    obtain ⟨⟨binding, member, rfl, rfl⟩, _⟩ := (target?_ofBindings isScope).1 target
    exact ⟨_, List.mem_map_of_mem member, rfl, (mem_declared (data binding member)).2
      ⟨among, differs⟩⟩

/-- An order is found exactly if following references from every bound name comes to an end. -/
theorem isSuccess_iff_ends (isScope : bindings.IsScope)
    (data : ∀ binding ∈ bindings, binding.2.dependencies? = none)
    (apart : ∀ name, ¬ resolver.RefersTo (.ofBindings bindings []) name name) :
    (resolver.graphOf bindings).topologicalOrder.isSuccess = true ↔
      ∀ binding ∈ bindings, resolver.Ends (.ofBindings bindings []) binding.1.nameText := by
  have edges : ∀ name other, other ∈ (resolver.graphOf bindings).dependencies name ↔
      resolver.RefersTo (.ofBindings bindings []) name other := by
    intro name other
    rw [mem_dependencies_iff isScope data, and_iff_left_iff_imp]
    rintro refers rfl
    exact apart _ refers
  have grounded : ∀ name, (resolver.graphOf bindings).Grounded name ↔
      resolver.Ends (.ofBindings bindings []) name := by
    intro name
    unfold Graph.Grounded Ends
    simp only [edges]
  rw [(graphOf_proper bindings).isSuccess_iff]
  simp only [grounded]
  constructor
  · intro ends binding member
    have row := List.mem_map_of_mem (f := fun binding => (binding.1.nameText, Graph.declared
      resolver.classifier resolver.config.defaultsKey binding.1.nameText binding.2)) member
    rw [← graphOf_table isScope] at row
    exact ends _ ((graphOf_proper bindings).named _ row)
  · intro ends name _
    cases target : (Environment.ofBindings bindings []).target? (.ref name) with
    | none => exact ends_of_unbound target
    | some value =>
        obtain ⟨⟨binding, member, rfl, _⟩, _⟩ := (target?_ofBindings isScope).1 target
        exact ends binding member

/-- Names with targets, each once, are no more than there are bindings. -/
theorem length_le_of_bound (isScope : bindings.IsScope) {names : List String}
    (distinct : names.Nodup)
    (bound : ∀ name ∈ names,
      ((Environment.ofBindings bindings []).target? (.ref name)).isSome = true) :
    names.length ≤ bindings.length := by
  have among : names ⊆ bindings.map fun binding => binding.1.nameText := by
    intro name member
    obtain ⟨value, target⟩ := Option.isSome_iff_exists.1 (bound name member)
    obtain ⟨⟨binding, inside, same, _⟩, _⟩ := (target?_ofBindings isScope).1 target
    exact List.mem_map.2 ⟨binding, inside, same⟩
  have most := (distinct.subperm among).length_le
  rw [List.length_map] at most
  exact most

/-- A name that is bound to a list with a reference, and the name that is referred to. -/
def paired (t : Term) : Entries := [(.str "A", .list .plain none [.ref "B"]), (.str "B", t)]

theorem forall_mem_paired {P : Term × Term → Prop} {t : Term} :
    (∀ binding ∈ paired t, P binding) ↔
      P (.str "A", .list .plain none [.ref "B"]) ∧ P (.str "B", t) := by
  simp [paired]

theorem paired_isScope (t : Term) : (paired t).IsScope :=
  ⟨forall_mem_paired.2 ⟨⟨_, _, rfl⟩, ⟨_, _, rfl⟩⟩, List.nodup_cons.2 ⟨by simp, by simp⟩⟩

theorem paired_plain {t : Term} (plain : t.Plain standard) :
    ∀ binding ∈ paired t, binding.2.Plain standard :=
  forall_mem_paired.2 ⟨.list rfl (List.forall_mem_singleton.2 (.reference rfl)), plain⟩

/-- No name of the pair refers to itself if the second one does not. -/
theorem paired_apart {t : Term} (others : "B" ∉ standard.referencesOf t) (name : String) :
    ¬ standard.RefersTo (.ofBindings (paired t) []) name name := by
  have apart : ∀ binding ∈ paired t, binding.1.nameText ∉ standard.referencesOf binding.2 :=
    forall_mem_paired.2 ⟨by decide, others⟩
  rintro ⟨_, target, among⟩
  obtain ⟨⟨binding, member, rfl, rfl⟩, _⟩ := (target?_ofBindings (paired_isScope t)).1 target
  exact apart binding member among

def leafLists : Resolver Term := { standard with classifier := ⟨[⟨"builtins", "list"⟩], none⟩ }

/-- References are leaves, and plain text with a mark is a reference. -/
def marked : Resolver Term :=
  { standard with classifier := ⟨[⟨"subflow.engine.terms", "Ref"⟩], some "$"⟩ }

end Resolver

end ScopedTemplate
