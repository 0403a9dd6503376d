import Mathlib.Data.Fintype.EquivFin
import Mathlib.Logic.Relation
import ScopedTemplate.Proofs.Graph.Order

/-!
# Cycles of a dependency graph

All nodes can be put in order exactly if no node reaches itself along edges.  When those of the others on
which nothing depends are dropped, over and over, the nodes between two cycles are left: all that are on a
cycle, and those on a way from one cycle to another.
-/

namespace ScopedTemplate

open Relation

/-- Among finitely many members, each with a step to another one, every member leads to a cycle. -/
theorem exists_cycle {α : Type} [DecidableEq α] {step : α → α → Prop} {members : List α}
    (next : ∀ a ∈ members, ∃ b ∈ members, step a b) {a : α} (member : a ∈ members) :
    ∃ c, ReflTransGen step a c ∧ TransGen step c c := by
  by_contra none
  -- without a cycle the members that are reached would descend for ever
  let after (later earlier : { b // b ∈ members }) : Prop :=
    ReflTransGen step a earlier.1 ∧ TransGen step earlier.1 later.1
  have transitive : IsTrans _ after :=
    ⟨fun _ _ _ first second => ⟨second.1, second.2.trans first.2⟩⟩
  have irreflexive : Std.Irrefl after := ⟨fun b loop => none ⟨b.1, loop⟩⟩
  have ends : WellFounded after := Finite.wellFounded_of_trans_of_irrefl after
  refine ends.induction (C := fun b => ReflTransGen step a b.1 → False) ⟨a, member⟩ ?_ .refl
  intro b ih reached
  obtain ⟨c, among, leads⟩ := next b.1 b.2
  exact ih ⟨c, among⟩ ⟨reached, .single leads⟩ (reached.tail leads)

namespace Graph

variable {graph : Graph} {name dep : String}

/-! ## Edges -/

def Edge (graph : Graph) (dep name : String) : Prop := (dep, name) ∈ graph.edges

def OnCycle (graph : Graph) (name : String) : Prop := TransGen graph.Edge name name

def BetweenCycles (graph : Graph) (name : String) : Prop :=
  ∃ first last, graph.OnCycle first ∧ ReflTransGen graph.Edge first name ∧
    ReflTransGen graph.Edge name last ∧ graph.OnCycle last

theorem OnCycle.between (cycle : graph.OnCycle name) : graph.BetweenCycles name :=
  ⟨name, name, cycle, .refl, .refl, cycle⟩

theorem Proper.edge_iff (proper : graph.Proper) :
    graph.Edge dep name ↔ dep ∈ graph.dependencies name := by
  rw [proper.mem_dependencies]
  unfold Edge edges
  simp only [List.mem_flatMap, List.mem_map, Prod.mk.injEq]
  constructor
  · rintro ⟨row, member, _, among, rfl, same⟩
    exact ⟨row, member, same, among⟩
  · rintro ⟨row, member, same, among⟩
    exact ⟨row, member, dep, among, rfl, same⟩

theorem OnCycle.exists_edge (cycle : graph.OnCycle name) :
    ∃ next, graph.Edge name next ∧ ReflTransGen graph.Edge next name :=
  TransGen.head'_iff.1 cycle

/-- From a name between cycles an edge leads to another one. -/
theorem BetweenCycles.exists_edge (between : graph.BetweenCycles name) :
    ∃ next, graph.BetweenCycles next ∧ graph.Edge name next := by
  obtain ⟨first, last, begins, before, after, ends⟩ := between
  rcases after.cases_head with rfl | ⟨next, edge, rest⟩
  · obtain ⟨next, edge, rest⟩ := ends.exists_edge
    exact ⟨next, ⟨first, name, begins, before.tail edge, rest, ends⟩, edge⟩
  · exact ⟨next, ⟨first, last, begins, before.tail edge, rest, ends⟩, edge⟩

/-! ## Order and cycles -/

theorem OnCycle.not_acc (cycle : graph.OnCycle name) : ¬ Acc graph.Edge name := by
  intro ends
  replace ends := ends.transGen
  induction ends with
  | intro name _ ih => exact ih name cycle cycle

/-- No cycle leads to a name from which dependencies come to an end. -/
theorem Proper.not_between (proper : graph.Proper) (grounded : graph.Grounded name) :
    ¬ graph.BetweenCycles name := by
  have ends : Acc graph.Edge name := Subrelation.accessible proper.edge_iff.1 grounded
  rintro ⟨first, _, cycle, before, _⟩
  have start : ∀ {last}, ReflTransGen graph.Edge first last → Acc graph.Edge last →
      Acc graph.Edge first := by
    intro last leads
    induction leads with
    | refl => exact id
    | tail _ edge ih => exact fun ends => ih (ends.inv edge)
  exact cycle.not_acc (start before ends)

theorem Proper.mem_nodes_of_between (proper : graph.Proper) (between : graph.BetweenCycles name) :
    name ∈ graph.nodes := by
  obtain ⟨_, _, edge⟩ := between.exists_edge
  exact proper.dep_mem (proper.edge_iff.1 edge)

/-- What is between cycles cannot be put in order. -/
theorem Proper.waiting_of_between (proper : graph.Proper) (between : graph.BetweenCycles name) :
    name ∈ graph.waiting := by
  refine proper.mem_waiting.2 ⟨proper.mem_nodes_of_between between, fun before => ?_⟩
  exact proper.not_between (proper.ordering.ordered.grounded name before) between

/-- A node that cannot be put in order depends on another one. -/
theorem Proper.waiting_needs (proper : graph.Proper) (waits : name ∈ graph.waiting) :
    ∃ dep ∈ graph.waiting, graph.Edge dep name := by
  obtain ⟨member, unordered⟩ := proper.mem_waiting.1 waits
  by_contra none
  refine unordered ?_
  have complete := proper.ordering.complete name member fun dep needs => ?_
  · simpa using complete
  · by_contra later
    exact none ⟨dep, proper.mem_waiting.2 ⟨proper.dep_mem needs, later⟩, proper.edge_iff.2 needs⟩

/-- A cycle leads to every node that cannot be put in order. -/
theorem Proper.cycle_before (proper : graph.Proper) (waits : name ∈ graph.waiting) :
    ∃ first, graph.OnCycle first ∧ ReflTransGen graph.Edge first name := by
  have needs : ∀ node ∈ graph.waiting, ∃ dep ∈ graph.waiting, Function.swap graph.Edge node dep :=
    fun _ => proper.waiting_needs
  obtain ⟨first, leads, cycle⟩ := exists_cycle needs waits
  exact ⟨first, transGen_swap.1 cycle, reflTransGen_swap.1 leads⟩

/-- All nodes are put in order exactly if there is no cycle. -/
theorem Proper.waiting_eq_nil (proper : graph.Proper) :
    graph.waiting = [] ↔ ∀ name, ¬ graph.OnCycle name := by
  constructor
  · intro none name cycle
    have waits := proper.waiting_of_between cycle.between
    rw [none] at waits
    cases waits
  · intro none
    refine List.eq_nil_iff_forall_not_mem.2 fun name waits => ?_
    obtain ⟨first, cycle, _⟩ := proper.cycle_before waits
    exact none first cycle

/-! ## What is left when nodes are dropped -/

variable {steps : Nat} {nodes : List String}

theorem peel_sublist (graph : Graph) (steps : Nat) (nodes : List String) :
    (graph.peel steps nodes).Sublist nodes := by
  induction steps generalizing nodes with
  | zero => exact .refl nodes
  | succ steps ih => exact (ih _).trans List.filter_sublist

theorem Proper.any_dependents (proper : graph.Proper) :
    ((graph.dependents name).any nodes.contains) = true ↔ ∃ next ∈ nodes, graph.Edge name next := by
  simp only [List.any_eq_true, List.contains_iff_mem, proper.mem_dependents, ← proper.edge_iff]
  exact exists_congr fun _ => and_comm

/-- Nodes that lead to one another are not dropped. -/
theorem Proper.mem_peel (proper : graph.Proper) {P : String → Prop}
    (leads : ∀ name, P name → ∃ next, P next ∧ graph.Edge name next)
    (all : ∀ name, P name → name ∈ nodes) : ∀ name, P name → name ∈ graph.peel steps nodes := by
  induction steps generalizing nodes with
  | zero => exact all
  | succ steps ih =>
      refine ih fun name holds => List.mem_filter.2 ⟨all name holds, proper.any_dependents.2 ?_⟩
      obtain ⟨next, again, edge⟩ := leads name holds
      exact ⟨next, all next again, edge⟩

/-- With a step for each node all that are left lead to one another. -/
theorem Proper.peel_leads (proper : graph.Proper) (enough : nodes.length ≤ steps) :
    ∀ name ∈ graph.peel steps nodes, ∃ next ∈ graph.peel steps nodes, graph.Edge name next := by
  induction steps generalizing nodes with
  | zero =>
      rw [List.length_eq_zero_iff.1 (Nat.le_zero.1 enough)]
      exact nofun
  | succ steps ih =>
      by_cases fewer : (nodes.filter fun node =>
          (graph.dependents node).any nodes.contains).length < nodes.length
      · exact ih (by omega)
      · -- nothing is dropped, now or later
        have all : ∀ name ∈ nodes, ∃ next, next ∈ nodes ∧ graph.Edge name next := by
          have same := Nat.le_antisymm (List.length_filter_le _ _) (Nat.not_lt.1 fewer)
          exact fun name member =>
            proper.any_dependents.1 (List.length_filter_eq_length_iff.1 same name member)
        intro name member
        obtain ⟨next, among, edge⟩ := all name ((graph.peel_sublist _ nodes).subset member)
        exact ⟨next, proper.mem_peel all (fun _ => id) next among, edge⟩

/-- What is left of a graph are the nodes between cycles, in their order. -/
theorem Proper.cycleMembers_spec (proper : graph.Proper) :
    graph.cycleMembers.Sublist graph.nodes ∧
      ∀ name, name ∈ graph.cycleMembers ↔ graph.BetweenCycles name := by
  have some : graph.cycleMembers.Sublist graph.waiting := graph.peel_sublist _ _
  refine ⟨some.trans List.filter_sublist, fun name => ⟨fun left => ?_, fun between => ?_⟩⟩
  · obtain ⟨first, begins, before⟩ := proper.cycle_before (some.subset left)
    obtain ⟨last, after, ends⟩ := exists_cycle (proper.peel_leads (Nat.le_refl _)) left
    exact ⟨first, last, begins, before, after, ends⟩
  · exact proper.mem_peel (fun _ => BetweenCycles.exists_edge)
      (fun _ => proper.waiting_of_between) name between

/-! ## Orders that are found -/

/-- Names in order: each once, all that are bound or depended upon, and each after its dependencies. -/
structure IsOrder (graph : Graph) (order : List String) : Prop where
  distinct : order.Nodup
  complete : ∀ name, name ∈ order ↔ (∃ binding ∈ graph.bindings, binding.1.nameText = name) ∨
    ∃ dependent, graph.Edge name dependent
  before : ∀ dep name, graph.Edge dep name → [dep, name].Sublist order

theorem Proper.ordered_perm (proper : graph.Proper) (none : graph.waiting = []) :
    graph.ordered.Perm graph.nodes := by
  have ordering := proper.ordering
  have distinct := ordering.distinct
  rw [List.append_nil] at distinct
  refine (List.perm_ext_iff_of_nodup distinct proper.nodes).2 fun name => ⟨fun before => ?_, ?_⟩
  · exact ordering.among name (List.mem_append_left _ before)
  · intro member
    by_contra later
    have waits := proper.mem_waiting.2 ⟨member, later⟩
    rw [none] at waits
    cases waits

/-- The outcome is an order if no node is left waiting, else what is between cycles. -/
theorem Proper.topologicalOrder_eq (proper : graph.Proper) :
    graph.topologicalOrder = if graph.waiting = [] then ⟨.success, some graph.ordered, none, []⟩
      else ⟨.failed, none, some (cycleError graph.cycleMembers),
        [(.str "cycle", .list .plain none (graph.cycleMembers.map .str))]⟩ := by
  have all : graph.ordered.length = graph.nodes.length ↔ graph.waiting = [] := by
    refine ⟨fun same => ?_, fun none => (proper.ordered_perm none).length_eq⟩
    have ordering := proper.ordering
    have distinct := ordering.distinct
    have among := ordering.among
    rw [List.append_nil] at distinct among
    have perm := (distinct.subperm among).perm_of_length_le (Nat.le_of_eq same.symm)
    refine List.eq_nil_iff_forall_not_mem.2 fun name waits => ?_
    obtain ⟨member, later⟩ := proper.mem_waiting.1 waits
    exact later (perm.mem_iff.2 member)
  simp only [topologicalOrder, all]

theorem mem_map_fst_tableOf {bindings : Entries} (classifier : Classifier) (defaultsKey : String) :
    name ∈ (tableOf classifier defaultsKey bindings).map Prod.fst ↔
      ∃ binding ∈ bindings, binding.1.nameText = name := by
  have grows : ∀ table : DependencyTable,
      name ∈ (bindings.foldl (fun table binding => record binding.1.nameText
        (declared classifier defaultsKey binding.1.nameText binding.2) table) table).map Prod.fst ↔
      name ∈ table.map Prod.fst ∨ ∃ binding ∈ bindings, binding.1.nameText = name := by
    induction bindings with
    | nil => simp
    | cons binding rest ih =>
        intro table
        rw [List.foldl_cons, ih, map_fst_record, List.exists_mem_cons_iff, ← or_assoc]
        refine or_congr_left ?_
        split
        · next again => exact ⟨.inl, fun holds => holds.elim id (· ▸ again)⟩
        · rw [List.mem_append, List.mem_singleton, eq_comm (a := name)]
  simpa [tableOf] using grows []

/-- The nodes are the names that are bound and those that are depended upon. -/
theorem mem_nodes_ofBindings {bindings : Entries} {classifier : Classifier} {defaultsKey : String} :
    name ∈ (ofBindings bindings classifier defaultsKey).nodes ↔
      (∃ binding ∈ bindings, binding.1.nameText = name) ∨
        ∃ dependent, (ofBindings bindings classifier defaultsKey).Edge name dependent := by
  have proper := ofBindings_proper bindings classifier defaultsKey
  rw [← mem_map_fst_tableOf classifier defaultsKey]
  constructor
  · intro member
    obtain ⟨row, among, here⟩ := List.mem_flatMap.1 (Text.mem_distinct.1 member)
    rcases List.mem_cons.1 here with rfl | needs
    · exact .inl (List.mem_map_of_mem among)
    · exact .inr ⟨row.1, proper.edge_iff.2 (proper.mem_dependencies.2 ⟨row, among, rfl, needs⟩)⟩
  · rintro (bound | ⟨dependent, edge⟩)
    · obtain ⟨row, among, rfl⟩ := List.mem_map.1 bound
      exact proper.named row among
    · exact proper.dep_mem (proper.edge_iff.1 edge)

/--
All names can be put in order exactly if none is on a cycle.  Then the order has each name that is bound or
depended upon once, and after all it depends on; otherwise some names are given for a cycle.
-/
theorem topologicalOrder_acyclic (bindings : Entries) (classifier : Classifier) (defaultsKey : String) :
    let graph := ofBindings bindings classifier defaultsKey
    (graph.topologicalOrder.isSuccess = true ↔ ∀ name, ¬ graph.OnCycle name) ∧
      (graph.topologicalOrder.isSuccess = true →
        ∃ order, graph.topologicalOrder.value = some order ∧ graph.IsOrder order) ∧
      (graph.topologicalOrder.isSuccess = false → ∃ names, names ≠ [] ∧
        graph.topologicalOrder.metadata = [(.str "cycle", .list .plain none (names.map .str))]) := by
  intro graph
  have proper : graph.Proper := ofBindings_proper bindings classifier defaultsKey
  rw [← proper.waiting_eq_nil, proper.topologicalOrder_eq]
  by_cases none : graph.waiting = []
  · have perm := proper.ordered_perm none
    rw [if_pos none]
    refine ⟨iff_of_true rfl none, fun _ => ⟨graph.ordered, rfl, ?_, fun name => ?_, ?_⟩, nofun⟩
    · exact perm.nodup_iff.2 proper.nodes
    · rw [perm.mem_iff]
      exact mem_nodes_ofBindings
    · intro dep name edge
      have needs := proper.edge_iff.1 edge
      exact proper.ordering.ordered.before (perm.mem_iff.2 (proper.name_mem needs)) needs
  · rw [if_neg none]
    refine ⟨iff_of_false nofun none, nofun, fun _ => ⟨graph.cycleMembers, ?_, rfl⟩⟩
    obtain ⟨name, waits⟩ := List.exists_mem_of_ne_nil _ none
    obtain ⟨first, cycle, _⟩ := proper.cycle_before waits
    exact List.ne_nil_of_mem ((proper.cycleMembers_spec.2 first).2 cycle.between)

def needing (deps : List String) : Term :=
  .function 0 "f" deps none (.callable .procedure 1 "f" "f" (.const (.int 1)))

def chained : Entries := [(.str "B", .list .plain none [.ref "A", .ref "A"]), (.str "A", .int 1)]

/-- The chain is found in order. -/
theorem chained_acyclic : ∃ order,
    (ofBindings chained ⟨[], none⟩ "::defaults").topologicalOrder.value = some order ∧
      ["A", "B"].Sublist order := by
  have found : (ofBindings chained ⟨[], none⟩ "::defaults").topologicalOrder.isSuccess = true := rfl
  obtain ⟨order, value, isOrder⟩ := (topologicalOrder_acyclic chained ⟨[], none⟩ "::defaults").2.1 found
  exact ⟨order, value, isOrder.before "A" "B" (show ("A", "B") ∈ _ by decide)⟩

/-- The names that are given for a cycle are those between two cycles, in the order of the nodes. -/
theorem topologicalOrder_between {bindings : Entries} {classifier : Classifier} {defaultsKey : String}
    (failed : (ofBindings bindings classifier defaultsKey).topologicalOrder.isSuccess = false) :
    let graph := ofBindings bindings classifier defaultsKey
    ∃ names : List String, graph.topologicalOrder.metadata =
        [(.str "cycle", .list .plain none (names.map .str))] ∧ names.Sublist graph.nodes ∧
      (∀ name, name ∈ names ↔ graph.BetweenCycles name) ∧
        ∀ name, graph.OnCycle name → name ∈ names := by
  intro graph
  have proper : graph.Proper := ofBindings_proper bindings classifier defaultsKey
  obtain ⟨ordered, exactly⟩ := proper.cycleMembers_spec
  rw [proper.topologicalOrder_eq] at failed ⊢
  by_cases none : graph.waiting = []
  · rw [if_pos none] at failed
    cases failed
  · rw [if_neg none]
    exact ⟨graph.cycleMembers, rfl, ordered, exactly,
      fun name cycle => (exactly name).2 cycle.between⟩

/-- Two names that need themselves, the last one by way of a name that needs the first. -/
def crossed : Entries :=
  [(.str "A", needing ["A"]), (.str "X", .ref "A"), (.str "B", needing ["X", "B"])]

/-- The name on the way from one cycle to the other is given with them. -/
theorem crossed_between : ∃ names : List String,
    (ofBindings crossed ⟨[], none⟩ "::defaults").topologicalOrder.metadata =
        [(.str "cycle", .list .plain none (names.map .str))] ∧
      "A" ∈ names ∧ "X" ∈ names ∧ "B" ∈ names := by
  have failed : (ofBindings crossed ⟨[], none⟩ "::defaults").topologicalOrder.isSuccess = false := rfl
  obtain ⟨names, same, _, exactly, all⟩ := topologicalOrder_between failed
  have first : OnCycle (ofBindings crossed ⟨[], none⟩ "::defaults") "A" :=
    .single (show ("A", "A") ∈ _ by decide)
  have last : OnCycle (ofBindings crossed ⟨[], none⟩ "::defaults") "B" :=
    .single (show ("B", "B") ∈ _ by decide)
  refine ⟨names, same, all "A" first, (exactly "X").2 ⟨"A", "B", first, ?_, ?_, last⟩, all "B" last⟩
  · exact .single (show ("A", "X") ∈ _ by decide)
  · exact .single (show ("X", "B") ∈ _ by decide)

/-- That name is on no cycle. -/
theorem crossed_apart : ¬ ∀ (bindings : Entries) (classifier : Classifier) (defaultsKey : String),
    let graph := ofBindings bindings classifier defaultsKey
    graph.topologicalOrder.isSuccess = false → ∃ names : List String,
      graph.topologicalOrder.metadata = [(.str "cycle", .list .plain none (names.map .str))] ∧
        ∀ name, name ∈ names ↔ graph.OnCycle name := by
  intro exact
  obtain ⟨names, same, exactly⟩ := exact crossed ⟨[], none⟩ "::defaults" rfl
  have given : (ofBindings crossed ⟨[], none⟩ "::defaults").topologicalOrder.metadata =
      [(.str "cycle", .list .plain none (["A", "X", "B"].map .str))] := rfl
  rw [given] at same
  have member : "X" ∈ names := by
    have among : Term.str "X" ∈ names.map .str := by
      injection same with same
      injection same with _ same
      injection same with _ _ same
      rw [← same]
      simp
    obtain ⟨name, member, here⟩ := List.mem_map.1 among
    injection here with _ here
    exact here ▸ member
  have steps : ∀ {dep name}, (ofBindings crossed ⟨[], none⟩ "::defaults").Edge dep name →
      (dep, name) ∈ [("A", "A"), ("A", "X"), ("X", "B"), ("B", "B")] := id
  have onward : ∀ {name}, TransGen (ofBindings crossed ⟨[], none⟩ "::defaults").Edge "X" name →
      name = "B" := by
    intro name leads
    induction leads with
    | single edge => simpa using steps edge
    | tail _ edge ih =>
        subst ih
        simpa using steps edge
  exact absurd (onward ((exactly "X").1 member)) (by decide)

end Graph

end ScopedTemplate
