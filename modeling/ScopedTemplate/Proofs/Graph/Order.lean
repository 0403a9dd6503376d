import Mathlib.Data.List.Nodup
import Mathlib.Data.List.Perm.Subperm
import ScopedTemplate.Graph
import ScopedTemplate.Proofs.Term.References

/-!
# The order of a dependency graph

Nodes are put after everything they depend on.  This succeeds if and only if following dependencies
comes to an end from every node.
-/

namespace ScopedTemplate.Graph

variable {graph : Graph} {name dep : String}

/-- There is one row for a name, and the rows are about nodes, each of which is there once and in a row once. -/
structure Proper (graph : Graph) : Prop where
  rows : (graph.table.map Prod.fst).Nodup
  nodes : graph.nodes.Nodup
  named : ∀ row ∈ graph.table, row.1 ∈ graph.nodes
  needed : ∀ row ∈ graph.table, ∀ name ∈ row.2, name ∈ graph.nodes
  once : ∀ row ∈ graph.table, row.2.Nodup

/-- Following dependencies from a name comes to an end on every way. -/
def Grounded (graph : Graph) (name : String) : Prop :=
  Acc (fun dep name => dep ∈ graph.dependencies name) name

/-! ## Rows -/

/-- What a name depends on is in its row. -/
theorem exists_row (among : dep ∈ graph.dependencies name) :
    ∃ row ∈ graph.table, row.1 = name ∧ dep ∈ row.2 := by
  unfold dependencies at among
  cases found : graph.table.find? (·.1 == name) with
  | none =>
      rw [found] at among
      cases among
  | some row =>
      rw [found] at among
      exact ⟨row, List.mem_of_find?_eq_some found, by simpa using List.find?_some found, among⟩

namespace Proper

variable (proper : graph.Proper)
include proper

/-- The row of a name is the one that counts. -/
theorem dependencies_eq {row : String × List String} (member : row ∈ graph.table) :
    graph.dependencies row.1 = row.2 := by
  have rows := proper.rows
  unfold dependencies
  generalize graph.table = table at member rows
  induction table with
  | nil => cases member
  | cons first rest ih =>
      rw [List.map_cons, List.nodup_cons] at rows
      rcases List.mem_cons.1 member with rfl | later
      · simp
      · have differs : first.1 ≠ row.1 := by
          intro same
          apply rows.1
          rw [same]
          exact List.mem_map_of_mem later
        rw [List.find?_cons_of_neg (by simpa using differs)]
        exact ih later rows.2

theorem mem_dependencies :
    dep ∈ graph.dependencies name ↔ ∃ row ∈ graph.table, row.1 = name ∧ dep ∈ row.2 := by
  constructor
  · exact exists_row
  · rintro ⟨row, member, rfl, among⟩
    rw [proper.dependencies_eq member]
    exact among

/-- Dependents are those whose dependencies have the name. -/
theorem mem_dependents : name ∈ graph.dependents dep ↔ dep ∈ graph.dependencies name := by
  rw [proper.mem_dependencies]
  unfold dependents
  simp only [List.mem_map, List.mem_filter, List.contains_iff_mem]
  constructor
  · rintro ⟨row, ⟨member, among⟩, same⟩
    exact ⟨row, member, same, among⟩
  · rintro ⟨row, member, same, among⟩
    exact ⟨row, ⟨member, among⟩, same⟩

theorem dependents_nodup : (graph.dependents dep).Nodup :=
  proper.rows.sublist (List.filter_sublist.map Prod.fst)

theorem dependencies_nodup (name : String) : (graph.dependencies name).Nodup := by
  unfold dependencies
  cases found : graph.table.find? (·.1 == name) with
  | none => exact .nil
  | some row => exact proper.once row (List.mem_of_find?_eq_some found)

theorem name_mem (among : dep ∈ graph.dependencies name) : name ∈ graph.nodes := by
  obtain ⟨row, member, rfl, _⟩ := exists_row among
  exact proper.named row member

theorem dep_mem (among : dep ∈ graph.dependencies name) : dep ∈ graph.nodes := by
  obtain ⟨row, member, _, needs⟩ := exists_row among
  exact proper.needed row member dep needs

end Proper

/-! ## Degrees -/

def missing (graph : Graph) (done : List String) : Degrees := fun node =>
  ((graph.dependencies node).filter (!done.contains ·)).length

theorem missing_eq_zero {done : List String} :
    graph.missing done name = 0 ↔ ∀ dep ∈ graph.dependencies name, dep ∈ done := by
  unfold missing
  simp [List.filter_eq_nil_iff]

theorem degrees_eq_missing (graph : Graph) : graph.degrees = graph.missing [] := by
  funext node
  simp [degrees, missing]

/-- One name fewer is missing for the nodes that depend on the one which is done now. -/
theorem Proper.missing_snoc (proper : graph.Proper) {done : List String} {node : String}
    (fresh : node ∉ done) : graph.missing (done ++ [node]) = fun other =>
      if other ∈ graph.dependents node then graph.missing done other - 1
      else graph.missing done other := by
  funext other
  have later : (graph.dependencies other).filter (!(done ++ [node]).contains ·) =
      ((graph.dependencies other).filter (!done.contains ·)).erase node := by
    rw [((proper.dependencies_nodup other).filter _).erase_eq_filter, List.filter_filter]
    refine List.filter_congr fun dep _ => ?_
    by_cases same : dep = node <;> simp [same]
  have among : node ∈ (graph.dependencies other).filter (!done.contains ·) ↔
      other ∈ graph.dependents node := by
    rw [proper.mem_dependents]
    simp [fresh]
  unfold missing
  rw [later, List.length_erase]
  simp only [among]

/-- Each node that is released has its degree lowered once. -/
theorem release_eq (degrees : Degrees) {nodes : List String} (distinct : nodes.Nodup) :
    release degrees nodes = (nodes.filter (degrees · - 1 == 0), fun other =>
      if other ∈ nodes then degrees other - 1 else degrees other) := by
  induction nodes generalizing degrees with
  | nil => simp [release]
  | cons node rest ih =>
      obtain ⟨absent, distinct⟩ := List.nodup_cons.1 distinct
      have unchanged : ∀ other ∈ rest, degrees.lower node other = degrees other := by
        intro other member
        unfold Degrees.lower
        rw [if_neg]
        rintro rfl
        exact absent member
      have ready : rest.filter (degrees.lower node · - 1 == 0) =
          rest.filter (degrees · - 1 == 0) := by
        refine List.filter_congr fun other member => ?_
        rw [unchanged other member]
      simp only [release]
      rw [ih _ distinct, ready]
      refine Prod.ext ?_ (funext fun other => ?_)
      · simp [Degrees.lower, List.filter_cons]
      · by_cases member : other ∈ rest
        · simp [member, unchanged other member]
        · by_cases same : other = node <;> simp [member, same, Degrees.lower, absent]

/-- When a node is done, those of which no dependency is missing any more are released. -/
theorem Proper.release_missing (proper : graph.Proper) {done : List String} {node : String}
    (fresh : node ∉ done) : release (graph.missing done) (graph.dependents node) =
      ((graph.dependents node).filter (graph.missing (done ++ [node]) · == 0),
        graph.missing (done ++ [node])) := by
  rw [release_eq _ proper.dependents_nodup, proper.missing_snoc fresh]
  refine Prod.ext (List.filter_congr fun other member => ?_) rfl
  simp only [member, if_true]

/-! ## Orders -/

/-- Names, each after everything it depends on. -/
inductive Ordered (graph : Graph) : List String → Prop where
  | nil : Ordered graph []
  | snoc {done : List String} {name : String} (ordered : Ordered graph done)
      (ready : ∀ dep ∈ graph.dependencies name, dep ∈ done) : Ordered graph (done ++ [name])

/-- Dependencies end for names that come after them. -/
theorem Ordered.grounded {done : List String} (ordered : graph.Ordered done) :
    ∀ name ∈ done, graph.Grounded name := by
  induction ordered with
  | nil => exact fun name member => absurd member List.not_mem_nil
  | snoc _ ready ih =>
      intro name member
      rcases List.mem_append.1 member with before | last
      · exact ih name before
      · rw [List.mem_singleton.1 last]
        exact ⟨_, fun dep among => ih dep (ready dep among)⟩

/-- What a name depends on comes before it. -/
theorem Ordered.before {done : List String} (ordered : graph.Ordered done) (member : name ∈ done)
    (needs : dep ∈ graph.dependencies name) : [dep, name].Sublist done := by
  induction ordered with
  | nil => cases member
  | snoc _ ready ih =>
      rcases List.mem_append.1 member with earlier | here
      · exact (ih earlier).trans (List.sublist_append_left _ _)
      · obtain rfl := List.mem_singleton.1 here
        exact (List.singleton_sublist.2 (ready dep needs)).append (.refl [name])

/-- What is done is in order, and what is waiting is all else that is ready. -/
structure Ordering (graph : Graph) (done queue : List String) : Prop where
  ordered : graph.Ordered done
  distinct : (done ++ queue).Nodup
  among : ∀ name ∈ done ++ queue, name ∈ graph.nodes
  ready : ∀ name ∈ done ++ queue, ∀ dep ∈ graph.dependencies name, dep ∈ done
  complete : ∀ name ∈ graph.nodes, (∀ dep ∈ graph.dependencies name, dep ∈ done) →
    name ∈ done ++ queue

namespace Ordering

variable {done queue : List String}

theorem start (proper : graph.Proper) :
    graph.Ordering [] (graph.nodes.filter (graph.missing [] · == 0)) := by
  refine ⟨.nil, ?_, ?_, ?_, ?_⟩
  · exact proper.nodes.filter _
  · exact fun name member => (List.mem_filter.1 member).1
  · exact fun name member => missing_eq_zero.1 (beq_iff_eq.1 (List.mem_filter.1 member).2)
  · exact fun name member ready =>
      List.mem_filter.2 ⟨member, beq_iff_eq.2 (missing_eq_zero.2 ready)⟩

/-- The node that comes next is not done. -/
theorem fresh {node : String} (ordering : graph.Ordering done (node :: queue)) : node ∉ done :=
  fun before => (List.nodup_append.1 ordering.distinct).2.2 node before node List.mem_cons_self rfl

theorem step (proper : graph.Proper) {node : String}
    (ordering : graph.Ordering done (node :: queue)) :
    graph.Ordering (done ++ [node])
      (queue ++ (graph.dependents node).filter (graph.missing (done ++ [node]) · == 0)) := by
  have shifted : done ++ node :: queue = done ++ [node] ++ queue := by simp
  have distinct := ordering.distinct
  -- whatever waits already does not depend on the node, which has only been done now
  have apart : ∀ name ∈ done ++ [node] ++ queue, name ∉ graph.dependents node := by
    intro name member dependent
    rw [← shifted] at member
    exact ordering.fresh (ordering.ready name member node (proper.mem_dependents.1 dependent))
  rw [shifted] at distinct
  refine ⟨.snoc ordering.ordered ?_, ?_, ?_, ?_, ?_⟩
  · exact ordering.ready node (List.mem_append_right _ List.mem_cons_self)
  · rw [← List.append_assoc, List.nodup_append]
    refine ⟨distinct, proper.dependents_nodup.filter _, ?_⟩
    rintro name member _ later rfl
    exact apart name member (List.mem_filter.1 later).1
  · intro name member
    rw [← List.append_assoc, ← shifted] at member
    rcases List.mem_append.1 member with before | later
    · exact ordering.among name before
    · exact proper.name_mem (proper.mem_dependents.1 (List.mem_filter.1 later).1)
  · intro name member
    rw [← List.append_assoc, ← shifted] at member
    rcases List.mem_append.1 member with before | later
    · exact fun dep needs => List.mem_append_left _ (ordering.ready name before dep needs)
    · exact missing_eq_zero.1 (beq_iff_eq.1 (List.mem_filter.1 later).2)
  · intro name member ready
    rw [← List.append_assoc, ← shifted]
    by_cases needs : node ∈ graph.dependencies name
    · refine List.mem_append_right _ (List.mem_filter.2 ⟨proper.mem_dependents.2 needs, ?_⟩)
      exact beq_iff_eq.2 (missing_eq_zero.2 ready)
    · refine List.mem_append_left _ (ordering.complete name member fun dep among => ?_)
      rcases List.mem_append.1 (ready dep among) with before | last
      · exact before
      · rw [List.mem_singleton.1 last] at among
        exact absurd among needs

/-- With a step for each node nothing is left in the queue, and the degrees count what is missing. -/
theorem run (proper : graph.Proper) {steps : Nat} (ordering : graph.Ordering done queue)
    (enough : graph.nodes.length ≤ done.length + steps) :
    ∃ order, graph.orderFrom steps (graph.missing done) done queue =
      (order, graph.missing order) ∧ graph.Ordering order [] := by
  induction steps generalizing done queue with
  | zero =>
      have most := (ordering.distinct.subperm ordering.among).length_le
      rw [List.length_append] at most
      have nothing : queue = [] := List.length_eq_zero_iff.1 (by omega)
      rw [nothing] at ordering
      exact ⟨done, rfl, ordering⟩
  | succ steps ih =>
      cases queue with
      | nil => exact ⟨done, rfl, ordering⟩
      | cons node queue =>
          unfold orderFrom
          rw [proper.release_missing ordering.fresh]
          refine ih (ordering.step proper) ?_
          rw [List.length_append, List.length_singleton]
          omega

end Ordering

/-- What the order of a graph has, and the degrees that are left with it. -/
theorem Proper.sorted_eq (proper : graph.Proper) :
    graph.sorted = (graph.ordered, graph.missing graph.ordered) ∧
      graph.Ordering graph.ordered [] := by
  have enough : graph.nodes.length ≤ ([] : List String).length + graph.nodes.length := by simp
  obtain ⟨order, sorted, ordering⟩ := (Ordering.start proper).run proper enough
  rw [← degrees_eq_missing] at sorted
  have same : graph.ordered = order := congrArg Prod.fst sorted
  rw [same]
  exact ⟨sorted, ordering⟩

theorem Proper.ordering (proper : graph.Proper) : graph.Ordering graph.ordered [] :=
  proper.sorted_eq.2

/-- The nodes that wait are those that are not in the order. -/
theorem Proper.mem_waiting (proper : graph.Proper) :
    name ∈ graph.waiting ↔ name ∈ graph.nodes ∧ name ∉ graph.ordered := by
  obtain ⟨sorted, ordering⟩ := proper.sorted_eq
  unfold waiting
  rw [sorted, List.mem_filter, decide_eq_true_iff, Nat.pos_iff_ne_zero, Ne, missing_eq_zero]
  refine and_congr_right fun member => not_congr ⟨fun ready => ?_, fun before => ?_⟩
  · simpa using ordering.complete name member ready
  · exact ordering.ready name (List.mem_append_left _ before)

/-- An order is found exactly if dependencies end for every node. -/
theorem Proper.isSuccess_iff (proper : graph.Proper) :
    graph.topologicalOrder.isSuccess = true ↔ ∀ name ∈ graph.nodes, graph.Grounded name := by
  have ordering := proper.ordering
  have distinct := ordering.distinct
  have among := ordering.among
  have complete := ordering.complete
  rw [List.append_nil] at distinct among complete
  have sub : graph.ordered.Subperm graph.nodes := distinct.subperm among
  have status : graph.topologicalOrder.isSuccess = true ↔
      graph.ordered.length = graph.nodes.length := by
    simp only [topologicalOrder]
    split
    · next same => exact iff_of_true rfl same
    · next differs => exact iff_of_false nofun differs
  rw [status]
  constructor
  · intro same name member
    have perm := sub.perm_of_length_le (Nat.le_of_eq same.symm)
    exact ordering.ordered.grounded name (perm.mem_iff.2 member)
  · intro grounded
    have all : ∀ name, graph.Grounded name → name ∈ graph.nodes → name ∈ graph.ordered := by
      intro name ground
      induction ground with
      | intro name _ ih =>
          intro member
          exact complete name member fun dep needs => ih dep needs (proper.dep_mem needs)
    refine Nat.le_antisymm sub.length_le ?_
    exact (proper.nodes.subperm fun name member => all name (grounded name member) member).length_le

/-- In an order that is found, what a name depends on comes before it. -/
theorem Proper.before (proper : graph.Proper) {order : List String}
    (found : graph.topologicalOrder.value = some order) (needs : dep ∈ graph.dependencies name) :
    [dep, name].Sublist order := by
  have ordering := proper.ordering
  have distinct := ordering.distinct
  have among := ordering.among
  rw [List.append_nil] at distinct among
  unfold topologicalOrder at found
  dsimp only at found
  split at found
  · next same =>
      obtain rfl := Option.some.inj found
      have perm := (distinct.subperm among).perm_of_length_le (Nat.le_of_eq same.symm)
      exact ordering.ordered.before (perm.mem_iff.2 (proper.name_mem needs)) needs
  · cases found

/-! ## Graphs of bindings -/

theorem map_fst_record (name : String) (deps : List String) (table : DependencyTable) :
    (record name deps table).map Prod.fst =
      if name ∈ table.map Prod.fst then table.map Prod.fst
      else table.map Prod.fst ++ [name] := by
  induction table with
  | nil => rfl
  | cons row rest ih =>
      unfold record
      by_cases same : row.1 = name
      · simp [same]
      · have differs : name ≠ row.1 := fun again => same again.symm
        simp only [same, if_false, List.map_cons, ih, List.mem_cons, differs, false_or]
        split <;> rfl

theorem record_of_notMem {name : String} {table : DependencyTable}
    (absent : name ∉ table.map Prod.fst) (deps : List String) :
    record name deps table = table ++ [(name, deps)] := by
  induction table with
  | nil => rfl
  | cons row rest ih =>
      rw [List.map_cons, List.mem_cons, not_or] at absent
      unfold record
      rw [if_neg (Ne.symm absent.1), ih absent.2]
      rfl

theorem record_rows {name : String} {deps : List String} {table : DependencyTable}
    (rows : (table.map Prod.fst).Nodup) : ((record name deps table).map Prod.fst).Nodup := by
  rw [map_fst_record]
  split
  · exact rows
  · next absent =>
      refine List.nodup_append.2 ⟨rows, List.nodup_singleton name, ?_⟩
      rintro other member _ last rfl
      rw [List.mem_singleton.1 last] at member
      exact absent member

theorem mem_record {name : String} {deps : List String} {table : DependencyTable}
    {row : String × List String} (member : row ∈ record name deps table) :
    row = (name, deps) ∨ row ∈ table := by
  induction table with
  | nil => exact .inl (List.mem_singleton.1 member)
  | cons first rest ih =>
      unfold record at member
      split at member
      · rcases List.mem_cons.1 member with new | old
        · exact .inl new
        · exact .inr (List.mem_cons_of_mem _ old)
      · rcases List.mem_cons.1 member with rfl | later
        · exact .inr List.mem_cons_self
        · exact (ih later).imp id (List.mem_cons_of_mem _)

theorem declared_nodup (classifier : Classifier) (defaultsKey name : String) (value : Term) :
    (declared classifier defaultsKey name value).Nodup := by
  unfold declared
  split
  · exact Text.distinct_nodup _
  · exact ((Term.referenceNames_pairwise _ _ _).imp String.ne_of_lt).filter _

/-- The graph of any bindings is proper. -/
theorem ofBindings_proper (bindings : Entries) (classifier : Classifier) (defaultsKey : String) :
    (ofBindings bindings classifier defaultsKey).Proper := by
  have nodes : (ofBindings bindings classifier defaultsKey).nodes =
      Text.distinct ((tableOf classifier defaultsKey bindings).flatMap fun row => row.1 :: row.2) :=
    rfl
  refine ⟨?_, ?_, ?_, ?_, ?_⟩
  · refine List.foldlRecOn (motive := fun table : DependencyTable => (table.map Prod.fst).Nodup)
      bindings _ .nil ?_
    exact fun table rows binding _ => record_rows rows
  · rw [nodes]
    exact Text.distinct_nodup _
  · intro row member
    rw [nodes, Text.mem_distinct]
    exact List.mem_flatMap.2 ⟨row, member, List.mem_cons_self⟩
  · intro row member name needs
    rw [nodes, Text.mem_distinct]
    exact List.mem_flatMap.2 ⟨row, member, List.mem_cons_of_mem _ needs⟩
  · refine List.foldlRecOn (motive := fun table : DependencyTable => ∀ row ∈ table, row.2.Nodup)
      bindings _ nofun ?_
    intro table rows binding _ row member
    rcases mem_record member with rfl | old
    · exact declared_nodup _ _ _ _
    · exact rows row old

/-- Bindings of distinct names have a row each. -/
theorem tableOf_eq {bindings : Entries} (classifier : Classifier) (defaultsKey : String)
    (distinct : (bindings.map fun binding => binding.1.nameText).Nodup) :
    tableOf classifier defaultsKey bindings = bindings.map fun binding =>
      (binding.1.nameText, declared classifier defaultsKey binding.1.nameText binding.2) := by
  have grows : ∀ table : DependencyTable,
      (∀ binding ∈ bindings, binding.1.nameText ∉ table.map Prod.fst) →
        bindings.foldl (fun table binding => record binding.1.nameText
          (declared classifier defaultsKey binding.1.nameText binding.2) table) table =
        table ++ bindings.map fun binding =>
          (binding.1.nameText, declared classifier defaultsKey binding.1.nameText binding.2) := by
    induction bindings with
    | nil => exact fun table _ => (List.append_nil table).symm
    | cons binding rest ih =>
        intro table absent
        obtain ⟨here, there⟩ := List.forall_mem_cons.1 absent
        rw [List.map_cons, List.nodup_cons] at distinct
        rw [List.foldl_cons, record_of_notMem here, ih distinct.2, List.map_cons,
          List.append_assoc]
        · rfl
        · intro other member
          rw [List.map_append, List.mem_append, not_or]
          refine ⟨there other member, ?_⟩
          rw [List.map_singleton, List.mem_singleton]
          intro same
          apply distinct.1
          exact List.mem_map.2 ⟨other, member, same⟩
  exact grows [] fun _ _ => List.not_mem_nil

end ScopedTemplate.Graph
