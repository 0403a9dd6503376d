import Mathlib.Order.Bounds.Basic
import ScopedTemplate.Proofs.Graph.Cycles

/-!
# Dropping nodes in any order

The nodes that are reported for a cycle are found by passes over the set of those that are left.  A pass
lists the set in an order of its own and drops, at once, each node on which none that is left depends;
the last pass is the one that drops nothing.  Whatever the orders are, the passes end, and they leave the
same nodes: the greatest set in which each node has a dependent.
-/

namespace ScopedTemplate.Graph

variable {graph : Graph} {left fewer kept : Finset String} {changed : Bool}

/-! ## Passes -/

/-- Look at nodes one after the other and drop those on which none that is left depends; tell of a drop. -/
def pass (graph : Graph) : List String → Finset String → Finset String × Bool
  | [], left => (left, false)
  | node :: rest, left =>
    if (graph.dependents node).any (· ∈ left) then graph.pass rest left
    else ((graph.pass rest (left.erase node)).1, true)

/-- What a pass over a set may come to, by the order in which it lists the set. -/
def Passes (graph : Graph) (left : Finset String) (result : Finset String × Bool) : Prop :=
  ∃ order : List String, order.Nodup ∧ order.toFinset = left ∧ graph.pass order left = result

/-- Passes until one drops nothing, each in any order; what is left is listed as the nodes are. -/
inductive Peels (graph : Graph) : Finset String → List String → Prop where
  | last {left kept : Finset String} (pass : graph.Passes left (kept, false)) :
      Peels graph left (graph.nodes.filter (· ∈ kept))
  | next {left fewer : Finset String} {names : List String} (pass : graph.Passes left (fewer, true))
      (rest : Peels graph fewer names) : Peels graph left names

def Supported (graph : Graph) (kept : Finset String) : Prop :=
  ∀ node ∈ kept, ∃ next ∈ kept, graph.Edge node next

theorem pass_subset (graph : Graph) (order : List String) (left : Finset String) :
    (graph.pass order left).1 ⊆ left := by
  induction order generalizing left with
  | nil => exact subset_rfl
  | cons node rest ih =>
      unfold pass
      split
      · exact ih left
      · exact (ih _).trans (left.erase_subset node)

/-- A pass that tells of a drop has left less. -/
theorem pass_ssubset {order : List String} (listed : ∀ node ∈ order, node ∈ left)
    (dropped : (graph.pass order left).2 = true) : (graph.pass order left).1 ⊂ left := by
  induction order with
  | nil => cases dropped
  | cons node rest ih =>
      obtain ⟨here, others⟩ := List.forall_mem_cons.1 listed
      unfold pass at dropped ⊢
      split at dropped
      · next needed =>
          rw [if_pos needed]
          exact ih others dropped
      · next free =>
          rw [if_neg free]
          exact (graph.pass_subset rest _).trans_ssubset (Finset.erase_ssubset here)

theorem Passes.subset (passes : graph.Passes left (fewer, changed)) : fewer ⊆ left := by
  obtain ⟨order, _, _, result⟩ := passes
  have within := graph.pass_subset order left
  rwa [result] at within

theorem Passes.ssubset (passes : graph.Passes left (fewer, true)) : fewer ⊂ left := by
  obtain ⟨order, _, rfl, result⟩ := passes
  have dropped : (graph.pass order order.toFinset).2 = true := by rw [result]
  have within := pass_ssubset (fun _ => List.mem_toFinset.2) dropped
  rwa [result] at within

/-- Passes that drop nodes come to an end. -/
theorem wellFounded_passes (graph : Graph) :
    WellFounded fun fewer left => graph.Passes left (fewer, true) :=
  Subrelation.wf Passes.ssubset Finset.isWellFounded_ssubset.wf

/-- Every set can be passed over. -/
theorem exists_passes (graph : Graph) (left : Finset String) : ∃ result, graph.Passes left result :=
  ⟨_, left.toList, left.nodup_toList, left.toList_toFinset, rfl⟩

theorem exists_peels (graph : Graph) (start : Finset String) : ∃ names, graph.Peels start names := by
  induction start using graph.wellFounded_passes.induction with
  | _ left ih =>
      obtain ⟨⟨fewer, changed⟩, passes⟩ := graph.exists_passes left
      cases changed with
      | false => exact ⟨_, .last passes⟩
      | true =>
          obtain ⟨names, rest⟩ := ih fewer passes
          exact ⟨names, .next passes rest⟩

/-! ## What passes leave -/

namespace Proper

variable (proper : graph.Proper)
include proper

theorem any_dependents_finset {node : String} :
    ((graph.dependents node).any (· ∈ left)) = true ↔ ∃ next ∈ left, graph.Edge node next := by
  simp only [List.any_eq_true, decide_eq_true_iff, proper.mem_dependents, ← proper.edge_iff]
  exact exists_congr fun _ => and_comm

/-- Nodes that support each other stay through a pass, wherever in the pass they are looked at. -/
theorem subset_pass (order : List String) (supported : graph.Supported kept) (within : kept ⊆ left) :
    kept ⊆ (graph.pass order left).1 := by
  induction order generalizing left with
  | nil => exact within
  | cons node rest ih =>
      unfold pass
      split
      · exact ih within
      · next free =>
          -- the node that is dropped is none of these, since a dependent of theirs is still left
          refine ih (Finset.subset_erase.2 ⟨within, fun member => free ?_⟩)
          obtain ⟨next, among, edge⟩ := supported node member
          exact proper.any_dependents_finset.2 ⟨next, within among, edge⟩

/-- In a pass that drops nothing each node has been seen to have a dependent. -/
theorem pass_kept {order : List String} (same : (graph.pass order left).2 = false) :
    (graph.pass order left).1 = left ∧ ∀ node ∈ order, ∃ next ∈ left, graph.Edge node next := by
  induction order with
  | nil => exact ⟨rfl, nofun⟩
  | cons node rest ih =>
      unfold pass at same ⊢
      split at same
      · next needed =>
          rw [if_pos needed]
          obtain ⟨all, others⟩ := ih same
          exact ⟨all, List.forall_mem_cons.2 ⟨proper.any_dependents_finset.1 needed, others⟩⟩
      · cases same

theorem passes_last (passes : graph.Passes left (kept, false)) :
    kept = left ∧ graph.Supported left := by
  obtain ⟨order, _, rfl, result⟩ := passes
  have same : (graph.pass order order.toFinset).2 = false := by rw [result]
  obtain ⟨all, others⟩ := proper.pass_kept same
  rw [result] at all
  exact ⟨all, fun node member => others node (List.mem_toFinset.1 member)⟩

/-- The nodes left are the greatest supported set, since no pass loses a node of such a set. -/
theorem isGreatest_peels {start : Finset String} {names : List String}
    (peels : graph.Peels start names) : ∃ kept : Finset String,
      names = graph.nodes.filter (· ∈ kept) ∧
        IsGreatest {nodes | nodes ⊆ start ∧ graph.Supported nodes} kept := by
  induction peels with
  | last passes =>
      obtain ⟨rfl, supported⟩ := proper.passes_last passes
      exact ⟨_, rfl, ⟨subset_rfl, supported⟩, fun _ among => among.1⟩
  | next passes _ ih =>
      obtain ⟨kept, same, ⟨within, supported⟩, greatest⟩ := ih
      refine ⟨kept, same, ⟨within.trans passes.subset, supported⟩, ?_⟩
      rintro nodes ⟨some, leads⟩
      obtain ⟨order, _, _, result⟩ := passes
      have stays := proper.subset_pass order leads some
      rw [result] at stays
      exact greatest ⟨stays, leads⟩

/-- The nodes left when all that may be dropped are dropped together are the greatest supported set. -/
theorem isGreatest_peel {start : Finset String} (among : ∀ node ∈ start, node ∈ graph.nodes) :
    IsGreatest {nodes | nodes ⊆ start ∧ graph.Supported nodes}
      (graph.peel start.card (graph.nodes.filter (· ∈ start))).toFinset := by
  have listed : (graph.nodes.filter (· ∈ start)).toFinset = start := by
    ext node
    simpa using among node
  have enough : (graph.nodes.filter (· ∈ start)).length ≤ start.card := by
    rw [← List.toFinset_card_of_nodup (proper.nodes.filter _), listed]
  refine ⟨⟨fun node member => ?_, fun node member => ?_⟩, ?_⟩
  · have some := (graph.peel_sublist _ _).subset (List.mem_toFinset.1 member)
    simpa using (List.mem_filter.1 some).2
  · simpa using proper.peel_leads enough node (List.mem_toFinset.1 member)
  · rintro nodes ⟨within, supported⟩ node member
    refine List.mem_toFinset.2 (proper.mem_peel supported (fun other here => ?_) node member)
    exact List.mem_filter.2 ⟨among other (within here), by simpa using within here⟩

end Proper

/-- Of distinct items those that occur in a part of them are the part. -/
theorem filter_mem_sublist {items part : List String} (distinct : items.Nodup)
    (sublist : part.Sublist items) : items.filter (· ∈ part.toFinset) = part := by
  have within : part.Sublist (items.filter (· ∈ part.toFinset)) := by
    have filtered := sublist.filter (· ∈ part.toFinset)
    rwa [List.filter_eq_self.2 (by simp)] at filtered
  refine (within.eq_of_length_le ?_).symm
  refine ((distinct.filter _).subperm fun item member => ?_).length_le
  simpa using (List.mem_filter.1 member).2

/--
Passes over nodes of a graph come to an end, whatever their orders are, and always leave the same: in the
order of the graph, the greatest set of the nodes in which each has a dependent.  If they start with the
nodes that cannot be put in order, they leave those that are reported, and some if there is a cycle.
-/
theorem peels_in_any_order (bindings : Entries) (classifier : Classifier) (defaultsKey : String)
    (start : Finset String) :
    let graph := ofBindings bindings classifier defaultsKey
    let names := graph.peel start.card (graph.nodes.filter (· ∈ start))
    (∀ node ∈ start, node ∈ graph.nodes) →
      Acc (fun fewer left => graph.Passes left (fewer, true)) start ∧
      (∀ result, graph.Peels start result ↔ result = names) ∧
      names.Sublist graph.nodes ∧
      IsGreatest {nodes | nodes ⊆ start ∧ graph.Supported nodes} names.toFinset ∧
      (start = graph.waiting.toFinset →
        names = graph.cycleMembers ∧ ((∃ name, graph.OnCycle name) → names ≠ [])) := by
  intro graph names among
  have proper : graph.Proper := ofBindings_proper bindings classifier defaultsKey
  have sublist : names.Sublist graph.nodes := (graph.peel_sublist _ _).trans List.filter_sublist
  have greatest := proper.isGreatest_peel among
  have same : ∀ result, graph.Peels start result → result = names := by
    intro result peels
    obtain ⟨kept, rfl, largest⟩ := proper.isGreatest_peels peels
    rw [largest.unique greatest]
    exact filter_mem_sublist proper.nodes sublist
  refine ⟨graph.wellFounded_passes.apply start, fun result => ⟨same result, ?_⟩, sublist, greatest, ?_⟩
  · rintro rfl
    obtain ⟨result, peels⟩ := graph.exists_peels start
    exact same result peels ▸ peels
  · intro waits
    have ordered : graph.waiting.Sublist graph.nodes := List.filter_sublist
    have members : names = graph.cycleMembers := by
      subst waits
      unfold names cycleMembers
      rw [filter_mem_sublist proper.nodes ordered,
        List.toFinset_card_of_nodup (proper.nodes.sublist ordered)]
    refine ⟨members, ?_⟩
    rintro ⟨name, cycle⟩
    rw [members]
    exact List.ne_nil_of_mem ((proper.cycleMembers_spec.2 name).2 cycle.between)

def trailing : Graph :=
  ofBindings [(.str "A", needing ["A"]), (.str "X", .ref "A"), (.str "Y", .ref "X")] ⟨[], none⟩ "::defaults"

/-- The names that are on no cycle are dropped, whether in one pass or in two. -/
theorem trailing_peels : trailing.cycleMembers = ["A"] ∧
    ∀ result, trailing.Peels trailing.waiting.toFinset result ↔ result = ["A"] := by
  obtain ⟨_, exactly, _, _, reported⟩ :=
    peels_in_any_order [(.str "A", needing ["A"]), (.str "X", .ref "A"), (.str "Y", .ref "X")]
      ⟨[], none⟩ "::defaults" trailing.waiting.toFinset (by decide)
  exact ⟨(reported rfl).1.symm, exactly⟩

end ScopedTemplate.Graph
