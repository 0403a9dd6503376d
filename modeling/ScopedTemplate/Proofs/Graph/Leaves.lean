import Mathlib.Data.List.Sort
import ScopedTemplate.Proofs.Graph.Scopes
import ScopedTemplate.Proofs.Term.Outline

/-!
# Leaves in a graph

The search for references passes leaves by, whatever they hold.  The search for scopes does not ask for
leaves.  So the graph of a template does not depend on its leaves as long as these bring no scope and no
function with them.
-/

namespace ScopedTemplate

namespace Term

variable {classifier : Classifier} {defaultsKey : String} {t t' : Term}

/-- Two terms are the same but for leaves, in whose place other leaves are. -/
inductive LeavesReplaced (classifier : Classifier) : Term → Term → Prop where
  | same (t : Term) : LeavesReplaced classifier t t
  | leaf {t t' : Term} (leaf : classifier.isLeaf t = true) (leaf' : classifier.isLeaf t' = true) :
      LeavesReplaced classifier t t'
  | list (kind : ListKind) (stamp stamp' : Option Stamp) {items items' : List Term}
      (size : items.length = items'.length)
      (each : ∀ item item', (item, item') ∈ items.zip items' → LeavesReplaced classifier item item') :
      LeavesReplaced classifier (.list kind stamp items) (.list kind stamp' items')
  | tuple (stamp stamp' : Option Stamp) {items items' : List Term}
      (size : items.length = items'.length)
      (each : ∀ item item', (item, item') ∈ items.zip items' → LeavesReplaced classifier item item') :
      LeavesReplaced classifier (.tuple stamp items) (.tuple stamp' items')
  | map (kind : MapKind) (stamp stamp' : Option Stamp) {entries entries' : Entries}
      (keys : Entries.keys entries = Entries.keys entries')
      (each : ∀ entry entry', (entry, entry') ∈ entries.zip entries' →
        LeavesReplaced classifier entry.2 entry'.2) :
      LeavesReplaced classifier (.map kind stamp entries) (.map kind stamp' entries')
  | set (stamp stamp' : Stamp) {items items' : List Term} (size : items.length = items'.length)
      (each : ∀ item item', (item, item') ∈ items.zip items' → LeavesReplaced classifier item item') :
      LeavesReplaced classifier (.set stamp items) (.set stamp' items')
  | point (stamp stamp' : Stamp) {items items' : List Term} (size : items.length = items'.length)
      (each : ∀ item item', (item, item') ∈ items.zip items' → LeavesReplaced classifier item item') :
      LeavesReplaced classifier (.point stamp items) (.point stamp' items')
  | function (stamp stamp' : Stamp) (name : String) (deps : List String) (doc : Option String)
      {callee callee' : Term} (called : LeavesReplaced classifier callee callee') :
      LeavesReplaced classifier (.function stamp name deps doc callee)
        (.function stamp' name deps doc callee')

/-- Entries with the same keys and related values are related one by one. -/
theorem forall₂_entries {R : Term → Term → Prop} {entries entries' : Entries}
    (keys : Entries.keys entries = Entries.keys entries')
    (each : ∀ entry entry', (entry, entry') ∈ entries.zip entries' → R entry.2 entry'.2) :
    List.Forall₂ (fun entry entry' => entry.1 = entry'.1 ∧ R entry.2 entry'.2) entries entries' := by
  unfold Entries.keys at keys
  rw [← List.forall₂_eq_eq_eq, List.forall₂_map_left_iff, List.forall₂_map_right_iff] at keys
  obtain ⟨size, same⟩ := List.forall₂_iff_zip.1 keys
  exact List.forall₂_iff_zip.2 ⟨size, fun among => ⟨same among, each _ _ among⟩⟩

/-- Whether a term is a leaf is told by its outermost type. -/
theorem LeavesReplaced.isLeaf_eq (replaced : LeavesReplaced classifier t t') :
    classifier.isLeaf t = classifier.isLeaf t' := by
  have of_types : ∀ {t t' : Term}, t.types = t'.types → classifier.isLeaf t = classifier.isLeaf t' := by
    intro t t' types
    unfold Classifier.isLeaf isInstance
    rw [types]
  cases replaced with
  | same => rfl
  | leaf leaf leaf' => rw [leaf, leaf']
  | list kind => exact of_types (by cases kind <;> rfl)
  | map kind => exact of_types (by cases kind <;> rfl)
  | tuple | set | point | function => exact of_types rfl

theorem references_of_isLeaf (leaf : classifier.isLeaf t = true) :
    t.references classifier defaultsKey = [] := by
  cases t <;> simp [references, leaf]

theorem referencesInItems_congr {items items' : List Term} (size : items.length = items'.length)
    (each : ∀ item item', (item, item') ∈ items.zip items' →
      item.references classifier defaultsKey = item'.references classifier defaultsKey) :
    referencesInItems classifier defaultsKey items = referencesInItems classifier defaultsKey items' := by
  have related : List.Forall₂ (fun item item' =>
      item.references classifier defaultsKey = item'.references classifier defaultsKey) items items' :=
    List.forall₂_iff_zip.2 ⟨size, each _ _⟩
  clear size each
  induction related with
  | nil => rfl
  | cons same _ ih => rw [referencesInItems, referencesInItems, same, ih]

theorem referencesInEntries_congr {entries entries' : Entries}
    (each : List.Forall₂ (fun entry entry' => entry.1 = entry'.1 ∧
      entry.2.references classifier defaultsKey = entry'.2.references classifier defaultsKey)
      entries entries') :
    referencesInEntries classifier defaultsKey entries =
      referencesInEntries classifier defaultsKey entries' := by
  induction each with
  | nil => rfl
  | @cons entry entry' _ _ same _ ih =>
      obtain ⟨key, value⟩ := entry
      obtain ⟨key', value'⟩ := entry'
      obtain ⟨rfl, same⟩ := same
      rw [referencesInEntries, referencesInEntries, same, ih]

/-- The search for references does not depend on leaves. -/
theorem LeavesReplaced.references_eq (replaced : LeavesReplaced classifier t t') :
    t.references classifier defaultsKey = t'.references classifier defaultsKey := by
  have leaves := replaced.isLeaf_eq
  induction replaced with
  | same => rfl
  | leaf leaf leaf' => rw [references_of_isLeaf leaf, references_of_isLeaf leaf']
  | list kind stamp stamp' size each ih =>
      have same := referencesInItems_congr size fun item item' among =>
        ih item item' among (each item item' among).isLeaf_eq
      rw [references, references, leaves, same]
  | tuple stamp stamp' size each ih =>
      have same := referencesInItems_congr size fun item item' among =>
        ih item item' among (each item item' among).isLeaf_eq
      rw [references, references, leaves, same]
  | map kind stamp stamp' keys each ih =>
      have related := forall₂_entries (R := fun value value' =>
          value.references classifier defaultsKey = value'.references classifier defaultsKey) keys
        fun entry entry' among => ih entry entry' among (each entry entry' among).isLeaf_eq
      have same := referencesInEntries_congr related
      rw [references, references, leaves, same]
  | set | point | function => rfl

end Term

namespace Graph

open Term

variable {classifier : Classifier} {defaultsKey : String} {template template' node node' t t' : Term}
  {place : Place} {env : Entries}

/-- What the leaves of a template hold binds no name, and no bound leaf says what it depends on. -/
structure Sealed (classifier : Classifier) (defaultsKey : String) (template : Term) : Prop where
  /-- No node inside of a leaf carries a scope that binds something, nor does the leaf. -/
  leaves : ∀ place leaf, nodeAt defaultsKey place template = some leaf →
    classifier.isLeaf leaf = true → ∀ inner, scopeIn defaultsKey leaf inner = []
  /-- A leaf that takes the place of a scope binds nothing. -/
  scopes : ∀ place node scope, nodeAt defaultsKey place template = some node →
    node.entries?.bind (Entries.find? · (.str defaultsKey)) = some scope →
      classifier.isLeaf scope = true → scopeIn defaultsKey template place = []
  /-- A leaf that is bound is no function. -/
  bound : ∀ place, ∀ binding ∈ scopeIn defaultsKey template place,
    classifier.isLeaf binding.2 = true → binding.2.dependencies? = none

/-- Two scopes bind the same names in the same order, to values that depend on the same names. -/
abbrev Agree (classifier : Classifier) (defaultsKey : String) : Entries → Entries → Prop :=
  List.Forall₂ fun binding binding' => binding.1 = binding'.1 ∧
    ∀ name, declared classifier defaultsKey name binding.2 = declared classifier defaultsKey name binding'.2

/-! ## What values depend on -/

theorem declared_of_isLeaf (leaf : classifier.isLeaf t = true) (data : t.dependencies? = none)
    (name : String) : declared classifier defaultsKey name t = [] := by
  rw [declared_of_data data, referenceNames, references_of_isLeaf leaf]
  rfl

theorem declared_of_replaced (replaced : LeavesReplaced classifier t t')
    (data : classifier.isLeaf t = true → t.dependencies? = none)
    (data' : classifier.isLeaf t' = true → t'.dependencies? = none) (name : String) :
    declared classifier defaultsKey name t = declared classifier defaultsKey name t' := by
  have searched : t.referenceNames classifier defaultsKey = t'.referenceNames classifier defaultsKey := by
    unfold referenceNames
    rw [replaced.references_eq]
  cases replaced with
  | same => rfl
  | leaf leaf leaf' =>
      rw [declared_of_isLeaf leaf (data leaf), declared_of_isLeaf leaf' (data' leaf')]
  | function => rfl
  | list | tuple | map | set | point => rw [declared_of_data rfl, declared_of_data rfl, searched]

/-! ## Scopes with other leaves -/

theorem scopeIn_append {outer : Place} (found : nodeAt defaultsKey outer template = some node)
    (inner : Place) : scopeIn defaultsKey template (outer ++ inner) = scopeIn defaultsKey node inner := by
  unfold scopeIn
  rw [nodeAt_append, found]
  rfl

variable (defaultsKey) in
theorem children_of_replaced (replaced : LeavesReplaced classifier node node')
    (inside : classifier.isLeaf node = false) :
    List.Forall₂ (LeavesReplaced classifier) (children defaultsKey node) (children defaultsKey node') := by
  cases replaced with
  | same => exact List.forall₂_same.2 fun child _ => .same child
  | leaf leaf =>
      rw [leaf] at inside
      cases inside
  | list kind stamp stamp' size each => exact List.forall₂_iff_zip.2 ⟨size, each _ _⟩
  | tuple stamp stamp' size each => exact List.forall₂_iff_zip.2 ⟨size, each _ _⟩
  | map kind stamp stamp' keys each =>
      unfold children
      rw [List.forall₂_map_left_iff, List.forall₂_map_right_iff]
      have related := forall₂_entries keys each
      clear keys each inside
      induction related with
      | nil => exact .nil
      | @cons entry entry' _ _ first _ ih =>
          rw [List.filter_cons, List.filter_cons, first.1]
          split
          · exact .cons first.2 ih
          · exact ih
  | set | point | function => exact .nil

variable (defaultsKey) in
/-- At a place there are related nodes and no leaves, or it lies inside of leaves. -/
theorem nodeAt_of_replaced (replaced : LeavesReplaced classifier template template') (place : Place) :
    Option.Rel (fun node node' => LeavesReplaced classifier node node' ∧ classifier.isLeaf node = false)
        (nodeAt defaultsKey place template) (nodeAt defaultsKey place template') ∨
      ∃ outer inner leaf leaf', place = outer ++ inner ∧
        (nodeAt defaultsKey outer template = some leaf ∧ classifier.isLeaf leaf = true) ∧
        nodeAt defaultsKey outer template' = some leaf' ∧ classifier.isLeaf leaf' = true := by
  induction place generalizing template template' with
  | nil =>
      cases inside : classifier.isLeaf template with
      | true =>
          exact .inr ⟨[], [], template, template', rfl, ⟨rfl, inside⟩, rfl,
            replaced.isLeaf_eq.symm.trans inside⟩
      | false => exact .inl (.some ⟨replaced, inside⟩)
  | cons index rest ih =>
      cases inside : classifier.isLeaf template with
      | true =>
          exact .inr ⟨[], _, template, template', rfl, ⟨rfl, inside⟩, rfl,
            replaced.isLeaf_eq.symm.trans inside⟩
      | false =>
          have below := Pairing.getElem?_rel (children_of_replaced defaultsKey replaced inside) index
          rw [nodeAt, nodeAt]
          rcases below.cases_eq with ⟨none, none'⟩ | ⟨child, child', found, found', related⟩
          · rw [none, none']
            exact .inl .none
          · rw [found, found']
            refine (ih related).imp_right ?_
            rintro ⟨outer, inner, leaf, leaf', rfl, ⟨there, isLeaf⟩, there', isLeaf'⟩
            refine ⟨index :: outer, inner, leaf, leaf', rfl, ⟨?_, isLeaf⟩, ?_, isLeaf'⟩
            · rw [nodeAt, found]
              exact there
            · rw [nodeAt, found']
              exact there'

theorem Agree.refl (scope : Entries) : Agree classifier defaultsKey scope scope :=
  List.forall₂_same.2 fun _ _ => ⟨rfl, fun _ => rfl⟩

/-- What stands for a scope binds the same names if leaves are replaced, but in a leaf. -/
theorem entries_of_replaced {scope scope' : Term} (replaced : LeavesReplaced classifier scope scope')
    (empty : classifier.isLeaf scope = true → scope.entries?.getD [] = [])
    (empty' : classifier.isLeaf scope' = true → scope'.entries?.getD [] = [])
    (bound : ∀ binding ∈ scope.entries?.getD [],
      classifier.isLeaf binding.2 = true → binding.2.dependencies? = none)
    (bound' : ∀ binding ∈ scope'.entries?.getD [],
      classifier.isLeaf binding.2 = true → binding.2.dependencies? = none) :
    Agree classifier defaultsKey (scope.entries?.getD []) (scope'.entries?.getD []) := by
  cases replaced with
  | same => exact .refl _
  | leaf leaf leaf' =>
      rw [empty leaf, empty' leaf']
      exact .nil
  | list | tuple | set | point | function => exact .nil
  | map kind stamp stamp' keys each =>
      have related := forall₂_entries keys each
      obtain ⟨size, same⟩ := List.forall₂_iff_zip.1 related
      refine List.forall₂_iff_zip.2 ⟨size, fun among => ⟨(same among).1, ?_⟩⟩
      obtain ⟨member, member'⟩ := List.of_mem_zip among
      exact declared_of_replaced (same among).2 (bound _ member) (bound' _ member')

/-- Scopes of nodes that are no leaves agree if leaves are replaced. -/
theorem scopeAt_of_replaced (replaced : LeavesReplaced classifier node node')
    (inside : classifier.isLeaf node = false)
    (empty : ∀ scope, node.entries?.bind (Entries.find? · (.str defaultsKey)) = some scope →
      classifier.isLeaf scope = true → scopeAt defaultsKey node = [])
    (empty' : ∀ scope, node'.entries?.bind (Entries.find? · (.str defaultsKey)) = some scope →
      classifier.isLeaf scope = true → scopeAt defaultsKey node' = [])
    (bound : ∀ binding ∈ scopeAt defaultsKey node,
      classifier.isLeaf binding.2 = true → binding.2.dependencies? = none)
    (bound' : ∀ binding ∈ scopeAt defaultsKey node',
      classifier.isLeaf binding.2 = true → binding.2.dependencies? = none) :
    Agree classifier defaultsKey (scopeAt defaultsKey node) (scopeAt defaultsKey node') := by
  have carried : Option.Rel (LeavesReplaced classifier)
      (node.entries?.bind (Entries.find? · (.str defaultsKey)))
      (node'.entries?.bind (Entries.find? · (.str defaultsKey))) := by
    cases replaced with
    | same =>
        cases node.entries?.bind (Entries.find? · (.str defaultsKey)) with
        | none => exact .none
        | some scope => exact .some (.same scope)
    | leaf leaf =>
        rw [leaf] at inside
        cases inside
    | list | tuple | set | point | function => exact .none
    | map kind stamp stamp' keys each => exact Entries.find?_related (forall₂_entries keys each) _
  unfold scopeAt at empty empty' bound bound' ⊢
  rcases carried.cases_eq with ⟨none, none'⟩ | ⟨scope, scope', found, found', related⟩
  · rw [none, none']
    exact .nil
  · rw [found] at empty bound ⊢
    rw [found'] at empty' bound' ⊢
    exact entries_of_replaced related (empty _ rfl) (empty' _ rfl) bound bound'

/-- At every place the scopes agree if leaves are replaced in sealed templates. -/
theorem scopeIn_of_replaced (replaced : LeavesReplaced classifier template template')
    (closed : Sealed classifier defaultsKey template) (closed' : Sealed classifier defaultsKey template')
    (place : Place) : Agree classifier defaultsKey (scopeIn defaultsKey template place)
      (scopeIn defaultsKey template' place) := by
  rcases nodeAt_of_replaced defaultsKey replaced place with
    here | ⟨outer, inner, leaf, leaf', rfl, ⟨found, isLeaf⟩, found', isLeaf'⟩
  · rcases here.cases_eq with ⟨none, none'⟩ | ⟨node, node', found, found', related, inside⟩
    · unfold scopeIn
      rw [none, none']
      exact .nil
    · have bound := closed.bound place
      have bound' := closed'.bound place
      have empty := closed.scopes place node
      have empty' := closed'.scopes place node'
      rw [scopeIn_eq found] at bound empty ⊢
      rw [scopeIn_eq found'] at bound' empty' ⊢
      exact scopeAt_of_replaced related inside (fun scope => empty scope found)
        (fun scope => empty' scope found') bound bound'
  · rw [scopeIn_append found, scopeIn_append found', closed.leaves _ _ found isLeaf,
      closed'.leaves _ _ found' isLeaf']
    exact .nil

/-! ## The same bindings -/

theorem insert_agree {entries entries' : Entries} (agree : Agree classifier defaultsKey entries entries')
    (key : Term) {value value' : Term} (same : ∀ name,
      declared classifier defaultsKey name value = declared classifier defaultsKey name value') :
    Agree classifier defaultsKey (entries.insert key value) (entries'.insert key value') := by
  induction agree with
  | nil => exact .cons ⟨rfl, same⟩ .nil
  | cons first rest ih =>
      rw [Entries.insert_cons, Entries.insert_cons, ← first.1]
      split
      · exact .cons ⟨rfl, same⟩ rest
      · exact .cons first ih

theorem update_agree {entries entries' scope scope' : Entries}
    (agree : Agree classifier defaultsKey entries entries')
    (more : Agree classifier defaultsKey scope scope') :
    Agree classifier defaultsKey (entries.update scope) (entries'.update scope') := by
  induction more generalizing entries entries' with
  | nil => exact agree
  | cons first _ ih =>
      rw [Entries.update_cons, Entries.update_cons, ← first.1]
      exact ih (insert_agree agree _ first.2)

theorem updates_agree {scopeOf scopeOf' : Place → Entries}
    (scopes : ∀ place, Agree classifier defaultsKey (scopeOf place) (scopeOf' place))
    {entries entries' : Entries} (agree : Agree classifier defaultsKey entries entries')
    (places : List Place) : Agree classifier defaultsKey
      ((places.map scopeOf).foldl Entries.update entries)
      ((places.map scopeOf').foldl Entries.update entries') := by
  induction places generalizing entries entries' with
  | nil => exact agree
  | cons place rest ih => exact ih (update_agree agree (scopes place))

/-- The table is made of the names that are bound and of what their values depend on. -/
theorem tableOf_agree {bindings bindings' : Entries}
    (agree : Agree classifier defaultsKey bindings bindings') :
    tableOf classifier defaultsKey bindings = tableOf classifier defaultsKey bindings' := by
  unfold tableOf
  generalize ([] : DependencyTable) = table
  induction agree generalizing table with
  | nil => rfl
  | cons first _ ih =>
      rw [List.foldl_cons, List.foldl_cons, ih]
      dsimp only
      rw [← first.1, first.2]

variable (defaultsKey template) in
def carriers : List Place :=
  (places defaultsKey template).filter fun place => !(scopeIn defaultsKey template place).isEmpty

theorem mem_carriers :
    place ∈ carriers defaultsKey template ↔ scopeIn defaultsKey template place ≠ [] := by
  unfold carriers
  rw [List.mem_filter, Bool.not_eq_true', List.isEmpty_eq_false_iff]
  exact and_iff_right_of_imp mem_places

theorem carriers_ordered : (carriers defaultsKey template).Pairwise Place.Before :=
  places_ordered.filter _

/-- Scopes that bind nothing do not count. -/
theorem foldl_update_filter (scopeOf : Place → Entries) (places : List Place) (env : Entries) :
    ((places.filter fun place => !(scopeOf place).isEmpty).map scopeOf).foldl Entries.update env =
      (places.map scopeOf).foldl Entries.update env := by
  induction places generalizing env with
  | nil => rfl
  | cons place rest ih =>
      rw [List.filter_cons, List.map_cons, List.foldl_cons, ← ih]
      cases here : scopeOf place with
      | nil => rfl
      | cons binding others =>
          rw [List.isEmpty_cons, Bool.not_false, if_pos rfl, List.map_cons, List.foldl_cons, here]

/-- The same places bind something, and what they bind has the same dependencies. -/
theorem bindingsOf_agree (scopes : ∀ place, Agree classifier defaultsKey
      (scopeIn defaultsKey template place) (scopeIn defaultsKey template' place)) (env : Entries) :
    Agree classifier defaultsKey (bindingsOf template env defaultsKey)
      (bindingsOf template' env defaultsKey) := by
  have same : carriers defaultsKey template = carriers defaultsKey template' := by
    refine List.Pairwise.eq_of_mem_iff carriers_ordered carriers_ordered fun place => ?_
    rw [mem_carriers, mem_carriers, ← List.length_pos_iff, ← List.length_pos_iff, (scopes place).length_eq]
  rw [bindingsOf_eq, bindingsOf_eq, ← foldl_update_filter, ← foldl_update_filter (scopeIn _ template')]
  unfold carriers at same
  rw [same]
  exact updates_agree scopes (.refl env) _

/-! ## The same order -/

section

variable {graph graph' : Graph}

theorem orderFrom_congr (dependents : graph.dependents = graph'.dependents) (steps : Nat)
    (degrees : Degrees) (done queue : List String) :
    graph.orderFrom steps degrees done queue = graph'.orderFrom steps degrees done queue := by
  induction steps generalizing degrees done queue with
  | zero => rfl
  | succ steps ih =>
      cases queue with
      | nil => rfl
      | cons node queue =>
          unfold orderFrom
          rw [dependents]
          exact ih _ _ _

theorem peel_congr (dependents : graph.dependents = graph'.dependents) (steps : Nat)
    (remaining : List String) : graph.peel steps remaining = graph'.peel steps remaining := by
  induction steps generalizing remaining with
  | zero => rfl
  | succ steps ih =>
      unfold peel
      rw [dependents]
      exact ih _

/-- Graphs with the same nodes and the same table have the same order. -/
theorem topologicalOrder_congr (nodes : graph.nodes = graph'.nodes) (table : graph.table = graph'.table) :
    graph.topologicalOrder = graph'.topologicalOrder := by
  have dependents : graph.dependents = graph'.dependents := by
    funext name
    unfold Graph.dependents
    rw [table]
  have degrees : graph.degrees = graph'.degrees := by
    unfold Graph.degrees dependencies
    rw [table]
  have sorted : graph.sorted = graph'.sorted := by
    unfold Graph.sorted
    rw [orderFrom_congr dependents, degrees, nodes]
  have members : graph.cycleMembers = graph'.cycleMembers := by
    unfold cycleMembers waiting
    rw [sorted, nodes, peel_congr dependents]
  unfold topologicalOrder ordered
  rw [sorted, nodes, members]

end

/-- Whether a template is sealed is seen by looking at all of its nodes. -/
theorem Sealed.of_visits
    (leaves : ∀ placed ∈ visits defaultsKey template, classifier.isLeaf placed.2 = true →
      ∀ below ∈ visits defaultsKey placed.2, scopeAt defaultsKey below.2 = [])
    (scopes : ∀ placed ∈ visits defaultsKey template,
      ∀ scope ∈ placed.2.entries?.bind (Entries.find? · (.str defaultsKey)),
        classifier.isLeaf scope = true → scopeAt defaultsKey placed.2 = [])
    (bound : ∀ placed ∈ visits defaultsKey template, ∀ binding ∈ scopeAt defaultsKey placed.2,
      classifier.isLeaf binding.2 = true → binding.2.dependencies? = none) :
    Sealed classifier defaultsKey template := by
  have carried : ∀ {template place}, scopeIn defaultsKey template place ≠ [] → ∃ node,
      (place, node) ∈ visits defaultsKey template ∧
        scopeIn defaultsKey template place = scopeAt defaultsKey node := by
    intro template place some
    obtain ⟨placed, member, rfl⟩ := List.mem_map.1 (mem_places some)
    exact ⟨placed.2, member, scopeIn_eq (mem_visits.1 member)⟩
  refine ⟨fun place leaf found isLeaf inner => ?_, fun place node scope found there isLeaf => ?_,
    fun place binding among => ?_⟩
  · by_contra some
    obtain ⟨node, member, here⟩ := carried some
    exact some (here.trans (leaves _ (mem_visits.2 found) isLeaf _ member))
  · rw [scopeIn_eq found]
    exact scopes _ (mem_visits.2 found) scope there isLeaf
  · obtain ⟨node, member, here⟩ := carried (List.ne_nil_of_mem among)
    rw [here] at among
    exact bound _ member binding among

def entry (kind : MapKind) (key : String) (t : Term) : Term := .map kind none [(.str key, t)]

def both (t u : Term) : Term := .list .plain none [t, u]

theorem entry_replaced (kind : MapKind) (key : String) (replaced : LeavesReplaced classifier t t') :
    LeavesReplaced classifier (entry kind key t) (entry kind key t') := by
  refine .map kind none none rfl fun first second among => ?_
  cases List.mem_singleton.1 among
  exact replaced

theorem both_replaced {u u' : Term} (replaced : LeavesReplaced classifier t t')
    (replaced' : LeavesReplaced classifier u u') :
    LeavesReplaced classifier (both t u) (both t' u') := by
  refine .list .plain none none rfl fun item item' among => ?_
  rcases List.mem_cons.1 among with first | second
  · cases first
    exact replaced
  · cases List.mem_singleton.1 second
    exact replaced'

def frames : Classifier := ⟨[⟨"data", "Frame"⟩], none⟩

def functions : Classifier := ⟨[⟨"subflow.engine.dependency", "DependencyFn"⟩], none⟩

def asking (deps : List String) : Term :=
  .function 0 "f" deps none (.callable .procedure 1 "f" "f" (.const (.int 1)))

def framed (t : Term) : Term :=
  both (entry .plain "::defaults" (entry .plain "A" (both (entry .frame "x" t) (.ref "B"))))
    (entry .frame "x" t)

theorem framed_replaced (t t' : Term) : LeavesReplaced frames (framed t) (framed t') := by
  have leaf : LeavesReplaced frames (entry .frame "x" t) (entry .frame "x" t') := .leaf rfl rfl
  exact both_replaced (entry_replaced _ _ (entry_replaced _ _ (both_replaced leaf (.same _)))) leaf

end Graph

end ScopedTemplate
