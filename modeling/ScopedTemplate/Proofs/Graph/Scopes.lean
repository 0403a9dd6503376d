import Mathlib.Data.List.Shortlex
import Mathlib.Logic.Function.Iterate
import ScopedTemplate.Graph
import ScopedTemplate.Proofs.Bindings.Scopes

/-!
# The scopes of a template

A graph takes its bindings from all scopes of defaults in a template.  Nodes are looked at first in, first
out, so that the scopes come in the order of their places: by depth, and in the order of the document where
the depth is the same.  The last scope that binds a name decides.
-/

namespace ScopedTemplate

namespace Entries

def latest? (entries : Entries) (key : Term) : Option Term := find? entries.reverse key

theorem latest?_isSome (entries : Entries) (key : Term) :
    (latest? entries key).isSome = has entries key := by
  show has entries.reverse key = has entries key
  rw [has_eq_any, has_eq_any, List.any_reverse]

theorem latest?_eq_none {entries : Entries} {key : Term} :
    latest? entries key = none ↔ has entries key = false := by
  rw [← latest?_isSome, Option.isSome_eq_false_iff, Option.isNone_iff_eq_none]

theorem find?_update_latest (entries additions : Entries) (key : Term) :
    find? (update entries additions) key = (latest? additions key <|> find? entries key) :=
  find?_update entries additions key

end Entries

namespace Graph

variable (defaultsKey : String)

/-! ## Places -/

/-- A place in a template: which child is taken, from the top down. -/
abbrev Place := List Nat

/-- Places come by depth, and where the depth is the same in the order of the document. -/
abbrev Place.Before : Place → Place → Prop := List.Shortlex (· < ·)

def nodeAt : Place → Term → Option Term
  | [], node => some node
  | index :: rest, node => (children defaultsKey node)[index]?.bind (nodeAt rest)

def scopeIn (template : Term) (place : Place) : Entries :=
  ((nodeAt defaultsKey place template).map (scopeAt defaultsKey)).getD []

/-- Of the scopes of a template the one at this place is the last that binds a name. -/
structure BindsLast (template name : Term) (place : Place) : Prop where
  binds : Entries.has (scopeIn defaultsKey template place) name = true
  last : ∀ later : Place, place.Before later →
    Entries.has (scopeIn defaultsKey template later) name = false

/-- An inner place comes after those around it. -/
theorem Place.before_of_around {outer inner : Place} (around : outer <+: inner)
    (differ : outer ≠ inner) : outer.Before inner :=
  .of_length_lt (Nat.lt_of_le_of_ne around.length_le fun same => differ (around.eq_of_length same))

/-- Below two nodes of one level everything comes in the order of these nodes. -/
theorem Place.before_append {first second : Place} (before : first.Before second)
    (same : first.length = second.length) (index index' : Nat) :
    Place.Before (first ++ [index]) (second ++ [index']) := by
  refine .of_lex (by simp [same]) ?_
  have lexical := (List.shortlex_iff_lex same).1 before
  clear before
  induction lexical with
  | nil => cases same
  | cons _ ih => exact .cons (ih (Nat.succ.inj same))
  | rel less => exact .rel less

variable {defaultsKey} {template node : Term} {place : Place} {depth : Nat}

theorem nodeAt_append (outer inner : Place) : nodeAt defaultsKey (outer ++ inner) template =
    (nodeAt defaultsKey outer template).bind (nodeAt defaultsKey inner) := by
  induction outer generalizing template with
  | nil => rfl
  | cons index rest ih =>
      rw [List.cons_append, nodeAt, nodeAt]
      cases (children defaultsKey template)[index]? with
      | none => rfl
      | some child => exact ih

theorem nodeAt_concat (index : Nat) :
    nodeAt defaultsKey (place ++ [index]) template =
      (nodeAt defaultsKey place template).bind fun node => (children defaultsKey node)[index]? := by
  rw [nodeAt_append]
  refine congrArg (Option.bind _) (funext fun node => ?_)
  exact Option.bind_fun_some _

theorem scopeIn_eq (found : nodeAt defaultsKey place template = some node) :
    scopeIn defaultsKey template place = scopeAt defaultsKey node := by
  unfold scopeIn
  rw [found]
  rfl

/-- A node is not deeper than its template has levels. -/
theorem depth_lt_of_nodeAt (found : nodeAt defaultsKey place template = some node) :
    place.length < levels template := by
  induction place generalizing template with
  | nil => exact levels_pos template
  | cons index rest ih =>
      obtain ⟨child, there, below⟩ := Option.bind_eq_some_iff.1 found
      have deeper := ih below
      have lower := levels_lt_of_child (List.mem_of_getElem? there)
      rw [List.length_cons]
      omega

/-! ## Levels -/

variable (defaultsKey template) in
def level : Nat → List (Place × Term)
  | 0 => [([], template)]
  | depth + 1 => (level depth).flatMap fun placed =>
      (children defaultsKey placed.2).zipIdx.map fun child => (placed.1 ++ [child.2], child.1)

theorem mem_level : (place, node) ∈ level defaultsKey template depth ↔
    place.length = depth ∧ nodeAt defaultsKey place template = some node := by
  induction depth generalizing place node with
  | zero =>
      rw [level, List.mem_singleton, Prod.mk.injEq, List.length_eq_zero_iff]
      refine and_congr_right fun top => ?_
      rw [top, nodeAt, Option.some.injEq, eq_comm]
  | succ depth ih =>
      simp only [level, List.mem_flatMap, List.mem_map, Prod.exists, List.mem_zipIdx_iff_getElem?,
        Prod.mk.injEq, ih]
      constructor
      · rintro ⟨above, parent, ⟨rfl, found⟩, child, index, there, rfl, rfl⟩
        refine ⟨List.length_append, ?_⟩
        rw [nodeAt_concat, found]
        exact there
      · rintro ⟨size, found⟩
        obtain ⟨above, index, rfl⟩ : ∃ above index, place = above ++ [index] :=
          ⟨_, _, (List.dropLast_append_getLast (List.ne_nil_of_length_eq_add_one size)).symm⟩
        rw [nodeAt_concat] at found
        obtain ⟨parent, here, there⟩ := Option.bind_eq_some_iff.1 found
        rw [List.length_append, List.length_singleton] at size
        exact ⟨above, parent, ⟨Nat.succ.inj size, here⟩, node, index, there, rfl, rfl⟩

/-- The nodes of a level are in the order of the document. -/
theorem level_ordered (depth : Nat) :
    (level defaultsKey template depth).Pairwise fun first second => first.1.Before second.1 := by
  have sizes : ∀ {depth placed}, placed ∈ level defaultsKey template depth → placed.1.length = depth :=
    fun member => (mem_level.1 member).1
  induction depth with
  | zero => exact List.pairwise_singleton _ _
  | succ depth ih =>
      refine List.pairwise_flatMap.2 ⟨fun placed _ => ?_, ih.imp_of_mem ?_⟩
      · -- the children of one node differ in the last step
        have ascending : (children defaultsKey placed.2).zipIdx.Pairwise
            fun first second => first.2 < second.2 := by
          refine List.pairwise_map.1 ?_
          rw [List.zipIdx_map_snd]
          exact List.pairwise_lt_range'
        refine List.pairwise_map.2 (ascending.imp fun before => ?_)
        exact List.Shortlex.append_left ((List.shortlex_singleton_iff _ _).2 before) placed.1
      · intro first second member member' before one inFirst other inSecond
        obtain ⟨child, _, rfl⟩ := List.mem_map.1 inFirst
        obtain ⟨child', _, rfl⟩ := List.mem_map.1 inSecond
        exact Place.before_append before ((sizes member).trans (sizes member').symm) _ _

variable (defaultsKey template) in
/-- All nodes of a template with their places, in the order in which they are looked at. -/
def visits : List (Place × Term) :=
  (List.range (levels template)).flatMap (level defaultsKey template)

theorem mem_visits : (place, node) ∈ visits defaultsKey template ↔
    nodeAt defaultsKey place template = some node := by
  simp only [visits, List.mem_flatMap, List.mem_range, mem_level]
  refine ⟨fun ⟨_, _, _, found⟩ => found, fun found => ?_⟩
  exact ⟨place.length, depth_lt_of_nodeAt found, rfl, found⟩

theorem visits_ordered : (visits defaultsKey template).Pairwise
    fun first second => first.1.Before second.1 := by
  refine List.pairwise_flatMap.2 ⟨fun depth _ => level_ordered depth, ?_⟩
  refine List.pairwise_lt_range.imp fun {depth depth'} less first inFirst second inSecond => ?_
  refine .of_length_lt ?_
  rw [(mem_level.1 inFirst).1, (mem_level.1 inSecond).1]
  exact less

/-- The children of a level are the next level. -/
theorem map_level_succ (depth : Nat) :
    (level defaultsKey template (depth + 1)).map Prod.snd =
      ((level defaultsKey template depth).map Prod.snd).flatMap (children defaultsKey) := by
  rw [level, List.map_flatMap, List.flatMap_map]
  refine List.flatMap_congr fun placed _ => ?_
  rw [List.map_map]
  exact List.zipIdx_map_fst 0 _

theorem scopesByLevel_succ (levels : Nat) (nodes : List Term) :
    scopesByLevel defaultsKey (levels + 1) nodes = nodes.map (scopeAt defaultsKey) ++
      scopesByLevel defaultsKey levels (nodes.flatMap (children defaultsKey)) := by
  cases nodes with
  | nil => cases levels <;> rfl
  | cons node rest => rfl

variable (defaultsKey template) in
/-- Level by level, the scopes are those of the nodes in the order of their places. -/
theorem scopesByLevel_level (levels depth : Nat) :
    scopesByLevel defaultsKey levels ((level defaultsKey template depth).map Prod.snd) =
      ((List.range' depth levels).flatMap (level defaultsKey template)).map
        fun placed => scopeAt defaultsKey placed.2 := by
  induction levels generalizing depth with
  | zero => rfl
  | succ levels ih =>
      rw [scopesByLevel_succ, ← map_level_succ, ih, List.range'_succ, List.flatMap_cons,
        List.map_append, List.map_map]
      rfl

variable (defaultsKey template) in
def places : List Place := (visits defaultsKey template).map Prod.fst

theorem places_ordered : (places defaultsKey template).Pairwise Place.Before :=
  List.pairwise_map.2 visits_ordered

/-- A scope that is not empty is carried by a node that is looked at. -/
theorem mem_places (some : scopeIn defaultsKey template place ≠ []) :
    place ∈ places defaultsKey template := by
  unfold scopeIn at some
  cases found : nodeAt defaultsKey place template with
  | none =>
      rw [found] at some
      exact absurd rfl some
  | some node => exact List.mem_map.2 ⟨(place, node), mem_visits.2 found, rfl⟩

theorem mem_places_of_has {name : Term}
    (binds : Entries.has (scopeIn defaultsKey template place) name = true) :
    place ∈ places defaultsKey template := by
  refine mem_places fun empty => ?_
  rw [empty] at binds
  cases binds

theorem bindingsOf_eq (env : Entries) : bindingsOf template env defaultsKey =
    ((places defaultsKey template).map (scopeIn defaultsKey template)).foldl Entries.update env := by
  have scopes : ∀ placed ∈ visits defaultsKey template,
      scopeIn defaultsKey template placed.1 = scopeAt defaultsKey placed.2 :=
    fun placed member => scopeIn_eq (mem_visits.1 member)
  have walked := scopesByLevel_level defaultsKey template (levels template) 0
  unfold places
  rw [List.map_map, Function.comp_def, List.map_congr_left scopes]
  unfold bindingsOf visits
  rw [List.range_eq_range', ← walked]
  rfl

/-! ## The queue -/

/-- The nodes that are still to be looked at, and what is bound so far. -/
structure Visit where
  queue : List Term
  bindings : Entries

variable (defaultsKey) in
/-- Look at the first node: what its scope binds is bound, and its children go to the end of the queue. -/
def Visit.next (visit : Visit) : Visit :=
  match visit.queue with
  | [] => visit
  | node :: rest =>
    ⟨rest ++ children defaultsKey node, visit.bindings.update (scopeAt defaultsKey node)⟩

variable (defaultsKey) in
theorem next_level (nodes rest : List Term) (bindings : Entries) :
    (Visit.next defaultsKey)^[nodes.length] ⟨nodes ++ rest, bindings⟩ =
      ⟨rest ++ nodes.flatMap (children defaultsKey),
        (nodes.map (scopeAt defaultsKey)).foldl Entries.update bindings⟩ := by
  induction nodes generalizing rest bindings with
  | nil => simp
  | cons node nodes ih =>
      rw [List.length_cons, Function.iterate_succ_apply]
      show (Visit.next defaultsKey)^[nodes.length] ⟨nodes ++ rest ++ children defaultsKey node, _⟩ = _
      rw [List.append_assoc, ih, List.flatMap_cons, List.append_assoc]
      rfl

/-- The queue gets empty, and then everything is bound. -/
theorem next_all {nodes : List Term} (low : ∀ node ∈ nodes, levels node ≤ depth) (bindings : Entries) :
    ∃ rounds, (Visit.next defaultsKey)^[rounds] ⟨nodes, bindings⟩ =
      ⟨[], (scopesByLevel defaultsKey depth nodes).foldl Entries.update bindings⟩ := by
  induction depth generalizing nodes bindings with
  | zero =>
      cases nodes with
      | nil => exact ⟨0, rfl⟩
      | cons node rest =>
          have := low node List.mem_cons_self
          have := levels_pos node
          omega
  | succ depth ih =>
      have lower : ∀ child ∈ nodes.flatMap (children defaultsKey), levels child ≤ depth := by
        intro child member
        obtain ⟨node, above, below⟩ := List.mem_flatMap.1 member
        have := low node above
        have := levels_lt_of_child below
        omega
      obtain ⟨rounds, done⟩ := ih lower ((nodes.map (scopeAt defaultsKey)).foldl Entries.update bindings)
      refine ⟨rounds + nodes.length, ?_⟩
      have first := next_level defaultsKey nodes [] bindings
      rw [List.append_nil, List.nil_append] at first
      rw [Function.iterate_add_apply, first, done, scopesByLevel_succ, List.foldl_append]

/-! ## The scope that decides -/

section

variable {scopeOf : Place → Entries} {places : List Place} {name : Term}

theorem find?_foldl_missing (missing : ∀ place ∈ places, Entries.has (scopeOf place) name = false)
    (env : Entries) :
    Entries.find? ((places.map scopeOf).foldl Entries.update env) name = Entries.find? env name := by
  induction places generalizing env with
  | nil => rfl
  | cons first rest ih =>
      obtain ⟨here, others⟩ := List.forall_mem_cons.1 missing
      rw [List.map_cons, List.foldl_cons, ih others, Entries.find?_update_latest,
        Entries.latest?_eq_none.2 here]
      rfl

/-- Of scopes in order the last one that binds a name gives its value. -/
theorem find?_foldl_last (ordered : places.Pairwise Place.Before) {place : Place}
    (member : place ∈ places) (binds : Entries.has (scopeOf place) name = true)
    (last : ∀ later : Place, place.Before later → Entries.has (scopeOf later) name = false)
    (env : Entries) :
    Entries.find? ((places.map scopeOf).foldl Entries.update env) name =
      (scopeOf place).latest? name := by
  induction places generalizing env with
  | nil => cases member
  | cons first rest ih =>
      obtain ⟨before, others⟩ := List.pairwise_cons.1 ordered
      rw [List.map_cons, List.foldl_cons]
      rcases List.mem_cons.1 member with rfl | later
      · obtain ⟨value, found⟩ := Option.isSome_iff_exists.1
          ((Entries.latest?_isSome _ name).trans binds)
        rw [find?_foldl_missing fun later among => last later (before later among),
          Entries.find?_update_latest, found]
        rfl
      · exact ih others later _

/-- If some of the scopes bind a name, one of them is the last. -/
theorem exists_last (ordered : places.Pairwise Place.Before)
    (bound : ∃ place ∈ places, Entries.has (scopeOf place) name = true) :
    ∃ place ∈ places, Entries.has (scopeOf place) name = true ∧
      ∀ later ∈ places, place.Before later → Entries.has (scopeOf later) name = false := by
  induction places with
  | nil => simp at bound
  | cons first rest ih =>
      obtain ⟨before, others⟩ := List.pairwise_cons.1 ordered
      by_cases inner : ∃ place ∈ rest, Entries.has (scopeOf place) name = true
      · obtain ⟨place, member, binds, last⟩ := ih others inner
        refine ⟨place, List.mem_cons_of_mem _ member, binds, List.forall_mem_cons.2 ⟨?_, last⟩⟩
        exact fun after => absurd after (Std.Asymm.asymm _ _ (before place member))
      · have none : ∀ place ∈ rest, Entries.has (scopeOf place) name = false :=
          fun place member => Bool.eq_false_iff.2 fun binds => inner ⟨place, member, binds⟩
        obtain ⟨place, member, binds⟩ := bound
        rcases List.mem_cons.1 member with rfl | later
        · refine ⟨place, List.mem_cons_self, binds, List.forall_mem_cons.2 ⟨?_, ?_⟩⟩
          · exact fun after => absurd after (Std.Asymm.asymm _ _ after)
          · exact fun later among _ => none later among
        · exact absurd ⟨place, later, binds⟩ inner

end

/-- The deeper scope decides, although it comes first in the document. -/
example :
    let entry := fun key value => Term.map .plain none [(.str key, value)]
    let binding := fun value => entry "::defaults" (entry "A" value)
    let template := Term.list .plain none [.list .plain none [binding (.int 1)], binding (.int 2)]
    Entries.find? (ofTemplate template [] .standard "::defaults").bindings (.str "A") = some (.int 1) := rfl

end Graph

end ScopedTemplate
