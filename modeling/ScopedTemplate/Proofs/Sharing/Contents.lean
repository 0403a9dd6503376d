import ScopedTemplate.Proofs.Sharing.Flatten

/-!
# What has one content

Two values have one content if they are one object, or scalars of one type that are equal, or small mappings
with equal keys, small lists of one class or small tuples, whose parts are related in the same way.  Nothing
else has.
-/

namespace ScopedTemplate

namespace Content

/-- The content of what is known by its identity; a NaN is known by it, but among the doubles. -/
def ofIdentity : Key → Content
  | .nan stamp => .scalar (.core "float") (.nan stamp)
  | key => .identity key

theorem ofIdentity_injective {key key' : Key} (same : ofIdentity key = ofIdentity key') : key = key' := by
  cases key <;> cases key' <;> simp_all [ofIdentity]

theorem shape?_ofIdentity (key : Key) : (ofIdentity key).shape? = none := by
  cases key <;> rfl

theorem ofIdentity_ne_scalar {key k : Key} {type : ValueType} (number : ∀ stamp, k ≠ .nan stamp) :
    ofIdentity key ≠ .scalar type k := by
  intro same
  cases key with
  | nan stamp => exact number stamp (Content.scalar.inj same).2.symm
  | _ => cases same

end Content

namespace Term

variable {a b c t : Term}

/-! ## Congruence -/

/-- What a term is known by if it is not compared by what it holds. -/
def identity? : Term → Option Key
  | .nan stamp => some (.nan stamp)
  | .list _ stamp _ | .tuple stamp _ | .map _ stamp _ => stamp.map .object
  | .set stamp _ | .point stamp _ | .function stamp .. | .callable _ stamp .. | .view stamp .. =>
    some (.object stamp)
  | .removed => some .removed
  | .builtin name => some (.builtin name)
  | .type name => some (.type name)
  | .internal own => some (.internal own)
  | .null | .bool _ | .int _ | .float _ | .text .. | .bytes _ => none

/-- Whether a term is compared by its exact type and its value; a NaN is not, it is equal to nothing. -/
def isScalar : Term → Bool
  | .null | .bool _ | .int _ | .float _ | .text .. | .bytes _ => true
  | _ => false

def shape? : Term → Option Shape
  | .map .. => some .map
  | .list kind .. => some (.list kind)
  | .tuple .. => some .tuple
  | _ => none

/--
Two terms are one object, or scalars of one type that are equal, or small collections of one kind with related
parts; the entries of mappings may be in any order.
-/
inductive Congruent : Term → Term → Prop where
  | object {a b : Term} (key : Key) (own : a.identity? = some key) (own' : b.identity? = some key) :
      Congruent a b
  | scalar {a b : Term} (scalar : a.isScalar = true) (scalar' : b.isScalar = true)
      (type : a.exactType = b.exactType) (equal : a.sameKey b = true) : Congruent a b
  | map {kind kind' : MapKind} {stamp stamp' : Option Stamp} {entries entries' : Entries}
      (small : entries.length ≤ largeCollection) (small' : entries'.length ≤ largeCollection)
      (keys : ∀ key, Entries.has entries key = Entries.has entries' key)
      (each : ∀ key value value', Entries.find? entries key = some value →
        Entries.find? entries' key = some value' → Congruent value value') :
      Congruent (.map kind stamp entries) (.map kind' stamp' entries')
  | list {kind : ListKind} {stamp stamp' : Option Stamp} {items items' : List Term}
      (size : items.length = items'.length) (small : items.length ≤ largeCollection)
      (each : ∀ item item', (item, item') ∈ items.zip items' → Congruent item item') :
      Congruent (.list kind stamp items) (.list kind stamp' items')
  | tuple {stamp stamp' : Option Stamp} {items items' : List Term}
      (size : items.length = items'.length) (small : items.length ≤ largeCollection)
      (each : ∀ item item', (item, item') ∈ items.zip items' → Congruent item item') :
      Congruent (.tuple stamp items) (.tuple stamp' items')

/-- Collections with a stamp are the large ones, and no two keys of a mapping are equal. -/
inductive WellFormed : Term → Prop where
  | single {t : Term} (single : t.shape? = none) : WellFormed t
  | map {kind : MapKind} {stamp : Option Stamp} {entries : Entries}
      (stamped : stamp.isSome = decide (largeCollection < entries.length))
      (distinct : entries.Distinct) (each : ∀ entry ∈ entries, WellFormed entry.2) :
      WellFormed (.map kind stamp entries)
  | list {kind : ListKind} {stamp : Option Stamp} {items : List Term}
      (stamped : stamp.isSome = decide (largeCollection < items.length))
      (each : ∀ item ∈ items, WellFormed item) : WellFormed (.list kind stamp items)
  | tuple {stamp : Option Stamp} {items : List Term}
      (stamped : stamp.isSome = decide (largeCollection < items.length))
      (each : ∀ item ∈ items, WellFormed item) : WellFormed (.tuple stamp items)

/-! ## What decides the content -/

/-- A term is an object, a scalar, or a small collection. -/
inductive Told : Term → Prop where
  | object {t : Term} (key : Key) (own : t.identity? = some key) : Told t
  | scalar {t : Term} (scalar : t.isScalar = true) : Told t
  | map (kind : MapKind) (entries : Entries) : Told (.map kind none entries)
  | list (kind : ListKind) (items : List Term) : Told (.list kind none items)
  | tuple (items : List Term) : Told (.tuple none items)

theorem told (t : Term) : Told t := by
  cases t with
  | null | bool | int | float | text | bytes => exact .scalar rfl
  | map kind stamp entries =>
      cases stamp with
      | none => exact .map kind entries
      | some stamp => exact .object _ rfl
  | list kind stamp items =>
      cases stamp with
      | none => exact .list kind items
      | some stamp => exact .object _ rfl
  | tuple stamp items =>
      cases stamp with
      | none => exact .tuple items
      | some stamp => exact .object _ rfl
  | _ => exact .object _ rfl

theorem content_of_identity? {key : Key} (own : t.identity? = some key) :
    t.content = .ofIdentity key := by
  cases t with
  | null | bool | int | float | text | bytes => cases own
  | map kind stamp | list kind stamp | tuple stamp =>
      obtain ⟨stamp, rfl, rfl⟩ := Option.map_eq_some_iff.1 own
      rw [content]
      rfl
  | _ =>
      cases own
      rw [content]
      rfl

theorem content_of_isScalar (scalar : t.isScalar = true) : ∃ k, t.key? = some k ∧
    t.content = .scalar t.exactType k ∧ ∀ stamp, k ≠ .nan stamp := by
  cases t with
  | null | bool | int | text | bytes =>
      rw [key?, content]
      refine ⟨_, rfl, rfl, fun _ same => ?_⟩
      cases same
  | float x =>
      rw [key?, content]
      refine ⟨_, rfl, rfl, fun _ same => ?_⟩
      cases x <;> cases same
  | _ => cases scalar

end Term

namespace Entries

variable {entries entries' : Entries}

/-- Under a key of distinct entries there is what is found. -/
theorem held_eq (distinct : Distinct entries) {key : Key} {name : Term} (own : name.key? = some key) :
    held key entries = ((find? entries name).map fun value => (key, value.content)).toList := by
  induction entries with
  | nil => exact held_nil key
  | cons entry rest ih =>
      obtain ⟨apart, others⟩ := distinct_cons.1 distinct
      have same : entry.1.sameKey name = true ↔ entry.1.key? = some key := Term.sameKey_iff_key? own
      rw [held_cons, find?_cons]
      by_cases here : entry.1.key? = some key
      · rw [if_pos here, if_pos (same.2 here), held_of_missing here apart]
        rfl
      · rw [if_neg here, if_neg (mt same.1 here), ih others]

/-- Entries with equal keys and equal contents under them have one content. -/
theorem held_congr (distinct : Distinct entries) (distinct' : Distinct entries')
    (same : ∀ name, (find? entries name).map Term.content = (find? entries' name).map Term.content)
    (key : Key) : held key entries = held key entries' := by
  have known : ∀ name : Term, name.key? = some key → held key entries = held key entries' := by
    intro name own
    have here := congrArg (Option.map (Prod.mk key)) (same name)
    rw [Option.map_map, Option.map_map] at here
    rw [held_eq distinct own, held_eq distinct' own]
    exact congrArg Option.toList here
  have absent : ∀ {entries : Entries}, (∀ entry ∈ entries, entry.1.key? ≠ some key) →
      held key entries = [] := by
    intro entries others
    induction entries with
    | nil => exact held_nil key
    | cons entry rest ih =>
        obtain ⟨first, others⟩ := List.forall_mem_cons.1 others
        rw [held_cons, if_neg first, ih others]
  by_cases there : ∃ entry ∈ entries ++ entries', entry.1.key? = some key
  · obtain ⟨entry, -, own⟩ := there
    exact known entry.1 own
  · push Not at there
    obtain ⟨others, others'⟩ := List.forall_mem_append.1 there
    rw [absent others, absent others']

/-- What cannot be a key has no value. -/
theorem find?_of_key? {name : Term} (none : name.key? = none) (entries : Entries) :
    find? entries name = .none := by
  refine has_eq_false_iff.1 ?_
  rw [has_eq_any, List.any_eq_false]
  intro entry _ same
  obtain ⟨k, -, own⟩ := Term.sameKey_iff.1 same
  rw [none] at own
  cases own

theorem has_eq_map_content (entries : Entries) (name : Term) :
    has entries name = ((find? entries name).map Term.content).isSome := by
  rw [Option.isSome_map]
  rfl

/-- The content of distinct entries says what the contents under all keys are. -/
theorem ofEntries_eq_iff (distinct : Distinct entries) (distinct' : Distinct entries') :
    Content.ofEntries (Term.entryContents entries) = Content.ofEntries (Term.entryContents entries') ↔
      ∀ name, (find? entries name).map Term.content = (find? entries' name).map Term.content := by
  constructor
  · intro same name
    cases own : name.key? with
    | none => rw [find?_of_key? own, find?_of_key? own]
    | some key =>
        have held := Content.sortEntries_eq_iff.1 (Content.ofEntries_inj same) key
        rw [content_find? own, content_find? own]
        exact congrArg (fun held => held.head?.map Prod.snd) held
  · intro same
    unfold Content.ofEntries
    rw [Content.sortEntries_eq_iff.2 (held_congr distinct distinct' same)]

end Entries

namespace Term

variable {a b c t : Term}

theorem stamp_eq_none {stamp : Option Stamp} {size : Nat}
    (stamped : stamp.isSome = decide (largeCollection < size)) (small : size ≤ largeCollection) :
    stamp = none := by
  rw [decide_eq_false (Nat.not_lt.2 small), Option.isSome_eq_false_iff, Option.isNone_iff_eq_none] at stamped
  exact stamped

theorem size_le {size : Nat} (stamped : (none : Option Stamp).isSome = decide (largeCollection < size)) :
    size ≤ largeCollection :=
  Nat.not_lt.1 (of_decide_eq_false stamped.symm)

theorem WellFormed.of_map {kind : MapKind} {stamp : Option Stamp} {entries : Entries}
    (formed : (Term.map kind stamp entries).WellFormed) :
    stamp.isSome = decide (largeCollection < entries.length) ∧
      entries.Distinct ∧ ∀ entry ∈ entries, entry.2.WellFormed := by
  cases formed with
  | single single => cases single
  | map stamped distinct each => exact ⟨stamped, distinct, each⟩

theorem WellFormed.of_list {kind : ListKind} {stamp : Option Stamp} {items : List Term}
    (formed : (Term.list kind stamp items).WellFormed) :
    stamp.isSome = decide (largeCollection < items.length) ∧ ∀ item ∈ items, item.WellFormed := by
  cases formed with
  | single single => cases single
  | list stamped each => exact ⟨stamped, each⟩

theorem WellFormed.of_tuple {stamp : Option Stamp} {items : List Term}
    (formed : (Term.tuple stamp items).WellFormed) :
    stamp.isSome = decide (largeCollection < items.length) ∧ ∀ item ∈ items, item.WellFormed := by
  cases formed with
  | single single => cases single
  | tuple stamped each => exact ⟨stamped, each⟩

/-- Items that have equal contents one by one. -/
theorem map_content_eq {items items' : List Term} (size : items.length = items'.length)
    (each : ∀ item item', (item, item') ∈ items.zip items' → item.WellFormed → item'.WellFormed →
      item.content = item'.content)
    (within : ∀ item ∈ items, item.WellFormed) (within' : ∀ item ∈ items', item.WellFormed) :
    items.map content = items'.map content := by
  rw [← List.forall₂_eq_eq_eq, List.forall₂_map_left_iff, List.forall₂_map_right_iff,
    List.forall₂_iff_zip]
  refine ⟨size, fun {item item'} among => ?_⟩
  obtain ⟨member, member'⟩ := List.of_mem_zip among
  exact each item item' among (within item member) (within' item' member')

/-- What holds of items with equal contents holds one by one. -/
theorem of_map_content {R : Term → Term → Prop} {items items' : List Term}
    (same : items.map content = items'.map content)
    (each : ∀ item ∈ items, ∀ {b : Term}, b.WellFormed → item.content = b.content → R item b)
    (within' : ∀ item ∈ items', item.WellFormed) :
    items.length = items'.length ∧ ∀ item item', (item, item') ∈ items.zip items' → R item item' := by
  rw [← List.forall₂_eq_eq_eq, List.forall₂_map_left_iff, List.forall₂_map_right_iff,
    List.forall₂_iff_zip] at same
  refine ⟨same.1, fun item item' among => ?_⟩
  obtain ⟨member, member'⟩ := List.of_mem_zip among
  exact each item member (within' item' member') (same.2 among)

/-- What is congruent has one content. -/
theorem Congruent.content_eq (congruent : Congruent a b) (formed : a.WellFormed) (formed' : b.WellFormed) :
    a.content = b.content := by
  induction congruent with
  | object key own own' => rw [content_of_identity? own, content_of_identity? own']
  | scalar scalar scalar' type equal =>
      obtain ⟨k, own, content, -⟩ := content_of_isScalar scalar
      obtain ⟨k', own', content', -⟩ := content_of_isScalar scalar'
      have same := (sameKey_iff_key? own').1 equal
      rw [own] at same
      rw [content, content', type, Option.some.inj same]
  | @map _ _ _ _ entries entries' small small' keys each ih =>
      obtain ⟨stamped, distinct, within⟩ := formed.of_map
      obtain ⟨stamped', distinct', within'⟩ := formed'.of_map
      obtain rfl := stamp_eq_none stamped small
      obtain rfl := stamp_eq_none stamped' small'
      rw [content_map, content_map, Entries.ofEntries_eq_iff distinct distinct']
      intro name
      have present := keys name
      unfold Entries.has at present
      cases found : Entries.find? entries name with
      | none =>
          rw [found] at present
          rw [Option.isSome_eq_false_iff.1 present.symm |> Option.isNone_iff_eq_none.1]
      | some value =>
          rw [found] at present
          obtain ⟨value', found'⟩ := Option.isSome_iff_exists.1 present.symm
          rw [found']
          obtain ⟨_, member, -⟩ := Entries.mem_of_find? found
          obtain ⟨_, member', -⟩ := Entries.mem_of_find? found'
          exact congrArg some (ih name value value' found found' (within _ member) (within' _ member'))
  | list size small each ih =>
      obtain ⟨stamped, within⟩ := formed.of_list
      obtain ⟨stamped', within'⟩ := formed'.of_list
      obtain rfl := stamp_eq_none stamped small
      obtain rfl := stamp_eq_none stamped' (size ▸ small)
      rw [content_list, content_list, map_content_eq size ih within within']
  | tuple size small each ih =>
      obtain ⟨stamped, within⟩ := formed.of_tuple
      obtain ⟨stamped', within'⟩ := formed'.of_tuple
      obtain rfl := stamp_eq_none stamped small
      obtain rfl := stamp_eq_none stamped' (size ▸ small)
      rw [content_tuple, content_tuple, map_content_eq size ih within within']

/-- What has the content of a collection is a small one. -/
theorem of_shape? {shape : Shape} (found : t.content.shape? = some shape) :
    match shape with
    | .map => ∃ kind entries, t = .map kind none entries
    | .list kind => ∃ items, t = .list kind none items
    | .tuple => ∃ items, t = .tuple none items := by
  cases told t with
  | object key own =>
      rw [content_of_identity? own, Content.shape?_ofIdentity] at found
      cases found
  | scalar scalar =>
      obtain ⟨_, -, content, -⟩ := content_of_isScalar scalar
      rw [content] at found
      cases found
  | map kind entries =>
      rw [content_map, Content.shape?_ofEntries] at found
      cases found
      exact ⟨kind, entries, rfl⟩
  | list kind items =>
      rw [content_list, Content.shape?_ofItems] at found
      cases found
      exact ⟨items, rfl⟩
  | tuple items =>
      rw [content_tuple, Content.shape?_ofItems] at found
      cases found
      exact ⟨items, rfl⟩

/-- What has no content of a collection is an object or a scalar. -/
theorem object_or_scalar (none : t.content.shape? = none) :
    (∃ key, t.identity? = some key) ∨ t.isScalar = true := by
  cases told t with
  | object key own => exact .inl ⟨key, own⟩
  | scalar scalar => exact .inr scalar
  | map | list | tuple => simp at none

theorem congruent_of_single (single : a.content.shape? = none) (same : a.content = b.content) :
    Congruent a b := by
  rcases object_or_scalar single, object_or_scalar (same ▸ single) with
    ⟨⟨key, own⟩ | scalar, ⟨key', own'⟩ | scalar'⟩
  · rw [content_of_identity? own, content_of_identity? own'] at same
    exact .object key own (Content.ofIdentity_injective same ▸ own')
  · obtain ⟨_, -, content, number⟩ := content_of_isScalar scalar'
    rw [content_of_identity? own, content] at same
    exact absurd same (Content.ofIdentity_ne_scalar number)
  · obtain ⟨_, -, content, number⟩ := content_of_isScalar scalar
    rw [content_of_identity? own', content] at same
    exact absurd same.symm (Content.ofIdentity_ne_scalar number)
  · obtain ⟨k, own, content, -⟩ := content_of_isScalar scalar
    obtain ⟨k', own', content', -⟩ := content_of_isScalar scalar'
    rw [content, content'] at same
    obtain ⟨types, keys⟩ := Content.scalar.inj same
    exact .scalar scalar scalar' types (sameKey_iff.2 ⟨k, own, keys ▸ own'⟩)

/-- What has one content is congruent. -/
theorem congruent_of_content (formed : a.WellFormed) (formed' : b.WellFormed)
    (same : a.content = b.content) : Congruent a b := by
  induction formed generalizing b with
  | @single t single =>
      refine congruent_of_single ?_ same
      cases told t with
      | object key own => rw [content_of_identity? own, Content.shape?_ofIdentity]
      | scalar scalar =>
          obtain ⟨_, -, content, -⟩ := content_of_isScalar scalar
          rw [content]
          rfl
      | map | list | tuple => cases single
  | @map kind stamp entries stamped distinct each ih =>
      cases stamp with
      | some own => exact congruent_of_single (by rw [content]; rfl) same
      | none =>
          have found : b.content.shape? = some .map := by
            rw [← same, content_map, Content.shape?_ofEntries]
          obtain ⟨kind', entries', rfl⟩ := of_shape? found
          obtain ⟨stamped', distinct', within'⟩ := formed'.of_map
          rw [content_map, content_map, Entries.ofEntries_eq_iff distinct distinct'] at same
          refine .map (size_le stamped) (size_le stamped') (fun key => ?_) ?_
          · rw [Entries.has_eq_map_content, same, ← Entries.has_eq_map_content]
          · intro key value value' here here'
            obtain ⟨_, member, -⟩ := Entries.mem_of_find? here
            obtain ⟨_, member', -⟩ := Entries.mem_of_find? here'
            have contents := same key
            rw [here, here'] at contents
            exact ih _ member (within' _ member') (Option.some.inj contents)
  | @list kind stamp items stamped each ih =>
      cases stamp with
      | some own => exact congruent_of_single (by rw [content]; rfl) same
      | none =>
          have found : b.content.shape? = some (.list kind) := by
            rw [← same, content_list, Content.shape?_ofItems]
          obtain ⟨items', rfl⟩ := of_shape? found
          obtain ⟨-, within'⟩ := formed'.of_list
          rw [content_list, content_list] at same
          obtain ⟨size, each'⟩ := of_map_content (Content.ofItems_inj same) ih within'
          exact .list size (size_le stamped) each'
  | @tuple stamp items stamped each ih =>
      cases stamp with
      | some own => exact congruent_of_single (by rw [content]; rfl) same
      | none =>
          have found : b.content.shape? = some .tuple := by
            rw [← same, content_tuple, Content.shape?_ofItems]
          obtain ⟨items', rfl⟩ := of_shape? found
          obtain ⟨-, within'⟩ := formed'.of_tuple
          rw [content_tuple, content_tuple] at same
          obtain ⟨size, each'⟩ := of_map_content (Content.ofItems_inj same) ih within'
          exact .tuple size (size_le stamped) each'

theorem content_eq_iff (formed : a.WellFormed) (formed' : b.WellFormed) :
    a.content = b.content ↔ Congruent a b :=
  ⟨congruent_of_content formed formed', fun congruent => congruent.content_eq formed formed'⟩

/-- What is congruent is one object, or of one kind and known by what it holds. -/
theorem Congruent.kind (congruent : Congruent a b) (formed : a.WellFormed) (formed' : b.WellFormed) :
    a.identity? = b.identity? ∧ (a.identity? = none →
      a.shape? = b.shape? ∧ (a.shape? = none → a.exactType = b.exactType)) := by
  have known : ∀ {t : Term}, t.isScalar = true → t.identity? = none ∧ t.shape? = none := by
    intro t scalar
    cases t <;> first | exact ⟨rfl, rfl⟩ | cases scalar
  cases congruent with
  | object key own own' =>
      refine ⟨own.trans own'.symm, fun none => ?_⟩
      rw [own] at none
      cases none
  | scalar scalar scalar' type equal =>
      obtain ⟨alone, single⟩ := known scalar
      obtain ⟨alone', single'⟩ := known scalar'
      exact ⟨alone.trans alone'.symm, fun _ => ⟨single.trans single'.symm, fun _ => type⟩⟩
  | map small small' =>
      obtain rfl := stamp_eq_none formed.of_map.1 small
      obtain rfl := stamp_eq_none formed'.of_map.1 small'
      exact ⟨rfl, fun _ => ⟨rfl, nofun⟩⟩
  | list size small =>
      obtain rfl := stamp_eq_none formed.of_list.1 small
      obtain rfl := stamp_eq_none formed'.of_list.1 (size ▸ small)
      exact ⟨rfl, fun _ => ⟨rfl, nofun⟩⟩
  | tuple size small =>
      obtain rfl := stamp_eq_none formed.of_tuple.1 small
      obtain rfl := stamp_eq_none formed'.of_tuple.1 (size ▸ small)
      exact ⟨rfl, fun _ => ⟨rfl, nofun⟩⟩

/--
Contents identify exactly what is congruent.  So congruence is an equivalence, and values of different kinds
have different contents: those that are known by what they hold differ from all objects, and among themselves
collections of different kinds, collections and scalars, and scalars of different types.
-/
theorem content_identifies :
    (∀ a b : Term, a.WellFormed → b.WellFormed → (a.content = b.content ↔ Congruent a b)) ∧
    (Equivalence fun a b : {t : Term // t.WellFormed} => Congruent a.1 b.1) ∧
    ∀ a b : Term, a.WellFormed → b.WellFormed → a.content = b.content →
      a.identity? = b.identity? ∧ (a.identity? = none →
        a.shape? = b.shape? ∧ (a.shape? = none → a.exactType = b.exactType)) := by
  refine ⟨fun a b => content_eq_iff, ⟨fun a => ?_, fun {a b} same => ?_, fun {a b c} same same' => ?_⟩, ?_⟩
  · exact (content_eq_iff a.2 a.2).1 rfl
  · rw [← content_eq_iff a.2 b.2] at same
    exact (content_eq_iff b.2 a.2).1 same.symm
  · rw [← content_eq_iff a.2 b.2] at same
    rw [← content_eq_iff b.2 c.2] at same'
    exact (content_eq_iff a.2 c.2).1 (same.trans same')
  · intro a b formed formed' same
    exact (congruent_of_content formed formed' same).kind formed formed'

def mixed (kind : MapKind) (listKind : ListKind) (one key : Term) (negative : Bool) : Term :=
  .map kind none [(one, .list listKind none [.float (.finite negative 0)]), (key, .nan 3)]

theorem mixed_wellFormed (kind : MapKind) (listKind : ListKind) (one key : Term) (negative : Bool)
    (apart : one.sameKey key = false) : (mixed kind listKind one key negative).WellFormed := by
  refine .map rfl ?_ ?_
  · exact List.pairwise_pair.2 apart
  · refine List.forall_mem_cons.2 ⟨.list rfl (List.forall_mem_singleton.2 (.single rfl)), ?_⟩
    exact List.forall_mem_singleton.2 (.single rfl)

/-- Equal keys, the sign of zero and the class of a mapping make no difference, the class of a list does. -/
theorem mixed_identified :
    (mixed .plain .plain (.int 1) (.str "k") true).WellFormed ∧
      (mixed .frame .plain (.bool true) (.ref "k") false).WellFormed ∧
      (mixed .plain .rows (.int 1) (.str "k") true).WellFormed ∧
      Congruent (mixed .plain .plain (.int 1) (.str "k") true)
        (mixed .frame .plain (.bool true) (.ref "k") false) ∧
      ¬ Congruent (mixed .plain .plain (.int 1) (.str "k") true)
        (mixed .plain .rows (.int 1) (.str "k") true) := by
  have formed := mixed_wellFormed .plain .plain (.int 1) (.str "k") true (by decide)
  have formed' := mixed_wellFormed .frame .plain (.bool true) (.ref "k") false (by decide)
  have formed'' := mixed_wellFormed .plain .rows (.int 1) (.str "k") true (by decide)
  refine ⟨formed, formed', formed'', ?_, ?_⟩
  · exact (content_identifies.1 _ _ formed formed').1 (by decide +kernel)
  · rw [← content_identifies.1 _ _ formed formed'']
    decide +kernel

end Term

end ScopedTemplate
