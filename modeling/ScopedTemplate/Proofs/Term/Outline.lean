import Mathlib.Data.List.Forall2
import ScopedTemplate.Proofs.Term.Normal
import ScopedTemplate.Proofs.Term.Sorted

/-!
# Outlines

The outline of a value is what is left when its data loses its identity and, if that is asked for,
its mappings the order of their entries.  Functions stay as they are.  Nothing that the rules of a
resolver look at is lost.
-/

namespace ScopedTemplate

/-! ## Entries in a fixed order -/

def Term.rank (key : Term) : Key := key.key?.getD .null

namespace Entries

variable {sorts : Bool} {entries : Entries}

def arrange (sorts : Bool) (entries : Entries) : Entries :=
  if sorts then
    (Content.sortEntries (entries.map fun entry => (entry.1.rank, entry))).map Prod.snd
  else entries

def mapValues (change : Term → Term) (entries : Entries) : Entries :=
  entries.map fun entry => (entry.1, change entry.2)

theorem arrange_perm (sorts : Bool) (entries : Entries) : (arrange sorts entries).Perm entries := by
  unfold arrange
  split
  · have sorted := Content.sortEntries_perm (entries.map fun entry => (entry.1.rank, entry))
    simpa [Function.comp_def] using sorted.map Prod.snd
  · exact .refl _

@[simp] theorem mem_arrange {entry : Term × Term} : entry ∈ arrange sorts entries ↔ entry ∈ entries :=
  (arrange_perm sorts entries).mem_iff

@[simp] theorem length_arrange : (arrange sorts entries).length = entries.length :=
  (arrange_perm sorts entries).length_eq

theorem arrange_mapValues (change : Term → Term) (entries : Entries) :
    arrange sorts (mapValues change entries) = mapValues change (arrange sorts entries) := by
  unfold arrange mapValues
  split
  · have sorted := Content.sortEntries_map (fun entry : Term × Term => (entry.1, change entry.2))
      (entries.map fun entry => (entry.1.rank, entry))
    rw [List.map_map] at sorted
    rw [List.map_map, List.map_map]
    exact (congrArg (List.map Prod.snd) sorted).trans (by simp [Function.comp_def])
  · rfl

theorem arrange_filter (keep : Term × Term → Bool) (entries : Entries) :
    arrange sorts (entries.filter keep) = (arrange sorts entries).filter keep := by
  unfold arrange
  split
  · rw [List.filter_map, Content.sortEntries_filter, List.filter_map]
    rfl
  · rfl

theorem find?_eq_find? (entries : Entries) (key : Term) :
    find? entries key =
      (List.find? (fun entry : Term × Term => entry.1.sameKey key) entries).map Prod.snd := by
  induction entries with
  | nil => rfl
  | cons entry rest ih =>
      rw [find?_cons, List.find?_cons, ih]
      cases entry.1.sameKey key <;> rfl

/-- Under every key, related entries have related values. -/
theorem find?_related {R : Term → Term → Prop} {entries entries' : Entries}
    (each : List.Forall₂ (fun entry entry' => entry.1 = entry'.1 ∧ R entry.2 entry'.2) entries entries')
    (key : Term) : Option.Rel R (find? entries key) (find? entries' key) := by
  induction each with
  | nil => exact .none
  | cons first _ ih =>
      rw [find?_cons, find?_cons, ← first.1]
      split
      · exact .some first.2
      · exact ih

theorem rank_of_sameKey {name key : Term} (same : name.sameKey key = true) :
    name.rank = key.rank := by
  obtain ⟨k, name_key, key_key⟩ := Term.sameKey_iff.1 same
  unfold Term.rank
  rw [name_key, key_key]

/-- A key finds the same value in any order. -/
@[simp] theorem find?_arrange (entries : Entries) (key : Term) :
    find? (arrange sorts entries) key = find? entries key := by
  unfold arrange
  split
  · rw [find?_eq_find?, find?_eq_find?, List.find?_map, Content.find?_sortEntries]
    · rw [List.find?_map]
      simp [Function.comp_def]
    · intro first member second member' found same
      obtain ⟨one, _, rfl⟩ := List.mem_map.1 member
      obtain ⟨other, _, rfl⟩ := List.mem_map.1 member'
      exact (rank_of_sameKey found).trans (rank_of_sameKey same).symm
  · rfl

@[simp] theorem has_arrange (entries : Entries) (key : Term) :
    has (arrange sorts entries) key = has entries key := by
  unfold has
  rw [find?_arrange]

theorem arrange_erase (entries : Entries) (key : Term) :
    arrange sorts (erase entries key) = erase (arrange sorts entries) key :=
  arrange_filter _ entries

/-- Under the same keys, values that are changed to the same are the same entries when changed. -/
theorem mapValues_zip {change change' : Term → Term} {entries : Entries} {found : List Term}
    (same : found.map change = (values entries).map change') :
    mapValues change ((keys entries).zip found) = mapValues change' entries := by
  unfold mapValues keys
  unfold values at same
  induction entries generalizing found with
  | nil => rfl
  | cons entry rest ih =>
      cases found with
      | nil => cases same
      | cons value others =>
          simp only [List.map_cons, List.cons.injEq] at same
          rw [List.map_cons, List.zip_cons_cons, List.map_cons, List.map_cons, ih same.2, same.1]

theorem find?_mapValues (change : Term → Term) (entries : Entries) (key : Term) :
    find? (mapValues change entries) key = (find? entries key).map change := by
  unfold mapValues
  induction entries with
  | nil => rfl
  | cons entry rest ih =>
      rw [List.map_cons, find?_cons, find?_cons, ih]
      dsimp only
      split <;> rfl

theorem erase_mapValues (change : Term → Term) (entries : Entries) (key : Term) :
    erase (mapValues change entries) key = mapValues change (erase entries key) := by
  unfold erase mapValues
  rw [List.filter_map]
  rfl

end Entries

/-! ## Terms without identity -/

namespace Term

mutual

/-- A term whose data has no identity; `sorts` says whether the order of mappings is lost, too. -/
def outline (sorts : Bool) : Term → Term
  | .list kind _ items => .list kind none (outlineItems sorts items)
  | .tuple _ items => .tuple none (outlineItems sorts items)
  | .map kind _ entries => .map kind none (Entries.arrange sorts (outlineEntries sorts entries))
  | .set _ items => .set 0 items
  | .point _ items => .point 0 items
  | .nan _ => .nan 0
  | t => t

def outlineItems (sorts : Bool) : List Term → List Term
  | [] => []
  | t :: ts => outline sorts t :: outlineItems sorts ts

def outlineEntries (sorts : Bool) : List (Term × Term) → List (Term × Term)
  | [] => []
  | (key, value) :: rest => (key, outline sorts value) :: outlineEntries sorts rest

end

variable {sorts : Bool}

theorem outlineItems_eq_map (items : List Term) :
    outlineItems sorts items = items.map (outline sorts) := by
  induction items with
  | nil => rw [outlineItems, List.map_nil]
  | cons t rest ih => rw [outlineItems, List.map_cons, ih]

theorem outlineEntries_eq_mapValues (entries : Entries) :
    outlineEntries sorts entries = Entries.mapValues (outline sorts) entries := by
  unfold Entries.mapValues
  induction entries with
  | nil => rw [outlineEntries, List.map_nil]
  | cons entry rest ih => rw [outlineEntries, List.map_cons, ih]

@[simp] theorem outline_list (kind : ListKind) (stamp : Option Stamp) (items : List Term) :
    outline sorts (.list kind stamp items) = .list kind none (items.map (outline sorts)) := by
  rw [outline, outlineItems_eq_map]

@[simp] theorem outline_tuple (stamp : Option Stamp) (items : List Term) :
    outline sorts (.tuple stamp items) = .tuple none (items.map (outline sorts)) := by
  rw [outline, outlineItems_eq_map]

@[simp] theorem outline_map (kind : MapKind) (stamp : Option Stamp) (entries : Entries) :
    outline sorts (.map kind stamp entries) =
      .map kind none (Entries.mapValues (outline sorts) (Entries.arrange sorts entries)) := by
  rw [outline, outlineEntries_eq_mapValues, Entries.arrange_mapValues]

@[simp] theorem outline_text (kind : TextKind) (s : String) :
    outline sorts (.text kind s) = .text kind s := rfl

@[simp] theorem outline_null : outline sorts .null = .null := rfl

@[simp] theorem outline_removed : outline sorts .removed = .removed := rfl

@[simp] theorem outline_function (stamp : Stamp) (name : String) (deps : List String)
    (doc : Option String) (callee : Term) :
    outline sorts (.function stamp name deps doc callee) =
      .function stamp name deps doc callee := rfl

@[simp] theorem types_outline (t : Term) : (t.outline sorts).types = t.types := by
  cases t with
  | list kind stamp items =>
      rw [outline_list]
      cases kind <;> rfl
  | map kind stamp entries =>
      rw [outline_map]
      cases kind <;> rfl
  | _ => rfl

@[simp] theorem isRemoved_outline (t : Term) : (t.outline sorts).isRemoved = t.isRemoved := by
  cases t <;> rfl

@[simp] theorem text?_outline (t : Term) : (t.outline sorts).text? = t.text? := by
  cases t <;> rfl

@[simp] theorem size?_outline (t : Term) : (t.outline sorts).size? = t.size? := by
  cases t with
  | list kind stamp items => simp [size?]
  | tuple stamp items => simp [size?]
  | map kind stamp entries => simp [size?, Entries.mapValues]
  | _ => rfl

/-! ## Copies -/

mutual

/-- A copy has the outline of what it is a copy of. -/
@[simp] theorem outline_detach (next : Stamp) :
    (t : Term) → (t.detach next).1.outline sorts = t.outline sorts
  | .list .plain stamp items => by
      rw [detach, outline_list, outline_list, outline_detachItems]
  | .tuple stamp items => by
      rw [detach, outline_tuple, outline_tuple, outline_detachItems]
  | .map .plain stamp entries => by
      rw [detach, outline_map, outline_map, ← Entries.arrange_mapValues,
        ← Entries.arrange_mapValues, outline_detachEntries]
  | .list .rows _ _ | .map .frame _ _ | .null | .bool _ | .int _ | .float _ | .nan _ | .text _ _
  | .bytes _ | .set _ _ | .point _ _ | .removed | .function _ _ _ _ _ | .callable _ _ _ _ _
  | .builtin _ | .type _ | .internal _ | .view _ _ _ _ => rfl

theorem outline_detachItems (next : Stamp) : (items : List Term) →
    (detachItems next items).1.map (outline sorts) = items.map (outline sorts)
  | [] => rfl
  | t :: ts => by
      rw [detachItems, List.map_cons, List.map_cons, outline_detach next t, outline_detachItems _ ts]

theorem outline_detachEntries (next : Stamp) : (entries : List (Term × Term)) →
    Entries.mapValues (outline sorts) (detachEntries next entries).1 =
      Entries.mapValues (outline sorts) entries
  | [] => rfl
  | (key, value) :: rest => by
      have others := outline_detachEntries (detach next value).2 rest
      unfold Entries.mapValues at others ⊢
      rw [detachEntries, List.map_cons, List.map_cons, outline_detach next value, others]

end

end Term

/-! ## What rules look at -/

namespace Classifier

variable {classifier : Classifier} {sorts : Bool}

theorem refusalAmong?_of_types {t u : Term} (types : t.types = u.types) (among : List ValueType) :
    refusalAmong? t among = refusalAmong? u among := by
  induction among with
  | nil => rfl
  | cons type rest ih =>
      unfold refusalAmong? Term.isInstance
      rw [types, ih]

/-- What is no leaf is refused for the first leaf type that tells nothing. -/
theorem refusalAmong?_of_notLeaf {t : Term} {among : List ValueType}
    (notLeaf : t.isInstance among = false) :
    refusalAmong? t among = among.findSome? refusalOf? := by
  induction among with
  | nil => rfl
  | cons type rest ih =>
      unfold Term.isInstance at notLeaf ih
      rw [List.any_cons, Bool.or_eq_false_iff] at notLeaf
      unfold refusalAmong? Term.isInstance
      rw [List.any_cons, List.any_nil, notLeaf.1, ih notLeaf.2, List.findSome?_cons]
      cases refusalOf? type <;> rfl

@[simp] theorem check_outline (t : Term) :
    classifier.check (t.outline sorts) = classifier.check t := by
  unfold check refusal?
  rw [refusalAmong?_of_types t.types_outline]

@[simp] theorem isLeaf_outline (t : Term) :
    classifier.isLeaf (t.outline sorts) = classifier.isLeaf t := by
  unfold isLeaf Term.isInstance
  rw [t.types_outline]

@[simp] theorem isRef_outline (t : Term) :
    classifier.isRef (t.outline sorts) = classifier.isRef t := by
  cases t <;> rfl

@[simp] theorem kind_outline (t : Term) :
    classifier.kind (t.outline sorts) = classifier.kind t := by
  have shape : shapeKind (t.outline sorts) = shapeKind t := by
    cases t <;> rfl
  unfold kind
  rw [t.isRemoved_outline, isLeaf_outline, isRef_outline, shape]

@[simp] theorem classify_outline (t : Term) :
    classifier.classify (t.outline sorts) = classifier.classify t := by
  unfold classify
  rw [t.isRemoved_outline, check_outline, kind_outline]

theorem classify_eq_ok {t : Term} {kind : Kind} :
    classifier.classify t = .ok kind ↔
      (t.isRemoved = false → classifier.check t = .ok ()) ∧ classifier.kind t = kind := by
  unfold classify
  cases t.isRemoved with
  | true => simp [pure, Except.pure]
  | false => cases classifier.check t <;> simp [pure, Except.pure, bind, Except.bind]

/-- A plain mapping is classified as such, whatever is in it. -/
theorem classify_plainMap (classifier : Classifier) (stamp stamp' : Option Stamp)
    (entries entries' : Entries) : classifier.classify (.map .plain stamp entries) =
      classifier.classify (.map .plain stamp' entries') := by
  have types : (Term.map .plain stamp entries).types = (Term.map .plain stamp' entries').types := rfl
  have checks : classifier.check (.map .plain stamp entries) =
      classifier.check (.map .plain stamp' entries') := by
    unfold check refusal?
    rw [refusalAmong?_of_types types]
  unfold classify
  rw [checks]
  rfl

/-- Collections of one kind are told apart from leaves alike. -/
theorem classify_of_kind {t u : Term} {kind : Kind} (found : classifier.classify t = .ok kind)
    (differs : kind ≠ .scalar) (kept : t.isRemoved = false) (same : classifier.kind u = kind) :
    classifier.classify u = .ok kind := by
  obtain ⟨checks, looked⟩ := classify_eq_ok.1 found
  have notLeaf : ∀ {s : Term}, classifier.kind s = kind → s.isRemoved = false →
      s.isInstance classifier.leafTypes = false := by
    intro s is_kind stays
    refine Bool.eq_false_iff.2 fun leaf => differs ?_
    exact is_kind.symm.trans (kind_of_isLeaf leaf stays)
  refine classify_eq_ok.2 ⟨fun stays => ?_, same⟩
  have checked := checks kept
  unfold check refusal? at checked ⊢
  rw [refusalAmong?_of_notLeaf (notLeaf looked kept)] at checked
  rw [refusalAmong?_of_notLeaf (notLeaf same stays)]
  exact checked

end Classifier

/-! ## References that are left -/

namespace Term

variable {classifier : Classifier} {defaultsKey : String} {sorts : Bool} {name : String}

theorem exists_mem_map {α β : Type} {change : α → β} {items : List α} {P : β → Prop} :
    (∃ changed ∈ items.map change, P changed) ↔ ∃ item ∈ items, P (change item) := by
  constructor
  · rintro ⟨_, member, holds⟩
    obtain ⟨item, inside, rfl⟩ := List.mem_map.1 member
    exact ⟨item, inside, holds⟩
  · rintro ⟨item, inside, holds⟩
    exact ⟨_, List.mem_map.2 ⟨item, inside, rfl⟩, holds⟩

theorem mem_referencesInItems {items : List Term} :
    name ∈ referencesInItems classifier defaultsKey items ↔
      ∃ item ∈ items, name ∈ references classifier defaultsKey item := by
  induction items with
  | nil => simp [referencesInItems]
  | cons item rest ih => simp [referencesInItems, ih]

theorem mem_referencesInEntries {entries : Entries} :
    name ∈ referencesInEntries classifier defaultsKey entries ↔
      ∃ entry ∈ entries, entry.1.sameKey (.str defaultsKey) = false ∧
        name ∈ references classifier defaultsKey entry.2 := by
  induction entries with
  | nil => simp [referencesInEntries]
  | cons entry rest ih =>
      obtain ⟨key, value⟩ := entry
      rw [referencesInEntries]
      cases same : key.sameKey (.str defaultsKey) <;> simp [same, ih]

mutual

/-- An outline has the references of its term. -/
theorem mem_references_outline : (t : Term) →
    (name ∈ references classifier defaultsKey (t.outline sorts) ↔
      name ∈ references classifier defaultsKey t)
  | .list kind stamp items => by
      have leaf : classifier.isLeaf ((Term.list kind stamp items).outline sorts) =
          classifier.isLeaf (.list kind stamp items) := Classifier.isLeaf_outline _
      rw [outline_list] at leaf ⊢
      rw [references, references, leaf]
      split
      · exact Iff.rfl
      · rw [mem_referencesInItems, mem_referencesInItems, exists_mem_map]
        exact exists_congr fun item => and_congr_right fun member =>
          mem_references_outlineItems items item member
  | .tuple stamp items => by
      have leaf : classifier.isLeaf ((Term.tuple stamp items).outline sorts) =
          classifier.isLeaf (.tuple stamp items) := Classifier.isLeaf_outline _
      rw [outline_tuple] at leaf ⊢
      rw [references, references, leaf]
      split
      · exact Iff.rfl
      · rw [mem_referencesInItems, mem_referencesInItems, exists_mem_map]
        exact exists_congr fun item => and_congr_right fun member =>
          mem_references_outlineItems items item member
  | .map kind stamp entries => by
      have leaf : classifier.isLeaf ((Term.map kind stamp entries).outline sorts) =
          classifier.isLeaf (.map kind stamp entries) := Classifier.isLeaf_outline _
      rw [outline_map] at leaf ⊢
      rw [references, references, leaf]
      split
      · exact Iff.rfl
      · rw [mem_referencesInEntries, mem_referencesInEntries]
        unfold Entries.mapValues
        rw [exists_mem_map]
        refine exists_congr fun entry => ?_
        rw [Entries.mem_arrange]
        exact and_congr_right fun member => and_congr_right fun _ =>
          mem_references_outlineEntries entries entry member
  | .null | .bool _ | .int _ | .float _ | .nan _ | .text _ _ | .bytes _ | .set _ _ | .point _ _
  | .removed | .function _ _ _ _ _ | .callable _ _ _ _ _ | .builtin _ | .type _ | .internal _
  | .view _ _ _ _ => by
      simp [outline, references]

theorem mem_references_outlineItems : (items : List Term) → ∀ item ∈ items,
    (name ∈ references classifier defaultsKey (item.outline sorts) ↔
      name ∈ references classifier defaultsKey item)
  | [], item, member => absurd member List.not_mem_nil
  | t :: ts, item, member => by
      rcases List.mem_cons.1 member with same | later
      · rw [same]
        exact mem_references_outline t
      · exact mem_references_outlineItems ts item later

theorem mem_references_outlineEntries : (entries : List (Term × Term)) → ∀ entry ∈ entries,
    (name ∈ references classifier defaultsKey (entry.2.outline sorts) ↔
      name ∈ references classifier defaultsKey entry.2)
  | [], entry, member => absurd member List.not_mem_nil
  | (key, value) :: rest, entry, member => by
      rcases List.mem_cons.1 member with same | later
      · rw [same]
        exact mem_references_outline value
      · exact mem_references_outlineEntries rest entry later

end

/-- No reference is left in an outline exactly if none is in its term. -/
theorem references_outline_eq_nil (sorts : Bool) (t : Term) :
    references classifier defaultsKey (t.outline sorts) = [] ↔
      references classifier defaultsKey t = [] := by
  rw [List.eq_nil_iff_forall_not_mem, List.eq_nil_iff_forall_not_mem]
  exact forall_congr' fun name => not_congr (mem_references_outline t)

end Term

namespace Resolver

variable {resolver : Resolver Term} {sorts : Bool}

@[simp] theorem drops_outline (t : Term) : resolver.drops (t.outline sorts) = resolver.drops t := by
  unfold drops Classifier.isCollection
  rw [t.isRemoved_outline, Classifier.kind_outline, t.size?_outline]

theorem forM_eq_ok {check : Term → Except Failure Unit} {values : List Term} :
    forM values check = .ok () ↔ ∀ value ∈ values, check value = .ok () := by
  induction values with
  | nil => simp [pure, Except.pure]
  | cons value rest ih =>
      rw [List.forM_cons, Except.bind_eq_ok, List.forall_mem_cons, ih]
      exact ⟨fun ⟨_, first, others⟩ => ⟨first, others⟩, fun ⟨first, others⟩ => ⟨(), first, others⟩⟩

/-- Values pass the check exactly if each of them can be told apart from a leaf. -/
theorem checkValues_eq_ok {values : List Term} :
    resolver.checkValues values = .ok () ↔ (resolver.config.removeEmpty = true →
      ∀ value ∈ values, value.isRemoved = false → resolver.classifier.check value = .ok ()) := by
  unfold checkValues
  cases resolver.config.removeEmpty with
  | false => simp
  | true =>
      rw [if_pos rfl]
      refine forM_eq_ok.trans ?_
      refine Iff.trans ?_ (forall_prop_of_true rfl).symm
      refine forall₂_congr fun value _ => ?_
      cases value.isRemoved <;> simp

end Resolver

end ScopedTemplate
