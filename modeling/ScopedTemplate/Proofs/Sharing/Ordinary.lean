import ScopedTemplate.Proofs.Evaluation.Domain

/-!
# Data that is known by its content

Ordinary data consists of null, truth values, integers, text, references, removal marks, functions,
and plain lists, tuples and mappings with names as keys.  What is compared by identity is labelled:
a stamp says what has it.  Then equal contents have equal outlines.
-/

namespace ScopedTemplate

/-! ## Contents of collections -/

namespace Content

def shape? : Content → Option Shape
  | .empty shape => some shape
  | .item _ rest => shape? rest
  | .entry _ _ rest => shape? rest
  | _ => none

@[simp] theorem shape?_scalar (type : ValueType) (key : Key) : (scalar type key).shape? = none := rfl

@[simp] theorem shape?_identity (key : Key) : (identity key).shape? = none := rfl

@[simp] theorem shape?_ofItems (shape : Shape) (items : List Content) :
    (ofItems shape items).shape? = some shape := by
  induction items with
  | nil => rfl
  | cons item rest ih => exact ih

@[simp] theorem shape?_ofEntries (entries : List (Key × Content)) :
    (ofEntries entries).shape? = some .map := by
  unfold ofEntries
  induction sortEntries entries with
  | nil => rfl
  | cons entry rest ih => exact ih

theorem ofItems_inj {shape : Shape} {items items' : List Content}
    (same : ofItems shape items = ofItems shape items') : items = items' := by
  induction items generalizing items' with
  | nil =>
      cases items' with
      | nil => rfl
      | cons _ _ => cases same
  | cons item rest ih =>
      cases items' with
      | nil => cases same
      | cons item' rest' =>
          obtain ⟨first, others⟩ := Content.item.inj same
          rw [first, ih others]

theorem foldr_entry_inj {sorted sorted' : List (Key × Content)}
    (same : sorted.foldr (fun e rest => entry e.1 e.2 rest) (empty .map) =
      sorted'.foldr (fun e rest => entry e.1 e.2 rest) (empty .map)) : sorted = sorted' := by
  induction sorted generalizing sorted' with
  | nil =>
      cases sorted' with
      | nil => rfl
      | cons _ _ => cases same
  | cons entry rest ih =>
      cases sorted' with
      | nil => cases same
      | cons entry' rest' =>
          obtain ⟨key, value, others⟩ := Content.entry.inj same
          rw [ih others, Prod.ext key value]

/-- Mappings of one content have the same entries in the order of their keys. -/
theorem ofEntries_inj {entries entries' : List (Key × Content)}
    (same : ofEntries entries = ofEntries entries') : sortEntries entries = sortEntries entries' :=
  foldr_entry_inj same

end Content

/-- Lists are equal after one change if they are after another that decides about it. -/
theorem map_eq_of_map_eq {α β γ : Type} {decide : α → β} {change : α → γ} {items items' : List α}
    (decides : ∀ item ∈ items, ∀ item' ∈ items', decide item = decide item' →
      change item = change item') (same : items.map decide = items'.map decide) :
    items.map change = items'.map change := by
  induction items generalizing items' with
  | nil =>
      cases items' with
      | nil => rfl
      | cons _ _ => cases same
  | cons item rest ih =>
      cases items' with
      | nil => cases same
      | cons item' rest' =>
          obtain ⟨first, others⟩ := List.cons.inj same
          have here := decides item List.mem_cons_self item' List.mem_cons_self first
          have later := ih (fun one member other member' =>
            decides one (List.mem_cons_of_mem _ member) other (List.mem_cons_of_mem _ member')) others
          rw [List.map_cons, List.map_cons, here, later]

/-! ## Keys -/

/-- Keys that are told apart: what is the same key is the same. -/
structure Discernible (among : Term → Prop) : Prop where
  hashed : ∀ key, among key → ∃ k, key.key? = some k
  same : ∀ key key', among key → among key' → key.sameKey key' = true → key = key'

theorem Discernible.eq_of_rank {among : Term → Prop} (apart : Discernible among) {key key' : Term}
    (keyed : among key) (keyed' : among key') (ranks : key.rank = key'.rank) : key = key' := by
  obtain ⟨k, own⟩ := apart.hashed key keyed
  obtain ⟨k', own'⟩ := apart.hashed key' keyed'
  unfold Term.rank at ranks
  rw [own, own'] at ranks
  have ranks : k = k' := ranks
  exact apart.same key key' keyed keyed' (Term.sameKey_iff.2 ⟨k, own, ranks ▸ own'⟩)

/-- Names are told apart by their characters. -/
theorem discernible_names : Discernible fun key => ∃ s, key = .str s where
  hashed := by
    rintro _ ⟨s, rfl⟩
    exact ⟨_, Term.key?_text _ _⟩
  same := by
    rintro _ _ ⟨s, rfl⟩ ⟨s', rfl⟩ same
    rw [Term.sameKey_text] at same
    rw [beq_iff_eq.1 same]

/-! ## Names -/

/-- Keys are names, and no name is there twice. -/
structure Entries.Named (entries : Entries) : Prop where
  names : ∀ key ∈ Entries.keys entries, ∃ s, key = .str s
  nodup : (Entries.keys entries).Nodup

namespace Entries

variable {entries entries' : Entries}

theorem Named.sublist (named : entries'.Named)
    (sub : (Entries.keys entries).Sublist (Entries.keys entries')) : entries.Named :=
  ⟨fun key member => named.names key (sub.subset member), named.nodup.sublist sub⟩

/-- Distinct names make a scope. -/
theorem named_of_names (names : List String) (nodup : names.Nodup)
    (keys : Entries.keys entries = names.map Term.str) : entries.Named := by
  refine ⟨?_, ?_⟩ <;> rw [keys]
  · intro key member
    obtain ⟨s, _, same⟩ := List.mem_map.1 member
    exact ⟨s, same.symm⟩
  · refine List.Pairwise.map Term.str (fun first second differ same => differ ?_) nodup
    cases same
    rfl

theorem entryContents_eq_map (hashed : ∀ key ∈ Entries.keys entries, ∃ k, key.key? = some k) :
    Term.entryContents entries = entries.map fun entry => (entry.1.rank, entry.2.content) := by
  induction entries with
  | nil => rw [Term.entryContents, List.map_nil]
  | cons entry rest ih =>
      obtain ⟨⟨k, first⟩, others⟩ := List.forall_mem_cons.1 hashed
      obtain ⟨key, value⟩ := entry
      have first : key.key? = some k := first
      rw [List.map_cons, ← ih others, Term.entryContents, first]
      simp [Term.rank, first]

/-- Entries with one content are the same up to their order, if values with one content are. -/
theorem arrange_of_content {among : Term → Prop} (apart : Discernible among)
    (keyed : ∀ key ∈ Entries.keys entries, among key)
    (keyed' : ∀ key ∈ Entries.keys entries', among key)
    (values : ∀ entry ∈ entries, ∀ entry' ∈ entries', entry.2.content = entry'.2.content →
      entry.2.outline true = entry'.2.outline true)
    (same : Content.ofEntries (Term.entryContents entries) =
      Content.ofEntries (Term.entryContents entries')) :
    mapValues (Term.outline true) (arrange true entries) =
      mapValues (Term.outline true) (arrange true entries') := by
  have sorted := Content.ofEntries_inj same
  rw [entryContents_eq_map fun key member => apart.hashed key (keyed key member),
    entryContents_eq_map fun key member => apart.hashed key (keyed' key member)] at sorted
  have contents : ∀ entries : Entries, Content.sortEntries
      (entries.map fun entry => (entry.1.rank, entry.2.content)) =
        (Content.sortEntries (entries.map fun entry => (entry.1.rank, entry))).map
          fun entry => (entry.1, entry.2.2.content) := by
    intro entries
    rw [← Content.sortEntries_map fun entry : Term × Term => entry.2.content, List.map_map]
    rfl
  have inside : ∀ (entries : Entries) entry,
      entry ∈ Content.sortEntries (entries.map fun entry => (entry.1.rank, entry)) →
        entry.1 = entry.2.1.rank ∧ entry.2 ∈ entries := by
    intro entries entry member
    obtain ⟨original, among, rfl⟩ :=
      List.mem_map.1 ((Content.sortEntries_perm _).mem_iff.1 member)
    exact ⟨rfl, among⟩
  rw [contents, contents] at sorted
  unfold arrange mapValues
  rw [if_pos rfl, if_pos rfl, List.map_map, List.map_map]
  refine map_eq_of_map_eq ?_ sorted
  intro entry member entry' member' same
  obtain ⟨ranks, contents⟩ := Prod.mk.inj same
  obtain ⟨rank, listed⟩ := inside _ entry member
  obtain ⟨rank', listed'⟩ := inside _ entry' member'
  have key := keyed _ (List.mem_map.2 ⟨_, listed, rfl⟩)
  have key' := keyed' _ (List.mem_map.2 ⟨_, listed', rfl⟩)
  rw [rank, rank'] at ranks
  exact Prod.ext (apart.eq_of_rank key key' ranks) (values _ listed _ listed' contents)

end Entries

/-! ## Ordinary data -/

namespace Term

def Labelled (labels : List Term) (stamp : Option Stamp) (t : Term) : Prop :=
  ∀ own, stamp = some own → labels[own]? = some (t.outline true)

def IsOrdinary (functions : Term → Prop) (labels : List Term) : Term → Prop
  | .null | .bool _ | .int _ | .removed => True
  | .text kind _ => kind ≠ .derived
  | .list kind stamp items => kind = .plain ∧ Labelled labels stamp (.list kind stamp items)
  | .tuple stamp items => Labelled labels stamp (.tuple stamp items)
  | .map kind stamp entries =>
    kind = .plain ∧ Entries.Named entries ∧ Labelled labels stamp (.map kind stamp entries)
  | .function stamp name deps doc callee =>
    functions (.function stamp name deps doc callee) ∧
      Labelled labels (some stamp) (.function stamp name deps doc callee)
  | _ => False

variable {functions : Term → Prop} {labels : List Term} {t u : Term}

theorem IsOrdinary.known (ordinary : t.IsOrdinary functions labels)
    (isFunction : Classifier.shapeKind t = .function) : functions t := by
  cases t with
  | function _ _ _ _ _ => exact ordinary.1
  | callable kind _ _ _ _ => exact ordinary.elim
  | _ => cases isFunction

@[simp] theorem content_list (kind : ListKind) (items : List Term) :
    (Term.list kind none items).content = .ofItems (.list kind) (items.map content) := by
  rw [content, contents_eq_map]

@[simp] theorem content_tuple (items : List Term) :
    (Term.tuple none items).content = .ofItems .tuple (items.map content) := by
  rw [content, contents_eq_map]

@[simp] theorem content_map (kind : MapKind) (entries : Entries) :
    (Term.map kind none entries).content = .ofEntries (entryContents entries) := by
  rw [content]

/-- What decides the content of data: its value, or an identity that is labelled. -/
inductive Form (among : Term → Prop) (labels : List Term) : Term → Prop where
  | null : Form among labels .null
  | bool (b : Bool) : Form among labels (.bool b)
  | int (n : Int) : Form among labels (.int n)
  | text (kind : TextKind) (s : String) : Form among labels (.text kind s)
  | bytes (bs : List UInt8) : Form among labels (.bytes bs)
  | removed : Form among labels .removed
  | builtin (name : String) : Form among labels (.builtin name)
  | type (name : ValueType) : Form among labels (.type name)
  | list (kind : ListKind) (items : List Term) : Form among labels (.list kind none items)
  | tuple (items : List Term) : Form among labels (.tuple none items)
  | map (entries : Entries) (keyed : ∀ key ∈ Entries.keys entries, among key) :
    Form among labels (.map .plain none entries)
  | stamped {t : Term} (stamp : Stamp) (own : t.content = .identity (.object stamp))
    (label : labels[stamp]? = some (t.outline true)) : Form among labels t

theorem IsOrdinary.form (ordinary : t.IsOrdinary functions labels) :
    Form (fun key => ∃ s, key = .str s) labels t := by
  cases t with
  | null => exact .null
  | bool b => exact .bool b
  | int n => exact .int n
  | text kind s => exact .text kind s
  | removed => exact .removed
  | list kind stamp items =>
      cases stamp with
      | none => exact .list kind items
      | some own => exact .stamped own (by rw [content]) (ordinary.2 own rfl)
  | tuple stamp items =>
      cases stamp with
      | none => exact .tuple items
      | some own => exact .stamped own (by rw [content]) (ordinary own rfl)
  | map kind stamp entries =>
      obtain ⟨rfl, named, labelled⟩ := ordinary
      cases stamp with
      | none => exact .map entries named.names
      | some own => exact .stamped own (by rw [content]) (labelled own rfl)
  | function stamp name deps doc callee =>
      exact .stamped stamp (by rw [content]) (ordinary.2 stamp rfl)
  | _ => exact ordinary.elim

section

variable {among : Term → Prop}

theorem Form.shape?_eq_some (form : Form among labels t) {shape : Shape}
    (found : t.content.shape? = some shape) :
    (∃ kind items, t = .list kind none items ∧ shape = .list kind) ∨
      (∃ items, t = .tuple none items ∧ shape = .tuple) ∨
      ∃ entries : Entries, t = .map .plain none entries ∧
        (∀ key ∈ Entries.keys entries, among key) ∧ shape = .map := by
  cases form with
  | list kind items =>
      rw [content_list, Content.shape?_ofItems] at found
      exact .inl ⟨kind, items, rfl, (Option.some.inj found).symm⟩
  | tuple items =>
      rw [content_tuple, Content.shape?_ofItems] at found
      exact .inr (.inl ⟨items, rfl, (Option.some.inj found).symm⟩)
  | map entries keyed =>
      rw [content_map, Content.shape?_ofEntries] at found
      exact .inr (.inr ⟨entries, rfl, keyed, (Option.some.inj found).symm⟩)
  | stamped stamp own label =>
      rw [own] at found
      cases found
  | _ =>
      rw [content] at found
      cases found

theorem ofInt_inj {m n : Int} (same : Key.ofInt m = Key.ofInt n) : m = n := by
  have positive : ∀ exponent, 0 < twoPow exponent := fun _ => Nat.pow_pos (by decide)
  have units : 0 < Binary64.unitsOfOne := by
    unfold Binary64.unitsOfOne
    exact positive Binary64.unitExponent
  refine Int.eq_of_mul_eq_mul_right ?_ (Key.number.inj same)
  omega

theorem ofBool_inj {a b : Bool} (same : Key.ofBool a = Key.ofBool b) : a = b := by
  have numbers := ofInt_inj same
  cases a <;> cases b <;> simp at numbers ⊢

theorem ofInt_ne_text {n : Int} {s : String} : Key.ofInt n ≠ .text s :=
  nofun

theorem ofBool_ne_text {b : Bool} {s : String} : Key.ofBool b ≠ .text s :=
  ofInt_ne_text

/-- Texts of one type are of one kind. -/
theorem textKind_inj {kind kind' : TextKind} {s s' : String}
    (same : exactType (.text kind s) = exactType (.text kind' s')) : kind = kind' := by
  cases kind <;> cases kind' <;> first | rfl | exact absurd same (by simp [exactType, ValueType.core])

/-- What is no collection counts by its value or its identity. -/
theorem Form.outline_of_single (form : Form among labels t) (form' : Form among labels u)
    (single : t.content.shape? = none) (same : t.content = u.content) :
    t.outline true = u.outline true := by
  have single' : u.content.shape? = none := by rw [← same, single]
  cases form with
  | list _ _ | tuple _ | map _ _ => simp at single
  | stamped stamp own label =>
      cases form' with
      | list _ _ | tuple _ | map _ _ => simp at single'
      | stamped stamp' own' label' =>
          rw [own, own'] at same
          cases same
          rw [label] at label'
          exact Option.some.inj label'
      | _ =>
          rw [own, content] at same
          cases same
  | _ =>
      cases form' with
      | list _ _ | tuple _ | map _ _ => simp at single'
      | stamped stamp' own' label' =>
          rw [own', content] at same
          cases same
      | _ =>
          -- values of two types differ in their contents, so that only those of one type are left
          simp [content, ValueType.core, ofInt_ne_text, ofBool_ne_text, ofInt_ne_text.symm,
              ofBool_ne_text.symm] at same ⊢ <;> first
            | rw [ofBool_inj same]
            | rw [ofInt_inj same]
            | rw [same]
            | exact ⟨textKind_inj same.1, same.2⟩

/-- Data of one content has one outline. -/
theorem outline_of_form (apart : Discernible among) (known : t.Everywhere (Form among labels))
    (known' : u.Everywhere (Form among labels)) (same : t.content = u.content) :
    t.outline true = u.outline true := by
  induction known generalizing u with
  | @intro t form inner ih =>
      have form' := known'.here
      have others := (everywhere_iff.1 known').2
      cases shaped : t.content.shape? with
      | some shape =>
          have shaped' : u.content.shape? = some shape := by rw [← same, shaped]
          rcases form.shape?_eq_some shaped with ⟨kind, items, rfl, rfl⟩ | ⟨items, rfl, rfl⟩ |
              ⟨entries, rfl, keyed, rfl⟩ <;>
            rcases form'.shape?_eq_some shaped' with ⟨kind', items', rfl, matching⟩ |
              ⟨items', rfl, matching⟩ | ⟨entries', rfl, keyed', matching⟩ <;>
            cases matching
          · rw [content_list, content_list] at same
            rw [outline_list, outline_list, map_eq_of_map_eq ?_ (Content.ofItems_inj same)]
            exact fun item member item' member' => ih item member (others item' member')
          · rw [content_tuple, content_tuple] at same
            rw [outline_tuple, outline_tuple, map_eq_of_map_eq ?_ (Content.ofItems_inj same)]
            exact fun item member item' member' => ih item member (others item' member')
          · rw [content_map, content_map] at same
            rw [outline_map, outline_map, Entries.arrange_of_content apart keyed keyed' ?_ same]
            intro entry member entry' member'
            exact ih _ (List.mem_map.2 ⟨entry, member, rfl⟩)
              (others _ (List.mem_map.2 ⟨entry', member', rfl⟩))
      | none => exact form.outline_of_single form' shaped same

end

/-- Ordinary data of one content has one outline. -/
theorem outline_of_content (ordinary : t.Everywhere (IsOrdinary functions labels))
    (ordinary' : u.Everywhere (IsOrdinary functions labels)) (same : t.content = u.content) :
    t.outline true = u.outline true :=
  outline_of_form discernible_names (ordinary.mono fun _ here => here.form)
    (ordinary'.mono fun _ here => here.form) same

end Term

end ScopedTemplate
