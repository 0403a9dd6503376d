import ScopedTemplate.Term.Content

/-!
# Entries in the order of their keys

Sorting entries by their keys keeps every entry, leaves entries of one key in order, and goes along
with a change of the values and with leaving out entries.
-/

namespace ScopedTemplate

namespace Key

theorem ble_iff {left right : Key} : left.ble right = true ↔ left.code.le right.code := by
  simp [ble, List.le]

theorem ble_refl (key : Key) : key.ble key = true := ble_iff.2 (List.le_refl _)

theorem ble_trans {first second third : Key} (before : first.ble second = true)
    (after : second.ble third = true) : first.ble third = true :=
  ble_iff.2 (List.le_trans (ble_iff.1 before) (ble_iff.1 after))

theorem ble_of_not {left right : Key} (after : left.ble right = false) : right.ble left = true := by
  rcases List.le_total left.code right.code with before | before
  · rw [ble_iff.2 before] at after
    cases after
  · exact ble_iff.2 before

end Key

namespace Content

variable {α β : Type}

abbrev Ascends (entries : List (Key × α)) : Prop :=
  entries.Pairwise fun first second => first.1.ble second.1 = true

theorem insertEntry_perm (added : Key × α) (entries : List (Key × α)) :
    (insertEntry added entries).Perm (added :: entries) := by
  induction entries with
  | nil => exact .refl _
  | cons first rest ih =>
      unfold insertEntry
      split
      · exact .refl _
      · exact (ih.cons first).trans (.swap added first rest)

/-- Sorting keeps every entry as often as it occurs. -/
theorem sortEntries_perm (entries : List (Key × α)) : (sortEntries entries).Perm entries := by
  induction entries with
  | nil => exact .refl _
  | cons first rest ih => exact (insertEntry_perm first (sortEntries rest)).trans (ih.cons first)

theorem insertEntry_ascends (added : Key × α) {entries : List (Key × α)}
    (ascends : Ascends entries) : Ascends (insertEntry added entries) := by
  induction entries with
  | nil => simp [insertEntry, Ascends]
  | cons first rest ih =>
      obtain ⟨least, others⟩ := List.pairwise_cons.1 ascends
      unfold insertEntry
      split
      · next before =>
          refine List.pairwise_cons.2 ⟨?_, ascends⟩
          intro other member
          rcases List.mem_cons.1 member with rfl | later
          · exact before
          · exact Key.ble_trans before (least other later)
      · next after =>
          refine List.pairwise_cons.2 ⟨?_, ih others⟩
          intro other member
          rcases List.mem_cons.1 ((insertEntry_perm added rest).mem_iff.1 member) with rfl | later
          · exact Key.ble_of_not (Bool.eq_false_iff.2 after)
          · exact least other later

/-- Sorted entries ascend. -/
theorem sortEntries_ascends (entries : List (Key × α)) : Ascends (sortEntries entries) := by
  induction entries with
  | nil => exact .nil
  | cons first rest ih => exact insertEntry_ascends first ih

theorem insertEntry_map (change : α → β) (added : Key × α) (entries : List (Key × α)) :
    insertEntry (added.1, change added.2) (entries.map fun entry => (entry.1, change entry.2)) =
      (insertEntry added entries).map fun entry => (entry.1, change entry.2) := by
  induction entries with
  | nil => rfl
  | cons first rest ih =>
      rw [List.map_cons]
      unfold insertEntry
      dsimp only
      split
      · rfl
      · rw [ih, List.map_cons]

/-- What is under the keys does not matter for their order. -/
theorem sortEntries_map (change : α → β) (entries : List (Key × α)) :
    sortEntries (entries.map fun entry => (entry.1, change entry.2)) =
      (sortEntries entries).map fun entry => (entry.1, change entry.2) := by
  induction entries with
  | nil => rfl
  | cons first rest ih =>
      rw [List.map_cons]
      unfold sortEntries
      rw [ih]
      exact insertEntry_map change first _

/-- An entry goes before entries with greater keys only, whether others are left out or not. -/
theorem insertEntry_filter (keep : Key × α → Bool) (added : Key × α) {entries : List (Key × α)}
    (ascends : Ascends entries) :
    (insertEntry added entries).filter keep =
      if keep added then insertEntry added (entries.filter keep) else entries.filter keep := by
  induction entries with
  | nil => cases kept : keep added <;> simp [insertEntry, kept]
  | cons first rest ih =>
      obtain ⟨least, others⟩ := List.pairwise_cons.1 ascends
      by_cases before : added.1.ble first.1 = true
      · have least' : ∀ other ∈ rest, added.1.ble other.1 = true :=
          fun other member => Key.ble_trans before (least other member)
        have first_of : insertEntry added (rest.filter keep) = added :: rest.filter keep := by
          cases kept : rest.filter keep with
          | nil => rfl
          | cons other others =>
              have member : other ∈ rest.filter keep := by
                rw [kept]
                exact List.mem_cons_self
              simp [insertEntry, least' other (List.mem_filter.1 member).1]
        cases kept : keep added <;> cases keptFirst : keep first <;>
          simp [insertEntry, before, kept, keptFirst, first_of]
      · cases kept : keep added <;> cases keptFirst : keep first <;>
          simp [insertEntry, before, kept, keptFirst, ih others]

/-- Entries may be left out before or after they are sorted. -/
theorem sortEntries_filter (keep : Key × α → Bool) (entries : List (Key × α)) :
    (sortEntries entries).filter keep = sortEntries (entries.filter keep) := by
  induction entries with
  | nil => rfl
  | cons first rest ih =>
      rw [sortEntries, insertEntry_filter keep first (sortEntries_ascends rest), ih]
      cases kept : keep first <;> simp [kept, sortEntries]

theorem find?_insertEntry {is : Key × α → Bool} {added : Key × α} {entries : List (Key × α)}
    (oneKey : is added = true → ∀ other ∈ entries, is other = true → added.1 = other.1) :
    (insertEntry added entries).find? is = if is added then some added else entries.find? is := by
  induction entries with
  | nil => cases found : is added <;> simp [insertEntry, found]
  | cons first rest ih =>
      have later := ih fun found other member => oneKey found other (List.mem_cons_of_mem _ member)
      by_cases before : added.1.ble first.1 = true
      · cases found : is added <;> simp [insertEntry, before, found]
      · cases found : is added with
        | false => simp [insertEntry, before, List.find?_cons, later, found]
        | true =>
            have differs : is first = false := by
              refine Bool.eq_false_iff.2 fun same => before ?_
              rw [oneKey found first List.mem_cons_self same]
              exact Key.ble_refl _
            simp [insertEntry, before, later, found, differs]

/-- The first entry of a key stays the first. -/
theorem find?_sortEntries {is : Key × α → Bool} {entries : List (Key × α)}
    (oneKey : ∀ first ∈ entries, ∀ second ∈ entries, is first = true → is second = true →
      first.1 = second.1) : (sortEntries entries).find? is = entries.find? is := by
  induction entries with
  | nil => rfl
  | cons first rest ih =>
      have later : (sortEntries rest).find? is = rest.find? is := by
        refine ih fun one member other member' => ?_
        exact oneKey one (List.mem_cons_of_mem _ member) other (List.mem_cons_of_mem _ member')
      rw [sortEntries, find?_insertEntry, later, List.find?_cons]
      · cases is first <;> rfl
      · intro found other member same
        have inside : other ∈ rest := (sortEntries_perm rest).mem_iff.1 member
        exact oneKey first List.mem_cons_self other (List.mem_cons_of_mem _ inside) found same

end Content

end ScopedTemplate
