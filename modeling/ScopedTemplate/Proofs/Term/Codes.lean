import ScopedTemplate.Proofs.Term.Sorted

/-!
# Codes of keys

No code of a key begins another one, so that two keys which are not before each other are equal, and
sorted entries are the same if they have the same entries of each key in the same order.
-/

namespace ScopedTemplate

namespace Key

/-- A text is known by its code, whatever comes after that. -/
theorem textCode_append_inj {s t : String} {rest rest' : List Nat}
    (same : textCode s ++ rest = textCode t ++ rest') : s = t ∧ rest = rest' := by
  unfold textCode at same
  obtain ⟨size, same⟩ := List.cons.inj same
  have sizes : (s.toList.map Char.toNat).length = (t.toList.map Char.toNat).length := by
    rw [List.length_map, List.length_map, String.length_toList, String.length_toList, size]
  obtain ⟨chars, after⟩ := List.append_inj same sizes
  exact ⟨String.toList_inj.1 ((List.map_inj_right fun _ _ => Char.toNat_inj.1).1 chars), after⟩

theorem intCode_injective {m n : Int} (same : intCode m = intCode n) : m = n := by
  cases m <;> cases n <;> simp [intCode] at same ⊢ <;> omega

/-- A key is known by its code, whatever comes after that. -/
theorem code_append_inj {key key' : Key} {rest rest' : List Nat}
    (same : key.code ++ rest = key'.code ++ rest') : key = key' ∧ rest = rest' := by
  induction key generalizing key' rest rest' with
  | null => cases key' <;> simp_all [code]
  | removed => cases key' <;> simp_all [code]
  | done => cases key' <;> simp_all [code]
  | number units =>
      cases key' with
      | number units' =>
          obtain ⟨units, after⟩ := by simpa [code] using same
          exact ⟨congrArg number (intCode_injective units), after⟩
      | _ => simp [code] at same
  | infinity negative =>
      cases key' with
      | infinity negative' =>
          obtain ⟨sign, after⟩ := by simpa [code] using same
          exact ⟨congrArg infinity (by cases negative <;> cases negative' <;> simp_all), after⟩
      | _ => simp [code] at same
  | nan stamp =>
      cases key' with
      | nan stamp' => simpa [code] using same
      | _ => simp [code] at same
  | object stamp =>
      cases key' with
      | object stamp' => simpa [code] using same
      | _ => simp [code] at same
  | text value =>
      cases key' with
      | text value' =>
          obtain ⟨value, after⟩ := textCode_append_inj (List.cons.inj same).2
          exact ⟨congrArg text value, after⟩
      | _ => simp [code] at same
  | builtin name =>
      cases key' with
      | builtin name' =>
          obtain ⟨name, after⟩ := textCode_append_inj (List.cons.inj same).2
          exact ⟨congrArg builtin name, after⟩
      | _ => simp [code] at same
  | bytes value =>
      cases key' with
      | bytes value' =>
          obtain ⟨size, same⟩ := List.cons.inj (List.cons.inj same).2
          have sizes : (value.map UInt8.toNat).length = (value'.map UInt8.toNat).length := by
            rw [List.length_map, List.length_map, size]
          obtain ⟨bytes, after⟩ := List.append_inj same sizes
          have equal := (List.map_inj_right fun _ _ => UInt8.toNat_inj.1).1 bytes
          exact ⟨congrArg Key.bytes equal, after⟩
      | _ => simp [code] at same
  | type name =>
      cases key' with
      | type name' =>
          simp only [code, List.cons_append, List.append_assoc, List.cons.injEq, true_and] at same
          obtain ⟨module, same⟩ := textCode_append_inj same
          obtain ⟨own, after⟩ := textCode_append_inj same
          cases name
          cases name'
          simp_all
      | _ => simp [code] at same
  | internal own =>
      cases key' with
      | internal own' =>
          simp only [code, List.cons_append, List.append_assoc, List.cons.injEq, true_and] at same
          obtain ⟨module, same⟩ := textCode_append_inj same
          obtain ⟨name, after⟩ := textCode_append_inj same
          cases own
          cases own'
          simp_all
      | _ => simp [code] at same
  | item head rest ihHead ihRest =>
      cases key' with
      | item head' rest' =>
          simp only [code, List.cons_append, List.append_assoc, List.cons.injEq, true_and] at same
          obtain ⟨rfl, next⟩ := ihHead same
          obtain ⟨rfl, after⟩ := ihRest next
          exact ⟨rfl, after⟩
      | _ => simp [code] at same

theorem code_injective {key key' : Key} (same : key.code = key'.code) : key = key' :=
  (code_append_inj (congrArg (· ++ []) same)).1

theorem ble_antisymm {key key' : Key} (before : key.ble key' = true) (after : key'.ble key = true) :
    key = key' :=
  code_injective (List.le_antisymm (ble_iff.1 before) (ble_iff.1 after))

end Key

namespace Content

variable {α : Type}

def underKey (key : Key) (entries : List (Key × α)) : List (Key × α) :=
  entries.filter (·.1 = key)

theorem mem_underKey {entries : List (Key × α)} {entry : Key × α} :
    entry ∈ underKey entry.1 entries ↔ entry ∈ entries := by
  simp [underKey]

/-- Entries of one key are left in order. -/
theorem underKey_sortEntries (key : Key) (entries : List (Key × α)) :
    underKey key (sortEntries entries) = underKey key entries := by
  unfold underKey
  rw [sortEntries_filter]
  have oneKey : ∀ entry ∈ entries.filter (·.1 = key), entry.1 = key := by simp
  generalize entries.filter (·.1 = key) = under at oneKey
  induction under with
  | nil => rfl
  | cons first rest ih =>
      obtain ⟨here, others⟩ := List.forall_mem_cons.1 oneKey
      rw [sortEntries, ih others]
      cases rest with
      | nil => rfl
      | cons second rest =>
          have next := others second List.mem_cons_self
          unfold insertEntry
          rw [if_pos (by rw [here, next]; exact key.ble_refl)]

/-- Entries that ascend are known by those of each key. -/
theorem Ascends.eq_of_underKey {entries entries' : List (Key × α)} (ascends : Ascends entries)
    (ascends' : Ascends entries') (same : ∀ key, underKey key entries = underKey key entries') :
    entries = entries' := by
  induction entries generalizing entries' with
  | nil =>
      cases entries' with
      | nil => rfl
      | cons first rest =>
          have among : first ∈ underKey first.1 (first :: rest) :=
            mem_underKey.2 List.mem_cons_self
          rw [← same] at among
          cases among
  | cons first rest ih =>
      have among : first ∈ entries' := by
        refine mem_underKey.1 ?_
        rw [← same]
        exact mem_underKey.2 List.mem_cons_self
      cases entries' with
      | nil => cases among
      | cons first' rest' =>
          obtain ⟨least, others⟩ := List.pairwise_cons.1 ascends
          obtain ⟨least', others'⟩ := List.pairwise_cons.1 ascends'
          have among' : first' ∈ first :: rest := by
            refine mem_underKey.1 ?_
            rw [same]
            exact mem_underKey.2 List.mem_cons_self
          have keys : first.1 = first'.1 := by
            rcases List.mem_cons.1 among with rfl | later
            · rfl
            · rcases List.mem_cons.1 among' with rfl | later'
              · rfl
              · exact Key.ble_antisymm (least _ later') (least' _ later)
          have heads := same first.1
          unfold underKey at heads
          rw [List.filter_cons_of_pos (by simp), List.filter_cons_of_pos (by simp [keys])] at heads
          obtain ⟨rfl, -⟩ := List.cons.inj heads
          refine congrArg (first :: ·) (ih others others' fun key => ?_)
          have under := same key
          unfold underKey at under ⊢
          rw [List.filter_cons, List.filter_cons] at under
          split at under
          · exact (List.cons.inj under).2
          · exact under

/-- The content of a mapping says what is under each key, in order, and nothing else. -/
theorem sortEntries_eq_iff {entries entries' : List (Key × α)} :
    sortEntries entries = sortEntries entries' ↔
      ∀ key, underKey key entries = underKey key entries' := by
  refine ⟨fun same key => ?_, fun same => ?_⟩
  · rw [← underKey_sortEntries, same, underKey_sortEntries]
  · refine (sortEntries_ascends entries).eq_of_underKey (sortEntries_ascends entries') fun key => ?_
    rw [underKey_sortEntries, underKey_sortEntries, same]

end Content

end ScopedTemplate
