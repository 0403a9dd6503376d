/-!
# Sorted texts

Texts in ascending order of their code points.
-/

namespace ScopedTemplate.Text

def insertSorted (text : String) : List String → List String
  | [] => [text]
  | first :: rest => if text ≤ first then text :: first :: rest else first :: insertSorted text rest

def sort : List String → List String
  | [] => []
  | text :: rest => insertSorted text (sort rest)

theorem insertSorted_perm (text : String) (texts : List String) :
    (insertSorted text texts).Perm (text :: texts) := by
  induction texts with
  | nil => exact .refl _
  | cons first rest ih =>
    unfold insertSorted
    split
    · exact .refl _
    · exact (ih.cons first).trans (.swap text first rest)

/-- Sorting keeps every text as often as it occurs. -/
theorem sort_perm (texts : List String) : (sort texts).Perm texts := by
  induction texts with
  | nil => exact .refl _
  | cons text rest ih => exact (insertSorted_perm text (sort rest)).trans (ih.cons text)

theorem insertSorted_pairwise (text : String) {texts : List String}
    (sorted : texts.Pairwise (· ≤ ·)) : (insertSorted text texts).Pairwise (· ≤ ·) := by
  induction texts with
  | nil => simp [insertSorted]
  | cons first rest ih =>
    obtain ⟨least, restSorted⟩ := List.pairwise_cons.1 sorted
    unfold insertSorted
    split
    next before =>
      refine List.pairwise_cons.2 ⟨?_, sorted⟩
      intro other member
      rcases List.mem_cons.1 member with rfl | later
      · exact before
      · exact String.le_trans before (least other later)
    next after =>
      refine List.pairwise_cons.2 ⟨?_, ih restSorted⟩
      intro other member
      rcases List.mem_cons.1 ((insertSorted_perm text rest).mem_iff.1 member) with rfl | later
      · exact (String.le_total first other).resolve_right after
      · exact least other later

/-- Sorted texts ascend. -/
theorem sort_pairwise (texts : List String) : (sort texts).Pairwise (· ≤ ·) := by
  induction texts with
  | nil => exact .nil
  | cons text rest ih => exact insertSorted_pairwise text ih

/-- Keep the first of equal texts. -/
def distinct : List String → List String
  | [] => []
  | text :: rest => text :: (distinct rest).filter (· != text)

/-- No text is lost. -/
@[simp] theorem mem_distinct {text : String} {texts : List String} :
    text ∈ distinct texts ↔ text ∈ texts := by
  induction texts with
  | nil => simp [distinct]
  | cons first rest ih =>
    by_cases same : text = first <;> simp [distinct, same, ih]

theorem distinct_nodup (texts : List String) : (distinct texts).Nodup := by
  induction texts with
  | nil => exact .nil
  | cons text rest ih =>
    refine List.nodup_cons.2 ⟨?_, ih.filter _⟩
    simp

end ScopedTemplate.Text
