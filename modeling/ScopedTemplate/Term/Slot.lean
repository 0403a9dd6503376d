import ScopedTemplate.Term.Key

/-!
# The order of a set

A set keeps its elements in a table of slots and shows them slot by slot.  The code of an element
says where the search for a free slot begins; numbers and tuples of numbers have codes of their own,
and a set with other elements shows them as they came.  Whatever the slots, elements are only
reordered.
-/

namespace ScopedTemplate

abbrev wordSize : Nat := twoPow 64

def wordOf (n : Int) : Nat := (n % (wordSize : Int)).toNat

def signedOf (word : Nat) : Int :=
  if word < wordSize / 2 then word else (word : Int) - wordSize

namespace Key

def codeModulus : Nat := twoPow 61 - 1

/-- The power of two that one unit is, modulo the prime: `-1074` and this differ by `18 * 61`. -/
def unitTurn : Nat := 24

def settledCode (code : Int) : Int := if code = -1 then -2 else code

def numberCode (units : Int) : Int :=
  settledCode (units.sign * (units.natAbs * twoPow unitTurn % codeModulus : Nat))

def infinityCode : Int := 314159

def tuplePrimes : Nat × Nat × Nat :=
  (11400714785074694791, 14029467366897019727, 2870177450012600261)

def turned (count word : Nat) : Nat :=
  word * twoPow count % wordSize + word / twoPow (64 - count)

def tupleStep (total : Nat) (code : Int) : Nat :=
  turned 31 ((total + wordOf code * tuplePrimes.2.1) % wordSize) * tuplePrimes.1 % wordSize

def tupleCode (codes : List Int) : Int :=
  let start := tuplePrimes.2.2
  let total := (codes.foldl tupleStep start + (codes.length ^^^ (start ^^^ 3527539))) % wordSize
  if total + 1 = wordSize then 1546275796 else signedOf total

mutual

def slotCode? : Key → Option Int
  | .number units => some (numberCode units)
  | .infinity negative => some (if negative then -infinityCode else infinityCode)
  | .done => some (tupleCode [])
  | .item head rest => do return tupleCode ((← slotCode? head) :: (← itemCodes? rest))
  | _ => none

def itemCodes? : Key → Option (List Int)
  | .done => some []
  | .item head rest => do return (← slotCode? head) :: (← itemCodes? rest)
  | _ => none

end

end Key

/-- A table with the elements by the slots they take, one slot more than `last`. -/
structure SlotTable (α : Type) where
  last : Nat
  taken : List (Nat × Int × α)

namespace SlotTable

variable {α : Type}

def empty : SlotTable α := ⟨7, []⟩

def rowLength : Nat := 9

def takes (table : SlotTable α) (slot : Nat) : Bool := table.taken.any (·.1 == slot)

def row (table : SlotTable α) (slot : Nat) : List Nat :=
  if slot + rowLength ≤ table.last then List.range' slot (rowLength + 1) else [slot]

/-- The free slot that a search finds; the rest of the code decides where it goes on. -/
def search (table : SlotTable α) : Nat → Nat → Nat → Nat
  | 0, _, slot => slot
  | fuel + 1, code, slot =>
    match (table.row slot).find? (!table.takes ·) with
    | some free => free
    | none =>
      let code := code / 32
      table.search fuel code ((slot * 5 + 1 + code) % (table.last + 1))

/-- The free slot for a code: once the code is used up, every slot is met. -/
def slotFor (table : SlotTable α) (code : Int) : Nat :=
  table.search (table.last + 16) (wordOf code) (wordOf code % (table.last + 1))

def place (table : SlotTable α) (entry : Int × α) : SlotTable α :=
  { table with taken := (table.slotFor entry.1, entry) :: table.taken }

/-- The elements with their codes, slot by slot. -/
def entries (table : SlotTable α) : List (Int × α) :=
  (table.taken.mergeSort fun left right => decide (left.1 ≤ right.1)).map Prod.snd

def slotsAbove (bound : Nat) : Nat → Nat → Nat
  | 0, slots => slots
  | fuel + 1, slots => if bound < slots then slots else slotsAbove bound fuel (2 * slots)

def largeTable : Nat := 50000

def grow (table : SlotTable α) : SlotTable α :=
  let size := table.taken.length
  let slots := slotsAbove (if largeTable < size then 2 * size else 4 * size) size 8
  table.entries.foldl place ⟨slots - 1, []⟩

/-- Add an element that the table does not have; a table fills up to three fifths. -/
def add (table : SlotTable α) (entry : Int × α) : SlotTable α :=
  let table := table.place entry
  if 5 * table.taken.length < 3 * table.last then table else table.grow

def elements (table : SlotTable α) : List (Int × α) := table.taken.map Prod.snd

@[simp] theorem elements_empty : (empty : SlotTable α).elements = [] := rfl

@[simp] theorem elements_place (table : SlotTable α) (entry : Int × α) :
    (table.place entry).elements = entry :: table.elements := rfl

theorem entries_perm (table : SlotTable α) : table.entries.Perm table.elements :=
  (List.mergeSort_perm _ _).map _

theorem foldl_place_perm (entries : List (Int × α)) (table : SlotTable α) :
    (entries.foldl place table).elements.Perm (entries ++ table.elements) := by
  induction entries generalizing table with
  | nil => exact List.Perm.refl _
  | cons entry rest ih => exact (ih (table.place entry)).trans List.perm_middle

theorem grow_perm (table : SlotTable α) : table.grow.elements.Perm table.elements := by
  have placed := foldl_place_perm table.entries
    ⟨slotsAbove (if largeTable < table.taken.length then 2 * table.taken.length
      else 4 * table.taken.length) table.taken.length 8 - 1, []⟩
  rw [show ∀ last, (⟨last, []⟩ : SlotTable α).elements = [] from fun _ => rfl,
    List.append_nil] at placed
  exact placed.trans table.entries_perm

theorem add_perm (table : SlotTable α) (entry : Int × α) :
    (table.add entry).elements.Perm (entry :: table.elements) := by
  unfold add
  dsimp only
  split
  · exact List.Perm.refl _
  · exact grow_perm _

theorem foldl_add_perm (entries : List (Int × α)) (table : SlotTable α) :
    (entries.foldl add table).elements.Perm (entries ++ table.elements) := by
  induction entries generalizing table with
  | nil => exact List.Perm.refl _
  | cons entry rest ih =>
    exact (ih (table.add entry)).trans
      (((add_perm table entry).append_left rest).trans List.perm_middle)

end SlotTable

namespace Term

def withCode? (t : Term) : Option (Int × Term) := do return (← (← t.key?).slotCode?, t)

def inSlots (items : List Term) : List Term :=
  match items.mapM withCode? with
  | some entries => (entries.foldl SlotTable.add .empty).entries.map Prod.snd
  | none => items

theorem map_snd_of_mapM {items : List Term} {entries : List (Int × Term)}
    (found : items.mapM withCode? = some entries) : entries.map Prod.snd = items := by
  induction items generalizing entries with
  | nil => simp_all
  | cons t rest ih =>
    simp only [List.mapM_cons, Option.bind_eq_bind, Option.bind_eq_some_iff, Option.pure_def,
      Option.some.injEq, withCode?] at found
    obtain ⟨first, ⟨key, _, code, _, rfl⟩, others, hothers, rfl⟩ := found
    rw [List.map_cons, ih hothers]

/-- A set only reorders its elements. -/
theorem inSlots_perm (items : List Term) : (inSlots items).Perm items := by
  unfold inSlots
  split
  · next entries found =>
    have placed := (SlotTable.entries_perm _).trans (SlotTable.foldl_add_perm entries .empty)
    rw [SlotTable.elements_empty, List.append_nil] at placed
    have shown := placed.map Prod.snd
    rwa [map_snd_of_mapM found] at shown
  · exact List.Perm.refl _

end Term

end ScopedTemplate
