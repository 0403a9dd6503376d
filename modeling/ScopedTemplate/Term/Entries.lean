import ScopedTemplate.Term.Key

/-!
# Entries

Ordered pairs of keys and values, the contents of mappings and scopes.  A value stored under a key
that is present replaces the value there and keeps the position and the key of the first.
-/

namespace ScopedTemplate

/-- Pairs of a key and a value in insertion order. -/
abbrev Entries := List (Term × Term)

namespace Entries

def find? (entries : Entries) (key : Term) : Option Term :=
  match entries with
  | [] => none
  | entry :: rest => if entry.1.sameKey key then some entry.2 else find? rest key

def has (entries : Entries) (key : Term) : Bool := (find? entries key).isSome

def insert (entries : Entries) (key value : Term) : Entries :=
  match entries with
  | [] => [(key, value)]
  | entry :: rest =>
    if entry.1.sameKey key then (entry.1, value) :: rest else entry :: insert rest key value

/-- Store pairs one after the other. -/
def update (entries additions : Entries) : Entries :=
  additions.foldl (fun result entry => insert result entry.1 entry.2) entries

def ofPairs (pairs : List (Term × Term)) : Entries := update [] pairs

/-- Leave out the entry under a key. -/
def erase (entries : Entries) (key : Term) : Entries :=
  entries.filter fun entry => !entry.1.sameKey key

def keys (entries : Entries) : List Term := entries.map Prod.fst

def values (entries : Entries) : List Term := entries.map Prod.snd

@[simp] theorem find?_nil (key : Term) : find? [] key = none := rfl

theorem find?_cons (entry : Term × Term) (rest : Entries) (key : Term) :
    find? (entry :: rest) key =
      if entry.1.sameKey key then some entry.2 else find? rest key := rfl

@[simp] theorem has_nil (key : Term) : has [] key = false := rfl

theorem has_iff {entries : Entries} {key : Term} :
    has entries key = true ↔ ∃ value, find? entries key = some value := Option.isSome_iff_exists

theorem has_eq_false_iff {entries : Entries} {key : Term} :
    has entries key = false ↔ find? entries key = none :=
  Option.isSome_eq_false_iff.trans Option.isNone_iff_eq_none

@[simp] theorem update_nil (entries : Entries) : update entries [] = entries := rfl

@[simp] theorem update_cons (entries : Entries) (entry : Term × Term) (rest : Entries) :
    update entries (entry :: rest) = update (insert entries entry.1 entry.2) rest := rfl

/-- A stored value is found under every key equal to the one it is stored under. -/
theorem find?_insert (entries : Entries) (key value other : Term) :
    find? (insert entries key value) other =
      if key.sameKey other then some value else find? entries other := by
  induction entries with
  | nil => simp [insert, find?_cons]
  | cons entry rest ih =>
    unfold insert
    split
    next same =>
      rw [find?_cons, find?_cons, Term.sameKey_congr same]
      split <;> rfl
    next different =>
      rw [find?_cons, find?_cons, ih]
      by_cases first : entry.1.sameKey other = true
      · have : key.sameKey other = false := by
          apply Bool.eq_false_iff.2
          intro again
          apply different
          rw [Term.sameKey_congr first, Term.sameKey_comm]
          exact again
        simp [first, this]
      · simp [first]

theorem find?_append (entries more : Entries) (key : Term) :
    find? (entries ++ more) key = (find? entries key <|> find? more key) := by
  induction entries with
  | nil => simp
  | cons entry rest ih =>
    rw [List.cons_append, find?_cons, find?_cons, ih]
    split <;> rfl

/-- The last pair stored under a key is the one that is found. -/
theorem find?_update (entries additions : Entries) (key : Term) :
    find? (update entries additions) key =
      (find? additions.reverse key <|> find? entries key) := by
  induction additions generalizing entries with
  | nil => simp
  | cons entry rest ih =>
    rw [update_cons, ih, find?_insert, List.reverse_cons, find?_append, find?_cons, find?_nil]
    cases find? rest.reverse key with
    | none => split <;> rfl
    | some value => rfl

end Entries

end ScopedTemplate
