import ScopedTemplate.Proofs.Lockstep.Shown
import ScopedTemplate.Resolver.Reading

/-!
# Comparisons in two runs

Terms that are alike are equal to, contained in and less than the same terms, and what fails fails
alike: with equal failures, but for the key that is missing.
-/

namespace List.Forall₂

variable {α β : Type} {R : α → β → Prop} {items : List α} {items' : List β}

theorem all_eq (each : List.Forall₂ R items items') {f : α → Bool} {g : β → Bool}
    (same : ∀ {a b}, R a b → f a = g b) : items.all f = items'.all g := by
  induction each with
  | nil => rfl
  | cons first _ ih => rw [List.all_cons, List.all_cons, same first, ih]

theorem any_eq (each : List.Forall₂ R items items') {f : α → Bool} {g : β → Bool}
    (same : ∀ {a b}, R a b → f a = g b) : items.any f = items'.any g := by
  induction each with
  | nil => rfl
  | cons first _ ih => rw [List.any_cons, List.any_cons, same first, ih]

end List.Forall₂

namespace ScopedTemplate

open Term

/-! ## Equality -/

namespace Term

def equalsInside (left right : Term) : Bool :=
  match left, right with
  | .list _ _ items, .list _ _ others => equalItems items others
  | .tuple _ items, .tuple _ others => equalItems items others
  | .tuple _ items, .point _ others => equalItems items others
  | .point _ items, .tuple _ others => equalItems items others
  | .point _ items, .point _ others => equalItems items others
  | .map _ _ entries, .map _ _ others =>
    entries.length == others.length && equalEntries entries others
  | .set _ items, .set _ others =>
    items.length == others.length && items.all fun item => others.any item.sameKey
  | _, _ => false

theorem equals_eq (left right : Term) :
    left.equals right = (left.sameKey right || left.equalsInside right) := by
  unfold Term.equals equalsInside
  rfl

/-- Nothing is in an atom. -/
theorem equalsInside_atom (t : Term) {u : Term} (atom : u.isAtom = true) :
    t.equalsInside u = false := by
  cases u <;> first
    | (cases t <;> rfl)
    | cases atom

theorem atom_equalsInside {t : Term} (atom : t.isAtom = true) (u : Term) :
    t.equalsInside u = false := by
  cases t <;> first
    | (cases u <;> rfl)
    | cases atom

end Term

namespace Pairing

variable {p : Pairing} {t t' u u' : Term}

def EqualInside (p : Pairing) (t t' : Term) : Prop :=
  ∀ {u u'}, p.Alike u u' → t.equalsInside u = t'.equalsInside u'

theorem equals_of_inside (alike : p.Alike t t') (inside : p.EqualInside t t')
    (other : p.Alike u u') : t.equals u = t'.equals u' := by
  rw [equals_eq, equals_eq, alike.sameKey other, inside other]

theorem equalItems_eq {items items' others others' : List Term}
    (each : List.Forall₂ (fun s s' => p.Alike s s' ∧ p.EqualInside s s') items items')
    (more : List.Forall₂ p.Alike others others') :
    equalItems items others = equalItems items' others' := by
  induction each generalizing others others' with
  | nil => cases more <;> simp only [equalItems]
  | cons first _ ih =>
      cases more with
      | nil => simp only [equalItems]
      | cons other more =>
          simp only [equalItems]
          rw [equals_of_inside first.1 first.2 other, ih more]

theorem equalEntries_eq {entries entries' others others' : Entries}
    (each : List.Forall₂ (fun entry entry' =>
      (p.Alike entry.1 entry'.1 ∧ p.EqualInside entry.1 entry'.1) ∧
        p.Alike entry.2 entry'.2 ∧ p.EqualInside entry.2 entry'.2) entries entries')
    (more : p.AlikeEntries others others') :
    equalEntries entries others = equalEntries entries' others' := by
  induction each with
  | nil => simp only [equalEntries]
  | cons first _ ih =>
      simp only [equalEntries]
      rw [ih]
      rcases (more.find? first.1.1).cases_eq with
        ⟨missing, missing'⟩ | ⟨_, _, found, found', holds⟩
      · rw [missing, missing']
        rfl
      · rw [found, found', Option.any_some, Option.any_some,
          equals_of_inside first.2.1 first.2.2 holds]

theorem Alike.equalsInside (alike : p.Alike t t') : p.EqualInside t t' := by
  refine Alike.by_shape (motive := p.EqualInside) alike ?atom ?list ?tuple ?map ?set ?point
    ?function ?callable ?view
  case atom =>
    intro t atom u u' other
    rw [atom_equalsInside atom, atom_equalsInside atom]
  case list =>
    intro kind stamp items items' each u u' other
    cases other.shape with
    | atom atom => rw [equalsInside_atom _ atom, equalsInside_atom _ atom]
    | list => exact equalItems_eq each (alike_list.1 other)
    | _ => rfl
  case tuple =>
    intro stamp items items' each u u' other
    cases other.shape with
    | atom atom => rw [equalsInside_atom _ atom, equalsInside_atom _ atom]
    | tuple => exact equalItems_eq each (alike_tuple.1 other)
    | point => exact equalItems_eq each (alike_point.1 other)
    | _ => rfl
  case point =>
    intro stamp items items' each u u' other
    cases other.shape with
    | atom atom => rw [equalsInside_atom _ atom, equalsInside_atom _ atom]
    | tuple => exact equalItems_eq each (alike_tuple.1 other)
    | point => exact equalItems_eq each (alike_point.1 other)
    | _ => rfl
  case map =>
    intro kind stamp entries entries' each u u' other
    cases other.shape with
    | atom atom => rw [equalsInside_atom _ atom, equalsInside_atom _ atom]
    | map kind stamp size =>
        simp only [Term.equalsInside]
        rw [equalEntries_eq each (alike_map.1 other), each.length_eq, size]
    | _ => rfl
  case set =>
    intro stamp items items' each u u' other
    cases other.shape with
    | atom atom => rw [equalsInside_atom _ atom, equalsInside_atom _ atom]
    | set stamp size =>
        have inside := alike_set.1 other
        simp only [Term.equalsInside]
        rw [each.length_eq, size,
          each.all_eq fun both => inside.any_eq fun more => both.1.sameKey more]
    | _ => rfl
  case function =>
    intro stamp name deps doc callee callee' _ _ u u' other
    cases other.shape with
    | atom atom => rw [equalsInside_atom _ atom, equalsInside_atom _ atom]
    | _ => rfl
  case callable =>
    intro kind stamp label name body _ _ u u' other
    cases other.shape <;> rfl
  case view =>
    intro stamp resolver resolver' env env' cache _ u u' other
    cases other.shape with
    | atom atom => rw [equalsInside_atom _ atom, equalsInside_atom _ atom]
    | _ => rfl

theorem Alike.equals (alike : p.Alike t t') (other : p.Alike u u') : t.equals u = t'.equals u' :=
  equals_of_inside alike alike.equalsInside other

/-! ## Order -/

theorem Alike.derivesFrom (alike : p.Alike t t') (other : p.Alike u u') :
    t.derivesFrom u = t'.derivesFrom u' := by
  unfold Term.derivesFrom
  rw [alike.baseType?, other.exactType]

theorem Alike.readsBack (back : Bool) (alike : p.Alike t t') (other : p.Alike u u') :
    Term.readsBack back t u = Term.readsBack back t' u' := by
  unfold Term.readsBack
  rw [alike.derivesFrom other, other.derivesFrom alike]

def orderedByKey : Term → Bool
  | .text _ _ | .bytes _ | .set _ _ => false
  | _ => true

theorem plainLess?_of_left {t : Term} (keyed : orderedByKey t = true) (u : Term) :
    plainLess? t u = (t.key?.bind fun k => u.key?.bind fun l => Key.numberLess? k l) := by
  cases t <;> first
    | (cases u <;> rfl)
    | cases keyed

theorem plainLess?_of_right (t : Term) {u : Term} (keyed : orderedByKey u = true) :
    plainLess? t u = (t.key?.bind fun k => u.key?.bind fun l => Key.numberLess? k l) := by
  cases u <;> first
    | (cases t <;> rfl)
    | cases keyed

theorem Alike.plainLess? (alike : p.Alike t t') (other : p.Alike u u') :
    Term.plainLess? t u = Term.plainLess? t' u' := by
  have left : orderedByKey t = orderedByKey t' := by cases alike.shape <;> rfl
  have right : orderedByKey u = orderedByKey u' := by cases other.shape <;> rfl
  cases keyed : orderedByKey t with
  | true =>
      rw [plainLess?_of_left keyed, plainLess?_of_left (left ▸ keyed), alike.key?, other.key?]
  | false =>
      cases keyed' : orderedByKey u with
      | true =>
          rw [plainLess?_of_right _ keyed', plainLess?_of_right _ (right ▸ keyed'), alike.key?,
            other.key?]
      | false =>
          cases alike.shape with
          | atom atom =>
              cases other.shape with
              | atom => rfl
              | set => cases t <;> first | rfl | cases atom
              | _ => cases keyed'
          | set _ size =>
              cases other.shape with
              | atom atom => cases u <;> first | rfl | cases atom
              | set _ size' =>
                  have inside := alike_set.1 other
                  simp only [Term.plainLess?]
                  rw [size, size',
                    (alike_set.1 alike).all_eq fun same => inside.any_eq fun more => same.sameKey more]
              | _ => cases keyed'
          | _ => cases keyed

theorem Alike.unordered (back : Bool) (alike : p.Alike t t') (other : p.Alike u u') :
    Term.unordered back t u = Term.unordered back t' u' := by
  unfold Term.unordered
  rw [alike.typeName, other.typeName]

def lessPlain (back : Bool) (t u : Term) : Except Failure Bool :=
  match Term.plainLess? t u with
  | some answer => .ok answer
  | none => .error (Term.unordered back t u)

theorem Alike.lessPlain (back : Bool) (alike : p.Alike t t') (other : p.Alike u u') :
    Pairing.lessPlain back t u = Pairing.lessPlain back t' u' := by
  unfold Pairing.lessPlain
  rw [alike.plainLess? other, alike.unordered back other]

def orderedInside : Term → Bool
  | .list _ _ _ | .tuple _ _ | .point _ _ => true
  | _ => false

theorem less_of_left (back : Bool) {t : Term} (plain : orderedInside t = false) (u : Term) :
    less back t u = Pairing.lessPlain back t u := by
  cases t <;> first
    | (cases u <;> rfl)
    | cases plain

theorem less_of_right (back : Bool) (t : Term) {u : Term} (plain : orderedInside u = false) :
    less back t u = Pairing.lessPlain back t u := by
  cases u <;> first
    | (cases t <;> rfl)
    | cases plain

theorem orderedInside_of_isAtom {t : Term} (atom : t.isAtom = true) : orderedInside t = false := by
  cases t <;> first
    | rfl
    | cases atom

theorem Alike.orderedInside (alike : p.Alike t t') :
    Pairing.orderedInside t = Pairing.orderedInside t' := by
  cases alike.shape <;> rfl

def LessAlike (p : Pairing) (t t' : Term) : Prop :=
  ∀ back {u u'}, p.Alike u u' → less back t u = less back t' u'

theorem lessAlike_of_plain (alike : p.Alike t t') (plain : orderedInside t = false) :
    p.LessAlike t t' := by
  intro back u u' other
  rw [less_of_left back plain, less_of_left back (alike.orderedInside ▸ plain),
    alike.lessPlain back other]

theorem less_eq_of_plain (back : Bool) (alike : p.Alike t t') (other : p.Alike u u')
    (plain : orderedInside u = false) : less back t u = less back t' u' := by
  rw [less_of_right back t plain, less_of_right back t' (other.orderedInside ▸ plain),
    alike.lessPlain back other]

theorem lessItems_eq {items items' others others' : List Term}
    (each : List.Forall₂ (fun s s' => p.Alike s s' ∧ p.LessAlike s s') items items')
    (more : List.Forall₂ p.Alike others others') (back : Bool) :
    lessItems back items others = lessItems back items' others' := by
  induction each generalizing others others' with
  | nil => cases more <;> simp only [lessItems, List.isEmpty]
  | cons first _ ih =>
      cases more with
      | nil => simp only [lessItems]
      | cons other more =>
          simp only [lessItems]
          rw [first.1.equals other, ih more, first.2 back other]

theorem Alike.less (alike : p.Alike t t') : p.LessAlike t t' := by
  refine Alike.by_shape (motive := p.LessAlike) alike ?atom ?list ?tuple ?map ?set ?point
    ?function ?callable ?view
  case atom => exact fun t atom => lessAlike_of_plain (alike_atom atom) (orderedInside_of_isAtom atom)
  case list =>
    intro kind stamp items items' each back u u' other
    have whole : p.Alike (.list kind stamp items) (.list kind stamp items') :=
      alike_list.2 (each.imp fun _ _ both => both.1)
    cases other.shape with
    | list =>
        simp only [Term.less]
        rw [whole.readsBack back other, lessItems_eq each (alike_list.1 other)]
    | atom atom => exact less_eq_of_plain back whole other (orderedInside_of_isAtom atom)
    | tuple | point => exact whole.lessPlain back other
    | _ => exact less_eq_of_plain back whole other rfl
  case tuple =>
    intro stamp items items' each back u u' other
    have whole : p.Alike (.tuple stamp items) (.tuple stamp items') :=
      alike_tuple.2 (each.imp fun _ _ both => both.1)
    cases other.shape with
    | tuple =>
        simp only [Term.less]
        rw [whole.readsBack back other, lessItems_eq each (alike_tuple.1 other)]
    | point =>
        simp only [Term.less]
        rw [whole.readsBack back other, lessItems_eq each (alike_point.1 other)]
    | atom atom => exact less_eq_of_plain back whole other (orderedInside_of_isAtom atom)
    | list => exact whole.lessPlain back other
    | _ => exact less_eq_of_plain back whole other rfl
  case point =>
    intro stamp items items' each back u u' other
    have whole : p.Alike (.point stamp items) (.point stamp items') :=
      alike_point.2 (each.imp fun _ _ both => both.1)
    cases other.shape with
    | tuple =>
        simp only [Term.less]
        rw [whole.readsBack back other, lessItems_eq each (alike_tuple.1 other)]
    | point =>
        simp only [Term.less]
        rw [whole.readsBack back other, lessItems_eq each (alike_point.1 other)]
    | atom atom => exact less_eq_of_plain back whole other (orderedInside_of_isAtom atom)
    | list => exact whole.lessPlain back other
    | _ => exact less_eq_of_plain back whole other rfl
  case map =>
    intro kind stamp entries entries' each
    exact lessAlike_of_plain (alike_map.2 (each.imp fun _ _ both => ⟨both.1.1, both.2.1⟩)) rfl
  case set =>
    intro stamp items items' each
    exact lessAlike_of_plain (alike_set.2 (each.imp fun _ _ both => both.1)) rfl
  case function =>
    intro stamp name deps doc callee callee' called each
    exact lessAlike_of_plain (alike_function.2 ⟨called, each.imp fun _ _ both => both.1⟩) rfl
  case callable =>
    intro kind stamp label name body permitted constants
    exact lessAlike_of_plain (alike_callable.2 ⟨permitted, fun t member => (constants t member).1⟩) rfl
  case view => exact fun _ _ _ _ _ _ alike => lessAlike_of_plain alike rfl

end Pairing

end ScopedTemplate
