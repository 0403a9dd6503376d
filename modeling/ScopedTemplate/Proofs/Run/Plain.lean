import ScopedTemplate.Resolver.Resolve

/-!
# Plain failures

Two failures come from the run itself: levels of nesting run out, or a table was closed.  What is read out
of terms, and what is checked of them, fails for other reasons only.
-/

namespace ScopedTemplate

def Failure.isPlain : Failure → Bool
  | .exhausted | .closed => false
  | _ => true

theorem Failure.ne_exhausted {failure : Failure} (plain : failure.isPlain = true) :
    failure ≠ .exhausted := by
  rintro rfl
  cases plain

theorem Failure.ne_closed {failure : Failure} (plain : failure.isPlain = true) :
    failure ≠ .closed := by
  rintro rfl
  cases plain

def FailsPlainly {α : Type} (result : Except Failure α) : Prop :=
  ∀ failure, result = .error failure → failure.isPlain = true

namespace FailsPlainly

variable {α β : Type}

theorem ok (value : α) : FailsPlainly (.ok value) := nofun

theorem error {failure : Failure} (plain : failure.isPlain = true) :
    FailsPlainly (.error failure : Except Failure α) := by
  rintro _ ⟨⟩
  exact plain

theorem bind {first : Except Failure α} {next : α → Except Failure β}
    (plainly : FailsPlainly first) (then_plainly : ∀ value, FailsPlainly (next value)) :
    FailsPlainly (first >>= next) := by
  cases first with
  | error failure => exact error (plainly failure rfl)
  | ok value => exact then_plainly value

theorem elim (found : Option α) {failure : Failure} (plain : failure.isPlain = true) :
    FailsPlainly (found.elim (Except.error failure) Except.ok) := by
  cases found with
  | none => exact error plain
  | some value => exact ok value

end FailsPlainly

/-! ## Reading -/

namespace Term

theorem checkKey_plainly (t : Term) : FailsPlainly t.checkKey := by
  unfold checkKey
  split
  · exact .error rfl
  · exact .ok ()

theorem valueUnder_plainly (entries : Entries) (key : Term) :
    FailsPlainly (valueUnder entries key) :=
  key.checkKey_plainly.bind fun _ => .elim _ rfl

theorem elementBy_plainly (noun : String) (items : List Term) (key : Term) :
    FailsPlainly (elementBy noun items key) := by
  unfold elementBy
  split
  · exact .error rfl
  · exact .elim _ rfl

theorem subscript_plainly (t key : Term) : FailsPlainly (t.subscript key) := by
  unfold subscript
  split
  · exact valueUnder_plainly _ _
  · exact elementBy_plainly _ _ _
  · exact elementBy_plainly _ _ _
  · exact elementBy_plainly _ _ _
  · exact elementBy_plainly _ _ _
  · exact .error rfl

theorem contains_plainly (t item : Term) : FailsPlainly (t.contains item) := by
  unfold contains
  split
  · exact item.checkKey_plainly.bind fun _ => .ok _
  · exact item.checkKey_plainly.bind fun _ => .ok _
  · exact .ok _
  · exact .ok _
  · exact .ok _
  · split
    · exact .ok _
    · exact .error rfl
  · exact .error rfl

theorem item_plainly (t key : Term) : FailsPlainly (t.item key) := by
  have element : ∀ items, FailsPlainly (elementAt items key) := by
    intro items
    unfold elementAt
    split
    · exact .elim _ rfl
    · exact .error rfl
  unfold item
  split
  · exact valueUnder_plainly _ _
  · exact element _
  · exact element _
  · exact element _
  · exact .error rfl

/-! ## Order -/

mutual

theorem less_plainly (back : Bool) (left right : Term) : FailsPlainly (less back left right) := by
  unfold less
  split
  · exact lessItems_plainly _ _ _
  · exact lessItems_plainly _ _ _
  · exact lessItems_plainly _ _ _
  · exact lessItems_plainly _ _ _
  · exact lessItems_plainly _ _ _
  · split
    · exact .ok _
    · exact .error rfl

theorem lessItems_plainly (back : Bool) (items others : List Term) :
    FailsPlainly (lessItems back items others) := by
  unfold lessItems
  split
  · exact .ok _
  · exact .ok _
  · split
    · exact lessItems_plainly back _ _
    · exact less_plainly back _ _

end

theorem leastFrom_plainly (start : Term) (items : List Term) :
    FailsPlainly (leastFrom start items) := by
  induction items generalizing start with
  | nil => exact .ok start
  | cons item rest ih =>
      refine (less_plainly _ _ _).bind fun before => ?_
      cases before with
      | true => exact ih item
      | false => exact ih start

theorem least_plainly (items : List Term) : FailsPlainly (least items) := by
  unfold least
  split
  · exact .error rfl
  · exact leastFrom_plainly _ _

end Term

/-! ## Standard functions -/

namespace Standard

theorem sizeOf_plainly (t : Term) : FailsPlainly (sizeOf t) := by
  unfold sizeOf
  split
  · exact .ok _
  · exact .ok _
  · split
    · exact .ok _
    · exact .error rfl

theorem elements_plainly (t : Term) : FailsPlainly (elements t) := .elim _ rfl

theorem least_plainly (args : List Term) : FailsPlainly (least args) := by
  unfold least
  split
  · exact .error rfl
  · exact (elements_plainly _).bind fun items => Term.least_plainly items
  · exact Term.least_plainly _

theorem nameArgument_plainly (argument : String) (t : Term) :
    FailsPlainly (nameArgument argument t) := by
  unfold nameArgument
  split
  · exact .error rfl
  · split
    · exact .error rfl
    · exact .ok _

theorem decoded_plainly (t encoding : Term) (errors : Option Term) :
    FailsPlainly (decoded t encoding errors) := by
  refine (nameArgument_plainly _ _).bind fun encoding => FailsPlainly.bind ?_ fun handler => ?_
  · cases errors with
    | none => exact .ok _
    | some errors => exact nameArgument_plainly _ _
  · split
    · exact .ok _
    · refine FailsPlainly.bind ?_ fun s => .ok _
      cases Encoding.decode encoding handler _ with
      | ok s => exact .ok s
      | error fault => exact .error rfl
    · exact .error rfl
    · exact .error rfl

theorem text_plainly (args : List Term) : FailsPlainly (text args) := by
  unfold text
  split
  · exact .ok _
  · split
    · exact .ok _
    · split
      · exact .ok _
      · exact .error rfl
  · exact decoded_plainly _ _ _
  · exact decoded_plainly _ _ _
  · exact .error rfl

theorem pairs_plainly (index : Nat) (items : List Term) : FailsPlainly (pairs index items) := by
  induction items generalizing index with
  | nil => exact .ok _
  | cons t rest ih =>
      have first : FailsPlainly (pair index t) := by
        unfold pair
        split
        · exact .error rfl
        · exact (Term.checkKey_plainly _).bind fun _ => .ok _
        · exact .error rfl
      exact first.bind fun entry => (ih (index + 1)).bind fun entries => .ok _

theorem entries_plainly (args : List Term) : FailsPlainly (entries args) := by
  unfold entries
  split
  · exact .ok _
  · exact .ok _
  · split
    · exact .error rfl
    · exact .error rfl
  · exact (elements_plainly _).bind fun items => (pairs_plainly 0 items).bind fun entries => .ok _
  · exact .error rfl

end Standard

theorem environmentOf_plainly (callee : String) (bound : Nat) (args : List Term) :
    FailsPlainly (environmentOf callee bound args) := by
  unfold environmentOf
  split
  · exact .error rfl
  · exact .ok _
  · exact .error rfl

/-! ## Checks -/

namespace Classifier

variable (classifier : Classifier) (t : Term)

theorem check_plainly : FailsPlainly (classifier.check t) := by
  unfold check
  split
  · exact .error rfl
  · exact .ok ()

theorem classify_plainly : FailsPlainly (classifier.classify t) := by
  unfold classify
  cases t.isRemoved with
  | true => exact .ok _
  | false => exact (classifier.check_plainly t).bind fun _ => .ok _

end Classifier

theorem Entries.checkNames_plainly (entries : Entries) (function module : String)
    (given positional : List String) :
    FailsPlainly (entries.checkNames function module given positional) := by
  unfold checkNames
  split
  · exact .error rfl
  · split
    · exact .error rfl
    · split
      · exact .error rfl
      · exact .ok ()

theorem LeafType.toType?_plainly (type : LeafType) : FailsPlainly type.toType? := by
  cases type with
  | known found => exact .ok _
  | path dotted =>
      intro failure refused
      unfold toType? at refused
      dsimp only at refused
      cases found : ValueType.ofPath dotted with
      | ok type =>
          rw [found] at refused
          cases refused
      | error reason =>
          rw [found] at refused
          cases refused
          cases reason <;> rfl

namespace Resolver

variable (resolver : Resolver Term)

theorem checkValues_plainly (values : List Term) : FailsPlainly (resolver.checkValues values) := by
  unfold checkValues
  split
  · induction values with
    | nil => exact .ok ()
    | cons value rest ih =>
        rw [List.forM_eq_forM, List.forM_cons]
        refine FailsPlainly.bind ?_ fun _ => ih
        split
        · exact .ok ()
        · exact resolver.classifier.check_plainly value
  · exact .ok ()

theorem select_plainly (node : Node) (rules : List (Rule Term)) :
    FailsPlainly (resolver.select node rules) := by
  induction rules with
  | nil => exact .ok none
  | cons rule rest ih =>
      unfold select
      split
      · exact .error rfl
      · split
        · exact .ok _
        · exact ih

end Resolver

end ScopedTemplate
