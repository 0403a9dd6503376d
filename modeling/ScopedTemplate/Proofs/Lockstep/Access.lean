import ScopedTemplate.Proofs.Lockstep.Order
import ScopedTemplate.Resolver.Step

/-!
# What is read and made in two runs

What is read out of terms that are alike, copied from them or made of them is alike, and where one
operation fails, so does the other.
-/

namespace ScopedTemplate

open Term

namespace Pairing

variable {p : Pairing} {t t' u u' : Term} {α β : Type}

/-! ## Results -/

/-- Failures are equal, but for what a missing key is. -/
inductive AlikeFailure (p : Pairing) : Failure → Failure → Prop where
  | same (failure : Failure) : AlikeFailure p failure failure
  | missingKey {key key' : Term} (keys : p.Alike key key') :
      AlikeFailure p (.missingKey key) (.missingKey key')

namespace AlikeFailure

variable {failure failure' : Failure}

theorem name (alike : p.AlikeFailure failure failure') : failure.name = failure'.name := by
  cases alike <;> rfl

theorem message (alike : p.AlikeFailure failure failure') :
    failure.message = failure'.message := by
  cases alike with
  | same => rfl
  | missingKey keys => exact keys.display

theorem isMissingKey (alike : p.AlikeFailure failure failure') :
    failure.isMissingKey = failure'.isMissingKey := by
  cases alike <;> rfl

theorem isExhaustion (alike : p.AlikeFailure failure failure') :
    failure.isExhaustion = failure'.isExhaustion := by
  cases alike <;> rfl

end AlikeFailure

/-- Both results are there and related, or both are missing for failures that are alike. -/
inductive AlikeResult (p : Pairing) (R : α → β → Prop) : Except Failure α → Except Failure β → Prop
    where
  | ok {value : α} {value' : β} (rel : R value value') : AlikeResult p R (.ok value) (.ok value')
  | error {failure failure' : Failure} (alike : p.AlikeFailure failure failure') :
      AlikeResult p R (.error failure) (.error failure')

namespace AlikeResult

variable {R : α → β → Prop}

theorem fail (failure : Failure) : p.AlikeResult R (.error failure) (.error failure) :=
  .error (.same failure)

theorem of_eq {result result' : Except Failure α} (same : result = result') :
    p.AlikeResult Eq result result' := by
  subst same
  cases result with
  | ok value => exact .ok rfl
  | error failure => exact .fail failure

theorem bind {γ δ : Type} {S : γ → δ → Prop} {result : Except Failure α}
    {result' : Except Failure β} (alike : p.AlikeResult R result result')
    {next : α → Except Failure γ} {next' : β → Except Failure δ}
    (then_alike : ∀ value value', R value value' → p.AlikeResult S (next value) (next' value')) :
    p.AlikeResult S (result >>= next) (result' >>= next') := by
  cases alike with
  | ok rel => exact then_alike _ _ rel
  | error alike => exact .error alike

theorem of_option {found : Option α} {found' : Option β} (rel : Option.Rel R found found')
    {failure failure' : Failure} (alike : p.AlikeFailure failure failure') :
    p.AlikeResult R (found.elim (.error failure) .ok) (found'.elim (.error failure') .ok) := by
  cases rel with
  | none => exact .error alike
  | some holds => exact .ok holds

end AlikeResult

/-! ## What is read out of terms -/

theorem getElem?_rel {R : α → β → Prop} {items : List α} {items' : List β}
    (each : List.Forall₂ R items items') (n : Nat) : Option.Rel R items[n]? items'[n]? := by
  induction each generalizing n with
  | nil => exact .none
  | cons first _ ih =>
      cases n with
      | zero => exact .some first
      | succ n =>
          rw [List.getElem?_cons_succ, List.getElem?_cons_succ]
          exact ih n

theorem atIndex?_rel {R : α → β → Prop} {items : List α} {items' : List β}
    (each : List.Forall₂ R items items') (index : Int) :
    Option.Rel R (atIndex? items index) (atIndex? items' index) := by
  unfold atIndex?
  rw [each.length_eq]
  split
  · exact getElem?_rel each _
  · exact .none

theorem Alike.entries? (alike : p.Alike t t') :
    Option.Rel p.AlikeEntries t.entries? t'.entries? := by
  cases alike.shape with
  | atom atom => cases t <;> first | exact .none | cases atom
  | map => exact .some (alike_map.1 alike)
  | _ => exact .none

theorem Alike.elements? (alike : p.Alike t t') :
    Option.Rel (List.Forall₂ p.Alike) t.elements? t'.elements? := by
  cases alike.shape with
  | atom atom =>
      cases t with
      | text kind s =>
          refine .some (List.forall₂_same.2 fun part member => ?_)
          obtain ⟨c, _, rfl⟩ := List.mem_map.1 member
          exact alike_text _ _
      | bytes bs =>
          refine .some (List.forall₂_same.2 fun part member => ?_)
          obtain ⟨byte, _, rfl⟩ := List.mem_map.1 member
          exact alike_int _
      | list | tuple | map | set | point | function | callable | view => cases atom
      | _ => exact .none
  | list => exact .some (alike_list.1 alike)
  | tuple => exact .some (alike_tuple.1 alike)
  | map => exact .some (alike_map.1 alike).keys
  | set => exact .some (alike_set.1 alike)
  | point => exact .some (alike_point.1 alike)
  | function | callable => exact .none
  | view => exact .some (alike_view_iff.1 alike).2.2.2.2.names

theorem elementBy_alike {items items' : List Term} (each : List.Forall₂ p.Alike items items')
    (noun : String) (keys : p.Alike t t') :
    p.AlikeResult p.Alike (elementBy noun items t) (elementBy noun items' t') := by
  unfold elementBy
  rw [keys.index?, keys.typeName]
  split
  · exact .fail _
  · exact .of_option (atIndex?_rel each _) (.same _)

/-- Terms that are alike are the same integer, or neither is one. -/
theorem Alike.eq_or_notInt (alike : p.Alike t t') :
    t = t' ∨ (∀ n, t ≠ .int n) ∧ ∀ n, t' ≠ .int n := by
  cases alike.shape with
  | atom => exact .inl rfl
  | _ => exact .inr ⟨nofun, nofun⟩

theorem integers?_eq {items items' : List Term} (each : List.Forall₂ p.Alike items items') :
    integers? items = integers? items' := by
  induction each with
  | nil => rfl
  | @cons s s' rest rest' first _ ih =>
      rcases first.eq_or_notInt with rfl | ⟨noInt, noInt'⟩
      · cases s with
        | int n => simp only [integers?, ih]
        | _ => simp only [integers?]
      · rw [integers?.eq_3 (s :: rest) nofun fun n _ same => noInt n (List.cons.inj same).1,
          integers?.eq_3 (s' :: rest') nofun fun n _ same => noInt' n (List.cons.inj same).1]

theorem getLastD_alike {items items' : List Term} (each : List.Forall₂ p.Alike items items')
    (spare : p.Alike t t') : p.Alike (items.getLastD t) (items'.getLastD t') := by
  induction each generalizing t t' with
  | nil => exact spare
  | cons first _ ih =>
      rw [List.getLastD_cons, List.getLastD_cons]
      exact ih first

theorem elementAt_alike {items items' : List Term} (each : List.Forall₂ p.Alike items items')
    (keys : p.Alike t t') : p.AlikeResult p.Alike (elementAt items t) (elementAt items' t') := by
  unfold elementAt
  rcases keys.eq_or_notInt with rfl | ⟨first, second⟩
  · split
    · exact .of_option (getElem?_rel each _) (.same _)
    · exact .fail _
  · split
    · exact absurd rfl (first _)
    · split
      · exact absurd rfl (second _)
      · exact .fail _

theorem valueUnder_alike {entries entries' : Entries} (alike : p.AlikeEntries entries entries')
    (keys : p.Alike t t') :
    p.AlikeResult p.Alike (valueUnder entries t) (valueUnder entries' t') := by
  unfold valueUnder
  rw [keys.checkKey]
  refine (AlikeResult.of_eq rfl).bind fun _ _ _ => ?_
  exact .of_option (alike.find? keys) (.missingKey keys)

theorem Alike.subscript (alike : p.Alike t t') (keys : p.Alike u u') :
    p.AlikeResult p.Alike (t.subscript u) (t'.subscript u') := by
  have typed := alike.typeName
  cases alike.shape with
  | atom atom =>
      cases t with
      | text kind s =>
          refine elementBy_alike (List.forall₂_same.2 fun part member => ?_) _ keys
          obtain ⟨c, _, rfl⟩ := List.mem_map.1 member
          exact alike_text _ _
      | list | tuple | map | set | point | function | callable | view => cases atom
      | _ => exact .fail _
  | list => exact elementBy_alike (alike_list.1 alike) _ keys
  | tuple => exact elementBy_alike (alike_tuple.1 alike) _ keys
  | map => exact valueUnder_alike (alike_map.1 alike) keys
  | point => exact elementBy_alike (alike_point.1 alike) _ keys
  | set | function | callable | view => exact .fail _

theorem Alike.item (alike : p.Alike t t') (keys : p.Alike u u') :
    p.AlikeResult p.Alike (t.item u) (t'.item u') := by
  cases alike.shape with
  | atom atom =>
      cases t with
      | list | tuple | map | set | point | function | callable | view => cases atom
      | _ => exact .fail _
  | list => exact elementAt_alike (alike_list.1 alike) keys
  | tuple => exact elementAt_alike (alike_tuple.1 alike) keys
  | map => exact valueUnder_alike (alike_map.1 alike) keys
  | point => exact elementAt_alike (alike_point.1 alike) keys
  | set | function | callable | view => exact .fail _

theorem Alike.contains (alike : p.Alike t t') (keys : p.Alike u u') :
    t.contains u = t'.contains u' := by
  have typed := alike.typeName
  unfold Term.contains
  cases alike.shape with
  | atom atom =>
      cases t with
      | text kind s =>
          dsimp only
          rw [keys.text?, keys.typeName]
      | list | tuple | map | set | point | function | callable | view => cases atom
      | _ => rfl
  | list =>
      dsimp only
      rw [(alike_list.1 alike).any_eq fun each => keys.equals each]
  | tuple =>
      dsimp only
      rw [(alike_tuple.1 alike).any_eq fun each => keys.equals each]
  | map =>
      dsimp only
      rw [keys.checkKey, (alike_map.1 alike).has keys]
  | point =>
      dsimp only
      rw [(alike_point.1 alike).any_eq fun each => keys.equals each]
  | set =>
      dsimp only
      rw [keys.checkKey, (alike_set.1 alike).any_eq fun each => keys.sameKey each]
  | function | callable | view => rfl

theorem leastFrom_alike {items items' : List Term} (each : List.Forall₂ p.Alike items items')
    (start : p.Alike t t') :
    p.AlikeResult p.Alike (leastFrom t items) (leastFrom t' items') := by
  induction each generalizing t t' with
  | nil => exact .ok start
  | cons first _ ih =>
      unfold leastFrom
      refine (AlikeResult.of_eq (first.less false start)).bind ?_
      rintro before _ rfl
      split
      · exact ih first
      · exact ih start

theorem least_alike {items items' : List Term} (each : List.Forall₂ p.Alike items items') :
    p.AlikeResult p.Alike (Term.least items) (Term.least items') := by
  cases each with
  | nil => exact .fail _
  | cons first others => exact leastFrom_alike others first

/-! ## Copies -/

theorem detachItems_alike {items items' : List Term}
    (each : List.Forall₂ (fun s s' => p.Alike s s' ∧ ∀ next,
      p.Alike (s.detach next).1 (s'.detach next).1 ∧ (s.detach next).2 = (s'.detach next).2)
        items items') (next : Stamp) :
    List.Forall₂ p.Alike (detachItems next items).1 (detachItems next items').1 ∧
      (detachItems next items).2 = (detachItems next items').2 := by
  induction each generalizing next with
  | nil => exact ⟨.nil, rfl⟩
  | cons first _ ih =>
      obtain ⟨copied, stamps⟩ := first.2 next
      rw [detachItems, detachItems]
      dsimp only
      rw [← stamps]
      exact ⟨.cons copied (ih _).1, (ih _).2⟩

theorem detachEntries_alike {entries entries' : Entries}
    (each : List.Forall₂ (fun entry entry' => p.Alike entry.1 entry'.1 ∧ ∀ next,
      p.Alike (entry.2.detach next).1 (entry'.2.detach next).1 ∧
        (entry.2.detach next).2 = (entry'.2.detach next).2) entries entries') (next : Stamp) :
    p.AlikeEntries (detachEntries next entries).1 (detachEntries next entries').1 ∧
      (detachEntries next entries).2 = (detachEntries next entries').2 := by
  induction each generalizing next with
  | nil => exact ⟨.nil, rfl⟩
  | @cons entry entry' _ _ first _ ih =>
      obtain ⟨copied, stamps⟩ := first.2 next
      obtain ⟨key, value⟩ := entry
      obtain ⟨key', value'⟩ := entry'
      rw [detachEntries, detachEntries]
      dsimp only at copied stamps ⊢
      rw [← stamps]
      exact ⟨.cons ⟨first.1, copied⟩ (ih _).1, (ih _).2⟩

theorem Alike.detach (alike : p.Alike t t') (next : Stamp) :
    p.Alike (t.detach next).1 (t'.detach next).1 ∧ (t.detach next).2 = (t'.detach next).2 := by
  revert next
  refine alike.by_shape (motive := fun t t' => ∀ next,
    p.Alike (t.detach next).1 (t'.detach next).1 ∧ (t.detach next).2 = (t'.detach next).2)
    ?atom ?list ?tuple ?map ?set ?point ?function ?callable ?view
  case atom =>
    intro t atom next
    have same : t.detach next = (t, next) := by
      cases t <;> first
        | rfl
        | cases atom
    rw [same]
    exact ⟨alike_atom atom, rfl⟩
  case list =>
    intro kind stamp items items' each next
    cases kind with
    | rows => exact ⟨alike_list.2 (each.imp fun _ _ both => both.1), rfl⟩
    | plain =>
        obtain ⟨copied, stamps⟩ := detachItems_alike each next
        rw [Term.detach, Term.detach]
        dsimp only
        rw [← stamps]
        exact ⟨alike_list.2 copied, rfl⟩
  case tuple =>
    intro stamp items items' each next
    obtain ⟨copied, stamps⟩ := detachItems_alike each next
    rw [Term.detach, Term.detach]
    dsimp only
    rw [← stamps]
    exact ⟨alike_tuple.2 copied, rfl⟩
  case map =>
    intro kind stamp entries entries' each next
    cases kind with
    | frame => exact ⟨alike_map.2 (each.imp fun _ _ both => ⟨both.1.1, both.2.1⟩), rfl⟩
    | plain =>
        obtain ⟨copied, stamps⟩ :=
          detachEntries_alike (each.imp fun _ _ both => ⟨both.1.1, both.2.2⟩) next
        rw [Term.detach, Term.detach]
        dsimp only
        rw [← stamps]
        exact ⟨alike_map.2 copied, rfl⟩
  case set => exact fun _ _ _ each _ => ⟨alike_set.2 (each.imp fun _ _ both => both.1), rfl⟩
  case point => exact fun _ _ _ each _ => ⟨alike_point.2 (each.imp fun _ _ both => both.1), rfl⟩
  case function =>
    intro stamp name deps doc callee callee' called each next
    exact ⟨alike_function.2 ⟨called, each.imp fun _ _ both => both.1⟩, rfl⟩
  case callable =>
    intro kind stamp label name body permitted constants next
    exact ⟨alike_callable.2 ⟨permitted, fun t member => (constants t member).1⟩, rfl⟩
  case view => exact fun _ _ _ _ _ _ alike _ => ⟨alike, rfl⟩

theorem permits_renewBody (r : Renewal) {values : Bool} (body : Body)
    (permitted : p.Permits values body) : p.Permits values (renewBody r body) := by
  cases body <;> simp only [renewBody] <;> exact permitted

theorem Called.renew (r : Renewal) (called : p.Called t t') :
    p.Called (t.renew r) (t'.renew r) := by
  cases called with
  | applied applied permitted =>
      exact .applied (by rw [appliedBody?_renew, applied, Option.map_some])
        (permitted.renewBody r (permits_renewBody r))
  | other other other' =>
      exact .other (by rw [appliedBody?_renew, other, Option.map_none])
        (by rw [appliedBody?_renew, other', Option.map_none])

theorem Alike.renew (r : Renewal) (alike : p.Alike t t') : p.Alike (t.renew r) (t'.renew r) := by
  have items : ∀ {items items' : List Term},
      List.Forall₂ (fun s s' => p.Alike s s' ∧ p.Alike (s.renew r) (s'.renew r)) items items' →
        List.Forall₂ p.Alike (renewItems r items) (renewItems r items') := by
    intro items items' each
    rw [renewItems_eq_map, renewItems_eq_map]
    exact List.forall₂_map_left_iff.2
      (List.forall₂_map_right_iff.2 (each.imp fun _ _ both => both.2))
  refine alike.by_shape (motive := fun t t' => p.Alike (t.renew r) (t'.renew r))
    ?atom ?list ?tuple ?map ?set ?point ?function ?callable ?view
  case atom =>
    intro t atom
    cases t with
    | list | tuple | map | set | point | function | callable | view => cases atom
    | _ =>
        simp only [Term.renew]
        exact alike_atom rfl
  case list =>
    intro kind stamp inside inside' each
    simp only [Term.renew]
    exact alike_list.2 (items each)
  case tuple =>
    intro stamp inside inside' each
    simp only [Term.renew]
    exact alike_tuple.2 (items each)
  case set =>
    intro stamp inside inside' each
    simp only [Term.renew]
    exact alike_set.2 (items each)
  case point =>
    intro stamp inside inside' each
    simp only [Term.renew]
    exact alike_point.2 (items each)
  case map =>
    intro kind stamp entries entries' each
    simp only [Term.renew, renewEntries_eq_map]
    refine alike_map.2 (List.forall₂_map_left_iff.2 (List.forall₂_map_right_iff.2 ?_))
    exact each.imp fun _ _ both => ⟨both.1.2, both.2.2⟩
  case function =>
    intro stamp name deps doc callee callee' called each
    simp only [Term.renew]
    refine alike_function.2 ⟨called.renew r, ?_⟩
    rw [calleeParts_renew, calleeParts_renew]
    exact List.forall₂_map_left_iff.2
      (List.forall₂_map_right_iff.2 (each.imp fun _ _ both => both.2))
  case callable =>
    intro kind stamp label name body permitted constants
    simp only [Term.renew]
    refine alike_callable.2 ⟨permitted.renewBody r (permits_renewBody r), ?_⟩
    rw [constants_renewBody]
    exact List.forall_mem_map.2 fun t member => (constants t member).2
  case view =>
    intro stamp resolver resolver' env env' cache alike
    simp only [Term.renew]
    exact alike

/-! ## Standard functions -/

theorem sizeOf_alike (alike : p.Alike t t') : Standard.sizeOf t = Standard.sizeOf t' := by
  have typed := alike.typeName
  cases alike.shape with
  | atom => rfl
  | list _ _ size | tuple _ size | map _ _ size | set _ size | point _ size =>
      simp only [Standard.sizeOf, Term.size?, size]
  | function | callable => rfl
  | view =>
      simp only [Standard.sizeOf]
      rw [(alike_view_iff.1 alike).2.2.2.2.size]

theorem alike_of_sizeOf (same : Standard.sizeOf t = Standard.sizeOf t') :
    p.AlikeResult p.Alike (Standard.sizeOf t) (Standard.sizeOf t') := by
  rw [same]
  cases found : Standard.sizeOf t' with
  | ok size =>
      obtain ⟨n, rfl⟩ := Standard.int_of_sizeOf found
      exact .ok (alike_int n)
  | error failure => exact .fail failure

theorem elements_alike (alike : p.Alike t t') :
    p.AlikeResult (List.Forall₂ p.Alike) (Standard.elements t) (Standard.elements t') := by
  unfold Standard.elements
  rw [alike.typeName]
  exact .of_option alike.elements? (.same _)

theorem leastOf_alike {args args' : List Term} (each : List.Forall₂ p.Alike args args') :
    p.AlikeResult p.Alike (Standard.least args) (Standard.least args') := by
  cases each with
  | nil => exact .fail _
  | cons first others =>
      cases others with
      | nil => exact (elements_alike first).bind fun _ _ items => least_alike items
      | cons second others => exact least_alike (.cons first (.cons second others))

theorem nameArgument_alike (argument : String) (alike : p.Alike t t') :
    Standard.nameArgument argument t = Standard.nameArgument argument t' := by
  have typed : Standard.argumentType t = Standard.argumentType t' := by
    have typed := alike.typeName
    cases alike.shape with
    | atom => rfl
    | _ => exact typed
  unfold Standard.nameArgument
  rw [alike.text?, typed]

theorem decoded_alike (alike : p.Alike t t') {encoding encoding' : Term}
    (encodings : p.Alike encoding encoding') {errors errors' : Option Term}
    (handlers : Option.Rel p.Alike errors errors') :
    Standard.decoded t encoding errors = Standard.decoded t' encoding' errors' := by
  have handled : errors.elim (.ok Standard.strictHandler) (Standard.nameArgument "errors") =
      errors'.elim (.ok Standard.strictHandler) (Standard.nameArgument "errors") := by
    cases handlers with
    | none => rfl
    | some handler => exact nameArgument_alike _ handler
  have typed := alike.typeName
  unfold Standard.decoded
  rw [nameArgument_alike _ encodings, handled]
  cases alike.shape with
  | atom => rfl
  | list | tuple | map | set | point | function | callable | view => simp only [typed]

theorem text_alike {args args' : List Term} (each : List.Forall₂ p.Alike args args') :
    Standard.text args = Standard.text args' := by
  have counted := each.length_eq
  rcases each with _ | ⟨first, _ | ⟨second, _ | ⟨third, _ | ⟨fourth, others⟩⟩⟩⟩
  · rfl
  · unfold Standard.text
    dsimp only
    rw [first.text?, first.isWritable, first.display]
  · exact decoded_alike first second .none
  · exact decoded_alike first second (.some third)
  · unfold Standard.text
    dsimp only
    rw [counted]

theorem pair_alike (index : Nat) (alike : p.Alike t t') :
    p.AlikeResult (fun entry entry' => p.Alike entry.1 entry'.1 ∧ p.Alike entry.2 entry'.2)
      (Standard.pair index t) (Standard.pair index t') := by
  unfold Standard.pair
  rcases alike.elements?.cases_eq with ⟨missing, missing'⟩ | ⟨items, items', found, found', each⟩
  · rw [missing, missing']
    exact .fail _
  · rw [found, found']
    have counted := each.length_eq
    rcases each with _ | ⟨first, _ | ⟨second, _ | ⟨third, others⟩⟩⟩
    · exact .fail _
    · exact .fail _
    · refine (AlikeResult.of_eq first.checkKey).bind fun _ _ _ => ?_
      exact .ok ⟨first, second⟩
    · dsimp only
      rw [counted]
      exact .fail _

theorem pairs_alike {items items' : List Term} (each : List.Forall₂ p.Alike items items')
    (index : Nat) :
    p.AlikeResult p.AlikeEntries (Standard.pairs index items) (Standard.pairs index items') := by
  induction each generalizing index with
  | nil => exact .ok .nil
  | cons first _ ih =>
      refine (pair_alike index first).bind fun entry entry' paired => ?_
      exact (ih (index + 1)).bind fun rest rest' more => .ok (.cons paired more)

/-- What is no type is walked through by pairs, unless it is a mapping. -/
theorem entriesOf_alike (alike : p.Alike t t') :
    p.AlikeResult p.AlikeEntries (Standard.entries [t]) (Standard.entries [t']) := by
  have walked : p.AlikeResult p.AlikeEntries
      (Standard.elements t >>= fun items => Standard.pairs 0 items >>= fun found =>
        pure (Entries.ofPairs found))
      (Standard.elements t' >>= fun items => Standard.pairs 0 items >>= fun found =>
        pure (Entries.ofPairs found)) :=
    (elements_alike alike).bind fun _ _ items =>
      (pairs_alike items 0).bind fun _ _ found => .ok found.ofPairs
  cases alike.shape with
  | atom atom =>
      cases t with
      | type name =>
          simp only [Standard.entries]
          split <;> exact .fail _
      | list | tuple | map | set | point | function | callable | view => cases atom
      | _ => exact walked
  | map => exact .ok (alike_map.1 alike)
  | _ => exact walked

theorem entries_alike {args args' : List Term} (each : List.Forall₂ p.Alike args args') :
    p.AlikeResult p.AlikeEntries (Standard.entries args) (Standard.entries args') := by
  have counted := each.length_eq
  rcases each with _ | ⟨first, _ | ⟨second, others⟩⟩
  · exact .ok .nil
  · exact entriesOf_alike first
  · simp only [Standard.entries, counted]
    exact .fail _

/-! ## Members of views -/

/-- The methods of views are permitted where views are handed on. -/
theorem methods_permitted (kept : ¬ p.merges) : ∀ method ∈ View.methods,
    method.2.2.Every (p.Permits false) ∧ ∀ t ∈ method.2.2.constants, p.Alike t t := by
  have raises : ∀ kind message, (Body.raise kind message).Every (p.Permits false) ∧
      ∀ t ∈ (Body.raise kind message).constants, p.Alike t t :=
    fun kind message => ⟨Body.every_of_noParts trivial rfl, nofun⟩
  have view : Body.readView.Every (p.Permits false) := Body.every_of_noParts kept rfl
  have const : ∀ value, (Body.const value).Every (p.Permits false) :=
    fun value => Body.every_of_noParts trivial rfl
  have items : Body.readItems.Every (p.Permits false) := Body.every_of_noParts trivial rfl
  unfold View.methods View.takesNothing View.takesMore
  simp only [List.forall_mem_cons]
  refine ⟨raises _ _, raises _ _, raises _ _, ?_, ?_, ?_, ?_, raises _ _, raises _ _, raises _ _,
    raises _ _, raises _ _, ?_, raises _ _, nofun⟩
  · refine ⟨.intro trivial (List.forall_mem_cons.2 ⟨view, ?_⟩), ?_⟩
    · exact List.forall_mem_singleton.2 (const .null)
    · exact List.forall_mem_singleton.2 alike_null
  · refine ⟨.intro trivial (List.forall_mem_cons.2 ⟨items, List.forall_mem_cons.2 ⟨items, ?_⟩⟩), ?_⟩
    · exact List.forall_mem_singleton.2 (const _)
    · exact List.forall_mem_singleton.2 (alike_bool true)
  · exact ⟨.intro trivial (List.forall_mem_singleton.2 view), nofun⟩
  · exact ⟨.intro trivial (List.forall_mem_singleton.2 view), nofun⟩
  · exact ⟨Body.every_of_noParts trivial rfl, nofun⟩

theorem constants_alike : ∀ member ∈ View.constants, p.Alike member.2 member.2 := by
  unfold View.constants View.ownFields
  simp only [List.forall_mem_cons, List.map_cons, List.map_nil]
  refine ⟨alike_type _, alike_map.2 ?_, alike_text _ _, alike_text _ _, alike_tuple.2 .nil,
    alike_tuple.2 (.cons (alike_internal _) .nil), alike_null, alike_null, alike_null,
    alike_internal _, alike_internal _, nofun⟩
  exact .cons ⟨alike_text _ _, alike_internal _⟩ (.cons ⟨alike_text _ _, alike_internal _⟩
    (.cons ⟨alike_text _ _, alike_internal _⟩ .nil))

theorem member?_alike {name shown : String} {stamp : Stamp} {member : Term} (kept : ¬ p.merges)
    (found : View.member? name shown stamp = some member) : p.Alike member member := by
  unfold View.member? at found
  split at found
  · next among =>
      cases found
      exact alike_callable.2 (methods_permitted kept _ (List.mem_of_find?_eq_some among))
  · cases found
    refine alike_callable.2 ⟨Body.every_of_noParts trivial rfl, ?_⟩
    exact List.forall_mem_singleton.2 (alike_internal _)
  · split at found
    · cases found
      exact alike_builtin _
    · split at found
      · cases found
        exact alike_internal _
      · split at found
        · next among =>
            cases found
            exact constants_alike _ (List.mem_of_find?_eq_some among)
        · cases found
          exact alike_internal _
        · cases found

/-! ## Resolvers -/

theorem Alike.drops (alike : p.Alike t t') {resolver resolver' : Resolver Term}
    (similar : resolver.Similar resolver') : resolver.drops t = resolver'.drops t' := by
  unfold Resolver.drops
  rw [similar.classifier, similar.removeEmpty, alike.isRemoved, alike.isCollection, alike.size?]

theorem checkValues_alike {values values' : List Term} (each : List.Forall₂ p.Alike values values')
    {resolver resolver' : Resolver Term} (similar : resolver.Similar resolver') :
    resolver.checkValues values = resolver'.checkValues values' := by
  unfold Resolver.checkValues
  rw [similar.classifier, similar.removeEmpty]
  split
  · induction each with
    | nil => rfl
    | cons first _ ih =>
        simp only [List.forM_eq_forM, List.forM_cons] at ih ⊢
        rw [first.isRemoved, first.check, ih]
  · rfl

theorem Alike.scopeSize? (alike : p.Alike t t') : t.scopeSize? = t'.scopeSize? := by
  cases alike.shape with
  | map _ _ size => exact congrArg some size
  | view =>
      simp only [Term.scopeSize?]
      rw [(alike_view_iff.1 alike).2.2.2.2.size]
  | _ => rfl

theorem arguments_alike {values values' : Entries} (alike : p.AlikeEntries values values')
    (deps : List String) : List.Forall₂ p.Alike (Resolver.arguments deps values)
      (Resolver.arguments deps values') := by
  unfold Resolver.arguments
  refine List.forall₂_map_left_iff.2 (List.forall₂_map_right_iff.2 ?_)
  refine List.forall₂_same.2 fun dep _ => ?_
  rcases (alike.ofPairs.find? (alike_text .ref dep)).cases_eq with
    ⟨missing, missing'⟩ | ⟨value, value', found, found', holds⟩
  · rw [missing, missing']
    exact alike_null
  · rw [found, found']
    exact holds

end Pairing

end ScopedTemplate
