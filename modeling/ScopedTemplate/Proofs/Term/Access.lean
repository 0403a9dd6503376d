import ScopedTemplate.Proofs.Term.Within

/-!
# What comes out of terms

What is read out of a term, copied from it or made of it has nothing in it that was not in the term,
so that what holds of a term exactly if it holds of its parts is passed on by all of this.  The views in
a term are an example.
-/

namespace ScopedTemplate

/-- A composed check passes exactly if its parts do. -/
theorem Except.bind_eq_ok {ε α β : Type} {first : Except ε α} {next : α → Except ε β}
    {value : β} : first >>= next = .ok value ↔ ∃ found, first = .ok found ∧ next found = .ok value := by
  cases first with
  | error failure => simp [bind, Except.bind]
  | ok found => simp [bind, Except.bind]

/-- What an optional value gives in the place of a failure. -/
theorem Except.elim_eq_ok {α : Type} {found : Option α} {failure : Failure} {value : α} :
    found.elim (Except.error failure) .ok = .ok value ↔ found = some value := by
  cases found with
  | none => simp
  | some other => simp

/-! ## Copies -/

namespace Term

variable {allowed : Resolver Term → CacheId → Prop}

mutual

/-- The constants of a renamed body are the renamed constants. -/
theorem constants_renewBody (r : Renewal) :
    (body : Body) → (renewBody r body).constants = body.constants.map (renew r)
  | .const _ => by simp [renewBody, Body.constants]
  | .fresh _ _ _ => by simp [renewBody, Body.constants]
  | .list items => by simp [renewBody, Body.constants, constants_renewBodies r items]
  | .tuple items => by simp [renewBody, Body.constants, constants_renewBodies r items]
  | .map entries => by simp [renewBody, Body.constants, constants_renewFields r entries]
  | .ref name => by simp [renewBody, Body.constants, constants_renewBody r name]
  | .concat items => by simp [renewBody, Body.constants, constants_renewBodies r items]
  | .add items => by simp [renewBody, Body.constants, constants_renewBodies r items]
  | .mul items => by simp [renewBody, Body.constants, constants_renewBodies r items]
  | .size of => by simp [renewBody, Body.constants, constants_renewBody r of]
  | .item of key => by
      simp [renewBody, Body.constants, constants_renewBody r of, constants_renewBody r key]
  | .choose condition yes no => by
      simp [renewBody, Body.constants, constants_renewBody r condition,
        constants_renewBody r yes, constants_renewBody r no]
  | .same left right => by
      simp [renewBody, Body.constants, constants_renewBody r left, constants_renewBody r right]
  | .typeOf of => by simp [renewBody, Body.constants, constants_renewBody r of]
  | .attempt body => by simp [renewBody, Body.constants, constants_renewBody r body]
  | .sequence items => by simp [renewBody, Body.constants, constants_renewBodies r items]
  | .edit _ of => by simp [renewBody, Body.constants, constants_renewBody r of]
  | .ask _ _ template _ env overrides => by
      simp [renewBody, Body.constants, constants_renewBody r template, constants_renewBody r env,
        constants_renewFields r overrides]
  | .block body => by simp [renewBody, Body.constants, constants_renewBody r body]
  | .readItem name => by simp [renewBody, Body.constants, constants_renewBody r name]
  | .readOr name fallback => by
      simp [renewBody, Body.constants, constants_renewBody r name, constants_renewBody r fallback]
  | .readHas name => by simp [renewBody, Body.constants, constants_renewBody r name]
  | .arg _ | .self | .count | .raise _ _ | .note _ | .readView | .readField _ | .readNames
  | .readItems | .readSize | .readText | .setField _ | .dropField _ => by
      simp [renewBody, Body.constants]

theorem constants_renewBodies (r : Renewal) : (bodies : List Body) →
    Body.constantsOfItems (renewBodies r bodies) = (Body.constantsOfItems bodies).map (renew r)
  | [] => by simp [renewBodies, Body.constantsOfItems]
  | body :: rest => by
      simp [renewBodies, Body.constantsOfItems, constants_renewBody r body,
        constants_renewBodies r rest]

theorem constants_renewFields (r : Renewal) : (fields : List (Body × Body)) →
    Body.constantsOfFields (renewFields r fields) = (Body.constantsOfFields fields).map (renew r)
  | [] => by simp [renewFields, Body.constantsOfFields]
  | (key, body) :: rest => by
      simp [renewFields, Body.constantsOfFields, constants_renewBody r key,
        constants_renewBody r body, constants_renewFields r rest]

end

theorem renewItems_eq_map (r : Renewal) (items : List Term) :
    renewItems r items = items.map (renew r) := by
  induction items with
  | nil => simp [renewItems]
  | cons t rest ih => simp [renewItems, ih]

theorem renewEntries_eq_map (r : Renewal) (entries : Entries) :
    renewEntries r entries = entries.map fun entry => (renew r entry.1, renew r entry.2) := by
  induction entries with
  | nil => simp [renewEntries]
  | cons entry rest ih => simp [renewEntries, ih]

/-- A renamed term has renamed parts; a view is not renamed. -/
theorem parts_renew (r : Renewal) {t : Term} (noView : t.isView = false) :
    (renew r t).parts = t.parts.map (renew r) := by
  cases t with
  | map kind stamp entries =>
      simp [renew, parts, renewEntries_eq_map, Entries.terms, List.flatMap_map, List.map_flatMap]
  | callable kind stamp label name body => simp [renew, parts, constants_renewBody]
  | view stamp resolver env cache => cases noView
  | _ => simp [renew, parts, renewItems_eq_map]

theorem isView_renew (r : Renewal) (t : Term) : (renew r t).isView = t.isView := by
  cases t <;> simp [renew, isView]

/-- A renamed term has the views of the term. -/
theorem OnlyViews.renew (r : Renewal) {t : Term} (only : OnlyViews allowed t) :
    OnlyViews allowed (t.renew r) := by
  induction only with
  | view here parts ih =>
      rw [show ∀ stamp resolver env cache,
        (Term.view stamp resolver env cache).renew r = .view stamp resolver env cache from
          fun _ _ _ _ => by simp [Term.renew]]
      exact .view here parts
  | other noView parts ih =>
      refine .other (by rw [isView_renew, noView]) ?_
      rw [parts_renew r noView]
      intro s member
      obtain ⟨part, inside, rfl⟩ := List.mem_map.1 member
      exact ih part inside

end Term

/-! ## What holds of terms by their parts -/

namespace Term

/-- A property holds of terms exactly if it holds of what is in them, and is kept when they are renamed. -/
structure Hereditary (P : Term → Prop) : Prop where
  null : P .null
  bool (b : Bool) : P (.bool b)
  int (n : Int) : P (.int n)
  text (kind : TextKind) (s : String) : P (.text kind s)
  list {kind : ListKind} {stamp : Option Stamp} {items : List Term} :
    P (.list kind stamp items) ↔ ∀ t ∈ items, P t
  tuple {stamp : Option Stamp} {items : List Term} : P (.tuple stamp items) ↔ ∀ t ∈ items, P t
  set {stamp : Stamp} {items : List Term} : P (.set stamp items) ↔ ∀ t ∈ items, P t
  point {stamp : Stamp} {items : List Term} : P (.point stamp items) ↔ ∀ t ∈ items, P t
  map {kind : MapKind} {stamp : Option Stamp} {entries : Entries} :
    P (.map kind stamp entries) ↔ Entries.Each P entries
  view {stamp : Stamp} {resolver : Resolver Term} {env : Environment Term} {cache : CacheId} :
    P (.view stamp resolver env cache) → env.Each P
  renew {t : Term} (r : Renewal) : P t → P (t.renew r)

theorem onlyViews_hereditary (allowed : Resolver Term → CacheId → Prop) :
    Hereditary (OnlyViews allowed) where
  null := onlyViews_null
  bool := onlyViews_bool
  int := onlyViews_int
  text := onlyViews_text
  list := onlyViews_list
  tuple := onlyViews_tuple
  set := onlyViews_iff rfl
  point := onlyViews_iff rfl
  map := onlyViews_map
  view := fun only => (onlyViews_view.1 only).2.2
  renew := fun r only => only.renew r

namespace Hereditary

variable {P : Term → Prop}

mutual

/-- A detached copy is as the term. -/
theorem detach (hereditary : Hereditary P) :
    {t : Term} → P t → (next : Stamp) → P (t.detach next).1
  | .list .plain _ items, holds, next => by
      rw [Term.detach]
      exact hereditary.list.2 (detachItems hereditary (hereditary.list.1 holds) next)
  | .tuple _ items, holds, next => by
      rw [Term.detach]
      exact hereditary.tuple.2 (detachItems hereditary (hereditary.tuple.1 holds) next)
  | .map .plain _ entries, holds, next => by
      rw [Term.detach]
      exact hereditary.map.2 (detachEntries hereditary (hereditary.map.1 holds) next)
  | .list .rows _ _, holds, _ | .map .frame _ _, holds, _
  | .null, holds, _ | .bool _, holds, _ | .int _, holds, _ | .float _, holds, _ | .nan _, holds, _
  | .text _ _, holds, _ | .bytes _, holds, _ | .set _ _, holds, _ | .point _ _, holds, _
  | .removed, holds, _ | .function _ _ _ _ _, holds, _ | .callable _ _ _ _ _, holds, _
  | .builtin _, holds, _ | .type _, holds, _ | .internal _, holds, _ | .view _ _ _ _, holds, _ => by
      simp only [Term.detach]
      exact holds

theorem detachItems (hereditary : Hereditary P) :
    {items : List Term} → (∀ t ∈ items, P t) → (next : Stamp) →
      ∀ t ∈ (Term.detachItems next items).1, P t
  | [], each, next => by
      rw [Term.detachItems]
      exact each
  | t :: rest, each, next => by
      rw [Term.detachItems]
      obtain ⟨first, others⟩ := List.forall_mem_cons.1 each
      exact List.forall_mem_cons.2
        ⟨detach hereditary first next, detachItems hereditary others (t.detach next).2⟩

theorem detachEntries (hereditary : Hereditary P) :
    {entries : Entries} → Entries.Each P entries → (next : Stamp) →
      Entries.Each P (Term.detachEntries next entries).1
  | [], each, next => by
      rw [Term.detachEntries]
      exact each
  | (key, value) :: rest, each, next => by
      rw [Term.detachEntries]
      obtain ⟨first, others⟩ := Entries.each_cons.1 each
      exact Entries.each_cons.2 ⟨⟨first.1, detach hereditary first.2 next⟩,
        detachEntries hereditary others (value.detach next).2⟩

end

end Hereditary

theorem OnlyViews.detach {t : Term} (only : OnlyViews allowed t) (next : Stamp) :
    OnlyViews allowed (t.detach next).1 := (onlyViews_hereditary allowed).detach only next

end Term

/-! ## What is read out of terms -/

namespace Term

variable {allowed : Resolver Term → CacheId → Prop}

theorem mem_of_atIndex? {α : Type} {items : List α} {index : Int} {item : α}
    (found : atIndex? items index = some item) : item ∈ items := by
  unfold atIndex? at found
  split at found
  · exact List.mem_of_getElem? found
  · cases found

theorem mem_of_elementBy {noun : String} {items : List Term} {key item : Term}
    (found : elementBy noun items key = .ok item) : item ∈ items := by
  unfold elementBy at found
  split at found
  · cases found
  · exact mem_of_atIndex? (Except.elim_eq_ok.1 found)

theorem mem_of_elementAt {items : List Term} {index item : Term}
    (found : elementAt items index = .ok item) : item ∈ items := by
  unfold elementAt at found
  split at found
  · exact List.mem_of_getElem? (Except.elim_eq_ok.1 found)
  · cases found

theorem find?_of_valueUnder {entries : Entries} {key value : Term}
    (found : valueUnder entries key = .ok value) : Entries.find? entries key = some value := by
  obtain ⟨_, _, under⟩ := Except.bind_eq_ok.1 found
  exact Except.elim_eq_ok.1 under

theorem mem_of_leastFrom {items : List Term} {start value : Term}
    (found : leastFrom start items = .ok value) : value ∈ start :: items := by
  induction items generalizing start with
  | nil =>
      cases found
      exact List.mem_cons_self
  | cons item rest ih =>
      unfold leastFrom at found
      obtain ⟨before, _, next⟩ := Except.bind_eq_ok.1 found
      split at next
      · exact List.mem_cons_of_mem _ (ih next)
      · rcases List.mem_cons.1 (ih next) with rfl | later
        · exact List.mem_cons_self
        · exact List.mem_cons_of_mem _ (List.mem_cons_of_mem _ later)

theorem mem_of_least {items : List Term} {value : Term} (found : least items = .ok value) :
    value ∈ items := by
  cases items with
  | nil => cases found
  | cons item rest => exact mem_of_leastFrom found

namespace Hereditary

variable {P : Term → Prop} (hereditary : Hereditary P)

include hereditary

theorem elements? {t : Term} (holds : P t) {items : List Term} (found : t.elements? = some items) :
    ∀ item ∈ items, P item := by
  cases t with
  | text kind s =>
      cases found
      exact List.forall_mem_map.2 fun c _ => hereditary.text _ _
  | bytes bs =>
      cases found
      exact List.forall_mem_map.2 fun byte _ => hereditary.int _
  | list kind stamp inside =>
      cases found
      exact hereditary.list.1 holds
  | tuple stamp inside =>
      cases found
      exact hereditary.tuple.1 holds
  | set stamp inside =>
      cases found
      exact hereditary.set.1 holds
  | point stamp inside =>
      cases found
      exact hereditary.point.1 holds
  | map kind stamp entries =>
      cases found
      exact (hereditary.map.1 holds).keys
  | view stamp resolver env cache =>
      cases found
      exact (hereditary.view holds).names
  | _ => cases found

theorem subscript {t key value : Term} (holds : P t) (found : t.subscript key = .ok value) :
    P value := by
  unfold Term.subscript at found
  split at found
  · exact (hereditary.map.1 holds).find? (find?_of_valueUnder found)
  · exact hereditary.list.1 holds _ (mem_of_elementBy found)
  · exact hereditary.tuple.1 holds _ (mem_of_elementBy found)
  · exact hereditary.point.1 holds _ (mem_of_elementBy found)
  · obtain ⟨c, _, rfl⟩ := List.mem_map.1 (mem_of_elementBy found)
    exact hereditary.text _ _
  · cases found

theorem item {t key value : Term} (holds : P t) (found : t.item key = .ok value) : P value := by
  unfold Term.item at found
  split at found
  · exact (hereditary.map.1 holds).find? (find?_of_valueUnder found)
  · exact hereditary.list.1 holds _ (mem_of_elementAt found)
  · exact hereditary.tuple.1 holds _ (mem_of_elementAt found)
  · exact hereditary.point.1 holds _ (mem_of_elementAt found)
  · cases found

end Hereditary

end Term

/-! ## What standard functions make -/

namespace Standard

open Term

theorem int_of_sizeOf {t size : Term} (found : sizeOf t = .ok size) : ∃ n, size = .int n := by
  unfold sizeOf at found
  split at found
  · cases found
    exact ⟨_, rfl⟩
  · cases found
    exact ⟨_, rfl⟩
  · split at found
    · cases found
      exact ⟨_, rfl⟩
    · cases found

theorem text_of_decoded {t encoding value : Term} {errors : Option Term}
    (found : decoded t encoding errors = .ok value) : ∃ s, value = .str s := by
  unfold decoded at found
  obtain ⟨name, _, found⟩ := Except.bind_eq_ok.1 found
  obtain ⟨handler, _, found⟩ := Except.bind_eq_ok.1 found
  split at found
  · cases found
    exact ⟨_, rfl⟩
  · obtain ⟨s, _, found⟩ := Except.bind_eq_ok.1 found
    cases found
    exact ⟨s, rfl⟩
  · cases found
  · cases found

theorem text_of_text {args : List Term} {value : Term} (found : text args = .ok value) :
    ∃ s, value = .str s := by
  unfold text at found
  split at found
  · cases found
    exact ⟨_, rfl⟩
  · split at found
    · cases found
      exact ⟨_, rfl⟩
    · split at found
      · cases found
        exact ⟨_, rfl⟩
      · cases found
  · exact text_of_decoded found
  · exact text_of_decoded found
  · cases found

end Standard

namespace Term.Hereditary

variable {P : Term → Prop} (hereditary : Hereditary P)

include hereditary

theorem elements {t : Term} (holds : P t) {items : List Term}
    (found : Standard.elements t = .ok items) : ∀ item ∈ items, P item :=
  hereditary.elements? holds (Except.elim_eq_ok.1 found)

theorem sizeOf {t size : Term} (found : Standard.sizeOf t = .ok size) : P size := by
  obtain ⟨n, rfl⟩ := Standard.int_of_sizeOf found
  exact hereditary.int n

theorem leastOf {args : List Term} (each : ∀ arg ∈ args, P arg) {value : Term}
    (found : Standard.least args = .ok value) : P value := by
  unfold Standard.least at found
  split at found
  · cases found
  · next t =>
      obtain ⟨items, shape, least⟩ := Except.bind_eq_ok.1 found
      exact hereditary.elements (each t List.mem_cons_self) shape _ (mem_of_least least)
  · exact each _ (mem_of_least found)

theorem textOf {args : List Term} {value : Term} (found : Standard.text args = .ok value) :
    P value := by
  obtain ⟨s, rfl⟩ := Standard.text_of_text found
  exact hereditary.text _ _

theorem pair {index : Nat} {t : Term} (holds : P t) {entry : Term × Term}
    (found : Standard.pair index t = .ok entry) : P entry.1 ∧ P entry.2 := by
  unfold Standard.pair at found
  split at found
  · cases found
  · next key value shape =>
      have inside := hereditary.elements? holds shape
      obtain ⟨_, _, found⟩ := Except.bind_eq_ok.1 found
      cases found
      exact ⟨inside key (by simp), inside value (by simp)⟩
  · cases found

theorem pairs {index : Nat} {items : List Term} (each : ∀ t ∈ items, P t) {entries : Entries}
    (found : Standard.pairs index items = .ok entries) : Entries.Each P entries := by
  induction items generalizing index entries with
  | nil =>
      cases found
      exact Entries.each_nil
  | cons t rest ih =>
      obtain ⟨first, others⟩ := List.forall_mem_cons.1 each
      unfold Standard.pairs at found
      obtain ⟨entry, paired, found⟩ := Except.bind_eq_ok.1 found
      obtain ⟨tail, more, found⟩ := Except.bind_eq_ok.1 found
      cases found
      exact Entries.each_cons.2 ⟨hereditary.pair first paired, ih others more⟩

theorem entries {args : List Term} (each : ∀ arg ∈ args, P arg) {found : Entries}
    (made : Standard.entries args = .ok found) : Entries.Each P found := by
  unfold Standard.entries at made
  split at made
  · cases made
    exact Entries.each_nil
  · cases made
    exact hereditary.map.1 (each _ List.mem_cons_self)
  · split at made
    · cases made
    · cases made
  · next t _ _ =>
      obtain ⟨items, shape, made⟩ := Except.bind_eq_ok.1 made
      obtain ⟨more, paired, made⟩ := Except.bind_eq_ok.1 made
      cases made
      have inside := hereditary.elements (each t List.mem_cons_self) shape
      exact (hereditary.pairs inside paired).ofPairs
  · cases made

end Term.Hereditary

/-! ## What a view answers by itself -/

namespace View

open Term

variable {allowed : Resolver Term → CacheId → Prop}

theorem methods_onlyViews : ∀ method ∈ methods, ∀ t ∈ method.2.2.constants,
    OnlyViews allowed t := by
  simp [methods, takesNothing, takesMore, Body.constants, Body.constantsOfItems]

theorem constants_onlyViews : ∀ constant ∈ constants, OnlyViews allowed constant.2 := by
  simp [constants, ownFields]

/-- A member of a view has no views in it. -/
theorem member?_onlyViews {name shown : String} {stamp : Stamp} {member : Term}
    (found : member? name shown stamp = some member) : OnlyViews allowed member := by
  unfold member? at found
  split at found
  · next method body _ inMethods =>
      cases found
      refine onlyViews_callable.2 ?_
      exact methods_onlyViews _ (List.mem_of_find?_eq_some inMethods)
  · next method result _ _ =>
      cases found
      refine onlyViews_callable.2 ?_
      simp [Body.constants]
  · split at found
    · cases found
      exact onlyViews_builtin _
    · split at found
      · cases found
        exact onlyViews_internal _
      · split at found
        · next value _ inConstants =>
            cases found
            exact constants_onlyViews _ (List.mem_of_find?_eq_some inConstants)
        · cases found
          exact onlyViews_internal _
        · cases found

end View

end ScopedTemplate
