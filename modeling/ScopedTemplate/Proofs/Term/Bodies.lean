import ScopedTemplate.Proofs.Term.Access

/-!
# Bodies in terms

A function has the body that runs when it is called, and the constants of the body are terms in it.  What
is asked of the bodies in a term is asked of every body at any depth.
-/

namespace ScopedTemplate

/-! ## Bodies -/

def Body.partsOfFields (fields : List (Body × Body)) : List Body :=
  fields.flatMap fun field => [field.1, field.2]

def Body.parts : Body → List Body
  | .list items | .tuple items | .concat items | .add items | .mul items | .sequence items => items
  | .map fields => partsOfFields fields
  | .ref name => [name]
  | .size of => [of]
  | .item of key => [of, key]
  | .choose condition yes no => [condition, yes, no]
  | .same left right => [left, right]
  | .typeOf of => [of]
  | .attempt body => [body]
  | .edit _ of => [of]
  | .ask _ _ template _ env overrides => template :: env :: partsOfFields overrides
  | .block body => [body]
  | .readItem name => [name]
  | .readOr name fallback => [name, fallback]
  | .readHas name => [name]
  | .arg _ | .const _ | .fresh _ _ _ | .self | .count | .raise _ _ | .note _ | .readView
  | .readField _ | .readNames | .readItems | .readSize | .readText | .setField _ | .dropField _ => []

/-- `P` holds of a body and of all bodies in it. -/
inductive Body.Every (P : Body → Prop) : Body → Prop where
  | intro {body : Body} (here : P body) (parts : ∀ part ∈ body.parts, Every P part) : Every P body

namespace Body.Every

variable {P : Body → Prop} {body : Body}

theorem here (every : Every P body) : P body := by
  cases every with
  | intro here _ => exact here

theorem parts (every : Every P body) : ∀ part ∈ body.parts, Every P part := by
  cases every with
  | intro _ parts => exact parts

theorem mono {Q : Body → Prop} (imp : ∀ body, P body → Q body) (every : Every P body) :
    Every Q body := by
  induction every with
  | intro here _ ih => exact .intro (imp _ here) ih

end Body.Every

/-- A body without parts is all there is in it. -/
theorem Body.every_of_noParts {P : Body → Prop} {body : Body} (here : P body)
    (noParts : body.parts = []) : body.Every P := by
  refine .intro here ?_
  rw [noParts]
  exact fun part member => absurd member List.not_mem_nil

theorem Body.mem_partsOfFields {fields : List (Body × Body)} {part : Body} :
    part ∈ partsOfFields fields ↔ ∃ field ∈ fields, part = field.1 ∨ part = field.2 := by
  simp [partsOfFields]

theorem Body.sizeOf_lt_of_mem_fields {fields : List (Body × Body)} {part : Body}
    (member : part ∈ partsOfFields fields) : sizeOf part < sizeOf fields := by
  obtain ⟨field, among, inside⟩ := mem_partsOfFields.1 member
  have smaller := List.sizeOf_lt_of_mem among
  obtain ⟨key, value⟩ := field
  simp only [Prod.mk.sizeOf_spec] at smaller
  rcases inside with rfl | rfl <;> omega

theorem Body.sizeOf_lt_of_mem_parts {body part : Body} (member : part ∈ body.parts) :
    sizeOf part < sizeOf body := by
  cases body with
  | map fields =>
      have smaller := sizeOf_lt_of_mem_fields member
      simp only [map.sizeOf_spec]
      omega
  | ask config cache template inView env overrides =>
      simp only [ask.sizeOf_spec]
      rcases List.mem_cons.1 member with rfl | member
      · omega
      · rcases List.mem_cons.1 member with rfl | inFields
        · omega
        · have smaller := sizeOf_lt_of_mem_fields inFields
          omega
  | list items | tuple items | concat items | add items | mul items | sequence items =>
      have smaller := List.sizeOf_lt_of_mem (show part ∈ items from member)
      simp only [list.sizeOf_spec, tuple.sizeOf_spec, concat.sizeOf_spec, add.sizeOf_spec,
        mul.sizeOf_spec, sequence.sizeOf_spec]
      omega
  | _ =>
      simp only [parts, List.mem_cons, List.not_mem_nil, or_false] at member <;>
        rcases member with rfl | rfl | rfl <;> simp +arith

theorem Body.mem_constantsOfItems {bodies : List Body} {part : Body} (member : part ∈ bodies)
    {t : Term} (inside : t ∈ part.constants) : t ∈ constantsOfItems bodies := by
  induction bodies with
  | nil => exact absurd member List.not_mem_nil
  | cons first rest ih =>
      rcases List.mem_cons.1 member with rfl | later
      · exact List.mem_append_left _ inside
      · exact List.mem_append_right _ (ih later)

theorem Body.mem_constantsOfFields {fields : List (Body × Body)} {part : Body}
    (member : part ∈ partsOfFields fields) {t : Term} (inside : t ∈ part.constants) :
    t ∈ constantsOfFields fields := by
  obtain ⟨field, among, here⟩ := mem_partsOfFields.1 member
  clear member
  induction fields with
  | nil => exact absurd among List.not_mem_nil
  | cons first rest ih =>
      unfold constantsOfFields
      rcases List.mem_cons.1 among with rfl | later
      · rcases here with rfl | rfl
        · exact List.mem_append_left _ inside
        · exact List.mem_append_right _ (List.mem_append_left _ inside)
      · exact List.mem_append_right _ (List.mem_append_right _ (ih later))

/-- The constants of a body in a body are constants of it. -/
theorem Body.mem_constants_of_part {body part : Body} (member : part ∈ body.parts) {t : Term}
    (inside : t ∈ part.constants) : t ∈ body.constants := by
  cases body with
  | list items | tuple items | concat items | add items | mul items | sequence items =>
      exact mem_constantsOfItems (show part ∈ items from member) inside
  | map fields => exact mem_constantsOfFields member inside
  | ask config cache template inView env overrides =>
      unfold constants
      rcases List.mem_cons.1 member with rfl | member
      · exact List.mem_append_left _ inside
      · refine List.mem_append_right _ ?_
        rcases List.mem_cons.1 member with rfl | inFields
        · exact List.mem_append_left _ inside
        · exact List.mem_append_right _ (mem_constantsOfFields inFields inside)
  | _ =>
      simp only [parts, List.mem_cons, List.not_mem_nil, or_false] at member <;>
        rcases member with rfl | rfl | rfl <;> simp [constants, inside]

/-- In a body with certain constants all bodies have such constants. -/
theorem Body.Every.withConstants {P : Body → Prop} {Q : Term → Prop} {body : Body}
    (every : body.Every P) (constants : ∀ t ∈ body.constants, Q t) :
    body.Every fun body => P body ∧ ∀ t ∈ body.constants, Q t := by
  induction every with
  | intro here _ ih =>
      exact .intro ⟨here, constants⟩ fun part member =>
        ih part member fun t inside => constants t (mem_constants_of_part member inside)

/-- What holds of bodies with certain constants holds of all bodies in one with such constants. -/
theorem Body.every_of_constants {P : Body → Prop} {Q : Term → Prop}
    (imp : ∀ body, (∀ t ∈ body.constants, Q t) → P body) (body : Body)
    (constants : ∀ t ∈ body.constants, Q t) : body.Every P :=
  .intro (imp body constants) fun part _ =>
    every_of_constants imp part fun t inside => constants t (mem_constants_of_part ‹_› inside)
termination_by sizeOf body
decreasing_by exact sizeOf_lt_of_mem_parts ‹_›

/-- What holds of every body holds of all bodies in a body. -/
theorem Body.every_of_forall {P : Body → Prop} (all : ∀ body, P body) (body : Body) :
    body.Every P :=
  every_of_constants (fun body _ => all body) body fun _ _ => trivial

namespace Term

theorem renewBodies_eq_map (r : Renewal) (bodies : List Body) :
    renewBodies r bodies = bodies.map (renewBody r) := by
  induction bodies with
  | nil => simp [renewBodies]
  | cons body rest ih => simp [renewBodies, ih]

theorem renewFields_eq_map (r : Renewal) (fields : List (Body × Body)) :
    renewFields r fields = fields.map fun field => (renewBody r field.1, renewBody r field.2) := by
  induction fields with
  | nil => simp [renewFields]
  | cons field rest ih => simp [renewFields, ih]

/-- A renamed body has renamed parts. -/
theorem parts_renewBody (r : Renewal) (body : Body) :
    (renewBody r body).parts = body.parts.map (renewBody r) := by
  cases body with
  | map fields =>
      simp [renewBody, Body.parts, Body.partsOfFields, renewFields_eq_map, List.flatMap_map,
        List.map_flatMap]
  | ask config cache template inView env overrides =>
      simp [renewBody, Body.parts, Body.partsOfFields, renewFields_eq_map, List.flatMap_map,
        List.map_flatMap]
  | _ => simp [renewBody, Body.parts, renewBodies_eq_map]

end Term

theorem Body.Every.renewBody {P : Body → Prop} (r : Term.Renewal)
    (imp : ∀ body, P body → P (Term.renewBody r body)) {body : Body} (every : Body.Every P body) :
    Body.Every P (Term.renewBody r body) := by
  induction every with
  | intro here parts ih =>
      refine .intro (imp _ here) ?_
      rw [Term.parts_renewBody]
      exact List.forall_mem_map.2 ih

/-! ## What bodies ask for -/

namespace Body

def AsksOnly (allowed : Option Config → Option CacheId → Prop) : Body → Prop
  | .ask config cache .. => allowed config cache
  | _ => True

def opens : Body → Bool
  | .block _ => true
  | _ => false

def isIdle : Body → Bool
  | .ask .. | .block _ => false
  | _ => true

variable {allowed : Option Config → Option CacheId → Prop} {body : Body}

theorem AsksOnly.mono {allowed' : Option Config → Option CacheId → Prop}
    (asks : body.AsksOnly allowed) (imp : ∀ config cache, allowed config cache → allowed' config cache) :
    body.AsksOnly allowed' := by
  cases body with
  | ask config cache => exact imp config cache asks
  | _ => exact trivial

theorem AsksOnly.renewBody (r : Term.Renewal) (asks : body.AsksOnly allowed) :
    (Term.renewBody r body).AsksOnly allowed := by
  cases body with
  | ask => simpa [Term.renewBody, AsksOnly] using asks
  | _ => simp [Term.renewBody, AsksOnly]

theorem opens_renewBody (r : Term.Renewal) (body : Body) :
    (Term.renewBody r body).opens = body.opens := by
  cases body <;> simp [Term.renewBody, opens]

theorem asksOnly_of_idle (idle : body.isIdle = true) : body.AsksOnly allowed := by
  cases body with
  | ask => cases idle
  | _ => exact trivial

theorem opens_of_idle (idle : body.isIdle = true) : body.opens = false := by
  cases body with
  | block => cases idle
  | _ => rfl

end Body

/-! ## Pieces of terms -/

def Term.isAtom : Term → Bool
  | .null | .bool _ | .int _ | .float _ | .nan _ | .text _ _ | .bytes _ | .removed | .builtin _
  | .type _ | .internal _ => true
  | _ => false

def Term.appliedBody? : Term → Option Body
  | .callable .object _ _ _ body | .callable .procedure _ _ _ body => some body
  | _ => none

def Term.calleeParts (callee : Term) : List Term :=
  match callee.appliedBody? with
  | some body => body.constants
  | none => [callee]

def Term.pieces : Term → List Term
  | .function _ _ _ _ callee => callee.calleeParts
  | t => t.parts

theorem Term.pieces_view (stamp : Stamp) (resolver : Resolver Term) (env : Environment Term)
    (cache : CacheId) : (Term.view stamp resolver env cache).pieces =
      resolver.replacements ++ env.layers.flatMap Entries.terms := rfl

namespace Term

theorem appliedBody?_renew (r : Renewal) (t : Term) :
    (t.renew r).appliedBody? = t.appliedBody?.map (renewBody r) := by
  cases t with
  | callable kind => cases kind <;> simp [Term.renew, Term.appliedBody?]
  | _ => simp [Term.renew, Term.appliedBody?]

theorem calleeParts_renew (r : Renewal) (callee : Term) :
    (callee.renew r).calleeParts = callee.calleeParts.map (Term.renew r) := by
  unfold Term.calleeParts
  rw [appliedBody?_renew]
  cases callee.appliedBody? with
  | none => rfl
  | some body => exact constants_renewBody r body

/-! ## Terms with certain bodies -/

def body? : Term → Option (Bool × Body)
  | .callable _ _ _ _ body => some (false, body)
  | .function _ _ _ _ callee => callee.appliedBody?.map (true, ·)
  | _ => none

/-- Every body in a term is allowed, for calls with values or with views. -/
inductive OnlyBodies (allowed : Bool → Body → Prop) : Term → Prop where
  | node {t : Term}
      (here : ∀ values body, t.body? = some (values, body) → body.Every (allowed values))
      (pieces : ∀ s ∈ t.pieces, OnlyBodies allowed s) : OnlyBodies allowed t

variable {allowed : Bool → Body → Prop} {t : Term}

theorem OnlyBodies.pieces (only : t.OnlyBodies allowed) :
    ∀ s ∈ t.pieces, s.OnlyBodies allowed := by
  cases only with
  | node _ pieces => exact pieces

theorem OnlyBodies.body (only : t.OnlyBodies allowed) {values : Bool} {body : Body}
    (found : t.body? = some (values, body)) : body.Every (allowed values) := by
  cases only with
  | node here _ => exact here values body found

theorem OnlyBodies.mono {allowed' : Bool → Body → Prop}
    (imp : ∀ values body, allowed values body → allowed' values body)
    (only : t.OnlyBodies allowed) : t.OnlyBodies allowed' := by
  induction only with
  | node here _ ih =>
      exact .node (fun values body found => (here values body found).mono (imp values)) ih

/-- An atom has no bodies in it. -/
theorem onlyBodies_atom (simple : t.isAtom = true) : t.OnlyBodies allowed := by
  have noParts : t.pieces = [] ∧ t.body? = none := by
    cases t with
    | list | tuple | map | set | point | function | callable | view => cases simple
    | _ => exact ⟨rfl, rfl⟩
  refine .node (fun _ _ found => ?_) fun s member => ?_
  · rw [noParts.2] at found
    cases found
  · rw [noParts.1] at member
    exact absurd member List.not_mem_nil

/-- What is called when a function is applied is a body, with the constants as its parts. -/
theorem parts_of_appliedBody? {body : Body} (applied : t.appliedBody? = some body) :
    t.parts = body.constants := by
  cases t with
  | callable kind _ _ _ _ =>
      cases kind <;> cases applied <;> rfl
  | _ => cases applied

/-- What holds of the parts of a term, and of the term, holds of what it has as a callee. -/
theorem forall_calleeParts {P : Term → Prop} (here : P t) (parts : ∀ s ∈ t.parts, P s) :
    ∀ s ∈ t.calleeParts, P s := by
  unfold calleeParts
  split
  · next body applied =>
      rw [← parts_of_appliedBody? applied]
      exact parts
  · exact List.forall_mem_singleton.2 here

/-- What holds of the parts of a term, and of their parts, holds of the pieces of the term. -/
theorem forall_pieces {P : Term → Prop}
    (parts : ∀ s ∈ t.parts, P s ∧ ∀ u ∈ s.calleeParts, P u) : ∀ s ∈ t.pieces, P s := by
  cases t with
  | function _ _ _ _ callee => exact (parts callee List.mem_cons_self).2
  | _ => exact fun s member => (parts s member).1

theorem OnlyViews.parts {views : Resolver Term → CacheId → Prop} (only : t.OnlyViews views) :
    ∀ s ∈ t.parts, s.OnlyViews views := by
  cases only with
  | view _ parts => exact parts
  | other _ parts => exact parts

theorem OnlyViews.pieces {views : Resolver Term → CacheId → Prop} (only : t.OnlyViews views) :
    ∀ s ∈ t.pieces, s.OnlyViews views :=
  forall_pieces fun s member => ⟨only.parts s member, forall_calleeParts (only.parts s member)
    (only.parts s member).parts⟩

theorem onlyBodies_iff (noBody : t.body? = none) :
    t.OnlyBodies allowed ↔ ∀ s ∈ t.pieces, s.OnlyBodies allowed := by
  refine ⟨OnlyBodies.pieces, .node fun values body found => ?_⟩
  rw [noBody] at found
  cases found

theorem onlyBodies_callable {kind : CallableKind} {stamp : Stamp} {label name : String} {body : Body} :
    OnlyBodies allowed (.callable kind stamp label name body) ↔
      body.Every (allowed false) ∧ ∀ t ∈ body.constants, OnlyBodies allowed t := by
  refine ⟨fun only => ⟨only.body rfl, only.pieces⟩, fun only => .node ?_ only.2⟩
  rintro values _ ⟨⟩
  exact only.1

@[simp] theorem onlyBodies_null : OnlyBodies allowed .null := onlyBodies_atom rfl

@[simp] theorem onlyBodies_removed : OnlyBodies allowed .removed := onlyBodies_atom rfl

@[simp] theorem onlyBodies_text (kind : TextKind) (s : String) : OnlyBodies allowed (.text kind s) :=
  onlyBodies_atom rfl

@[simp] theorem onlyBodies_int (n : Int) : OnlyBodies allowed (.int n) := onlyBodies_atom rfl

@[simp] theorem onlyBodies_list {kind : ListKind} {stamp : Option Stamp} {items : List Term} :
    OnlyBodies allowed (.list kind stamp items) ↔ ∀ t ∈ items, OnlyBodies allowed t :=
  onlyBodies_iff rfl

@[simp] theorem onlyBodies_map {kind : MapKind} {stamp : Option Stamp} {entries : Entries} :
    OnlyBodies allowed (.map kind stamp entries) ↔ Entries.Each (OnlyBodies allowed) entries :=
  (onlyBodies_iff rfl).trans Entries.each_iff_terms.symm

theorem pieces_renew (r : Renewal) (noView : t.isView = false) :
    (t.renew r).pieces = t.pieces.map (Term.renew r) := by
  cases t with
  | function _ _ _ _ callee => simpa only [Term.renew, pieces] using calleeParts_renew r callee
  | _ => simpa only [Term.renew, pieces] using parts_renew r noView

theorem body?_renew (r : Renewal) (t : Term) :
    (t.renew r).body? = t.body?.map fun found => (found.1, renewBody r found.2) := by
  cases t with
  | function _ _ _ _ callee =>
      simp [Term.renew, body?, appliedBody?_renew, Function.comp_def]
  | _ => simp [Term.renew, body?]

/-- A renamed term has renamed bodies. -/
theorem OnlyBodies.renew (r : Renewal)
    (imp : ∀ values body, allowed values body → allowed values (renewBody r body))
    (only : t.OnlyBodies allowed) : (t.renew r).OnlyBodies allowed := by
  induction only with
  | @node t here pieces ih =>
      by_cases isView : t.isView = true
      · cases t with
        | view =>
            simp only [Term.renew]
            exact .node here pieces
        | _ => cases isView
      · refine .node (fun values body found => ?_) ?_
        · rw [body?_renew] at found
          obtain ⟨⟨values, inner⟩, shape, same⟩ := Option.map_eq_some_iff.1 found
          cases same
          exact (here values inner shape).renewBody r (imp values)
        · rw [pieces_renew r (Bool.eq_false_iff.2 isView)]
          exact List.forall_mem_map.2 ih

/-- What is allowed of bodies, whatever stamps are in them, is allowed of terms by their parts. -/
theorem onlyBodies_hereditary
    (imp : ∀ r values body, allowed values body → allowed values (renewBody r body)) :
    Hereditary (OnlyBodies allowed) where
  null := onlyBodies_atom rfl
  bool _ := onlyBodies_atom rfl
  int _ := onlyBodies_atom rfl
  text _ _ := onlyBodies_atom rfl
  list := onlyBodies_list
  tuple := onlyBodies_iff rfl
  set := onlyBodies_iff rfl
  point := onlyBodies_iff rfl
  map := onlyBodies_map
  view only := Environment.each_iff_terms.2 fun s member =>
    only.pieces s (List.mem_append_right _ member)
  renew r only := only.renew r (imp r)

/-- What is allowed for any call of a body is allowed in what a function calls. -/
theorem OnlyBodies.callee {P : Body → Prop} {stamp : Stamp} {name : String} {deps : List String}
    {doc : Option String} {callee : Term}
    (only : (Term.function stamp name deps doc callee).OnlyBodies fun _ => P) :
    callee.OnlyBodies fun _ => P := by
  have pieces := only.pieces
  change ∀ s ∈ callee.calleeParts, s.OnlyBodies fun _ => P at pieces
  cases applied : callee.appliedBody? with
  | none =>
      unfold calleeParts at pieces
      rw [applied] at pieces
      exact pieces callee List.mem_cons_self
  | some body =>
      have every := only.body (congrArg (Option.map (true, ·)) applied)
      cases callee with
      | callable kind stamp label name inner =>
          refine .node (fun values found shape => ?_) ?_
          · cases shape
            cases kind <;> cases applied <;> exact every
          · cases kind <;> cases applied <;> exact pieces
      | _ => cases applied

theorem forall_mem_imp {P : Term → Prop} {q : Prop} {items : List Term} :
    (q → ∀ t ∈ items, P t) ↔ ∀ t ∈ items, q → P t :=
  ⟨fun all t member holds => all holds t member, fun each holds t member => each t member holds⟩

theorem Hereditary.imp {P : Term → Prop} (inner : Hereditary P) (q : Prop) :
    Hereditary fun t => q → P t where
  null _ := inner.null
  bool b _ := inner.bool b
  int n _ := inner.int n
  text kind s _ := inner.text kind s
  list := (imp_congr_right fun _ => inner.list).trans forall_mem_imp
  tuple := (imp_congr_right fun _ => inner.tuple).trans forall_mem_imp
  set := (imp_congr_right fun _ => inner.set).trans forall_mem_imp
  point := (imp_congr_right fun _ => inner.point).trans forall_mem_imp
  map := by
    refine (imp_congr_right fun _ => inner.map).trans ⟨fun all entry member => ?_, fun each holds => ?_⟩
    · exact ⟨fun holds => (all holds entry member).1, fun holds => (all holds entry member).2⟩
    · exact each.mono fun _ implied => implied holds
  view both := Environment.each_iff_terms.2 fun t member holds =>
    Environment.each_iff_terms.1 (inner.view (both holds)) t member
  renew r both holds := inner.renew r (both holds)

theorem Hereditary.and {P Q : Term → Prop} (first : Hereditary P) (second : Hereditary Q) :
    Hereditary fun t => P t ∧ Q t where
  null := ⟨first.null, second.null⟩
  bool b := ⟨first.bool b, second.bool b⟩
  int n := ⟨first.int n, second.int n⟩
  text kind s := ⟨first.text kind s, second.text kind s⟩
  list := (and_congr first.list second.list).trans (by simp only [imp_and, forall_and])
  tuple := (and_congr first.tuple second.tuple).trans (by simp only [imp_and, forall_and])
  set := (and_congr first.set second.set).trans (by simp only [imp_and, forall_and])
  point := (and_congr first.point second.point).trans (by simp only [imp_and, forall_and])
  map := by
    refine (and_congr first.map second.map).trans ⟨fun both entry member => ?_, fun each => ⟨?_, ?_⟩⟩
    · exact ⟨⟨(both.1 entry member).1, (both.2 entry member).1⟩,
        ⟨(both.1 entry member).2, (both.2 entry member).2⟩⟩
    · exact each.mono fun _ => And.left
    · exact each.mono fun _ => And.right
  view both := Environment.each_iff_terms.2 fun t member =>
    ⟨Environment.each_iff_terms.1 (first.view both.1) t member,
      Environment.each_iff_terms.1 (second.view both.2) t member⟩
  renew r both := ⟨first.renew r both.1, second.renew r both.2⟩

end Term

/-! ## What a view answers by itself -/

namespace View

open Term

theorem methods_idle : ∀ method ∈ methods, method.2.2.Every fun body => body.isIdle = true := by
  have atom : ∀ {body : Body}, body.parts = [] → body.isIdle = true →
      body.Every fun body => body.isIdle = true := fun noParts here => Body.every_of_noParts here noParts
  intro method member
  simp only [methods, List.mem_cons, List.not_mem_nil, or_false] at member
  rcases member with rfl | rfl | rfl | rfl | rfl | rfl | rfl | rfl | rfl | rfl | rfl | rfl | rfl | rfl <;>
    refine .intro rfl fun part inside => ?_ <;>
    simp [Body.parts, takesNothing, takesMore] at inside <;>
    rcases inside with rfl | rfl <;> exact atom rfl rfl

/-- A member of a view neither asks for resolutions nor opens blocks. -/
theorem member?_idle {name shown : String} {stamp : Stamp} {member : Term}
    (found : member? name shown stamp = some member) :
    member.OnlyBodies fun _ body => body.isIdle = true := by
  have accessor : ∀ {label name : String} {body : Body},
      (body.Every fun body => body.isIdle = true) → (∀ t ∈ body.constants, t.isAtom = true) →
        (Term.callable .accessor stamp label name body).OnlyBodies fun _ body => body.isIdle = true := by
    intro label name body every constants
    refine .node (fun values inner found => ?_) fun t inside => onlyBodies_atom (constants t inside)
    cases found
    exact every
  unfold member? at found
  split at found
  · next method body _ inMethods =>
      cases found
      have among := List.mem_of_find?_eq_some inMethods
      refine accessor (methods_idle _ among) fun t inside => ?_
      have atoms : ∀ method ∈ methods, ∀ t ∈ method.2.2.constants, t.isAtom = true := by
        simp [methods, takesNothing, takesMore, Body.constants, Body.constantsOfItems, isAtom]
      exact atoms _ among t inside
  · cases found
    refine accessor (Body.every_of_noParts rfl rfl) fun t inside => ?_
    rw [List.mem_singleton.1 inside]
    rfl
  · split at found
    · cases found
      exact onlyBodies_atom rfl
    · split at found
      · cases found
        exact onlyBodies_atom rfl
      · split at found
        · next value _ inConstants =>
            cases found
            have atoms : ∀ constant ∈ constants, constant.2.body? = none ∧
                ∀ t ∈ constant.2.pieces, t.isAtom = true := by
              simp [constants, ownFields, isAtom, Term.pieces, Term.parts, Term.body?, Entries.terms]
            obtain ⟨noBody, pieces⟩ := atoms _ (List.mem_of_find?_eq_some inConstants)
            exact (onlyBodies_iff noBody).2 fun t inside => onlyBodies_atom (pieces t inside)
        · cases found
          exact onlyBodies_atom rfl
        · cases found

end View

end ScopedTemplate
