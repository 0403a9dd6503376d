import Mathlib.Data.List.Forall2
import ScopedTemplate.Proofs.Run.Quiet
import ScopedTemplate.Proofs.Term.Bodies

/-!
# Terms of two runs

Two runs of one computation can be followed side by side if what they hold differs only where it
may: in the resolvers and environments of views.  A pairing says which of these may stand for each
other; terms are alike if they have one shape and alike parts.
-/

namespace ScopedTemplate

/-! ## Pairings -/

/-- How two runs are compared. -/
structure Pairing where
  /-- The memo table whose use is compared. -/
  cache : CacheId
  /-- Whether the table is the one that resolutions share. -/
  shared : Prop
  /-- Whether environments may be layered in different ways; views are then read from only. -/
  merges : Prop
  /-- Whether the first run may refuse a dependency that the second one uses. -/
  diverges : Prop
  /-- The environments under which the table is used. -/
  admits : Environment Term → Environment Term → Prop
  /-- A scope may be entered from every environment that is admitted. -/
  enters : ∀ {env env' : Environment Term} (defaults defaults' : Entries), admits env env' →
    admits (env.child defaults) (env'.child defaults')
  /-- What says whether a dependency that is used is a reference. -/
  classifier : Classifier
  /-- How many failures were caught in the second run before. -/
  caught : Nat

namespace Pairing

variable (p : Pairing)

/--
What a body may do beside what its parts do; `values` says that it is called with values, and not
with a view.
-/
def Permits (values : Bool) : Body → Prop
  | .arg _ => p.merges → values = true
  | .readView | .readText => ¬ p.merges
  | .readField name => p.merges → ∀ shown stamp, View.member? name shown stamp = none
  | .attempt _ => ¬ p.diverges
  | .ask config given .. => given = some p.cache ∨ given = none ∧ p.shared →
    ∀ resolver, Resolver.MadeWith config resolver → ∀ env env', p.admits env env'
  | _ => True

/-- Resolvers that may use a table in the two runs. -/
structure Paired (cache : CacheId) (left right : Resolver Term) : Prop extends
    left.Similar right where
  checks : right.config.checkDependencies = left.config.checkDependencies ∨
    p.diverges ∧ cache = p.cache ∧ right.config.checkDependencies = false ∧
      left.classifier = p.classifier

theorem Paired.refl (cache : CacheId) (resolver : Resolver Term) :
    p.Paired cache resolver resolver :=
  ⟨.refl resolver, .inl rfl⟩

end Pairing

namespace Pairing

/-- What two functions call, but for the terms in it. -/
inductive Called (p : Pairing) : Term → Term → Prop where
  | applied {callee : Term} {body : Body} (applied : callee.appliedBody? = some body)
      (permitted : body.Every (p.Permits true)) : Called p callee callee
  | other {callee callee' : Term} (other : callee.appliedBody? = none)
      (other' : callee'.appliedBody? = none) : Called p callee callee'

/-- Two terms are the same but for their parts and for what views look into. -/
inductive Shaped (p : Pairing) : Term → Term → Prop where
  | atom {t : Term} (simple : t.isAtom = true) : Shaped p t t
  | list (kind : ListKind) (stamp : Option Stamp) {items items' : List Term}
      (size : items.length = items'.length) :
      Shaped p (.list kind stamp items) (.list kind stamp items')
  | tuple (stamp : Option Stamp) {items items' : List Term}
      (size : items.length = items'.length) : Shaped p (.tuple stamp items) (.tuple stamp items')
  | map (kind : MapKind) (stamp : Option Stamp) {entries entries' : Entries}
      (size : entries.length = entries'.length) :
      Shaped p (.map kind stamp entries) (.map kind stamp entries')
  | set (stamp : Stamp) {items items' : List Term} (size : items.length = items'.length) :
      Shaped p (.set stamp items) (.set stamp items')
  | point (stamp : Stamp) {items items' : List Term} (size : items.length = items'.length) :
      Shaped p (.point stamp items) (.point stamp items')
  | function (stamp : Stamp) (name : String) (deps : List String) (doc : Option String)
      {callee callee' : Term} (called : p.Called callee callee') :
      Shaped p (.function stamp name deps doc callee) (.function stamp name deps doc callee')
  | callable (kind : CallableKind) (stamp : Stamp) (label name : String) {body : Body}
      (permitted : body.Every (p.Permits false)) :
      Shaped p (.callable kind stamp label name body) (.callable kind stamp label name body)
  | view (stamp : Stamp) {resolver resolver' : Resolver Term} {env env' : Environment Term}
      {cache : CacheId} (kept : ¬ p.merges) (paired : p.Paired cache resolver resolver')
      (admitted : cache = p.cache → p.admits env env')
      (layers : env.layers.map List.length = env'.layers.map List.length) :
      Shaped p (.view stamp resolver env cache) (.view stamp resolver' env' cache)

/-- Two terms are of one shape, and so are their parts at every depth. -/
inductive Alike (p : Pairing) : Term → Term → Prop where
  | node {t t' : Term} (shape : p.Shaped t t')
      (each : ∀ s s', (s, s') ∈ t.pieces.zip t'.pieces → Alike p s s') : Alike p t t'

def AlikeEntries (p : Pairing) : Entries → Entries → Prop :=
  List.Forall₂ fun entry entry' => p.Alike entry.1 entry'.1 ∧ p.Alike entry.2 entry'.2

end Pairing

/-! ## Parts -/

theorem Entries.length_terms (entries : Entries) : (terms entries).length = 2 * entries.length := by
  induction entries with
  | nil => rfl
  | cons entry rest ih =>
      rw [terms, List.flatMap_cons, List.length_append]
      change 2 + (terms rest).length = _
      rw [ih, List.length_cons]
      omega

theorem Entries.length_layers {layers layers' : List Entries}
    (sizes : layers.map List.length = layers'.map List.length) :
    (layers.flatMap terms).length = (layers'.flatMap terms).length := by
  induction layers generalizing layers' with
  | nil =>
      rw [List.map_eq_nil_iff.1 sizes.symm]
  | cons layer rest ih =>
      obtain ⟨layer', rest', rfl, size, sizes⟩ := List.map_eq_cons_iff.1 sizes.symm
      rw [List.flatMap_cons, List.flatMap_cons, List.length_append, List.length_append,
        length_terms, length_terms, size, ih sizes.symm]

/-- Entries correspond if their terms do. -/
theorem Entries.forall₂_of_terms {R : Term → Term → Prop} {entries entries' : Entries}
    (size : entries.length = entries'.length)
    (each : List.Forall₂ R (terms entries) (terms entries')) :
    List.Forall₂ (fun entry entry' => R entry.1 entry'.1 ∧ R entry.2 entry'.2) entries entries' := by
  induction entries generalizing entries' with
  | nil =>
      rw [List.length_eq_zero_iff.1 size.symm]
      exact .nil
  | cons entry rest ih =>
      cases entries' with
      | nil => cases size
      | cons entry' rest' =>
          simp only [terms, List.flatMap_cons, List.cons_append, List.nil_append,
            List.forall₂_cons] at each
          exact .cons ⟨each.1, each.2.1⟩ (ih (Nat.succ.inj size) each.2.2)

theorem Entries.terms_of_forall₂ {R : Term → Term → Prop} {entries entries' : Entries}
    (each : List.Forall₂ (fun entry entry' => R entry.1 entry'.1 ∧ R entry.2 entry'.2)
      entries entries') : List.Forall₂ R (terms entries) (terms entries') := by
  induction each with
  | nil => exact .nil
  | cons first others ih => exact .cons first.1 (.cons first.2 ih)

/-- Layers correspond if their terms do. -/
theorem Entries.layers_of_terms {R : Term → Term → Prop} {layers layers' : List Entries}
    (sizes : layers.map List.length = layers'.map List.length)
    (each : List.Forall₂ R (layers.flatMap terms) (layers'.flatMap terms)) :
    List.Forall₂ (List.Forall₂ fun entry entry' => R entry.1 entry'.1 ∧ R entry.2 entry'.2)
      layers layers' := by
  induction layers generalizing layers' with
  | nil =>
      rw [List.map_nil, eq_comm, List.map_eq_nil_iff] at sizes
      rw [sizes]
      exact .nil
  | cons layer rest ih =>
      cases layers' with
      | nil => cases sizes
      | cons layer' rest' =>
          simp only [List.map_cons, List.cons.injEq] at sizes
          rw [List.flatMap_cons, List.flatMap_cons] at each
          have same : (terms layer).length = (terms layer').length := by
            rw [length_terms, length_terms, sizes.1]
          refine .cons (forall₂_of_terms sizes.1 ?_) (ih sizes.2 ?_)
          · have firsts := List.forall₂_take (terms layer).length each
            rwa [List.take_left, same, List.take_left] at firsts
          · have others := List.forall₂_drop (terms layer).length each
            rwa [List.drop_left, same, List.drop_left] at others

theorem Entries.terms_of_layers {R : Term → Term → Prop} {layers layers' : List Entries}
    (each : List.Forall₂ (List.Forall₂ fun entry entry' => R entry.1 entry'.1 ∧ R entry.2 entry'.2)
      layers layers') : List.Forall₂ R (layers.flatMap terms) (layers'.flatMap terms) := by
  induction each with
  | nil => exact .nil
  | cons first others ih =>
      rw [List.flatMap_cons, List.flatMap_cons]
      exact List.rel_append (terms_of_forall₂ first) ih

/-! ## Terms alike -/

namespace Pairing

variable {p : Pairing} {t t' : Term}

theorem Called.length_parts {callee callee' : Term} (called : p.Called callee callee') :
    callee.calleeParts.length = callee'.calleeParts.length := by
  cases called with
  | applied => rfl
  | other other other' =>
      unfold Term.calleeParts
      rw [other, other']
      rfl

theorem Shaped.length_pieces (shape : p.Shaped t t') : t.pieces.length = t'.pieces.length := by
  cases shape with
  | atom simple => rfl
  | list kind stamp size => exact size
  | tuple stamp size => exact size
  | map kind stamp size =>
      unfold Term.pieces Term.parts
      rw [Entries.length_terms, Entries.length_terms, size]
  | set stamp size => exact size
  | point stamp size => exact size
  | function stamp name deps doc called => exact called.length_parts
  | callable kind stamp label name permitted => rfl
  | view stamp kept paired admitted layers =>
      rw [Term.pieces_view, Term.pieces_view, List.length_append, List.length_append,
        paired.replacements, Entries.length_layers layers]

theorem alike_iff : p.Alike t t' ↔ p.Shaped t t' ∧ List.Forall₂ p.Alike t.pieces t'.pieces := by
  constructor
  · rintro ⟨shape, each⟩
    exact ⟨shape, List.forall₂_iff_zip.2 ⟨shape.length_pieces, fun inside => each _ _ inside⟩⟩
  · rintro ⟨shape, each⟩
    exact .node shape fun _ _ inside => (List.forall₂_iff_zip.1 each).2 inside

theorem Alike.shape (alike : p.Alike t t') : p.Shaped t t' := (alike_iff.1 alike).1

theorem Alike.pieces (alike : p.Alike t t') : List.Forall₂ p.Alike t.pieces t'.pieces :=
  (alike_iff.1 alike).2

theorem alike_atom (simple : t.isAtom = true) : p.Alike t t := by
  refine alike_iff.2 ⟨.atom simple, ?_⟩
  rw [show t.pieces = [] by cases t <;> first | rfl | cases simple]
  exact .nil

@[simp] theorem alike_null : p.Alike .null .null := alike_atom rfl

@[simp] theorem alike_removed : p.Alike .removed .removed := alike_atom rfl

@[simp] theorem alike_text (kind : TextKind) (s : String) : p.Alike (.text kind s) (.text kind s) :=
  alike_atom rfl

@[simp] theorem alike_int (n : Int) : p.Alike (.int n) (.int n) := alike_atom rfl

@[simp] theorem alike_bool (b : Bool) : p.Alike (.bool b) (.bool b) := alike_atom rfl

@[simp] theorem alike_builtin (name : String) : p.Alike (.builtin name) (.builtin name) :=
  alike_atom rfl

@[simp] theorem alike_type (name : ValueType) : p.Alike (.type name) (.type name) := alike_atom rfl

@[simp] theorem alike_internal (own : ValueType) : p.Alike (.internal own) (.internal own) :=
  alike_atom rfl

theorem alike_list {kind : ListKind} {stamp : Option Stamp} {items items' : List Term} :
    p.Alike (.list kind stamp items) (.list kind stamp items') ↔
      List.Forall₂ p.Alike items items' := by
  refine ⟨Alike.pieces, fun each => alike_iff.2 ⟨.list kind stamp each.length_eq, each⟩⟩

theorem alike_tuple {stamp : Option Stamp} {items items' : List Term} :
    p.Alike (.tuple stamp items) (.tuple stamp items') ↔ List.Forall₂ p.Alike items items' := by
  refine ⟨Alike.pieces, fun each => alike_iff.2 ⟨.tuple stamp each.length_eq, each⟩⟩

theorem alike_set {stamp : Stamp} {items items' : List Term} :
    p.Alike (.set stamp items) (.set stamp items') ↔ List.Forall₂ p.Alike items items' := by
  refine ⟨Alike.pieces, fun each => alike_iff.2 ⟨.set stamp each.length_eq, each⟩⟩

theorem alike_point {stamp : Stamp} {items items' : List Term} :
    p.Alike (.point stamp items) (.point stamp items') ↔ List.Forall₂ p.Alike items items' := by
  refine ⟨Alike.pieces, fun each => alike_iff.2 ⟨.point stamp each.length_eq, each⟩⟩

theorem alike_map {kind : MapKind} {stamp : Option Stamp} {entries entries' : Entries} :
    p.Alike (.map kind stamp entries) (.map kind stamp entries') ↔
      p.AlikeEntries entries entries' := by
  constructor
  · intro alike
    cases alike.shape with
    | atom simple => cases simple
    | map _ _ size => exact Entries.forall₂_of_terms size alike.pieces
  · intro each
    exact alike_iff.2 ⟨.map kind stamp each.length_eq, Entries.terms_of_forall₂ each⟩

/-- What two functions call is alike; a body that takes values is permitted as such. -/
def AlikeCallee (p : Pairing) (callee callee' : Term) : Prop :=
  p.Called callee callee' ∧ List.Forall₂ p.Alike callee.calleeParts callee'.calleeParts

theorem alike_function {stamp : Stamp} {name : String} {deps : List String} {doc : Option String}
    {callee callee' : Term} :
    p.Alike (.function stamp name deps doc callee) (.function stamp name deps doc callee') ↔
      p.AlikeCallee callee callee' := by
  constructor
  · intro alike
    refine ⟨?_, alike.pieces⟩
    cases alike.shape with
    | atom simple => cases simple
    | function _ _ _ _ called => exact called
  · rintro ⟨called, each⟩
    exact alike_iff.2 ⟨.function stamp name deps doc called, each⟩

/-- What is called is alike as a term, or it is one body that takes values. -/
theorem AlikeCallee.cases_eq {callee callee' : Term} (alike : p.AlikeCallee callee callee') :
    p.Alike callee callee' ∨ callee = callee' ∧ ∃ body, callee.appliedBody? = some body ∧
      body.Every (p.Permits true) ∧ ∀ t ∈ body.constants, p.Alike t t := by
  obtain ⟨called, each⟩ := alike
  unfold Term.calleeParts at each
  cases called with
  | applied applied permitted =>
      rw [applied] at each
      exact .inr ⟨rfl, _, applied, permitted, List.forall₂_same.1 each⟩
  | other other other' =>
      rw [other, other'] at each
      exact .inl (List.forall₂_cons.1 each).1

theorem alike_callable {kind : CallableKind} {stamp : Stamp} {label name : String} {body : Body} :
    p.Alike (.callable kind stamp label name body) (.callable kind stamp label name body) ↔
      body.Every (p.Permits false) ∧ ∀ t ∈ body.constants, p.Alike t t := by
  constructor
  · intro alike
    refine ⟨?_, List.forall₂_same.1 alike.pieces⟩
    cases alike.shape with
    | atom simple => cases simple
    | callable _ _ _ _ permitted => exact permitted
  · rintro ⟨permitted, constants⟩
    exact alike_iff.2 ⟨.callable kind stamp label name permitted, List.forall₂_same.2 constants⟩

theorem alike_view {stamp : Stamp} {resolver resolver' : Resolver Term}
    {env env' : Environment Term} {cache : CacheId} :
    p.Alike (.view stamp resolver env cache) (.view stamp resolver' env' cache) ↔
      ¬ p.merges ∧ p.Paired cache resolver resolver' ∧ (cache = p.cache → p.admits env env') ∧
        (∀ t ∈ resolver.replacements, p.Alike t t) ∧
          List.Forall₂ p.AlikeEntries env.layers env'.layers := by
  constructor
  · intro alike
    cases alike.shape with
    | atom simple => cases simple
    | view _ kept paired admitted layers =>
        have parts := alike.pieces
        rw [Term.pieces_view, Term.pieces_view, paired.replacements] at parts
        refine ⟨kept, paired, admitted, ?_, ?_⟩
        · have firsts := List.forall₂_take resolver.replacements.length parts
          rw [List.take_left, List.take_left] at firsts
          exact List.forall₂_same.1 firsts
        · have others := List.forall₂_drop resolver.replacements.length parts
          rw [List.drop_left, List.drop_left] at others
          exact Entries.layers_of_terms layers others
  · rintro ⟨kept, paired, admitted, replacements, layers⟩
    refine alike_iff.2 ⟨.view stamp kept paired admitted ?_, ?_⟩
    · exact List.forall₂_eq_eq_eq ▸ List.forall₂_map_left_iff.2
        (List.forall₂_map_right_iff.2 (layers.imp fun _ _ each => each.length_eq))
    · rw [Term.pieces_view, Term.pieces_view, paired.replacements]
      exact List.rel_append (List.forall₂_same.2 replacements) (Entries.terms_of_layers layers)

/--
What holds of all terms that are alike: it holds of every shape if it holds of the parts.  Nothing
is asked of the parts of views and of the constants of bodies.
-/
theorem Alike.by_shape {motive : Term → Term → Prop} (alike : p.Alike t t')
    (atom : ∀ t : Term, t.isAtom = true → motive t t)
    (list : ∀ kind stamp {items items'},
      List.Forall₂ (fun s s' => p.Alike s s' ∧ motive s s') items items' →
        motive (.list kind stamp items) (.list kind stamp items'))
    (tuple : ∀ stamp {items items'},
      List.Forall₂ (fun s s' => p.Alike s s' ∧ motive s s') items items' →
        motive (.tuple stamp items) (.tuple stamp items'))
    (map : ∀ kind stamp {entries entries' : Entries},
      List.Forall₂ (fun entry entry' => (p.Alike entry.1 entry'.1 ∧ motive entry.1 entry'.1) ∧
        p.Alike entry.2 entry'.2 ∧ motive entry.2 entry'.2) entries entries' →
          motive (.map kind stamp entries) (.map kind stamp entries'))
    (set : ∀ stamp {items items'},
      List.Forall₂ (fun s s' => p.Alike s s' ∧ motive s s') items items' →
        motive (.set stamp items) (.set stamp items'))
    (point : ∀ stamp {items items'},
      List.Forall₂ (fun s s' => p.Alike s s' ∧ motive s s') items items' →
        motive (.point stamp items) (.point stamp items'))
    (function : ∀ stamp name deps doc {callee callee'}, p.Called callee callee' →
      List.Forall₂ (fun s s' => p.Alike s s' ∧ motive s s') callee.calleeParts callee'.calleeParts →
        motive (.function stamp name deps doc callee) (.function stamp name deps doc callee'))
    (callable : ∀ kind stamp label name {body : Body}, body.Every (p.Permits false) →
      (∀ t ∈ body.constants, p.Alike t t ∧ motive t t) →
        motive (.callable kind stamp label name body) (.callable kind stamp label name body))
    (view : ∀ stamp {resolver resolver' env env' cache},
      p.Alike (.view stamp resolver env cache) (.view stamp resolver' env' cache) →
        motive (.view stamp resolver env cache) (.view stamp resolver' env' cache)) :
    motive t t' := by
  induction alike with
  | @node t t' shape each ih =>
      have parts : List.Forall₂ (fun s s' => p.Alike s s' ∧ motive s s') t.pieces t'.pieces :=
        List.forall₂_iff_zip.2 ⟨shape.length_pieces, fun inside => ⟨each _ _ inside, ih _ _ inside⟩⟩
      cases shape with
      | atom simple => exact atom _ simple
      | list kind stamp size => exact list kind stamp parts
      | tuple stamp size => exact tuple stamp parts
      | map kind stamp size => exact map kind stamp (Entries.forall₂_of_terms size parts)
      | set stamp size => exact set stamp parts
      | point stamp size => exact point stamp parts
      | function stamp name deps doc called => exact function stamp name deps doc called parts
      | callable kind stamp label name permitted =>
          exact callable kind stamp label name permitted (List.forall₂_same.1 parts)
      | view stamp kept paired admitted layers =>
          exact view stamp (.node (.view stamp kept paired admitted layers) each)

end Pairing

end ScopedTemplate
