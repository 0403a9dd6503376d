import ScopedTemplate.Proofs.Resolver.Nodes
import ScopedTemplate.Proofs.Run.Custody

/-!
# Resolution keeps a custody

Calls and reductions keep a custody as they keep any discipline.  Resolutions that are asked for work with
the table that is shared, or with one of their own; lookups and notes are harmless for every other table.
A custody that also tends to its own table in this way is kept by resolution at every level.
-/

namespace ScopedTemplate

variable {ceiling : Int}

open Run Term

namespace Custody

def Resolves (custody : Custody) (resolution : Resolution) : Prop :=
  ∀ {resolver t env cache}, custody.Fits resolver cache → custody.Safe t →
    env.Each custody.Safe → custody.Keeps (resolution resolver t env cache) custody.Safe

/-- What calls are given keeps the custody: the resolution of terms, and the reads of views. -/
structure Serves (custody : Custody) (resolution : Resolution) : Prop where
  resolves : custody.Resolves resolution
  reads : ∀ {resolver env cache} name, custody.Fits resolver cache → env.Each custody.Safe →
    custody.Keeps (View.item resolution resolver env cache name) custody.Safe

variable {custody : Custody} {resolution : Resolution}

theorem fits_of_view {stamp : Stamp} {resolver : Resolver Term} {env : Environment Term}
    {cache : CacheId} (safe : custody.Safe (.view stamp resolver env cache)) :
    custody.Fits resolver cache ∧ env.Each custody.Safe := by
  refine ⟨⟨(onlyViews_view.1 safe.1).1, fun t member => ?_⟩, custody.safe_hereditary.view safe⟩
  have piece := List.mem_append_left (env.layers.flatMap Entries.terms) member
  exact ⟨safe.1.pieces t piece, safe.2.pieces t piece⟩

theorem view_of_fits {resolver : Resolver Term} {env : Environment Term} {cache : CacheId}
    (fits : custody.Fits resolver cache) (stamp : Stamp) (bindings : env.Each custody.Safe) :
    custody.Safe (.view stamp resolver env cache) := by
  refine ⟨onlyViews_view.2 ⟨fits.admits, fun t member => (fits.replacements t member).1,
    bindings.mono fun _ => And.left⟩, (onlyBodies_iff rfl).2 fun t member => ?_⟩
  rcases List.mem_append.1 member with inRules | inEnv
  · exact (fits.replacements t inRules).2
  · exact (Environment.each_iff_terms.1 bindings t inEnv).2

/-! ## Resolutions that are asked for -/

theorem resolveIn_keeps (resolves : custody.Resolves resolution) {resolver : Resolver Term}
    {template : Term} {env : Environment Term} {cache : CacheId}
    (fits : custody.Fits resolver cache) (safe : custody.Safe template)
    (bindings : env.Each custody.Safe) :
    custody.Keeps (resolveIn resolution resolver template env cache) custody.Safe :=
  Discipline.Keeps.resolveIn (resolves fits safe bindings)

/-- A table of its own that is closed at the end is another table. -/
theorem Keeps.andThenClose {own : CacheId} (other : own ≠ custody.cache) {body : Run Term}
    (keeps : custody.Keeps body custody.Safe) :
    custody.Keeps (andThen body (closeCache own)) custody.Safe := by
  intro index world held
  refine after_andThen.2 ((keeps index world held).mono ?_ ?_)
  · rintro value world' ⟨held', safe⟩
    refine after_closeCache fun noted same _ => ⟨Held.changeOther (Held.of_same held' same) other ?_, safe⟩
    exact fun entry member => absurd member List.not_mem_nil
  · intro failure world' left
    refine after_closeCache fun noted same _ => Broken.changeOther (Broken.of_same left same) other ?_
    exact fun entry member => absurd member List.not_mem_nil

theorem Serves.resolveLeniently (serves : custody.Serves resolution) {config : Option Config}
    {given : Option CacheId} (asks : custody.Asks config given) {resolver : Resolver Term}
    (made : Resolver.MadeWith config resolver) {template : Term} {env : Environment Term}
    (safe : custody.Safe template) (bindings : env.Each custody.Safe) :
    custody.Keeps (resolveLeniently resolution resolver template env given) custody.Safe := by
  intro index world (held : custody.Held index world)
  refine after_bind.2 (after_get.2 ?_)
  have noRules : ∀ t ∈ resolver.replacements, custody.Safe t := by
    rw [made.replacements]
    exact List.forall_mem_nil _
  cases table : given <|> world.active with
  | some cache =>
      have fits : custody.Fits resolver cache := by
        refine ⟨fun same => asks ?_ resolver made, noRules⟩
        subst same
        cases given with
        | some id => exact .inl table
        | none => exact .inr ⟨rfl, held.shared table⟩
      exact resolveIn_keeps serves.resolves fits safe bindings index world held
  | none =>
      have other : world.caches.length ≠ custody.cache := (Nat.ne_of_lt held.inside).symm
      have fits : custody.Fits resolver world.caches.length :=
        ⟨fun same => absurd same other, noRules⟩
      refine after_bind.2 ?_
      have keeps := resolveIn_keeps serves.resolves fits safe bindings
      exact Keeps.andThenClose other keeps index _ held.addCache

theorem Serves.resolveWith (serves : custody.Serves resolution) {config : Option Config}
    {given : Option CacheId} (asks : custody.Asks config given) {resolver : Resolver Term}
    (made : Resolver.MadeWith config resolver) {template : Term} {env : Environment Term}
    (safe : custody.Safe template) (bindings : env.Each custody.Safe) :
    custody.Keeps (resolveWith resolution resolver template env given) custody.Safe :=
  Discipline.Keeps.resolveWith (serves.resolveLeniently asks made safe bindings)

/-! ## Calls -/

/-- A custody asks of functions only what holds of them if they are safe. -/
theorem lax (custody : Custody) : custody.discipline.Lax where
  given := id
  grants safe := (safe.2.body rfl).mono fun body asks => by
    cases body with
    | ask => exact asks
    | _ => exact trivial
  constants safe t member := ⟨onlyViews_callable.1 safe.1 t member, safe.2.pieces t member⟩
  callee safe := ⟨onlyViews_function.1 safe.1, safe.2.callee⟩
  members found := ⟨View.member?_onlyViews found,
    (View.member?_idle found).mono fun _ _ => Body.asksOnly_of_idle⟩

/-- A custody is kept by calls as any discipline is. -/
theorem Serves.discipline (serves : custody.Serves resolution) :
    custody.discipline.Serves resolution where
  asked := fun asks _ made => serves.resolveWith asks made
  blocks := fun _ => Keeps.within
  reads := fun name safe => serves.reads name (fits_of_view safe).1 (fits_of_view safe).2

/-- A call keeps the custody. -/
theorem Serves.invoke (serves : custody.Serves resolution) {callee self : Term}
    (called : custody.Safe callee) (selfSafe : custody.Safe self) {args : List Term}
    (safe : ∀ arg ∈ args, custody.Safe arg) :
    custody.Keeps (invoke resolution callee self args) custody.Safe :=
  serves.discipline.invoke (custody.lax.invocable called selfSafe safe)

/-! ## Nodes -/

section Nodes

variable {resolver : Resolver Term} {cache : CacheId}

/-- Entering the defaults of a mapping leads on to the rest of it. -/
theorem Serves.enterMapping (serves : custody.Serves resolution) {node : Node}
    (safe : custody.Safe node.term) (bindings : node.env.Each custody.Safe) {kind : MapKind}
    {stamp : Option Stamp} {entries : Entries} (shape : node.term = .map kind stamp entries) :
    custody.Keeps (resolver.enterDefaults resolution node) fun step =>
      ∃ term env, step = .again term env node.collected ∧ custody.Safe term ∧
        env.Each custody.Safe :=
  serves.discipline.enterMapping safe bindings shape

/-- A lookup with another table keeps the custody. -/
theorem lookupOther_keeps (resolves : custody.Resolves resolution)
    (fits : custody.Fits resolver cache) (other : cache ≠ custody.cache) {env : Environment Term}
    (bindings : env.Each custody.Safe) (name : Term) :
    custody.Keeps (lookupName resolution resolver env cache name) custody.Safe := by
  unfold lookupName
  split
  · refine (Keeps.recordOther other _).bind fun _ _ => ?_
    exact .pure (custody.safe_hereditary.text _ _)
  · next binding found =>
      exact .memoizeOther other (resolves fits (bindings.target? found) bindings)

/-- A read of a view keeps the custody if lookups and notes do. -/
theorem item_keeps {env : Environment Term} (name : Term)
    (looksUp : custody.Keeps (lookupName resolution resolver env cache name) custody.Safe)
    (notes : ∀ value, custody.Keeps (record cache (.read value)) fun _ => True) :
    custody.Keeps (View.item resolution resolver env cache name) custody.Safe :=
  Discipline.item_keeps name looksUp notes

/-- What a reduction with a table needs to keep the custody. -/
structure Works (custody : Custody) (resolution : Resolution) (resolver : Resolver Term)
    (cache : CacheId) : Prop extends custody.Serves resolution where
  fits : custody.Fits resolver cache
  looksUp : ∀ {env} name, env.Each custody.Safe →
    custody.Keeps (lookupName resolution resolver env cache name) custody.Safe
  notes : ∀ {event : Event}, event.isNote = true →
    custody.Keeps (record cache event) fun _ => True

theorem Works.resolveNode (works : custody.Works resolution resolver cache) {term : Term}
    {env : Environment Term} (safe : custody.Safe term) (bindings : env.Each custody.Safe) :
    custody.Keeps (resolver.resolveNode resolution cache term env) custody.Safe :=
  have discipline : custody.discipline.Works resolution resolver cache :=
    { works.toServes.discipline with
      children := works.resolves works.fits
      replacements := works.fits.replacements
      views := view_of_fits works.fits
      applied := fun safe args => custody.lax.invocable (custody.lax.callee safe) safe args
      called := fun safe view => custody.lax.invocable safe safe (List.forall_mem_singleton.2 view)
      acts := fun safe self view => custody.lax.reads safe self view
      looksUp := works.looksUp
      notes := works.notes }
  discipline.resolveNode safe bindings

/-- A reduction with another table has what it needs. -/
theorem Serves.worksOther (serves : custody.Serves resolution) (fits : custody.Fits resolver cache)
    (other : cache ≠ custody.cache) : custody.Works resolution resolver cache where
  toServes := serves
  fits := fits
  looksUp := fun name bindings => lookupOther_keeps serves.resolves fits other bindings name
  notes := fun _ => .recordOther other _

end Nodes

/-! ## Levels -/

/-- A custody tends to its own table if lookups with it and notes in it keep the custody. -/
structure Tends (custody : Custody) : Prop where
  looksUp : ∀ {resolution resolver env} name, custody.Resolves resolution →
    custody.Fits resolver custody.cache → env.Each custody.Safe →
      custody.Keeps (lookupName resolution resolver env custody.cache name) custody.Safe
  notes : ∀ {event : Event}, event.isNote = true →
    custody.Keeps (record custody.cache event) fun _ => True

theorem Tends.lookup (tends : custody.Tends) (resolves : custody.Resolves resolution)
    {resolver : Resolver Term} {cache : CacheId} (fits : custody.Fits resolver cache)
    {env : Environment Term} (bindings : env.Each custody.Safe) (name : Term) :
    custody.Keeps (lookupName resolution resolver env cache name) custody.Safe := by
  by_cases own : cache = custody.cache
  · subst own
    exact tends.looksUp name resolves fits bindings
  · exact lookupOther_keeps resolves fits own bindings name

theorem Tends.note (tends : custody.Tends) (cache : CacheId) {event : Event}
    (noted : event.isNote = true) : custody.Keeps (record cache event) fun _ => True := by
  by_cases own : cache = custody.cache
  · subst own
    exact tends.notes noted
  · exact .recordOther own event

theorem Tends.serves (tends : custody.Tends) (resolves : custody.Resolves resolution) :
    custody.Serves resolution where
  resolves := resolves
  reads := fun name fits bindings =>
    item_keeps name (tends.lookup resolves fits bindings name) fun _ => tends.note _ rfl

/-- Resolution at every level keeps a custody that tends to its table. -/
theorem Tends.resolves (tends : custody.Tends) (levels : Nat) :
    custody.Resolves (resolveTerm ceiling levels) := by
  induction levels with
  | zero =>
      intro resolver t env cache fits safe bindings
      exact .throw _
  | succ levels ih =>
      intro resolver t env cache fits safe bindings
      have works : custody.Works (resolveTerm ceiling levels) resolver cache :=
        { tends.serves ih with
          fits := fits
          looksUp := fun name bindings => tends.lookup ih fits bindings name
          notes := tends.note cache }
      exact works.resolveNode safe bindings

end Custody

end ScopedTemplate
