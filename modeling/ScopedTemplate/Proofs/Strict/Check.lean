import ScopedTemplate.Proofs.Cycles.Tracing
import ScopedTemplate.Proofs.Lockstep.Inputs
import ScopedTemplate.Proofs.Resolver.NormalForm
import ScopedTemplate.Proofs.Sharing.Answers
import ScopedTemplate.Proofs.Term.References

/-!
# Strict resolutions

A strict resolver does what the lenient one does, and looks at the result in the end.  It stops
earlier where a function is to be applied to a reference: then it depends on the function what the
lenient one makes of it.
-/

namespace ScopedTemplate

variable {stack : Stack}

open Run

/-! ## Inputs and results -/

/-- No function in a term recovers from failures. -/
abbrev Term.CatchesNothing (t : Term) : Prop :=
  t.OnlyBodies fun _ body => ∀ inner, body ≠ .attempt inner

/-- What a resolution reads has no functions that recover from failures. -/
structure CatchesNothing (template : Term) (env : Environment Term) (world : World) : Prop where
  template : template.CatchesNothing
  bindings : env.Each Term.CatchesNothing
  stored : ∀ table ∈ world.caches, ∀ entry ∈ table.entries, entry.2.CatchesNothing

/-- Values that are shown alike, and are equal unless they hold views. -/
structure Term.Same (value value' : Term) : Prop where
  shown : value.tagged = value'.tagged
  equal : value.OnlyViews (fun _ _ => False) → value = value'

/-- Whether a function is applied to a reference. -/
def Event.appliesToRef (classifier : Classifier) : Event → Bool
  | .applied _ args => args.any (classifier.isRef ·)
  | _ => false

/-- The same resolver, but for references that are left and for those that functions get. -/
def Resolver.lenient (resolver : Resolver Term) : Resolver Term :=
  { resolver with
    config := { resolver.config with strict := false, strictDependencies := false } }

/-! ## The two runs -/

namespace Pairing

def strictness (classifier : Classifier) (cache : CacheId) (caught : Nat) : Pairing where
  cache := cache
  shared := True
  merges := False
  diverges := True
  admits _ _ := True
  enters _ _ _ := trivial
  classifier := classifier
  caught := caught

variable {p : Pairing} {classifier : Classifier} {cache : CacheId} {caught : Nat} {t t' : Term}

theorem admits_strictness (avoids : t.Avoids cache) (catchless : t.CatchesNothing) :
    (strictness classifier cache caught).Admits t := by
  refine ⟨avoids.mono fun _ _ other => ⟨not_false, other⟩, catchless.mono ?_⟩
  intro values body other
  cases body with
  | arg index => exact False.elim
  | readView | readText => exact not_false
  | readField name => exact False.elim
  | attempt inner => exact absurd rfl (other inner)
  | ask => exact fun _ _ _ _ _ => trivial
  | _ => trivial

theorem forall_of_forall₂ {α β : Type} {R : α → β → Prop} {P : α → Prop} {Q : β → Prop}
    {items : List α} {items' : List β} (each : List.Forall₂ R items items')
    (inside : ∀ item' ∈ items', Q item') (imp : ∀ item item', R item item' → Q item' → P item) :
    ∀ item ∈ items, P item := by
  induction each with
  | nil => exact fun _ member => absurd member List.not_mem_nil
  | cons first _ ih =>
      obtain ⟨here, others⟩ := List.forall_mem_cons.1 inside
      exact List.forall_mem_cons.2 ⟨imp _ _ first here, ih others⟩

/-- What is alike to a value in normal form is in normal form. -/
theorem Alike.normal {resolver resolver' : Resolver Term} {left : Term → Prop}
    (alike : p.Alike t t') (similar : resolver.Similar resolver')
    (normal : Resolver.Normal resolver' left t') : Resolver.Normal resolver left t := by
  have kinds : ∀ {t t' kind}, p.Alike t t' → resolver'.classifier.kind t' = kind →
      resolver.classifier.kind t = kind := by
    intro t t' kind both found
    rw [both.kind, ← similar.classifier, found]
  have drops : ∀ {t t'}, p.Alike t t' → resolver'.drops t' = false → resolver.drops t = false := by
    intro t t' both kept
    rw [both.drops similar, kept]
  have items : ∀ {items items' : List Term}, List.Forall₂ p.Alike items items' →
      (∀ item ∈ items', resolver'.drops item = false) →
        (∀ item ∈ items', ∀ t, p.Alike t item → Resolver.Normal resolver left t) →
          (∀ item ∈ items, resolver.drops item = false) ∧
            ∀ item ∈ items, Resolver.Normal resolver left item :=
    fun each kept ih => ⟨forall_of_forall₂ each kept fun _ _ both => drops both,
      forall_of_forall₂ each ih fun _ _ both normal => normal _ both⟩
  induction normal generalizing t with
  | removed =>
      cases alike.shape with
      | atom simple => exact .removed
  | scalar kind => exact .scalar (kinds alike kind)
  | @ref t' kind isLeft =>
      obtain ⟨textKind, s, rfl⟩ := Classifier.text_of_ref kind
      cases alike.shape with
      | atom simple => exact .ref (kinds alike kind) isLeft
  | @map stamp entries' kind deep noDefaults kept values ih =>
      cases alike.shape with
      | atom simple => cases simple
      | @map _ _ entries _ size =>
          have each := alike_map.1 alike
          refine .map (kinds alike kind) (similar.maxDepth ▸ deep) ?_ ?_ ?_
          · have same : resolver'.defaultsKey = resolver.defaultsKey :=
              congrArg Term.str similar.defaultsKey
            rw [same] at noDefaults
            exact (each.has (alike_text .plain resolver.config.defaultsKey)).trans noDefaults
          · exact forall_of_forall₂ each kept fun _ _ both => drops both.2
          · exact forall_of_forall₂ each ih fun _ _ both normal => normal both.2
  | list kind deep kept values ih =>
      cases alike.shape with
      | atom simple => cases simple
      | list _ _ size =>
          obtain ⟨kept, values⟩ := items (alike_list.1 alike) kept fun _ member _ => ih _ member
          exact .list (kinds alike kind) (similar.maxDepth ▸ deep) kept values
  | tuple kind deep kept values ih =>
      cases alike.shape with
      | atom simple => cases simple
      | tuple _ size =>
          obtain ⟨kept, values⟩ := items (alike_tuple.1 alike) kept fun _ member _ => ih _ member
          exact .tuple (kinds alike kind) (similar.maxDepth ▸ deep) kept values

theorem Alike.same (alike : p.Alike t t') : t.Same t' := ⟨alike.tagged, alike.eq_of_noViews⟩

end Pairing

namespace Resolver

open Pairing

variable {resolver : Resolver Term} {template value : Term} {env : Environment Term}
  {given : Option CacheId} {world world' : World}

theorem similar_lenient (resolver : Resolver Term) : resolver.Similar resolver.lenient :=
  ⟨rfl, rfl, rfl, rfl, rfl, rfl⟩

/-- A strict resolution and a lenient one go in lockstep up to the check of the result. -/
theorem ends_lenient (stack : Stack) (rules : resolver.rules = Rule.standard)
    (fresh : Fresh resolver.Similar resolver template env given world)
    (catchless : CatchesNothing template env world) :
    (strictness resolver.classifier (world.tableFor given) world.caught.length).Ends
      (strictness resolver.classifier (world.tableFor given) world.caught.length).Alike
      (resolveLeniently (resolveTerm stack.ceiling stack.levels) resolver template env given world)
      (resolveLeniently (resolveTerm stack.ceiling stack.levels) resolver.lenient template env given world) := by
  refine ends_same_input stack.levels rfl fresh.new
    (admits_strictness fresh.template.1 catchless.template) ?_ ?_ ?_ (fun _ => trivial)
    (Nat.le_refl _) ⟨similar_lenient resolver, .inr ⟨trivial, rfl, rfl, rfl⟩⟩ trivial
  · intro layer member entry among
    have leaves := fresh.bindings layer member entry among
    have catches := catchless.bindings layer member entry among
    exact ⟨admits_strictness leaves.1.1 catches.1, admits_strictness leaves.2.1 catches.2⟩
  · unfold replacements
    rw [rules]
    exact fun _ member => absurd member List.not_mem_nil
  · exact fun table member entry among => admits_strictness (fresh.stored table member entry among).1
      (catchless.stored table member entry among)

/-! ## The check of a result -/

/-- A lenient resolution returns what it finds. -/
theorem resolve_lenient : resolver.lenient.resolve template env given stack =
    resolveLeniently (resolveTerm stack.ceiling stack.levels) resolver.lenient template env given := by
  have accepts : ∀ result, resolver.lenient.checkResult env result = pure () := fun _ => rfl
  unfold resolve resolveWith
  simp only [accepts, pure_bind, bind_pure]

/-- A strict resolution returns the value that it finds, or shows the references in it. -/
theorem resolve_strict_of_ok (strict : resolver.config.strict = true) (tells : resolver.Tells)
    (found : resolveLeniently (resolveTerm stack.ceiling stack.levels) resolver template env given world =
      .ok value world') :
    resolver.resolve template env given stack world =
      match value.referenceNames resolver.classifier resolver.config.defaultsKey with
      | [] => .ok value world'
      | refs => (Run.snapshot env >>= fun shown => throw (.unresolved refs shown)) world' := by
  unfold resolve resolveWith checkResult
  simp only [Bind.bind, EStateM.bind, found, tells.check value, Run.ofResult, strict, if_true]
  cases value.referenceNames resolver.classifier resolver.config.defaultsKey with
  | nil => rfl
  | cons first rest =>
      unfold Run.snapshot
      by_cases writable : Term.areWritableEntries env.flatten = true
      · rw [if_pos writable]
        rfl
      · rw [if_neg writable]
        rfl

/-! ## Agreement -/

def strictStandard : Resolver Term :=
  { standard with config := { Config.standard with strict := true } }

def repeating (name : String) : Term :=
  .function 0 "repeat" [name] none
    (.callable .procedure 1 "repeat" "repeat" (.concat [.arg 0, .arg 0]))

/-- A number that is too long to be written is so among bindings. -/
theorem not_areWritable_writtenBound :
    Term.areWritableEntries [(.str "A", .int Numeral.writtenBound)] = false := by
  simp only [Term.areWritableEntries, Term.isWritable, Numeral.isTooLong, Int.natAbs_natCast,
    Nat.le_refl, decide_true, Bool.not_true, Bool.and_false, Bool.false_and]

/-- A value with a reference under a key that only some resolvers take for that of defaults. -/
def keyed : Term :=
  .map .plain none [(.str "D", .map .plain none [(.str "z", .ref "q")]), (.str "k", .null)]

end Resolver

end ScopedTemplate
