import ScopedTemplate.Graph
import ScopedTemplate.Proofs.Run.Quiet
import ScopedTemplate.Proofs.Term.Normal

/-!
# Functions in play

The functions that take part in a resolution are those of its template and bindings, and those that
the functions themselves give.  A term is inert if none of them is at work in it: at its positions,
outside of the scopes of defaults, there is no function.
-/

namespace ScopedTemplate

namespace Term

def isCalled : Term → Bool
  | .function .. | .callable .. => true
  | _ => false

end Term

/-! ## Positions outside of defaults -/

namespace Resolver

variable {resolver : Resolver Term} {t s : Term}

variable (resolver) in
/-- What a collection holds directly outside of its defaults; leaves are not looked into. -/
inductive Exposes : Term → Term → Prop where
  | value {kind : MapKind} {stamp : Option Stamp} {entries : Entries} {entry : Term × Term}
      (looked : resolver.classifier.kind (.map kind stamp entries) = .mapping)
      (member : entry ∈ entries) (outside : entry.1.sameKey resolver.defaultsKey = false) :
      Exposes (.map kind stamp entries) entry.2
  | element {kind : ListKind} {stamp : Option Stamp} {items : List Term} {item : Term}
      (looked : resolver.classifier.kind (.list kind stamp items) = .sequence)
      (member : item ∈ items) : Exposes (.list kind stamp items) item
  | component {stamp : Option Stamp} {items : List Term} {item : Term}
      (looked : resolver.classifier.kind (.tuple stamp items) = .sequence)
      (member : item ∈ items) : Exposes (.tuple stamp items) item

variable (resolver) in
/-- Neither a term nor anything in it is a function, but in scopes of defaults. -/
inductive Inert : Term → Prop where
  | intro {t : Term} (noFunction : resolver.classifier.kind t ≠ .function)
      (noCallable : resolver.classifier.kind t ≠ .callable)
      (inside : ∀ s, resolver.Exposes t s → Inert s) : Inert t

variable (resolver) in
/-- Nothing in a term is a function, but in scopes of defaults; the term itself may be one. -/
def Contained (t : Term) : Prop := ∀ s, resolver.Exposes t s → resolver.Inert s

theorem Inert.contained (inert : resolver.Inert t) : resolver.Contained t := by
  cases inert with
  | intro _ _ inside => exact inside

theorem Exposes.isCollection (exposes : resolver.Exposes t s) :
    (resolver.classifier.kind t).isCollection = true := by
  cases exposes with
  | value looked _ _ => rw [looked]; rfl
  | element looked _ => rw [looked]; rfl
  | component looked _ => rw [looked]; rfl

/-- What is neither a collection nor a function is inert. -/
theorem inert_of_kind (kind : resolver.classifier.kind t = .scalar ∨
    resolver.classifier.kind t = .removed ∨ resolver.classifier.kind t = .ref) :
    resolver.Inert t := by
  refine ⟨?_, ?_, fun s exposes => ?_⟩
  · rcases kind with kind | kind | kind <;> simp [kind]
  · rcases kind with kind | kind | kind <;> simp [kind]
  · have collection := exposes.isCollection
    rcases kind with kind | kind | kind <;> rw [kind] at collection <;> cases collection

/-- What has the shape of a collection is inert if it is contained. -/
theorem Contained.inert (contained : resolver.Contained t) (noCall : t.isCalled = false) :
    resolver.Inert t := by
  refine ⟨fun isFunction => ?_, fun isCallable => ?_, contained⟩
  · obtain ⟨_, _, _, _, _, rfl⟩ := Classifier.function_of_kind isFunction
    cases noCall
  · obtain ⟨_, _, _, _, _, rfl⟩ := Classifier.callable_of_kind isCallable
    cases noCall

theorem inert_text (kind : TextKind) (s : String) : resolver.Inert (.text kind s) := by
  refine Contained.inert ?_ rfl
  rintro _ ⟨⟩

theorem inert_null : resolver.Inert .null := by
  refine Contained.inert ?_ rfl
  rintro _ ⟨⟩

theorem inert_list {kind : ListKind} {stamp : Option Stamp} {items : List Term}
    (each : ∀ item ∈ items, resolver.Inert item) : resolver.Inert (.list kind stamp items) := by
  refine Contained.inert ?_ rfl
  rintro _ ⟨⟩
  exact each _ ‹_›

theorem inert_tuple {stamp : Option Stamp} {items : List Term}
    (each : ∀ item ∈ items, resolver.Inert item) : resolver.Inert (.tuple stamp items) := by
  refine Contained.inert ?_ rfl
  rintro _ ⟨⟩
  exact each _ ‹_›

theorem inert_map {kind : MapKind} {stamp : Option Stamp} {entries : Entries}
    (each : ∀ entry ∈ entries, resolver.Inert entry.2) :
    resolver.Inert (.map kind stamp entries) := by
  refine Contained.inert ?_ rfl
  rintro _ ⟨⟩
  exact each _ ‹_›

/-- A copy exposes what the term does, or copies of that. -/
theorem exposes_of_detach {next : Stamp} (exposes : resolver.Exposes (t.detach next).1 s) :
    resolver.Exposes t s ∨
      ∃ original next', resolver.Exposes t original ∧ s = (original.detach next').1 := by
  cases t with
  | list kind stamp items =>
      cases kind with
      | plain =>
          rw [Term.detach] at exposes
          cases exposes with
          | element looked member =>
              obtain ⟨original, inside, next', rfl⟩ := mem_detachItems member
              exact .inr ⟨original, next', .element looked inside, rfl⟩
      | rows => exact .inl exposes
  | tuple stamp items =>
      rw [Term.detach] at exposes
      cases exposes with
      | component looked member =>
          obtain ⟨original, inside, next', rfl⟩ := mem_detachItems member
          exact .inr ⟨original, next', .component looked inside, rfl⟩
  | map kind stamp entries =>
      cases kind with
      | plain =>
          rw [Term.detach] at exposes
          cases exposes with
          | value looked member outside =>
              obtain ⟨original, inside, next', rfl⟩ := mem_detachEntries member
              exact .inr ⟨original.2, next', .value looked inside outside, rfl⟩
      | frame => exact .inl exposes
  | _ => exact .inl exposes

theorem Inert.detach (inert : resolver.Inert t) (next : Stamp) :
    resolver.Inert (t.detach next).1 := by
  induction inert generalizing next with
  | intro noFunction noCallable inside ih =>
      refine ⟨?_, ?_, fun s exposes => ?_⟩
      · rw [kind_detach]
        exact noFunction
      · rw [kind_detach]
        exact noCallable
      · rcases exposes_of_detach exposes with same | ⟨original, next', before, rfl⟩
        · exact inside s same
        · exact ih original before next'

/-- What a collection exposes has fewer levels. -/
theorem Exposes.levels_lt (exposes : resolver.Exposes t s) : Graph.levels s < Graph.levels t := by
  cases exposes with
  | value _ member _ => exact Nat.lt_succ_of_le (Graph.levels_le_entries member)
  | element _ member => exact Nat.lt_succ_of_le (Graph.levels_le_items member)
  | component _ member => exact Nat.lt_succ_of_le (Graph.levels_le_items member)

end Resolver

/-! ## Functions that are known -/

/-- A resolver at work with a table, and the functions that take part. -/
structure Ensemble where
  resolver : Resolver Term
  cache : CacheId
  /-- The limit of the stack. -/
  ceiling : Int
  /-- The functions and callables that may be called, and the views of other resolutions. -/
  plays : Term → Prop
  /-- What holds of the world, whatever happens to the table. -/
  around : World → Prop
  around_same : ∀ {world world'}, World.SameTables world world' → around world → around world'
  around_change : ∀ {world} change, around world → around (world.change cache change)

namespace Ensemble

variable (ensemble : Ensemble)

/-- All functions in a term take part, and so do all views in it that are not its own. -/
inductive Knows : Term → Prop where
  | called {t : Term} (call : t.isCalled = true) (plays : ensemble.plays t) : Knows t
  | view {stamp : Stamp} {env : Environment Term} (bindings : ∀ t ∈ env.terms, Knows t) :
      Knows (.view stamp ensemble.resolver env ensemble.cache)
  | guest {t : Term} (view : t.isView = true) (plays : ensemble.plays t) : Knows t
  | other {t : Term} (noCall : t.isCalled = false) (noView : t.isView = false)
      (parts : ∀ s ∈ t.parts, Knows s) : Knows t

/-- What a resolution gives: a known term without functions at work. -/
structure Value (t : Term) : Prop where
  knows : ensemble.Knows t
  inert : ensemble.resolver.Inert t

variable {ensemble} {t : Term}

theorem knows_called (call : t.isCalled = true) : ensemble.Knows t ↔ ensemble.plays t := by
  constructor
  · intro knows
    cases knows with
    | called _ plays => exact plays
    | view _ => cases call
    | guest _ plays => exact plays
    | other noCall _ _ => exact absurd (call.symm.trans noCall) (by decide)
  · exact .called call

theorem knows_iff (noCall : t.isCalled = false) (noView : t.isView = false) :
    ensemble.Knows t ↔ ∀ s ∈ t.parts, ensemble.Knows s := by
  constructor
  · intro knows
    cases knows with
    | called call _ => exact absurd (call.symm.trans noCall) (by decide)
    | view _ => cases noView
    | guest view _ => exact absurd (view.symm.trans noView) (by decide)
    | other _ _ parts => exact parts
  · exact .other noCall noView

theorem knows_view {stamp : Stamp} {own : Resolver Term} {env : Environment Term}
    {cache : CacheId} : ensemble.Knows (.view stamp own env cache) ↔
      (own = ensemble.resolver ∧ cache = ensemble.cache ∧ env.Each ensemble.Knows) ∨
        ensemble.plays (.view stamp own env cache) := by
  constructor
  · intro knows
    cases knows with
    | called call _ => cases call
    | view bindings => exact .inl ⟨rfl, rfl, Environment.each_iff_terms.2 bindings⟩
    | guest _ plays => exact .inr plays
    | other _ noView _ => cases noView
  · rintro (⟨rfl, rfl, bindings⟩ | plays)
    · exact .view (Environment.each_iff_terms.1 bindings)
    · exact .guest rfl plays

theorem knows_text (kind : TextKind) (s : String) : ensemble.Knows (.text kind s) :=
  .other rfl rfl fun _ member => absurd member List.not_mem_nil

theorem knows_null : ensemble.Knows .null :=
  .other rfl rfl fun _ member => absurd member List.not_mem_nil

theorem knows_list {kind : ListKind} {stamp : Option Stamp} {items : List Term} :
    ensemble.Knows (.list kind stamp items) ↔ ∀ item ∈ items, ensemble.Knows item :=
  knows_iff rfl rfl

theorem knows_tuple {stamp : Option Stamp} {items : List Term} :
    ensemble.Knows (.tuple stamp items) ↔ ∀ item ∈ items, ensemble.Knows item :=
  knows_iff rfl rfl

theorem knows_map {kind : MapKind} {stamp : Option Stamp} {entries : Entries} :
    ensemble.Knows (.map kind stamp entries) ↔ Entries.Each ensemble.Knows entries :=
  (knows_iff rfl rfl).trans Entries.each_iff_terms.symm

/-- What a known term exposes is known. -/
theorem Knows.exposed {s : Term} (knows : ensemble.Knows t)
    (exposes : ensemble.resolver.Exposes t s) : ensemble.Knows s := by
  cases exposes with
  | value _ member _ => exact (knows_map.1 knows _ member).2
  | element _ member => exact knows_list.1 knows _ member
  | component _ member => exact knows_tuple.1 knows _ member

theorem Knows.detach (knows : ensemble.Knows t) (next : Stamp) :
    ensemble.Knows (t.detach next).1 := by
  induction knows generalizing next with
  | @called t call plays =>
      cases t with
      | function => exact .called call plays
      | callable => exact .called call plays
      | _ => cases call
  | view bindings => exact .view bindings
  | @guest t view plays =>
      cases t with
      | view => exact .guest view plays
      | _ => cases view
  | @other t noCall noView parts ih =>
      cases t with
      | list kind stamp items =>
          cases kind with
          | plain =>
              rw [Term.detach]
              refine knows_list.2 fun item member => ?_
              obtain ⟨original, inside, next', rfl⟩ := Resolver.mem_detachItems member
              exact ih original inside next'
          | rows => exact .other noCall noView parts
      | tuple stamp items =>
          rw [Term.detach]
          refine knows_tuple.2 fun item member => ?_
          obtain ⟨original, inside, next', rfl⟩ := Resolver.mem_detachItems member
          exact ih original inside next'
      | map kind stamp entries =>
          cases kind with
          | plain =>
              rw [Term.detach]
              refine knows_map.2 fun entry member => ?_
              obtain ⟨original, inside, next', rfl⟩ := Resolver.mem_detachEntries member
              have each := Entries.each_iff_terms.2 parts
              have copies := (Entries.each_iff_terms
                (P := fun s => ∀ next, ensemble.Knows (s.detach next).1)).2 ih
              exact ⟨(each original inside).1, (copies original inside).2 next'⟩
          | frame => exact .other noCall noView parts
      | _ => exact .other noCall noView parts

namespace Value

theorem detach (value : ensemble.Value t) (next : Stamp) : ensemble.Value (t.detach next).1 :=
  ⟨value.knows.detach next, value.inert.detach next⟩

theorem text (kind : TextKind) (s : String) : ensemble.Value (.text kind s) :=
  ⟨knows_text kind s, Resolver.inert_text kind s⟩

theorem null : ensemble.Value .null := ⟨knows_null, Resolver.inert_null⟩

theorem list {kind : ListKind} {stamp : Option Stamp} {items : List Term}
    (each : ∀ item ∈ items, ensemble.Value item) : ensemble.Value (.list kind stamp items) :=
  ⟨knows_list.2 fun item member => (each item member).knows,
    Resolver.inert_list fun item member => (each item member).inert⟩

theorem tuple {stamp : Option Stamp} {items : List Term}
    (each : ∀ item ∈ items, ensemble.Value item) : ensemble.Value (.tuple stamp items) :=
  ⟨knows_tuple.2 fun item member => (each item member).knows,
    Resolver.inert_tuple fun item member => (each item member).inert⟩

theorem map {kind : MapKind} {stamp : Option Stamp} {entries : Entries}
    (each : ∀ entry ∈ entries, ensemble.Knows entry.1 ∧ ensemble.Value entry.2) :
    ensemble.Value (.map kind stamp entries) :=
  ⟨knows_map.2 fun entry member => ⟨(each entry member).1, (each entry member).2.knows⟩,
    Resolver.inert_map fun entry member => (each entry member).2.inert⟩

end Value

end Ensemble

end ScopedTemplate
