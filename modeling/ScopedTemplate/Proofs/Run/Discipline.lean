import ScopedTemplate.Proofs.Run.Memo
import ScopedTemplate.Proofs.Term.Bodies

/-!
# Disciplines

A discipline says which terms are handed on, what functions may be given, and what holds of the world between
two steps of a run.  A run keeps the discipline if all this is so again after it.  After a failure less may
hold, which is made good as soon as the failure is caught.  That a table is used after it was closed is the
one failure that a discipline may rule out.
-/

namespace ScopedTemplate

/-- What is to hold of the terms and of the worlds of a run. -/
structure Discipline where
  /-- What is handed on. -/
  safe : Term → Prop
  hereditary : Term.Hereditary safe
  /-- What functions are given: safe terms, and views of safe bindings. -/
  given : Term → Prop
  given_of_safe : ∀ {t}, safe t → given t
  safe_of_given : ∀ {t}, given t → t.isView = false → safe t
  bindings : ∀ {stamp resolver env cache}, given (.view stamp resolver env cache) → env.Each safe
  /-- With what settings and which table functions may ask for resolutions. -/
  asks : Option Config → Option CacheId → Prop
  /-- Whether functions may open blocks. -/
  opens : Prop
  /-- What may be different from one run to another. -/
  Index : Type
  holds : Index → World → Prop
  /-- What holds after a failure. -/
  broken : Index → Failure → World → Prop
  holds_of_same : ∀ {index world world'}, holds index world → World.SameTables world world' →
    holds index world'
  broken_of_holds : ∀ {index world failure}, holds index world → failure ≠ .closed →
    broken index failure world
  broken_of_same : ∀ {index world world' failure failure'}, broken index failure world →
    World.SameTables world world' → failure' ≠ .closed → broken index failure' world'
  holds_of_caught : ∀ {index world failure}, broken index failure world →
    holds index { world with caught := failure :: world.caught }

namespace Discipline

open Run

def Keeps (d : Discipline) {α : Type} (run : Run α) (post : α → Prop) : Prop :=
  ∀ index world, d.holds index world →
    Run.After run world (fun value world => d.holds index world ∧ post value) (d.broken index)

variable {d : Discipline}

namespace Keeps

variable {α β : Type} {post : α → Prop} {post' : β → Prop}

theorem steady {run : Run α} (steady : Steady run post) : d.Keeps run post := by
  intro index world holds
  refine (steady world).mono ?_ ?_
  · rintro value world' ⟨same, valued⟩
    exact ⟨d.holds_of_same holds same, valued⟩
  · rintro failure world' ⟨same, plain⟩
    exact d.broken_of_holds (d.holds_of_same holds same) (failure.ne_closed plain)

theorem silent {run : Run α} (silent : Silent run post) : d.Keeps run post := steady silent.steady

theorem pure {value : α} (holds : post value) : d.Keeps (pure value) post := silent (.pure holds)

theorem fail {failure : Failure} (differs : failure ≠ .closed) :
    d.Keeps (throw failure : Run α) post :=
  fun _ _ holds => d.broken_of_holds holds differs

theorem throw {failure : Failure} (plain : failure.isPlain = true) :
    d.Keeps (throw failure : Run α) post := fail (failure.ne_closed plain)

theorem bind {first : Run α} {next : α → Run β} (keeps : d.Keeps first post)
    (then_keeps : ∀ value, post value → d.Keeps (next value) post') :
    d.Keeps (first >>= next) post' := by
  intro index world holds
  refine after_bind.2 ((keeps index world holds).mono ?_ fun _ _ left => left)
  rintro value world' ⟨holds', valued⟩
  exact then_keeps value valued index world' holds'

theorem mono {run : Run α} {post' : α → Prop} (keeps : d.Keeps run post)
    (imp : ∀ value, post value → post' value) : d.Keeps run post' := by
  intro index world holds
  refine (keeps index world holds).mono ?_ fun _ _ left => left
  rintro value world' ⟨holds', valued⟩
  exact ⟨holds', imp value valued⟩

theorem ofResult {result : Except Failure α} (holds : ∀ value, result = .ok value → post value)
    (plainly : FailsPlainly result) : d.Keeps (ofResult result) post :=
  steady (.ofResult holds plainly)

/-- What is made of safe terms and takes a stamp is safe if it is so whatever the stamp. -/
theorem make {run : Run Term} {build : Option Stamp → Term}
    (makes : Silent run fun made => ∃ stamp, made = build stamp) {post : Term → Prop}
    (holds : ∀ stamp, post (build stamp)) : d.Keeps run post := by
  refine (silent makes).mono ?_
  rintro _ ⟨stamp, rfl⟩
  exact holds stamp

/-- A handler that notes the failure goes on in a world where the discipline holds again. -/
theorem recover {body : Run Term} {handler : Failure → Option (Run Term)} {post : Term → Prop}
    (keeps : d.Keeps body post)
    (handles : ∀ failure next, handler failure = some next →
      ∃ rest, next = (noteCaught failure >>= fun _ => rest) ∧ d.Keeps rest post) :
    d.Keeps (recover body handler) post := by
  intro index world holds
  refine after_recover.2 ((keeps index world holds).mono (fun _ _ ends => ends) ?_)
  intro failure world' left
  cases handled : handler failure with
  | none => exact left
  | some next =>
      obtain ⟨rest, rfl, rest_keeps⟩ := handles failure next handled
      refine after_bind.2 (after_modify.2 ?_)
      exact rest_keeps index _ (d.holds_of_caught left)

theorem reportEndless {ceiling : Int} {cache : CacheId} {body : Run Term} {post : Term → Prop}
    (keeps : d.Keeps body post) : d.Keeps (Run.reportEndless ceiling cache body) post := by
  intro index world holds
  refine after_recover.2 ((keeps index world holds).mono (fun _ _ ends => ends) ?_)
  intro failure world' left
  cases exhausted : failure.isExhaustion with
  | false => exact left
  | true =>
      refine after_bind.2 ((Steady.chain cache world').mono ?_ ?_)
      · rintro names world'' ⟨same, _⟩
        exact d.broken_of_same left same (Failure.ne_closed rfl)
      · rintro failure' world'' ⟨same, plain⟩
        exact d.broken_of_same left same (failure'.ne_closed plain)

/-- What resolves a term and then reports the counts of the table keeps the discipline. -/
theorem resolveIn {resolution : Resolution} {resolver : Resolver Term} {template : Term}
    {env : Environment Term} {cache : CacheId} {post : Term → Prop}
    (keeps : d.Keeps (resolution resolver template env cache) post) :
    d.Keeps (resolveIn resolution resolver template env cache) post := by
  refine reportEndless (keeps.bind fun value valued => ?_)
  refine bind (silent (.cache cache)) fun table _ => ?_
  refine bind (steady (.checkTable table "hits")) fun _ _ => ?_
  refine bind (silent (.log _ _)) fun _ _ => ?_
  exact pure valued

/-- Checks of a result leave it as it is. -/
theorem resolveWith {resolution : Resolution} {resolver : Resolver Term} {template : Term}
    {env : Environment Term} {given : Option CacheId} {post : Term → Prop}
    (keeps : d.Keeps (resolveLeniently resolution resolver template env given) post) :
    d.Keeps (resolveWith resolution resolver template env given) post := by
  refine keeps.bind fun value valued => ?_
  refine bind (steady (resolver.checkResult_steady env value)) fun _ _ => ?_
  exact pure valued

end Keeps

end Discipline

end ScopedTemplate
