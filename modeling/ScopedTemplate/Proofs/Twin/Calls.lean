import ScopedTemplate.Proofs.Twin.Nodes

/-!
# Pure functions

What a pure function gives depends on the data of its arguments only.  Two resolutions that go side by
side call it alike.
-/

namespace ScopedTemplate

variable {ceiling ceiling' : Int}

open Run

/-- Two calls end with values that are the same but for identity, or with the same failure. -/
inductive CalledAlike (world world' : World) :
    EStateM.Result Failure World Term → EStateM.Result Failure World Term → Prop where
  | ok {value value' : Term} {after after' : World} (same : value.Resembles value')
      (aside : World.Aside world world' after after') :
      CalledAlike world world' (.ok value after) (.ok value' after')
  | error {failure : Failure} {after after' : World} (aside : World.Aside world world' after after') :
      CalledAlike world world' (.error failure after) (.error failure after')

namespace Term

/--
A function is pure: what it gives depends on the data of its arguments only, tables are left alone, and
what it calls is the same each time.
-/
def IsPure : Term → Prop
  | .function stamp name deps doc callee => ∀ ceiling ceiling' levels levels' args args' world world',
      List.Forall₂ Resembles args args' → CalledAlike world world'
        (invoke (resolveTerm ceiling levels) callee (.function stamp name deps doc callee) args world)
        (invoke (resolveTerm ceiling' levels') callee (.function stamp name deps doc callee) args' world')
  | _ => False

/-- A pure function is called alike wherever two resolutions go side by side. -/
theorem IsPure.runs {stamp : Stamp} {name : String} {deps : List String} {doc : Option String}
    {callee : Term} (pure : IsPure (.function stamp name deps doc callee)) {t : Twin}
    (lawful : t.Lawful) (levels levels' : Nat) {args args' : List Term}
    (same : List.Forall₂ Resembles args args') :
    t.Runs (fun value value' => value.Resembles value' ∧
        Returns (.function stamp name deps doc callee) args value ∧
        Returns (.function stamp name deps doc callee) args' value')
      (invoke (resolveTerm ceiling levels) callee (.function stamp name deps doc callee) args)
      (invoke (resolveTerm ceiling' levels') callee (.function stamp name deps doc callee) args') := by
  intro world world' worlds
  have called := pure ceiling ceiling' levels levels' args args' world world' same
  cases ended : invoke (resolveTerm ceiling levels) callee (.function stamp name deps doc callee) args world with
  | ok value after =>
      cases ended' : invoke (resolveTerm ceiling' levels') callee (.function stamp name deps doc callee) args'
          world' with
      | ok value' after' =>
          rw [ended, ended'] at called
          cases called with
          | ok same aside =>
              exact .ok ⟨same, ⟨ceiling, levels, world, after, ended⟩, ⟨ceiling', levels', world', after', ended'⟩⟩
                (lawful.aside worlds aside)
      | error failure' after' =>
          rw [ended, ended'] at called
          cases called
  | error failure after =>
      rw [ended] at called
      generalize invoke (resolveTerm ceiling' levels') callee (.function stamp name deps doc callee) args'
        world' = result' at called
      cases called with
      | error aside => exact .error (lawful.same _) (lawful.aside worlds aside)

theorem isPure_keeper (name : String) : IsPure (keeper name) := by
  intro ceiling ceiling' levels levels' args args' world world' same
  have aside : World.Aside world world'
      { world with counts := World.countCall 1 world.counts, calls := "keep" :: world.calls }
      { world' with counts := World.countCall 1 world'.counts, calls := "keep" :: world'.calls } :=
    ⟨⟨List.prefix_refl _, rfl⟩, ⟨List.prefix_refl _, rfl⟩, ["keep"], rfl, rfl⟩
  cases same with
  | nil => exact .error aside
  | cons first _ => exact .ok first aside

end Term

end ScopedTemplate
