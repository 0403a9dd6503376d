import ScopedTemplate.Proofs.Lockstep.Inputs

/-!
# Environments of a run

Every environment under which a resolution uses its table comes from the one that it begins with, by
entering scopes of defaults.  So a name that is left there without a binding has none at the start,
unless a scope binds the name to itself.
-/

namespace ScopedTemplate

variable {stack : Stack}

open Run

/-! ## Scopes above others -/

theorem Term.text?_of_key? {t : Term} {s : String} (found : t.key? = some (.text s)) :
    t.text? = some s := by
  have items : ∀ items : List Term, Term.keys? items ≠ some (.text s) := by
    intro items
    cases items with
    | nil => simp [Term.keys?]
    | cons t ts =>
        unfold Term.keys?
        split <;> simp
  cases t with
  | text kind s' =>
      rw [Term.key?_text] at found
      cases found
      rfl
  | tuple stamp inside => exact absurd (by simpa [Term.key?] using found) (items inside)
  | point stamp inside => exact absurd (by simpa [Term.key?] using found) (items inside)
  | float x => cases x <;> simp [Term.key?, Key.ofBinary64] at found
  -- by the constructors alone, for `simp` would compute the units of a number
  | bool b => cases found
  | int n => cases found
  | _ => simp [Term.key?] at found

/-- What is bound to itself under a name is so under every key that is equal to the name. -/
theorem isSelfBinding_of_sameKey {binding key name : Term} (same : key.sameKey name = true)
    (self : isSelfBinding binding name = true) : isSelfBinding binding key = true := by
  unfold isSelfBinding at self ⊢
  cases name with
  | text kind s =>
      obtain ⟨_, found, isText⟩ := Term.sameKey_iff.1 same
      rw [Term.key?_text] at isText
      cases isText
      rw [Term.text?_of_key? found]
      exact self
  | _ => split at self <;> simp_all [Term.text?]

namespace Environment

variable {root env : Environment Term} {t : Term}

def Extends (root env : Environment Term) : Prop :=
  env.overrides = root.overrides ∧ ∃ more, env.scopes = root.scopes ++ more

theorem Extends.refl (root : Environment Term) : root.Extends root :=
  ⟨rfl, [], (List.append_nil _).symm⟩

/-- A scope may be entered. -/
theorem Extends.child (extends_ : root.Extends env) (defaults : Entries) :
    root.Extends (env.child defaults) := by
  unfold Environment.child
  split
  · exact extends_
  · obtain ⟨overrides, more, scopes⟩ := extends_
    refine ⟨overrides, more ++ [defaults], ?_⟩
    rw [← List.append_assoc, ← scopes]

def inner (root env : Environment Term) : List Entries := env.scopes.drop root.scopes.length

/-- What a lookup finds is found in the overrides, then in the inner scopes, then at the start. -/
theorem Extends.lookup?_eq (extends_ : root.Extends env) :
    env.lookup? t = (Entries.find? root.overrides t <|>
      (root.inner env).reverse.findSome? (Entries.find? · t) <|>
        root.scopes.reverse.findSome? (Entries.find? · t)) := by
  obtain ⟨overrides, more, scopes⟩ := extends_
  unfold inner
  rw [Environment.lookup?_eq, overrides, scopes, List.drop_left, List.reverse_append,
    List.findSome?_append]
  simp only [Option.orElse_eq_orElse, Option.orElse_eq_or]

/-- No inner scope binds a name to itself. -/
def Unmasked (root env : Environment Term) : Prop :=
  ∀ scope ∈ root.inner env, ∀ entry ∈ scope, isSelfBinding entry.2 entry.1 = false

/-- What has no target in an inner scope has none at the start. -/
theorem Extends.target?_eq_none (extends_ : root.Extends env) (unmasked : root.Unmasked env)
    (left : env.target? t = none) : root.target? t = none := by
  unfold target? at left ⊢
  rw [extends_.lookup?_eq] at left
  rw [Environment.lookup?_eq]
  cases overridden : Entries.find? root.overrides t with
  | some binding =>
      rw [overridden] at left
      exact left
  | none =>
      rw [overridden] at left
      cases found : (root.inner env).reverse.findSome? (Entries.find? · t) with
      | none =>
          rw [found] at left
          exact left
      | some binding =>
          rw [found] at left
          obtain ⟨scope, among, bound⟩ := List.exists_of_findSome?_eq_some found
          obtain ⟨key, member, same⟩ := Entries.mem_of_find? bound
          have self : isSelfBinding binding t = true := by simpa using left
          have masks := isSelfBinding_of_sameKey same self
          rw [unmasked scope (List.mem_reverse.1 among) _ member] at masks
          cases masks

end Environment

/-! ## The environments of a run -/

namespace Pairing

/-- The comparison of a run with itself, under environments that extend one. -/
def descent (root : Environment Term) (cache : CacheId) (shared : Prop) : Pairing where
  cache := cache
  shared := shared
  merges := False
  diverges := False
  admits env _ := root.Extends env
  enters defaults _ extends_ := extends_.child defaults
  classifier := .standard
  caught := 0

theorem admits_descent {root : Environment Term} {cache : CacheId} {shared : Prop} {t : Term}
    (leaves : t.Leaves (fun _ => False) cache shared) : (descent root cache shared).Admits t := by
  refine ⟨leaves.1.mono fun _ _ other => ⟨not_false, other⟩, leaves.2.mono ?_⟩
  intro values body asks
  cases body with
  | ask config given => exact fun own resolver made => (asks own resolver made).elim
  | arg index => exact False.elim
  | readView | readText => exact not_false
  | readField name => exact False.elim
  | attempt inner => exact not_false
  | _ => trivial

end Pairing

namespace Resolver

open Pairing

variable {resolver : Resolver Term} {template value : Term} {env : Environment Term}
  {given : Option CacheId} {world done : World}

/--
What a resolution leaves in its table, with which nothing else is resolved, was left under
environments that extend the first.
-/
theorem extends_of_left (fresh : Fresh (fun _ => False) resolver template env given world)
    (run : resolveLeniently (resolveTerm stack.ceiling stack.levels) resolver template env given world =
      .ok value done) {env' : Environment Term} {reference : Term}
    (left : .left env' reference ∈ (done.cache (world.tableFor given)).events) :
    env.Extends env' := by
  let p := descent env (world.tableFor given) (world.active = some (world.tableFor given))
  have ends : p.Ends p.Alike
      (resolveLeniently (resolveTerm stack.ceiling stack.levels) resolver template env given world)
      (resolveLeniently (resolveTerm stack.ceiling stack.levels) resolver template env given world) := by
    refine ends_same_input stack.levels rfl fresh.new (admits_descent fresh.template)
      (fresh.bindings.mono fun _ => admits_descent)
      (fun t member => admits_descent (fresh.replacements t member)) ?_ id (Nat.zero_le _)
      (.refl _ _ _) (.refl env)
    exact fun table member entry among => admits_descent (fresh.stored table member entry among)
  rw [run] at ends
  cases ends with
  | ok _ alike =>
      obtain ⟨_, extends_⟩ := alike.left env' reference left
      exact extends_

end Resolver

end ScopedTemplate
