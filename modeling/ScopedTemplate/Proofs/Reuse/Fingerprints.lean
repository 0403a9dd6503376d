import ScopedTemplate.Proofs.Bindings.Scopes
import ScopedTemplate.Proofs.Sharing.Ordinary
import ScopedTemplate.Proofs.Term.Codes

/-!
# Fingerprints of inner environments

Environments with one fingerprint have one fingerprint, too, after the same scope is entered in both.
-/

namespace ScopedTemplate

namespace Entries

variable {entries additions : Entries}

def held (key : Key) (entries : Entries) : List (Key × Content) :=
  Content.underKey key (Term.entryContents entries)

@[simp] theorem held_nil (key : Key) : held key [] = [] := by
  unfold held
  rw [Term.entryContents]
  rfl

theorem held_cons (key : Key) (entry : Term × Term) (rest : Entries) :
    held key (entry :: rest) =
      if entry.1.key? = some key then (key, entry.2.content) :: held key rest else held key rest := by
  obtain ⟨name, value⟩ := entry
  unfold held
  rw [Term.entryContents]
  cases name.key? with
  | none => rfl
  | some own =>
      dsimp only
      unfold Content.underKey
      rw [List.filter_cons]
      by_cases same : own = key <;> simp [same]

theorem held_insert (key : Key) (entries : Entries) (name value : Term) :
    held key (insert entries name value) =
      if name.key? = some key then (key, value.content) :: (held key entries).tail
      else held key entries := by
  induction entries with
  | nil =>
      unfold insert
      rw [held_cons, held_nil]
      rfl
  | cons entry rest ih =>
      unfold insert
      split
      · next same =>
          obtain ⟨own, first, second⟩ := Term.sameKey_iff.1 same
          rw [held_cons, held_cons, first, second]
          split <;> rfl
      · next differs =>
          rw [held_cons, held_cons, ih]
          by_cases first : entry.1.key? = some key
          · have second : name.key? ≠ some key :=
              fun second => differs (Term.sameKey_iff.2 ⟨key, first, second⟩)
            rw [if_pos first, if_neg second, if_neg second, if_pos first]
          · rw [if_neg first, if_neg first]

theorem held_of_missing {key : Key} {name : Term} (own : name.key? = some key)
    (missing : has entries name = false) : held key entries = [] := by
  induction entries with
  | nil => exact held_nil key
  | cons entry rest ih =>
      rw [has_eq_any, List.any_cons, Bool.or_eq_false_iff, ← has_eq_any] at missing
      rw [held_cons, if_neg, ih missing.2]
      intro there
      have same := Term.sameKey_iff.2 ⟨key, there, own⟩
      rw [missing.1] at same
      cases same

/-- What is added later is under its keys, and everything else is as it was. -/
theorem held_update (distinct : additions.Distinct) (key : Key) (entries : Entries) :
    held key (update entries additions) =
      if held key additions = [] then held key entries
      else held key additions ++ (held key entries).tail := by
  induction additions generalizing entries with
  | nil => rfl
  | cons entry rest ih =>
      obtain ⟨apart, others⟩ := distinct_cons.1 distinct
      rw [update_cons, ih others, held_cons, held_insert]
      by_cases here : entry.1.key? = some key
      · have alone := held_of_missing here apart
        rw [if_pos alone, if_pos here, if_pos here, alone, if_neg (List.cons_ne_nil _ _)]
        rfl
      · rw [if_neg here, if_neg here]

end Entries

namespace Environment

variable {env env' : Environment Term} {scope : Entries}

/-- The scope that an environment flattens to is its scopes, updated by the overrides. -/
theorem flatten_eq_update (distinct : Entries.Distinct env.overrides) :
    env.flatten = Entries.update env.merged env.overrides := by
  rw [flatten_eq]
  split
  · next none =>
      unfold merged
      rw [none]
      exact distinct.ofPairs.symm
  · rfl

/-- A fingerprint says what is under each key, and nothing else. -/
theorem fingerprint_eq_iff : env.fingerprint = env'.fingerprint ↔
    ∀ key, Entries.held key env.flatten = Entries.held key env'.flatten := by
  unfold fingerprint Term.scopeContent Entries.held
  refine ⟨fun same => Content.sortEntries_eq_iff.1 (Content.ofEntries_inj same), fun same => ?_⟩
  unfold Content.ofEntries
  rw [Content.sortEntries_eq_iff.2 same]

theorem overrides_child (env : Environment Term) (scope : Entries) :
    (env.child scope).overrides = env.overrides := by
  unfold child
  split <;> rfl

/-- Environments cannot be told apart after the same scope is entered, if they could not before. -/
theorem fingerprint_child (overrides : env.overrides = env'.overrides)
    (distinct : Entries.Distinct env.overrides) (distinct' : scope.Distinct)
    (same : env.fingerprint = env'.fingerprint) :
    (env.child scope).fingerprint = (env'.child scope).fingerprint := by
  have outer := fingerprint_eq_iff.1 same
  refine fingerprint_eq_iff.2 fun key => ?_
  have below := outer key
  have pinned := overrides ▸ distinct
  rw [flatten_eq_update distinct, flatten_eq_update pinned, Entries.held_update distinct,
    Entries.held_update pinned, ← overrides] at below
  rw [flatten_eq_update (overrides_child env scope ▸ distinct),
    flatten_eq_update (overrides_child env' scope ▸ pinned), overrides_child, overrides_child,
    ← overrides, Entries.held_update distinct, Entries.held_update distinct, merged_child_eq distinct',
    merged_child_eq distinct', Entries.held_update distinct', Entries.held_update distinct']
  split at below
  · -- not overridden: what the scopes hold is the same
    next free => rw [if_pos free, if_pos free, below]
  · -- overridden: the first of what the scopes hold does not matter
    next bound =>
      have rest := List.append_cancel_left below
      rw [if_neg bound, if_neg bound]
      refine congrArg (Entries.held key env.overrides ++ ·) ?_
      split
      · exact rest
      · next added =>
          rw [List.tail_append_of_ne_nil added, List.tail_append_of_ne_nil added, rest]

end Environment

end ScopedTemplate
