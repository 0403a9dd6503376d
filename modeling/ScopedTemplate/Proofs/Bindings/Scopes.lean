import ScopedTemplate.Proofs.Lockstep.Inputs

/-!
# Scopes and their merge

The scopes of an environment are mappings in which no key is twice.  Merging them loses nothing that
a lookup tells, so that environments with one merge and the same overrides are alike for whatever
reads them by names.
-/

namespace ScopedTemplate

/-! ## Updates -/

namespace Entries

variable {entries additions : Entries}

/-- No key is there twice. -/
def Distinct (entries : Entries) : Prop :=
  entries.Pairwise fun entry other => entry.1.sameKey other.1 = false

theorem insert_cons (entry : Term × Term) (rest : Entries) (key value : Term) :
    insert (entry :: rest) key value =
      if entry.1.sameKey key then (entry.1, value) :: rest else entry :: insert rest key value := rfl

theorem has_insert (entries : Entries) (key value other : Term) :
    has (insert entries key value) other = (key.sameKey other || has entries other) := by
  unfold has
  rw [find?_insert]
  split
  · next same => rw [same, Bool.true_or, Option.isSome_some]
  · next different => rw [Bool.eq_false_iff.2 different, Bool.false_or]

theorem has_update (entries additions : Entries) (key : Term) :
    has (update entries additions) key = (has additions key || has entries key) := by
  induction additions generalizing entries with
  | nil => rfl
  | cons addition rest ih =>
      rw [update_cons, ih, has_insert, has_eq_any (addition :: rest), List.any_cons, ← has_eq_any]
      cases addition.1.sameKey key <;> cases has rest key <;> rfl

theorem has_foldl_update (start : Entries) (layers : List Entries) (key : Term) :
    has (layers.foldl update start) key = (layers.any (has · key) || has start key) := by
  induction layers generalizing start with
  | nil => rfl
  | cons layer rest ih =>
      rw [List.foldl_cons, ih, has_update, List.any_cons]
      cases has layer key <;> cases rest.any (has · key) <;> rfl

theorem insert_of_missing {key value : Term} (missing : has entries key = false) :
    insert entries key value = entries ++ [(key, value)] := by
  induction entries with
  | nil => rfl
  | cons entry rest ih =>
      rw [has_eq_any, List.any_cons, Bool.or_eq_false_iff, ← has_eq_any] at missing
      unfold insert
      rw [missing.1, if_neg Bool.false_ne_true, ih missing.2, List.cons_append]

theorem distinct_cons {entry : Term × Term} :
    Distinct (entry :: entries) ↔ has entries entry.1 = false ∧ Distinct entries := by
  unfold Distinct
  rw [List.pairwise_cons, has_eq_any, List.any_eq_false]
  simp only [Term.sameKey_comm entry.1, Bool.not_eq_true]

theorem Distinct.insert (distinct : Distinct entries) (key value : Term) :
    Distinct (insert entries key value) := by
  induction entries with
  | nil => exact List.pairwise_singleton _ _
  | cons entry rest ih =>
      obtain ⟨apart, others⟩ := distinct_cons.1 distinct
      unfold Entries.insert
      split
      · exact distinct_cons.2 ⟨apart, others⟩
      · next different =>
          refine distinct_cons.2 ⟨?_, ih others⟩
          rw [has_insert, apart, Term.sameKey_comm, Bool.eq_false_iff.2 different]
          rfl

theorem Distinct.update (distinct : Distinct entries) (additions : Entries) :
    Distinct (update entries additions) := by
  induction additions generalizing entries with
  | nil => exact distinct
  | cons addition rest ih => exact ih (distinct.insert addition.1 addition.2)

/-- What is stored twice under a key is stored once. -/
theorem insert_insert (entries : Entries) {key other : Term} (same : key.sameKey other = true)
    (first second : Term) :
    insert (insert entries key first) other second = insert entries key second := by
  induction entries with
  | nil => simp only [insert, same, if_true]
  | cons entry rest ih =>
      have agree : entry.1.sameKey other = entry.1.sameKey key := by
        rw [Term.sameKey_comm entry.1, Term.sameKey_comm entry.1, Term.sameKey_congr same]
      cases here : entry.1.sameKey key with
      | true => simp only [insert, here, agree, if_true]
      | false => simp only [insert, here, agree, Bool.false_eq_true, if_false, ih]

/-- A value is replaced before or after another key is added. -/
theorem insert_comm {key other : Term} (present : has entries key = true)
    (different : key.sameKey other = false) (value value' : Term) :
    insert (insert entries key value) other value' =
      insert (insert entries other value') key value := by
  induction entries with
  | nil => cases present
  | cons entry rest ih =>
      rw [has_eq_any, List.any_cons, ← has_eq_any] at present
      cases here : entry.1.sameKey key with
      | true =>
          have apart : entry.1.sameKey other = false := by
            rw [Term.sameKey_congr here, different]
          simp only [insert, here, apart, if_true, Bool.false_eq_true, if_false]
      | false =>
          rw [here, Bool.false_or] at present
          cases there : entry.1.sameKey other with
          | true => simp only [insert, here, there, if_true, Bool.false_eq_true, if_false]
          | false =>
              simp only [insert, here, there, Bool.false_eq_true, if_false, ih present]

theorem insert_update {key : Term} (present : has entries key = true)
    (missing : has additions key = false) (value : Term) :
    insert (update entries additions) key value = update (insert entries key value) additions := by
  induction additions generalizing entries with
  | nil => rfl
  | cons addition rest ih =>
      rw [has_eq_any, List.any_cons, Bool.or_eq_false_iff, ← has_eq_any] at missing
      have different : key.sameKey addition.1 = false := by
        rw [Term.sameKey_comm, missing.1]
      rw [update_cons, update_cons, ih ?_ missing.2, insert_comm present different]
      rw [has_insert, present, Bool.or_true]

/-- A value is stored in what updates a scope, or in the scope that is updated. -/
theorem update_insert (distinct : Distinct additions) (entries : Entries) (key value : Term) :
    update entries (insert additions key value) = insert (update entries additions) key value := by
  induction additions generalizing entries with
  | nil => rfl
  | cons addition rest ih =>
      obtain ⟨apart, others⟩ := distinct_cons.1 distinct
      rw [insert_cons]
      split
      · next same =>
          have missing : has rest key = false := by
            rw [has_eq_any] at apart ⊢
            simpa only [Term.sameKey_comm _ key, Term.sameKey_comm _ addition.1,
              Term.sameKey_congr same] using apart
          have present : has (insert entries addition.1 addition.2) key = true := by
            rw [has_insert, same, Bool.true_or]
          rw [update_cons, update_cons, insert_update present missing, insert_insert _ same]
      · rw [update_cons, update_cons, ih others]

/-- Updates may be put together first. -/
theorem update_update (distinct : Distinct entries) (start additions : Entries) :
    update start (update entries additions) = update (update start entries) additions := by
  induction additions generalizing entries with
  | nil => rfl
  | cons addition rest ih =>
      rw [update_cons, update_cons, ih (distinct.insert addition.1 addition.2),
        update_insert distinct]

/-- Entries with distinct keys are what they update nothing to. -/
theorem Distinct.ofPairs (distinct : Distinct entries) : ofPairs entries = entries := by
  have append : ∀ {start : Entries}, (∀ entry ∈ entries, has start entry.1 = false) →
      Entries.update start entries = start ++ entries := by
    induction entries with
    | nil => exact fun _ => (List.append_nil _).symm
    | cons entry rest ih =>
        intro start missing
        obtain ⟨apart, others⟩ := distinct_cons.1 distinct
        rw [update_cons, insert_of_missing (missing entry List.mem_cons_self), ih others ?_,
          List.append_assoc, List.singleton_append]
        intro other member
        rw [has_eq_any, List.any_append, ← has_eq_any,
          missing other (List.mem_cons_of_mem _ member), Bool.false_or, List.any_cons, List.any_nil,
          Bool.or_false]
        rw [has_eq_any, List.any_eq_false] at apart
        rw [Term.sameKey_comm]
        exact Bool.eq_false_iff.2 (apart other member)
  exact append fun _ _ => rfl

theorem isEmpty_insert (entries : Entries) (key value : Term) :
    (insert entries key value).isEmpty = false := by
  cases entries with
  | nil => rfl
  | cons entry rest =>
      unfold insert
      split <;> rfl

theorem isEmpty_update (entries additions : Entries) :
    (update entries additions).isEmpty = (entries.isEmpty && additions.isEmpty) := by
  induction additions generalizing entries with
  | nil => rw [update_nil, List.isEmpty_nil, Bool.and_true]
  | cons addition rest ih =>
      rw [update_cons, ih, isEmpty_insert, List.isEmpty_cons, Bool.false_and, Bool.and_false]

/-- With distinct keys, a key is found from either end. -/
theorem Distinct.find?_reverse (distinct : Distinct entries) (key : Term) :
    find? entries.reverse key = find? entries key := by
  have found := find?_update [] entries key
  rw [show Entries.update [] entries = entries from distinct.ofPairs, find?_nil] at found
  rw [found]
  cases find? entries.reverse key <;> rfl

/-- Of scopes that update each other the last one with a key binds it. -/
theorem find?_foldl_update {scopes : List Entries} (distinct : ∀ scope ∈ scopes, Distinct scope)
    (start : Entries) (key : Term) :
    find? (scopes.foldl Entries.update start) key =
      (scopes.reverse.findSome? (fun scope => find? scope key) <|> find? start key) := by
  induction scopes generalizing start with
  | nil => rfl
  | cons scope rest ih =>
      obtain ⟨first, others⟩ := List.forall_mem_cons.1 distinct
      rw [List.foldl_cons, ih others, find?_update, first.find?_reverse, List.reverse_cons,
        List.findSome?_append]
      cases rest.reverse.findSome? fun scope => find? scope key with
      | none => cases found : find? scope key <;> simp [found]
      | some value => rfl

end Entries

/-! ## Environments -/

namespace Environment

variable {env env' : Environment Term} {defaults : Entries}

/-- The scopes are mappings, and those that are empty are not kept. -/
structure Layered (env : Environment Term) : Prop where
  distinct : ∀ scope ∈ env.scopes, Entries.Distinct scope
  kept : ∀ scope ∈ env.scopes, scope.isEmpty = false

theorem layered_ofBindings {bindings : Entries} (distinct : Entries.Distinct bindings)
    (overrides : Entries) : (ofBindings bindings overrides).Layered := by
  unfold ofBindings
  cases empty : bindings.isEmpty with
  | true => exact ⟨fun _ member => (List.not_mem_nil member).elim,
      fun _ member => (List.not_mem_nil member).elim⟩
  | false => exact ⟨List.forall_mem_singleton.2 distinct, List.forall_mem_singleton.2 empty⟩

theorem Layered.child (layered : env.Layered) (distinct : Entries.Distinct defaults) :
    (env.child defaults).Layered := by
  unfold Environment.child
  cases empty : defaults.isEmpty with
  | true => exact layered
  | false =>
      refine ⟨?_, ?_⟩
      · exact List.forall_mem_append.2 ⟨layered.distinct, List.forall_mem_singleton.2 distinct⟩
      · exact List.forall_mem_append.2 ⟨layered.kept, List.forall_mem_singleton.2 empty⟩

theorem merged_ofBindings (bindings overrides : Entries) :
    (ofBindings bindings overrides).merged = bindings := by
  cases bindings <;> rfl

/-- A scope that is entered updates the others. -/
theorem merged_child_eq (distinct : Entries.Distinct defaults) :
    (env.child defaults).merged = Entries.update env.merged defaults := by
  cases empty : defaults.isEmpty with
  | true =>
      rw [List.isEmpty_iff.1 empty]
      rfl
  | false =>
      rw [env.merged_child empty]
      split
      · next none =>
          unfold merged
          rw [none]
          exact distinct.ofPairs.symm
      · rfl

/-- The merge of the scopes binds a name as they do. -/
theorem Layered.bound?_eq (layered : env.Layered) (name : Term) :
    env.bound? name = Entries.find? env.merged name := by
  obtain ⟨scopes, overrides⟩ := env
  cases scopes with
  | nil => rfl
  | cons outermost inner =>
      obtain ⟨_, others⟩ := List.forall_mem_cons.1 layered.distinct
      unfold bound? merged
      dsimp only
      rw [Entries.find?_foldl_update others, List.reverse_cons, List.findSome?_append]
      cases inner.reverse.findSome? fun scope => Entries.find? scope name with
      | none => cases found : Entries.find? outermost name <;> simp [found]
      | some value => rfl

theorem Layered.merged_eq_nil (layered : env.Layered) : env.merged = [] ↔ env.scopes = [] := by
  obtain ⟨scopes, overrides⟩ := env
  have updates : ∀ (scopes : List Entries) {start : Entries}, start.isEmpty = false →
      (scopes.foldl Entries.update start).isEmpty = false := by
    intro scopes start kept
    induction scopes generalizing start with
    | nil => exact kept
    | cons scope rest ih =>
        refine ih ?_
        rw [Entries.isEmpty_update, kept, Bool.false_and]
  cases scopes with
  | nil => exact ⟨fun _ => rfl, fun _ => rfl⟩
  | cons outermost inner =>
      refine ⟨fun empty => ?_, nofun⟩
      have kept := updates inner (layered.kept outermost List.mem_cons_self)
      unfold merged at empty
      dsimp only at empty
      rw [empty] at kept
      cases kept

end Environment

end ScopedTemplate
