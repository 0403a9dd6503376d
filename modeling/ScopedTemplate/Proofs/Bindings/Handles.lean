import ScopedTemplate.Proofs.Bindings.Lineage

/-!
# Environments that share mappings

An environment holds its scopes and its overrides by their places in a store of mappings.  One that is made
of another shares with it what is not new: a child the overrides and the scopes outside of its own, and an
environment with more overrides the scopes.  New mappings are stored in new places only, so that every
environment goes on to answer as it did, whatever is made of it or beside it.
-/

namespace ScopedTemplate.Environment

/-! ## Places -/

abbrev Store := List Mapping

namespace Store

def mapping (store : Store) (place : Nat) : Mapping := store[place]?.getD .empty

def add (mapping : Mapping) : StateM Store Nat :=
  modifyGet fun store => (store.length, store ++ [mapping])

theorem mapping_append {store : Store} {place : Nat} (used : place < store.length) (more : Store) :
    mapping (store ++ more) place = store.mapping place := by
  unfold mapping
  rw [List.getElem?_append_left used]

@[simp] theorem mapping_new (store : Store) (mapping : Mapping) (more : Store) :
    Store.mapping (store ++ mapping :: more) store.length = mapping := by
  unfold Store.mapping
  rw [List.getElem?_append_right (Nat.le_refl _), Nat.sub_self]
  rfl

end Store

/-- The places of the scopes of an environment, outermost first, and of its overrides. -/
structure Handle where
  scopes : List Nat
  overrides : Nat

namespace Handle

/-- An environment of mappings of its own; without bindings there is no scope. -/
def make (bindings overrides : Mapping) : StateM Store Handle := do
  let scopes ← if bindings.entries.isEmpty then pure [] else List.singleton <$> Store.add bindings
  return ⟨scopes, ← Store.add overrides⟩

def child (handle : Handle) (defaults : Mapping) : StateM Store Handle :=
  if defaults.entries.isEmpty then return handle
  else return { handle with scopes := handle.scopes ++ [← Store.add defaults] }

def coerce (given : Handle ⊕ Mapping) (overrides : Mapping) : StateM Store Handle :=
  match given with
  | .inl handle =>
    if overrides.entries.isEmpty then return handle
    else do
      let own := (← get).mapping handle.overrides
      return { handle with overrides := ← Store.add (own.update overrides) }
  | .inr bindings => make bindings overrides

def withOverrides (handle : Handle) (overrides : Mapping) : StateM Store Handle :=
  coerce (.inl handle) overrides

def environment (handle : Handle) (store : Store) : Environment Term :=
  ⟨handle.scopes.map fun place => (store.mapping place).entries,
    (store.mapping handle.overrides).entries⟩

/-- All places of a handle are in use. -/
structure Within (handle : Handle) (store : Store) : Prop where
  scopes : ∀ place ∈ handle.scopes, place < store.length
  overrides : handle.overrides < store.length

variable {handle : Handle} {store : Store}

theorem Within.append (within : handle.Within store) (more : Store) :
    handle.Within (store ++ more) := by
  have grows : store.length ≤ (store ++ more).length := by simp
  exact ⟨fun place member => Nat.lt_of_lt_of_le (within.scopes place member) grows,
    Nat.lt_of_lt_of_le within.overrides grows⟩

theorem Within.map_append (within : handle.Within store) (more : Store) :
    handle.scopes.map (fun place => ((store ++ more).mapping place).entries) =
      handle.scopes.map fun place => (store.mapping place).entries :=
  List.map_congr_left fun place member => by
    rw [Store.mapping_append (within.scopes place member)]

/-- What is stored in new places does not matter to an environment. -/
theorem Within.environment_append (within : handle.Within store) (more : Store) :
    handle.environment (store ++ more) = handle.environment store := by
  unfold environment
  rw [within.map_append, Store.mapping_append within.overrides]

/-! ## Programs -/

/-- A program gives a handle of an environment, and stores in new places only. -/
def Makes (program : StateM Store Handle) (store : Store) (env : Environment Term) : Prop :=
  ∃ (handle : Handle) (more : Store), program.run store = (handle, store ++ more) ∧
    handle.Within (store ++ more) ∧ handle.environment (store ++ more) = env

theorem makes_same (within : handle.Within store) :
    Makes (pure handle) store (handle.environment store) := by
  refine ⟨handle, [], ?_, within.append [], within.environment_append []⟩
  rw [List.append_nil]
  rfl

theorem makes_make (bindings overrides : Mapping) (store : Store) :
    Makes (make bindings overrides) store (.ofBindings bindings.entries overrides.entries) := by
  unfold make ofBindings
  cases bindings.entries.isEmpty with
  | true =>
      refine ⟨⟨[], store.length⟩, [overrides], rfl, ⟨nofun, by simp⟩, ?_⟩
      simp [environment]
  | false =>
      have last : Store.mapping (store ++ [bindings, overrides]) (store.length + 1) = overrides := by
        simp [Store.mapping]
      refine ⟨⟨[store.length], store.length + 1⟩, [bindings, overrides], ?_, ⟨by simp, by simp⟩, ?_⟩
      · show ((⟨[store.length], (store ++ [bindings]).length⟩ : Handle),
          (store ++ [bindings]) ++ [overrides]) = _
        rw [List.length_append, List.append_assoc]
        rfl
      · simp [environment, last]

theorem makes_child (within : handle.Within store) (defaults : Mapping) :
    Makes (handle.child defaults) store ((handle.environment store).child defaults.entries) := by
  unfold child Environment.child
  cases defaults.entries.isEmpty with
  | true => exact makes_same within
  | false =>
      refine ⟨{ handle with scopes := handle.scopes ++ [store.length] }, [defaults], rfl, ⟨?_, ?_⟩, ?_⟩
      · exact List.forall_mem_append.2 ⟨(within.append _).scopes, by simp⟩
      · exact (within.append _).overrides
      · unfold environment
        rw [List.map_append, within.map_append, Store.mapping_append within.overrides]
        simp

theorem makes_coerce (within : handle.Within store) (overrides : Mapping) :
    Makes (coerce (.inl handle) overrides) store
      ((handle.environment store).withOverrides overrides.entries) := by
  unfold coerce Environment.withOverrides
  cases empty : overrides.entries.isEmpty with
  | true =>
      rw [List.isEmpty_iff.1 empty]
      exact makes_same within
  | false =>
      refine ⟨{ handle with overrides := store.length },
        [(store.mapping handle.overrides).update overrides], rfl, ⟨?_, by simp⟩, ?_⟩
      · exact (within.append _).scopes
      · unfold environment
        rw [within.map_append, Store.mapping_new]
        rfl

end Handle

/-! ## Sessions -/

/-- An environment that is there, and how it came about. -/
structure Made where
  handle : Handle
  lineage : Lineage

namespace Made

/-- The handle stands for the environment that the steps lead to. -/
structure Stands (made : Made) (store : Store) : Prop where
  within : made.handle.Within store
  same : made.handle.environment store = made.lineage.environment

variable {made : Made} {store : Store}

theorem Stands.append (stands : made.Stands store) (more : Store) : made.Stands (store ++ more) :=
  ⟨stands.within.append more, (stands.within.environment_append more).trans stands.same⟩

theorem Stands.makes_child (stands : made.Stands store) (defaults : Mapping) :
    Handle.Makes (made.handle.child defaults) store (Lineage.child made.lineage defaults).environment := by
  unfold Lineage.environment
  rw [← stands.same]
  exact Handle.makes_child stands.within defaults

theorem Stands.makes_coerce (stands : made.Stands store) (overrides : Mapping) :
    Handle.Makes (Handle.coerce (.inl made.handle) overrides) store
      (Lineage.withOverrides made.lineage overrides).environment := by
  unfold Lineage.environment
  rw [← stands.same]
  exact Handle.makes_coerce stands.within overrides

end Made

/-- What is asked for: an environment of its own, or one that is made of an environment by its number. -/
inductive Request where
  | start (bindings overrides : Mapping)
  | child (source : Nat) (defaults : Mapping)
  | withOverrides (source : Nat) (overrides : Mapping)
  | coerce (given : Nat ⊕ Mapping) (overrides : Mapping)

def Request.program? (made : List Made) : Request → Option (StateM Store Handle × Lineage)
  | .start bindings overrides => some (Handle.make bindings overrides, .start bindings overrides)
  | .child source defaults => made[source]?.map fun parent =>
      (parent.handle.child defaults, .child parent.lineage defaults)
  | .withOverrides source overrides => made[source]?.map fun parent =>
      (parent.handle.withOverrides overrides, .withOverrides parent.lineage overrides)
  | .coerce (.inl source) overrides => made[source]?.map fun parent =>
      (Handle.coerce (.inl parent.handle) overrides, .withOverrides parent.lineage overrides)
  | .coerce (.inr bindings) overrides =>
      some (Handle.coerce (.inr bindings) overrides, .start bindings overrides)

/-- All that is stored, and the environments that are there. -/
structure Session where
  store : Store
  made : List Made

namespace Session

def empty : Session := ⟨[], []⟩

def perform (session : Session) (request : Request) : Session :=
  match request.program? session.made with
  | none => session
  | some (program, lineage) =>
    let (handle, store) := program.run session.store
    ⟨store, session.made ++ [⟨handle, lineage⟩]⟩

/-- Make what is asked for, one after the other. -/
def run (session : Session) (requests : List Request) : Session := requests.foldl perform session

def Faithful (session : Session) : Prop := ∀ made ∈ session.made, made.Stands session.store

variable {session : Session}

theorem Faithful.makes (faithful : session.Faithful) {request : Request}
    {program : StateM Store Handle} {lineage : Lineage}
    (asked : request.program? session.made = some (program, lineage)) :
    Handle.Makes program session.store lineage.environment := by
  cases request with
  | start bindings overrides =>
      cases asked
      exact Handle.makes_make bindings overrides session.store
  | child source defaults =>
      obtain ⟨parent, found, same⟩ := Option.map_eq_some_iff.1 asked
      cases same
      exact (faithful parent (List.mem_of_getElem? found)).makes_child defaults
  | withOverrides source overrides =>
      obtain ⟨parent, found, same⟩ := Option.map_eq_some_iff.1 asked
      cases same
      exact (faithful parent (List.mem_of_getElem? found)).makes_coerce overrides
  | coerce given overrides =>
      cases given with
      | inl source =>
          obtain ⟨parent, found, same⟩ := Option.map_eq_some_iff.1 asked
          cases same
          exact (faithful parent (List.mem_of_getElem? found)).makes_coerce overrides
      | inr bindings =>
          cases asked
          exact Handle.makes_make bindings overrides session.store

/-- A request leaves the environments that are there as they are. -/
theorem Faithful.perform (faithful : session.Faithful) (request : Request) :
    (session.perform request).Faithful ∧ session.made ⊆ (session.perform request).made := by
  unfold Session.perform
  cases asked : request.program? session.made with
  | none => exact ⟨faithful, List.Subset.refl _⟩
  | some found =>
      obtain ⟨program, lineage⟩ := found
      obtain ⟨handle, more, result, within, same⟩ := faithful.makes asked
      dsimp only
      rw [result]
      refine ⟨List.forall_mem_append.2 ⟨?_, ?_⟩, List.subset_append_left _ _⟩
      · exact fun made member => (faithful made member).append more
      · exact List.forall_mem_singleton.2 ⟨within, same⟩

/-- And so does any number of requests. -/
theorem Faithful.run (faithful : session.Faithful) (requests : List Request) :
    (session.run requests).Faithful ∧ session.made ⊆ (session.run requests).made := by
  induction requests generalizing session with
  | nil => exact ⟨faithful, List.Subset.refl _⟩
  | cons request rest ih =>
      obtain ⟨first, some⟩ := faithful.perform request
      obtain ⟨last, more⟩ := ih first
      exact ⟨last, List.Subset.trans some more⟩

theorem faithful_empty : empty.Faithful := nofun

/--
An environment that is made by any steps, among others, answers as the one mapping that it flattens to: what
is bound, by the overrides or some scope, is what that has as a key, it is bound as there, and else there is
the fallback or a missing key.  The value is the latest override of the name, or else the binding in the
latest scope that has one, however the steps alternate.  Whatever is made later, the environment stays.
-/
theorem made_answers {requests : List Request} {made : Made}
    (member : made ∈ (empty.run requests).made) (later : List Request) :
    let env := made.handle.environment (empty.run requests).store
    env = made.lineage.environment ∧ env.AnswersAs env.flatten ∧
      (∀ name, env.binds name =
        (Entries.has env.overrides name || env.scopes.any (Entries.has · name))) ∧
      (∀ name, Entries.find? env.flatten name = made.lineage.binding? name) ∧
      made ∈ (empty.run (requests ++ later)).made ∧
      made.handle.environment (empty.run (requests ++ later)).store = env := by
  intro env
  have faithful := (faithful_empty.run requests).1
  obtain ⟨after, kept⟩ := faithful.run later
  have same : env = made.lineage.environment := (faithful made member).same
  have joined : empty.run (requests ++ later) = (empty.run requests).run later := List.foldl_append
  rw [joined, same]
  refine ⟨rfl, answersAs made.lineage.find?_flatten, binds_eq_any _, fun name => ?_, kept member,
    (after made (kept member)).same⟩
  rw [made.lineage.find?_flatten, made.lineage.lookup?_environment]

def single (name : String) (value : Int) : Mapping :=
  ⟨[(.str name, .int value)], List.pairwise_singleton _ _⟩

def alternating : List Request :=
  [.start (single "X" 1) .empty, .child 0 (single "X" 2), .withOverrides 1 (single "X" 3),
    .child 2 (single "X" 4), .coerce (.inl 0) (single "X" 5)]

/-- The override counts although a scope has been entered after it, and later ones are for others. -/
theorem alternating_answers : ∃ made ∈ (empty.run alternating).made,
    (made.handle.environment (empty.run alternating).store).item (.str "X") = .ok (.int 3) ∧
      (made.handle.environment (empty.run (alternating ++ [.withOverrides 3 (single "X" 6)])).store).item
        (.str "X") = .ok (.int 3) := by
  have member : (⟨⟨[0, 2, 4], 3⟩, .child (.withOverrides (.child (.start (single "X" 1) .empty)
      (single "X" 2)) (single "X" 3)) (single "X" 4)⟩ : Made) ∈ (empty.run alternating).made :=
    List.mem_of_getElem? (i := 3) rfl
  obtain ⟨_, answers, _, bound, _, stays⟩ := made_answers member [.withOverrides 3 (single "X" 6)]
  have found := answers.item (.str "X")
  rw [bound] at found
  refine ⟨_, member, found, ?_⟩
  rw [stays]
  exact found

end Session

end ScopedTemplate.Environment
