import ScopedTemplate.Proofs.Resolver.Fresh
import ScopedTemplate.Proofs.Termination.Nodes

/-!
# Resolutions end

Three things get less on the way down a resolution: the room for names in flight, then whether a
function may still be at work, then the levels of the term.  A lookup may lead to any known term but
takes room, a call may lead to any term but leaves no function at work below it, and the children of
a collection have fewer levels.
-/

namespace ScopedTemplate

open Run

namespace Ensemble

variable {ensemble : Ensemble} {depth : Nat} {t : Term}

/-! ## Terms -/

/-- A term is resolved in the end if its node is ready under whatever bindings. -/
theorem resolves_of_ready (rules : ensemble.resolver.rules = Rule.standard)
    (deepens : ensemble.Deepens depth) (responds : ensemble.Responds)
    (ready : ∀ env : Environment Term, env.Each ensemble.Knows →
      ensemble.Ready depth ⟨t, ensemble.resolver.classifier.kind t, env, false⟩) :
    ensemble.Resolves depth t := by
  intro env bindings
  apply Ends.succ
  simp only [resolveTerm_succ]
  refine (Ends.classify t).bind ?_
  rintro kind rfl
  exact (ready env bindings).reduce rules deepens responds _

/-- Inert terms are resolved in the end: the induction is on what they expose. -/
theorem Deepens.resolves_inert (rules : ensemble.resolver.rules = Rule.standard)
    (deepens : ensemble.Deepens depth) (responds : ensemble.Responds)
    (inert : ensemble.resolver.Inert t) (knows : ensemble.Knows t) :
    ensemble.Resolves depth t := by
  induction inert with
  | @intro t noFunction noCallable inside ih =>
      refine resolves_of_ready rules deepens responds fun env bindings =>
        ⟨rfl, knows, bindings, fun _ s exposes => ?_, nofun, .inl ?_⟩
      · exact ih s exposes (knows.exposed exposes)
      · exact ⟨noFunction, noCallable, inside⟩

/-- Known terms are resolved in the end: the induction is on their levels. -/
theorem Deepens.resolves (rules : ensemble.resolver.rules = Rule.standard)
    (deepens : ensemble.Deepens depth) (responds : ensemble.Responds)
    (knows : ensemble.Knows t) : ensemble.Resolves depth t := by
  induction t using (measure Graph.levels).wf.induction with
  | h t ih =>
      refine resolves_of_ready rules deepens responds fun env bindings =>
        ⟨rfl, knows, bindings, fun _ s exposes => ?_, nofun, .inr fun s inert knows => ?_⟩
      · exact ih s exposes.levels_lt (knows.exposed exposes)
      · exact deepens.resolves_inert rules responds inert knows

/-- However many names are in flight, known terms are resolved: the induction is on the room. -/
theorem Responds.resolves (rules : ensemble.resolver.rules = Rule.standard)
    (responds : ensemble.Responds) (depth : Nat) (knows : ensemble.Knows t) :
    ensemble.Resolves depth t := by
  obtain ⟨room, enough⟩ : ∃ room, ensemble.resolver.config.maxDepth ≤ depth + room :=
    ⟨ensemble.resolver.config.maxDepth, by omega⟩
  induction room generalizing depth t with
  | zero => exact Deepens.resolves rules (fun below => by omega) responds knows
  | succ room ih =>
      have deepens : ensemble.Deepens depth := fun _ s knows => ih (depth + 1) knows (by omega)
      exact deepens.resolves rules responds knows

/-! ## Resolutions -/

/-- A resolution that reports its counts, and nesting without end, ends as that of the term does. -/
theorem Resolves.resolveIn (resolves : ensemble.Resolves depth t) {env : Environment Term}
    (bindings : env.Each ensemble.Knows) : ensemble.Ends depth
      (fun levels =>
        ScopedTemplate.resolveIn (resolveTerm ensemble.ceiling levels) ensemble.resolver t env ensemble.cache)
      ensemble.Value := by
  intro world holds
  unfold ScopedTemplate.resolveIn
  simp only [ceiling_resolveTerm]
  have reports := (resolves env bindings).bind fun value valued =>
    (Ends.silent (Silent.cache ensemble.cache)).bind fun table _ =>
      (Ends.steady (Steady.checkTable table "hits")).bind fun _ _ =>
        (Ends.silent (Silent.log .debug ("Resolved template: " ++ toString table.hits ++
          " cache hits, " ++ toString table.misses ++ " misses"))).bind fun _ _ =>
            .pure valued
  refine Settles.recover ((reports world holds).mono (fun _ _ ends => ends) ?_)
  intro failure world' holds'
  cases failure.isExhaustion with
  | false => exact holds'
  | true =>
      have endless : Steady (do throw (.endless ensemble.ceiling (← Run.chain ensemble.cache)) : Run Term)
          fun _ => False := (Steady.chain ensemble.cache).bind fun _ _ => .throw rfl
      refine (endless world').mono (fun _ _ ends => ends.2.elim) ?_
      exact fun failure _ ends => ⟨holds'.of_same ends.1, failure.ne_exhausted ends.2⟩

end Ensemble

/-- The world in which a resolution begins, with a table of its own if it is given none. -/
def World.begun (world : World) (given : Option CacheId) : World :=
  if (given <|> world.active).isSome then world
  else { world with caches := world.caches ++ [.empty] }

namespace Ensemble

variable {ensemble : Ensemble} {template : Term} {env : Environment Term}
  {given : Option CacheId} {world : World}

variable (ensemble) in
/-- A table that is given or shared is there, and only values are stored in it. -/
def Stores (given : Option CacheId) (world : World) : Prop :=
  ∀ id, (given <|> world.active) = some id → id < world.caches.length ∧
    ∀ entry ∈ (world.cache id).entries, ensemble.Value entry.2

/-- Some number of names is in flight when a resolution begins. -/
theorem Stores.holds (stores : ensemble.Stores given world)
    (own : ensemble.cache = world.tableFor given) (around : ensemble.around (world.begun given)) :
    ∃ depth, ensemble.Holds depth (world.begun given) := by
  unfold World.begun at around ⊢
  unfold World.tableFor at own
  cases table : given <|> world.active with
  | some id =>
      obtain ⟨inside, stored⟩ := stores id table
      rw [table] at own
      have same : ensemble.cache = id := own
      rw [← same] at inside stored
      rw [table] at around
      exact ⟨_, inside, rfl, stored, around⟩
  | none =>
      rw [table] at own
      have same : ensemble.cache = world.caches.length := own
      have new : World.cache { world with caches := world.caches ++ [.empty] } ensemble.cache =
          .empty := by
        rw [same]
        simp [World.cache]
      rw [table] at around
      refine ⟨0, ?_, congrArg (fun found => found.pending.length) new, ?_, around⟩
      · rw [same]
        simp
      · intro entry member
        have among : entry ∈ Cache.empty.entries := new ▸ member
        exact absurd among List.not_mem_nil

/-- What a resolution with its own or another table comes to. -/
theorem Stores.resolveLeniently (stores : ensemble.Stores given world)
    (own : ensemble.cache = world.tableFor given) (rules : ensemble.resolver.rules = Rule.standard)
    (responds : ensemble.Responds) (knows : ensemble.Knows template)
    (bindings : env.Each ensemble.Knows) (around : ensemble.around (world.begun given)) :
    Settles (fun levels =>
      ScopedTemplate.resolveLeniently (resolveTerm ensemble.ceiling levels) ensemble.resolver template env given)
      world (fun value _ => ensemble.Value value) fun _ _ => True := by
  obtain ⟨depth, holds⟩ := stores.holds own around
  have ends := (responds.resolves rules depth knows).resolveIn bindings _ holds
  refine .bind (.const (after_get.2 ?_))
  unfold World.begun at ends
  unfold World.tableFor at own
  cases table : given <|> world.active with
  | some id =>
      rw [table] at own ends
      have same : ensemble.cache = id := own
      rw [same] at ends
      exact ends.mono (fun _ _ ends => ends.2) fun _ _ _ => trivial
  | none =>
      rw [table] at own ends
      have same : ensemble.cache = world.caches.length := own
      rw [same] at ends
      refine .bind (.const (?_ : After newCache world _ _))
      refine .andThen (ends.mono ?_ ?_)
      · exact fun _ _ ends => ends.2
      · exact fun _ _ _ => trivial

def reader (name : String) : Term :=
  .callable .function 0 "reader" "reader" (.readItem (.const (.str name)))

/-- What the function below returns: references, and the callable in a scope of defaults. -/
def letter (name : String) : Term := .map .plain none [
  (.str "::defaults", .map .plain none [(.str "read", reader name)]),
  (.str "read", .ref "read"), (.str "names", .list .plain none [.ref name])]

def sender (name : String) : Term :=
  .function 1 "sender" [name] none (.callable .procedure 1 "sender" "sender"
    (.const (letter name)))

def senders (name : String) : Ensemble where
  resolver := .standard
  cache := 0
  ceiling := 20000
  plays := fun t => t = sender name ∨ t = reader name
  around := fun _ => True
  around_same := fun _ _ => trivial
  around_change := fun _ _ => trivial

/-- The callable reads its view once, and the function reads nothing. -/
theorem responds_senders (name : String) : (senders name).Responds where
  functions := by
    rintro depth stamp called deps doc callee args (sent | sent) count values reads
    · cases sent
      refine (Ends.silent (Silent.recordCall _ _)).bind fun _ _ => .pure ⟨knows_map.2 ?_, ?_⟩
      · simp only [Entries.each_cons, Entries.each_nil, knows_text, knows_map, knows_list,
          List.forall_mem_singleton, true_and, and_true]
        exact knows_called rfl |>.2 (.inr rfl)
      · rintro s ⟨_, member, outside⟩
        simp only [List.mem_cons, List.not_mem_nil, or_false] at member
        rcases member with rfl | rfl | rfl
        · cases outside
        · exact Resolver.inert_text _ _
        · exact Resolver.inert_list (List.forall_mem_singleton.2 (Resolver.inert_text _ _))
    · cases sent
  callables := by
    rintro depth kind stamp own label called body env (sent | sent) bindings reads
    · cases sent
    · cases sent
      have given : Steady (ofResult (environmentOf "reader" 0
          [.view own (senders name).resolver env (senders name).cache]))
          (· = .view own (senders name).resolver env (senders name).cache) := .pure rfl
      refine (Ends.steady given).bind ?_
      rintro _ rfl
      refine (Ends.silent (Silent.recordCall _ _)).bind fun _ _ => ?_
      exact (reads env (.str name) bindings).mono fun _ => Value.returned
  guests := by
    rintro depth stamp own env cache (sent | sent) <;> cases sent

end Ensemble

end ScopedTemplate
