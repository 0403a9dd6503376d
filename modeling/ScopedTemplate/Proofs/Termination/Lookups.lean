import ScopedTemplate.Proofs.Evaluation.Lookup
import ScopedTemplate.Proofs.Resolver.Rewriting
import ScopedTemplate.Proofs.Run.Settles
import ScopedTemplate.Proofs.Termination.Values

/-!
# Lookups that end

A lookup is made with one more name in flight, of which there may be `maxDepth`.  So lookups end if
terms with known functions are resolved in the end where there is room for one name less.
-/

namespace ScopedTemplate.Ensemble

open Run

section

variable (ensemble : Ensemble)

/-- So many names are in flight in the table, and only values are stored in it. -/
structure Holds (depth : Nat) (world : World) : Prop where
  inside : ensemble.cache < world.caches.length
  inFlight : (world.cache ensemble.cache).pending.length = depth
  stored : ∀ entry ∈ (world.cache ensemble.cache).entries, ensemble.Value entry.2
  around : ensemble.around world

/-- Runs settle wherever so many names are in flight, and as many are in flight afterwards. -/
def Ends {α : Type} (depth : Nat) (runs : Nat → Run α) (post : α → Prop) : Prop :=
  ∀ world, ensemble.Holds depth world → Settles runs world
    (fun value world' => ensemble.Holds depth world' ∧ post value)
    fun _ world' => ensemble.Holds depth world'

/-- A term is resolved to a value in the end, under whatever known bindings. -/
def Resolves (depth : Nat) (t : Term) : Prop :=
  ∀ env : Environment Term, env.Each ensemble.Knows →
    ensemble.Ends depth (fun levels => resolveTerm ensemble.ceiling levels ensemble.resolver t env ensemble.cache)
      ensemble.Value

/-- All known terms are resolved in the end with one more name in flight, if there may be one. -/
def Deepens (depth : Nat) : Prop :=
  depth < ensemble.resolver.config.maxDepth → ∀ t, ensemble.Knows t →
    ensemble.Resolves (depth + 1) t

/-- What is read through views of the resolution is found in the end. -/
def Reads (depth : Nat) : Prop :=
  ∀ (env : Environment Term) (name : Term), env.Each ensemble.Knows → ensemble.Ends depth
    (fun levels => View.item (resolveTerm ensemble.ceiling levels) ensemble.resolver env ensemble.cache name)
    ensemble.Value

end

variable {ensemble : Ensemble} {depth : Nat}

/-! ## Worlds and runs -/

namespace Holds

variable {world world' : World}

theorem of_same (holds : ensemble.Holds depth world) (same : World.SameTables world world') :
    ensemble.Holds depth world' := by
  have table := same.cache_eq ensemble.cache
  constructor
  · rw [same.caches]
    exact holds.inside
  · rw [table]
    exact holds.inFlight
  · rw [table]
    exact holds.stored
  · exact ensemble.around_same same holds.around

/-- The table may be changed if only values are stored. -/
theorem change (holds : ensemble.Holds depth world) {change : Cache → Cache} {depth' : Nat}
    (inFlight : (change (world.cache ensemble.cache)).pending.length = depth')
    (stored : ∀ entry ∈ (change (world.cache ensemble.cache)).entries, ensemble.Value entry.2) :
    ensemble.Holds depth' (world.change ensemble.cache change) := by
  have table := world.cache_change holds.inside change
  constructor
  · rw [World.length_change]
    exact holds.inside
  · rw [table]
    exact inFlight
  · rw [table]
    exact stored
  · exact ensemble.around_change change holds.around

theorem enter (holds : ensemble.Holds depth world) (key : CacheKey) (env : Environment Term) :
    ensemble.Holds (depth + 1) (world.change ensemble.cache (Cache.enter · key env)) := by
  refine holds.change ?_ holds.stored
  unfold Cache.enter
  rw [List.length_append, holds.inFlight, List.length_singleton]

theorem leave (holds : ensemble.Holds (depth + 1) world) :
    ensemble.Holds depth (world.change ensemble.cache Cache.leave) := by
  refine holds.change ?_ holds.stored
  unfold Cache.leave
  rw [List.length_dropLast, holds.inFlight, Nat.add_sub_cancel]

theorem put (holds : ensemble.Holds depth world) (key : CacheKey) {value : Term}
    (valued : ensemble.Value value) :
    ensemble.Holds depth (world.change ensemble.cache (Cache.put · key value)) := by
  refine holds.change holds.inFlight fun entry member => ?_
  rcases Cache.mem_store member with rfl | before
  · exact valued
  · exact holds.stored entry before

end Holds

namespace Ends

variable {α β : Type} {post : α → Prop} {post' : β → Prop}

theorem steady {run : Run α} (steady : Steady run post) :
    ensemble.Ends depth (fun _ => run) post := by
  intro world holds
  refine .const ((steady world).mono ?_ ?_)
  · rintro value world' ⟨same, valued⟩
    exact ⟨holds.of_same same, valued⟩
  · rintro failure world' ⟨same, plain⟩
    exact ⟨holds.of_same same, failure.ne_exhausted plain⟩

theorem silent {run : Run α} (silent : Silent run post) :
    ensemble.Ends depth (fun _ => run) post := steady silent.steady

theorem pure {value : α} (holds : post value) :
    ensemble.Ends depth (fun _ => pure value) post := silent (.pure holds)

theorem throw {failure : Failure} (plain : failure.isPlain = true) :
    ensemble.Ends depth (fun _ => (throw failure : Run α)) post := steady (.throw plain)

theorem bind {first : Nat → Run α} {next : Nat → α → Run β}
    (ends : ensemble.Ends depth first post)
    (then_ends : ∀ value, post value → ensemble.Ends depth (fun levels => next levels value) post') :
    ensemble.Ends depth (fun levels => first levels >>= next levels) post' := by
  intro world holds
  refine .bind ((ends world holds).mono ?_ fun _ _ left => left)
  rintro value world' ⟨holds', valued⟩
  exact then_ends value valued world' holds'

theorem mono {runs : Nat → Run α} {post' : α → Prop} (ends : ensemble.Ends depth runs post)
    (imp : ∀ value, post value → post' value) : ensemble.Ends depth runs post' := by
  intro world holds
  refine (ends world holds).mono ?_ fun _ _ left => left
  rintro value world' ⟨holds', valued⟩
  exact ⟨holds', imp value valued⟩

/-- Runs that need one level more end, too. -/
theorem succ {runs : Nat → Run α} (ends : ensemble.Ends depth (fun levels => runs (levels + 1)) post) :
    ensemble.Ends depth runs post :=
  fun world holds => (ends world holds).succ

/-- A term has a kind, or it cannot be said whether it is a leaf. -/
theorem classify (t : Term) : ensemble.Ends depth
    (fun _ => ofResult (ensemble.resolver.classifier.classify t))
    (· = ensemble.resolver.classifier.kind t) :=
  steady (.ofResult (fun _ => Classifier.kind_of_classify) (Classifier.classify_plainly _ t))

/-- What is noted of a resolution leaves all else as it is. -/
theorem record (event : Event) :
    ensemble.Ends depth (fun _ => Run.record ensemble.cache event) fun _ => True := by
  intro world holds
  exact .const (after_changeCache.2 ⟨holds.change holds.inFlight holds.stored, trivial⟩)

end Ends

/-! ## Lookups -/

section Lookups

variable {env : Environment Term}

theorem Deepens.lookup (deepens : ensemble.Deepens depth) (bindings : env.Each ensemble.Knows)
    (name : Term) : ensemble.Ends depth
      (fun levels => lookupName (resolveTerm ensemble.ceiling levels) ensemble.resolver env ensemble.cache name)
      ensemble.Value := by
  unfold lookupName
  cases target : env.target? name with
  | none => exact (Ends.record _).bind fun _ _ => .pure (.text _ _)
  | some binding =>
      intro world holds
      apply Settles.memoize
      · rintro value world' world'' same ⟨holds', valued⟩
        exact ⟨holds'.of_same same, valued⟩
      · exact holds
      · exact holds.change holds.inFlight holds.stored
      · intro value found next
        refine ⟨holds.change holds.inFlight holds.stored, ?_⟩
        exact (holds.stored _ (Cache.mem_of_find? found)).detach next
      · intro begins entered same
        have room : depth < ensemble.resolver.config.maxDepth := by
          have shallow := begins.shallow _ rfl
          rw [holds.inFlight] at shallow
          omega
        have resolves := deepens room binding (bindings.target? target) env bindings
        refine (resolves entered ((holds.enter _ _).of_same same)).mono ?_ ?_
        · rintro value done ⟨holds', valued⟩ next
          exact ⟨holds'.leave.put _ (valued.detach next), valued⟩
        · exact fun _ _ holds' => holds'.leave

theorem Deepens.reads (deepens : ensemble.Deepens depth) : ensemble.Reads depth := by
  intro env name bindings
  unfold View.item
  split
  · refine (deepens.lookup bindings name).bind fun value valued => ?_
    exact (Ends.record _).bind fun _ _ => .pure valued
  · exact .throw rfl

theorem Reads.itemsOf (reads : ensemble.Reads depth) (bindings : env.Each ensemble.Knows)
    {names : List Term} (knows : ∀ name ∈ names, ensemble.Knows name) : ensemble.Ends depth
      (fun levels =>
        View.itemsOf (resolveTerm ensemble.ceiling levels) ensemble.resolver env ensemble.cache names)
      (Entries.Each ensemble.Knows) := by
  induction names with
  | nil => exact .pure Entries.each_nil
  | cons name rest ih =>
      obtain ⟨first, others⟩ := List.forall_mem_cons.1 knows
      refine (reads env name bindings).bind fun value valued => ?_
      refine (ih others).bind fun entries each => ?_
      exact .pure (Entries.each_cons.2 ⟨⟨first, valued.knows⟩, each⟩)

theorem Reads.items (reads : ensemble.Reads depth) (bindings : env.Each ensemble.Knows) :
    ensemble.Ends depth
      (fun levels => View.items (resolveTerm ensemble.ceiling levels) ensemble.resolver env ensemble.cache)
      (Entries.Each ensemble.Knows) :=
  reads.itemsOf bindings bindings.names

end Lookups

/-! ## Functions -/

variable (ensemble) in
/-- What functions may return: known terms in which functions are in scopes of defaults only. -/
structure Returned (t : Term) : Prop where
  knows : ensemble.Knows t
  contained : ensemble.resolver.Contained t

theorem Value.returned {t : Term} (value : ensemble.Value t) : ensemble.Returned t :=
  ⟨value.knows, value.inert.contained⟩

variable (ensemble) in
/--
Every function and callable that takes part returns or fails if what it reads is found.  Views of
other resolutions are read to their end.
-/
structure Responds : Prop where
  functions : ∀ {depth : Nat} {stamp : Stamp} {name : String} {deps : List String}
    {doc : Option String} {callee : Term} {args : List Term},
    ensemble.plays (.function stamp name deps doc callee) → args.length = deps.length →
      (∀ arg ∈ args, ensemble.Value arg) → ensemble.Reads depth →
        ensemble.Ends depth (fun levels =>
          invoke (resolveTerm ensemble.ceiling levels) callee (.function stamp name deps doc callee) args)
          ensemble.Returned
  callables : ∀ {depth : Nat} {kind : CallableKind} {stamp own : Stamp} {label name : String}
    {body : Body} {env : Environment Term}, ensemble.plays (.callable kind stamp label name body) →
      env.Each ensemble.Knows → ensemble.Reads depth →
        ensemble.Ends depth (fun levels =>
          invoke (resolveTerm ensemble.ceiling levels) (.callable kind stamp label name body)
            (.callable kind stamp label name body)
            [.view own ensemble.resolver env ensemble.cache])
          ensemble.Returned
  guests : ∀ {depth : Nat} {stamp : Stamp} {own : Resolver Term} {env : Environment Term}
    {cache : CacheId}, ensemble.plays (.view stamp own env cache) →
      ensemble.Ends depth (fun levels => View.items (resolveTerm ensemble.ceiling levels) own env cache)
        (Entries.Each ensemble.Knows)

/-- The bindings of a scope are found in the end. -/
theorem Responds.scopeEntries (responds : ensemble.Responds) (reads : ensemble.Reads depth)
    {scope : Term} (knows : ensemble.Knows scope) :
    ensemble.Ends depth (fun levels => scope.scopeEntries (resolveTerm ensemble.ceiling levels))
      (Entries.Each ensemble.Knows) := by
  unfold Term.scopeEntries
  split
  · exact .pure (knows_map.1 knows)
  · rcases knows_view.1 knows with ⟨rfl, rfl, bindings⟩ | plays
    · exact reads.items bindings
    · exact responds.guests plays
  · exact .pure Entries.each_nil

end ScopedTemplate.Ensemble
