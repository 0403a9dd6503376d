import ScopedTemplate.Proofs.Resolver.Idempotence
import ScopedTemplate.Proofs.Strict.Check

/-!
# Names bound through chains of references

A name may be bound to a reference to a second name, that one to a third, and so on to a last name
that is bound to data.  The first name has the data as its value, and so has every function that
needs it, with one exception: data that is the text of the last name itself counts as no binding at
all, and a reference to the last name is left in its place.
-/

namespace ScopedTemplate

variable {ceiling : Int} {stack : Stack}

open Run

def Term.isDatum : Term → Bool
  | .null | .bool _ | .int _ | .float _ | .nan _ | .text .plain _ => true
  | _ => false

/-- Data is copied as it is. -/
theorem Term.detach_datum {t : Term} (datum : t.isDatum = true) (next : Stamp) :
    t.detach next = (t, next) := by
  cases t with
  | list _ _ _ | tuple _ _ | map _ _ _ => cases datum
  | _ => rfl

/-- Each of some names is bound to a reference to the next one, and the last to a value. -/
inductive Environment.Chain (env : Environment Term) (value : Term) : List String → Prop where
  | last {name : String} (bound : env.lookup? (.ref name) = some value) : Chain env value [name]
  | link {name next : String} {rest : List String}
      (bound : env.lookup? (.ref name) = some (.ref next))
      (later : Chain env value (next :: rest)) : Chain env value (name :: next :: rest)

/-- A binding is no target of a name if it is the text of the name. -/
theorem Environment.target?_of_bound {env : Environment Term} {name : String} {value : Term}
    (bound : env.lookup? (.ref name) = some value) :
    env.target? (.ref name) = if value.text? = some name then none else some value := by
  have self : isSelfBinding value (.ref name) = decide (value.text? = some name) := by
    unfold isSelfBinding
    cases value.text? with
    | none => rfl
    | some s => simp [Term.text?, beq_eq_decide]
  unfold Environment.target?
  rw [bound, Option.filter_some, self]
  by_cases own : value.text? = some name <;> simp [own]

namespace Resolver

variable {resolver : Resolver Term} {env : Environment Term} {cache : CacheId} {name : String}
  {names rest : List String} {value : Term} {world world' : World}

/-- Names of which the first leads to data over fewer steps than any limit allows. -/
structure DataChain (resolver : Resolver Term) (stack : Stack) (env : Environment Term)
    (names : List String) (value : Term) : Prop where
  chain : env.Chain value names
  distinct : names.Nodup
  shallow : names.length < resolver.config.maxDepth
  nested : names.length < stack.levels
  datum : value.isDatum = true
  known : resolver.classifier.isRef value = false

/-! ## What a name leads to -/

variable (resolver env) in
/--
The first of some names leads to a value: each is bound to a reference to the next, and the last to
the value itself, unless it has no target; then a reference to it is what is left.
-/
inductive Leads (value : Term) : List String → Prop where
  | datum {name : String} (bound : env.target? (.ref name) = some value)
      (datum : value.isDatum = true) (known : resolver.classifier.isRef value = false) :
      Leads value [name]
  | left {name : String} (unbound : env.target? (.ref name) = none) (same : value = .ref name) :
      Leads value [name]
  | link {name next : String} {rest : List String}
      (bound : env.target? (.ref name) = some (.ref next)) (later : Leads value (next :: rest)) :
      Leads value (name :: next :: rest)

/-- A name leads to one value. -/
theorem Leads.unique {value' : Term} {rest' : List String}
    (leads : resolver.Leads env value (name :: rest))
    (leads' : resolver.Leads env value' (name :: rest')) : value = value' := by
  generalize same : name :: rest = names at leads
  induction leads generalizing name rest rest' with
  | datum bound datum =>
      cases same
      cases leads' with
      | datum bound' => exact Option.some.inj (bound.symm.trans bound')
      | left unbound' => cases bound.symm.trans unbound'
      | link bound' =>
          cases bound.symm.trans bound'
          cases datum
  | left unbound isLeft =>
      cases same
      cases leads' with
      | datum bound' => cases unbound.symm.trans bound'
      | left _ isLeft' => rw [isLeft, isLeft']
      | link bound' => cases unbound.symm.trans bound'
  | link bound later ih =>
      cases same
      cases leads' with
      | datum bound' datum' =>
          cases bound.symm.trans bound'
          cases datum'
      | left unbound' => cases bound.symm.trans unbound'
      | link bound' later' =>
          cases bound.symm.trans bound'
          exact ih later' rfl

theorem Leads.detach (leads : resolver.Leads env value names) (next : Stamp) :
    value.detach next = (value, next) := by
  induction leads with
  | datum _ datum => exact Term.detach_datum datum next
  | left _ same =>
      rw [same]
      rfl
  | link _ _ ih => exact ih

/-- Data that is no reference is a scalar. -/
theorem kind_datum (datum : value.isDatum = true)
    (known : resolver.classifier.isRef value = false) :
    resolver.classifier.kind value = .scalar := by
  have shape : Classifier.shapeKind value = .scalar ∧ value.isRemoved = false := by
    cases value <;> first | exact ⟨rfl, rfl⟩ | cases datum
  unfold Classifier.kind
  rw [shape.2, known, shape.1]
  simp

/-- A chain leads to what its last name leads to. -/
theorem leads_of_chain {left : Term} (chain : env.Chain value names) (distinct : names.Nodup)
    (ends : ∀ name, names.getLast? = some name → env.lookup? (.ref name) = some value →
      resolver.Leads env left [name]) : resolver.Leads env left names := by
  induction chain with
  | last bound => exact ends _ rfl bound
  | @link name next rest bound later ih =>
      obtain ⟨notAgain, others⟩ := List.nodup_cons.1 distinct
      refine .link ?_ (ih others fun last isLast => ends last ?_)
      · rw [Environment.target?_of_bound bound, if_neg]
        rintro ⟨⟩
        exact notAgain List.mem_cons_self
      · rw [List.getLast?_cons_cons]
        exact isLast

/-- It leads to its data, unless that is the text of the last name. -/
theorem DataChain.leads (data : resolver.DataChain stack env names value)
    (kept : value.text? ≠ names.getLast?) : resolver.Leads env value names := by
  refine leads_of_chain data.chain data.distinct fun name isLast bound => ?_
  rw [isLast] at kept
  refine .datum ?_ data.datum data.known
  rw [Environment.target?_of_bound bound, if_neg kept]

/-- Data that is the text of the last name is taken for no binding of it. -/
theorem DataChain.leads_left (data : resolver.DataChain stack env names value) {last : String}
    (isLast : names.getLast? = some last) (own : value.text? = some last) :
    resolver.Leads env (.ref last) names := by
  refine leads_of_chain data.chain data.distinct fun name isLast' bound => ?_
  obtain rfl := Option.some.inj (isLast.symm.trans isLast')
  exact .left (by rw [Environment.target?_of_bound bound, if_pos own]) rfl

/-! ## Lookups -/

def NoneApplied (events later : List Event) : Prop :=
  ∀ function args, .applied function args ∈ later → .applied function args ∈ events

variable (resolver env cache) in
/-- A table in use, in which what is stored for a name is what the name leads to. -/
structure Ready (world : World) : Prop where
  inside : cache < world.caches.length
  isOpen : (world.cache cache).closed = false
  isTable : (world.cache cache).standIn = none
  right : ∀ {name rest value stored}, resolver.Leads env value (name :: rest) →
    (world.cache cache).find? (CacheKey.of (.ref name) env) = some stored → stored = value

variable (resolver env cache) in
/-- A run left a table ready, with the same names in flight, and applied nothing. -/
structure Looked (world world' : World) : Prop where
  ready : resolver.Ready env cache world'
  pending : (world'.cache cache).pending = (world.cache cache).pending
  calm : NoneApplied (world.cache cache).events (world'.cache cache).events

theorem Looked.refl (ready : resolver.Ready env cache world) :
    resolver.Looked env cache world world :=
  ⟨ready, rfl, fun _ _ noted => noted⟩

theorem Looked.trans {world'' : World} (first : resolver.Looked env cache world world')
    (second : resolver.Looked env cache world' world'') :
    resolver.Looked env cache world world'' :=
  ⟨second.ready, second.pending.trans first.pending,
    fun _ _ noted => first.calm _ _ (second.calm _ _ noted)⟩

theorem Ready.of_same (ready : resolver.Ready env cache world)
    (same : World.SameTables world world') : resolver.Ready env cache world' := by
  have table := same.cache_eq cache
  refine ⟨?_, ?_, ?_, ?_⟩
  · rw [same.caches]
    exact ready.inside
  all_goals rw [table]
  · exact ready.isOpen
  · exact ready.isTable
  · exact ready.right

/-- A change of the table that stores nothing leaves it ready. -/
theorem Ready.change (ready : resolver.Ready env cache world) (change : Cache → Cache)
    (closed : (change (world.cache cache)).closed = (world.cache cache).closed)
    (standIn : (change (world.cache cache)).standIn = (world.cache cache).standIn)
    (entries : (change (world.cache cache)).entries = (world.cache cache).entries) :
    resolver.Ready env cache (world.change cache change) := by
  have table := world.cache_change ready.inside change
  refine ⟨?_, ?_, ?_, ?_⟩
  · rw [World.length_change]
    exact ready.inside
  all_goals rw [table]
  · exact closed.trans ready.isOpen
  · exact standIn.trans ready.isTable
  · exact fun leads found => ready.right leads ((Cache.find?_congr entries _).symm.trans found)

/-- What a name leads to may be stored for it. -/
theorem Ready.put (ready : resolver.Ready env cache world)
    (leads : resolver.Leads env value (name :: rest)) :
    resolver.Ready env cache
      (world.change cache (Cache.put · (CacheKey.of (.ref name) env) value)) := by
  have table := world.cache_change ready.inside (Cache.put · (CacheKey.of (.ref name) env) value)
  refine ⟨?_, ?_, ?_, ?_⟩
  · rw [World.length_change]
    exact ready.inside
  all_goals rw [table]
  · exact ready.isOpen
  · exact ready.isTable
  · intro other rest' value' stored leads' found
    rw [Cache.find?_put] at found
    split at found
    · next same =>
        have names : name = other := congrArg CacheKey.name same
        subst names
        cases found
        exact leads.unique leads'
    · exact ready.right leads' found

/-- A note of anything but an application is no application. -/
theorem noneApplied_cons {events : List Event} {event : Event}
    (other : ∀ function args, event ≠ .applied function args) : NoneApplied events (event :: events) := by
  intro function args noted
  rcases List.mem_cons.1 noted with same | before
  · exact absurd same.symm (other function args)
  · exact before

/-- A reference is resolved by looking it up. -/
theorem resolveTerm_ref (rules : resolver.rules = Rule.standard)
    (classified : resolver.classifier.classify (.ref name) = .ok .ref)
    (steps : 1 ≤ resolver.config.maxDepth) (levels : Nat) :
    resolveTerm ceiling (levels + 1) resolver (.ref name) env cache =
      lookupName (resolveTerm ceiling levels) resolver env cache (.ref name) := by
  obtain ⟨most, limit⟩ : ∃ most, resolver.config.maxDepth = most + 1 :=
    ⟨resolver.config.maxDepth - 1, by omega⟩
  rw [resolveTerm_succ]
  unfold resolveNode
  rw [classified, limit]
  change resolver.reduce (resolveTerm ceiling levels) cache (most + 1) ⟨.ref name, .ref, env, false⟩ = _
  rw [reduce_succ rules]
  have applies := resolver.applies_ruleFor ⟨.ref name, .ref, env, false⟩
  generalize resolver.ruleFor ⟨.ref name, .ref, env, false⟩ = rule at applies
  cases applies with
  | lookup _ bound =>
      unfold transform
      simp only [bind_assoc, pure_bind, follow, bind_pure]
  | fixpoint _ unbound =>
      unfold transform lookupName
      dsimp only at unbound
      rw [unbound]
      simp only [bind_assoc, pure_bind, follow]
      rfl
  | passThrough kind => rcases kind with kind | kind <;> cases kind
  | _ => contradiction

/-- When what was looked up is left and stored, nothing has been applied since it was entered. -/
theorem Looked.settle {entered done : World} (looked : resolver.Looked env cache entered done)
    (leads : resolver.Leads env value (name :: rest))
    (flying : (entered.cache cache).pending =
      (world.cache cache).pending ++ [CacheKey.of (.ref name) env])
    (begun : NoneApplied (world.cache cache).events (entered.cache cache).events) :
    resolver.Looked env cache world ((done.change cache Cache.leave).change cache
      (Cache.put · (CacheKey.of (.ref name) env) value)) := by
  have left := looked.ready.change Cache.leave rfl rfl rfl
  have leaves := done.cache_change looked.ready.inside Cache.leave
  have puts := World.cache_change _ left.inside (Cache.put · (CacheKey.of (.ref name) env) value)
  refine ⟨left.put leads, ?_, ?_⟩
  all_goals rw [puts]
  · show ((done.change cache Cache.leave).cache cache).pending = _
    rw [leaves]
    exact Cache.pending_leave (looked.pending.trans flying)
  · intro function args noted
    refine begun _ _ (looked.calm _ _ ?_)
    have noted : .applied function args ∈ ((done.change cache Cache.leave).cache cache).events :=
      noted
    rw [leaves] at noted
    exact noted

/-- What a name leads to is served or computed for it, if there is room for one more in flight. -/
theorem Leads.memoize (leads : resolver.Leads env value (name :: rest))
    (ready : resolver.Ready env cache world)
    (free : CacheKey.of (.ref name) env ∉ (world.cache cache).pending)
    (shallow : (world.cache cache).pending.length < resolver.config.maxDepth)
    {detectCycles : Bool} {compute : Run Term}
    (computes : ∀ entered, resolver.Ready env cache entered →
      (entered.cache cache).pending =
        (world.cache cache).pending ++ [CacheKey.of (.ref name) env] →
      After compute entered
        (fun value' done => value' = value ∧ resolver.Looked env cache entered done)
        fun _ _ => False) :
    After (Run.memoize cache (.ref name) env detectCycles (some resolver.config.maxDepth) compute)
      world (fun value' done => value' = value ∧ resolver.Looked env cache world done)
      fun _ _ => False := by
  apply after_memoize
  · rintro value' done done' same ⟨rfl, looked⟩
    refine ⟨rfl, looked.ready.of_same same, ?_, ?_⟩
    all_goals rw [same.cache_eq]
    · exact looked.pending
    · exact looked.calm
  · exact fun _ unusable => absurd unusable (Cache.not_unusable ready.isOpen ready.isTable)
  · intro failure refuses
    cases refuses with
    | inFlight _ pending => exact free pending
    | tooDeep limited deep =>
        cases limited
        exact absurd shallow (Nat.not_lt.2 (Int.ofNat_le.1 deep))
  · intro stored found next
    rw [ready.right leads found, leads.detach]
    have table := world.cache_change ready.inside (Cache.hit · (CacheKey.of (.ref name) env) env)
    refine ⟨rfl, ready.change _ rfl rfl rfl, ?_, ?_⟩
    all_goals rw [table]
    · rfl
    · exact noneApplied_cons fun _ _ => nofun
  · intro begins entered same
    have table := world.cache_change ready.inside (Cache.enter · (CacheKey.of (.ref name) env) env)
    have enters : resolver.Ready env cache entered := (ready.change _ rfl rfl rfl).of_same same
    have flying : (entered.cache cache).pending =
        (world.cache cache).pending ++ [CacheKey.of (.ref name) env] := by
      rw [same.cache_eq, table]
      rfl
    have begun : NoneApplied (world.cache cache).events (entered.cache cache).events := by
      rw [same.cache_eq, table]
      exact noneApplied_cons fun _ _ => nofun
    refine (computes entered enters flying).mono ?_ fun _ _ => False.elim
    rintro value' done ⟨same, looked⟩ next
    rw [same, leads.detach]
    exact ⟨rfl, looked.settle leads flying begun⟩

variable (resolver env) in
/-- The first of some names leads to a value, and all of them are within the limits. -/
structure Led (levels : Nat) (names : List String) (value : Term) : Prop where
  leads : resolver.Leads env value names
  distinct : names.Nodup
  nested : names.length ≤ levels
  shallow : names.length ≤ resolver.config.maxDepth

/-- A new table is ready. -/
theorem Ready.new (inside : cache < world.caches.length) (new : world.cache cache = .empty) :
    resolver.Ready env cache world := by
  refine ⟨inside, ?_, ?_, ?_⟩ <;> rw [new]
  · rfl
  · rfl
  · intro _ _ _ _ _ found
    cases found

/-- Arguments are found by the names of the dependencies. -/
theorem arguments_map (values : String → Term) (deps : List String) :
    arguments deps (deps.map fun dep => (.ref dep, values dep)) = deps.map values := by
  have found : ∀ (entries : Entries) {dep : String}, Entries.has entries (.ref dep) = true →
      (∀ entry ∈ entries, ∃ name, entry = (.ref name, values name)) →
        Entries.find? entries (.ref dep) = some (values dep) := by
    intro entries dep present each
    obtain ⟨value, found⟩ := Entries.has_iff.1 present
    obtain ⟨key, member, same⟩ := Entries.mem_of_find? found
    obtain ⟨name, isNamed⟩ := each _ member
    obtain ⟨rfl, rfl⟩ := Prod.mk.inj isNamed
    rw [found, beq_iff_eq.1 ((Term.sameKey_text _ _ _ _).symm.trans same)]
  unfold arguments
  refine List.map_congr_left fun dep member => ?_
  unfold Entries.ofPairs
  rw [Entries.find?_update, found]
  · rfl
  · rw [Entries.has_eq_any, List.any_eq_true]
    exact ⟨(.ref dep, values dep), List.mem_reverse.2 (List.mem_map.2 ⟨dep, member, rfl⟩), by simp⟩
  · intro entry among
    obtain ⟨name, _, rfl⟩ := List.mem_map.1 (List.mem_reverse.1 among)
    exact ⟨name, rfl⟩

/-- The first application that was noted is that of a function to arguments. -/
def FirstApplied (function : Term) (args : List Term) (events : List Event) : Prop :=
  ∃ before, .applied function args :: before <:+ events ∧ NoneApplied [] before

theorem FirstApplied.after {α : Type} {function : Term} {args : List Term} {run : Run α}
    [grows : Grows run] (first : FirstApplied function args (world.cache cache).events) :
    After run world (fun _ done => FirstApplied function args (done.cache cache).events)
      fun _ done => FirstApplied function args (done.cache cache).events := by
  obtain ⟨before, suffix, none⟩ := first
  exact (grows.after world).mono
    (fun _ _ grown => ⟨before, suffix.trans (grown.tables cache).events, none⟩)
    fun _ _ grown => ⟨before, suffix.trans (grown.tables cache).events, none⟩

instance grows_follow {levels steps : Nat} {step : Step} :
    Grows (resolver.follow (resolveTerm ceiling levels) cache steps step) := by
  unfold follow
  split <;> infer_instance

section

variable (rules : resolver.rules = Rule.standard) (tells : resolver.Tells)
  (looked : ∀ name, resolver.classifier.kind (.ref name) = .ref)

include rules tells looked

/--
A lookup gives what the name leads to, if no name on the way is in flight and there is room for all
of them.
-/
theorem Leads.lookup (leads : resolver.Leads env value names) {name : String} {rest : List String}
    (begins : names = name :: rest) (distinct : names.Nodup)
    {levels : Nat} (enough : names.length ≤ levels) {world : World}
    (ready : resolver.Ready env cache world)
    (free : ∀ other ∈ names, CacheKey.of (.ref other) env ∉ (world.cache cache).pending)
    (shallow : (world.cache cache).pending.length + names.length ≤ resolver.config.maxDepth) :
    After (lookupName (resolveTerm ceiling levels) resolver env cache (.ref name)) world
      (fun value' done => value' = value ∧ resolver.Looked env cache world done)
      fun _ _ => False := by
  have whole := leads
  induction leads generalizing name rest levels world with
  | datum bound datum known =>
      obtain ⟨rfl, rfl⟩ := List.cons.inj begins
      simp only [List.length_singleton] at enough shallow
      unfold lookupName
      rw [bound]
      refine whole.memoize ready (free _ List.mem_cons_self) (by omega) fun entered enters _ => ?_
      have single : resolver.classifier.classify value = .ok .scalar :=
        (tells.classify value).trans (congrArg Except.ok (kind_datum datum known))
      rw [resolveTerm_single rules single (.inl rfl) (by omega) enough]
      exact ⟨rfl, .refl enters⟩
  | left unbound same =>
      obtain ⟨rfl, rfl⟩ := List.cons.inj begins
      unfold lookupName
      rw [unbound]
      refine after_bind.2 (after_changeCache.2 ⟨same.symm, ready.change _ rfl rfl rfl, ?_, ?_⟩)
      all_goals rw [world.cache_change ready.inside]
      · rfl
      · exact noneApplied_cons fun _ _ => nofun
  | @link first next others bound later ih =>
      obtain ⟨rfl, rfl⟩ := List.cons.inj begins
      simp only [List.length_cons] at enough shallow
      obtain ⟨below, rfl⟩ : ∃ below, levels = below + 1 := ⟨levels - 1, by omega⟩
      obtain ⟨notAgain, distinct'⟩ := List.nodup_cons.1 distinct
      have isRef : resolver.classifier.classify (.ref next) = .ok .ref :=
        (tells.classify _).trans (congrArg Except.ok (looked next))
      unfold lookupName
      rw [bound]
      refine whole.memoize ready (free _ List.mem_cons_self) (by omega)
        fun entered enters flying => ?_
      rw [resolveTerm_ref rules isRef (by omega)]
      refine ih rfl distinct' (by simp only [List.length_cons]; omega) enters ?_ ?_ later
      · intro other member pending
        rw [flying] at pending
        rcases List.mem_append.1 pending with before | last
        · exact free other (List.mem_cons_of_mem _ member) before
        · have same : other = first := congrArg CacheKey.name (List.mem_singleton.1 last)
          exact notAgain (same ▸ member)
      · rw [flying, List.length_append]
        simp only [List.length_cons, List.length_nil]
        omega

/-! ## Dependencies -/

/-- The dependencies of a function have the values that their names lead to. -/
theorem after_resolveDependencies {values : String → Term} {others : String → List String}
    {levels : Nat} {deps : List String}
    (led : ∀ dep ∈ deps, resolver.Led env levels (dep :: others dep) (values dep))
    (known : ∀ dep ∈ deps, resolver.classifier.isRef (values dep) = false)
    (ready : resolver.Ready env cache world) (idle : (world.cache cache).pending = [])
    (function : String) :
    After (resolver.resolveDependencies (resolveTerm ceiling levels) cache function env deps) world
      (fun found done => found = deps.map (fun dep => (.ref dep, values dep)) ∧
        resolver.Looked env cache world done)
      fun _ _ => False := by
  induction deps generalizing world with
  | nil => exact ⟨rfl, .refl ready⟩
  | cons dep rest ih =>
      obtain ⟨first, led⟩ := List.forall_mem_cons.1 led
      obtain ⟨isKnown, known⟩ := List.forall_mem_cons.1 known
      unfold resolveDependencies
      refine after_bind.2 ((first.leads.lookup rules tells looked rfl first.distinct first.nested
        ready ?_ ?_).mono ?_ fun _ _ => False.elim)
      · simp [idle]
      · simpa [idle] using first.shallow
      rintro value done ⟨rfl, looked⟩
      unfold checkDependency
      rw [isKnown, Bool.and_false, if_neg Bool.false_ne_true, pure_bind]
      refine after_bind.2 ((ih led known looked.ready (looked.pending.trans idle)).mono ?_
        fun _ _ => False.elim)
      rintro found done' ⟨rfl, looked'⟩
      exact ⟨rfl, looked.trans looked'⟩

/-- A function is applied to what its dependencies lead to, whatever comes of that. -/
theorem after_function {values : String → Term} {others : String → List String}
    {stamp : Stamp} {label : String} {deps : List String} {doc : Option String} {callee : Term}
    (classified : resolver.classifier.kind (.function stamp label deps doc callee) = .function)
    (steps : 1 ≤ resolver.config.maxDepth) {levels : Nat}
    (led : ∀ dep ∈ deps, resolver.Led env levels (dep :: others dep) (values dep))
    (known : ∀ dep ∈ deps, resolver.classifier.isRef (values dep) = false)
    (inside : cache < world.caches.length) (new : world.cache cache = .empty) :
    After (resolveTerm ceiling (levels + 1) resolver (.function stamp label deps doc callee) env cache) world
      (fun _ done => FirstApplied (.function stamp label deps doc callee) (deps.map values)
        (done.cache cache).events)
      fun _ done => FirstApplied (.function stamp label deps doc callee) (deps.map values)
        (done.cache cache).events := by
  obtain ⟨most, limit⟩ : ∃ most, resolver.config.maxDepth = most + 1 :=
    ⟨resolver.config.maxDepth - 1, by omega⟩
  rw [resolveTerm_succ]
  unfold resolveNode
  rw [tells.classify, classified, limit]
  change After (resolver.reduce (resolveTerm ceiling levels) cache (most + 1)
    ⟨.function stamp label deps doc callee, .function, env, false⟩) world _ _
  rw [reduce_succ rules, ruleFor_function]
  unfold transform applyFunction
  dsimp only
  rw [bind_assoc]
  refine after_bind.2 ((after_resolveDependencies rules tells looked led known
    (Ready.new inside new) (by rw [new]; rfl) label).mono ?_ fun _ _ => False.elim)
  rintro found done ⟨rfl, onward⟩
  rw [arguments_map]
  simp only [bind_assoc]
  refine after_bind.2 (after_modify.2 (after_bind.2 (after_changeCache.2 ?_)))
  -- From here on the note of the application stays, whatever is run.
  have _ : ∀ step, Grows (resolver.follow (resolveTerm ceiling levels) cache most step) :=
    fun _ => grows_follow
  refine FirstApplied.after ⟨(done.cache cache).events, ?_, fun function args noted => ?_⟩
  · rw [World.cache_change]
    · exact List.suffix_refl _
    · exact onward.ready.inside
  · have before := onward.calm function args noted
    rw [new] at before
    exact before

end

/-! ## Whole resolutions -/

section

variable {given : Option CacheId} {resolution : Resolution} {t : Term}
  (new : ∀ id, (given <|> world.active) = some id →
    id < world.caches.length ∧ world.cache id = .empty)

include new

/-- A resolution that begins with a new table returns what its run with the table gives. -/
theorem after_value (run : ∀ id before, id < before.caches.length → before.cache id = .empty →
      After (resolution resolver t env id) before
        (fun value' done => value' = value ∧ (done.cache id).standIn = none) fun _ _ => False) :
    After (resolveLeniently resolution resolver t env given) world (fun value' _ => value' = value)
      fun _ _ => False := by
  have inTable : ∀ id before, id < before.caches.length → before.cache id = .empty →
      After (resolveIn resolution resolver t env id) before (fun value' _ => value' = value)
        fun _ _ => False := by
    intro id before inside empty
    refine after_recover.2 (after_bind.2 ((run id before inside empty).mono ?_
      fun _ _ => False.elim))
    rintro value' done ⟨same, isTable⟩
    refine after_bind.2 (after_cache.2 (after_bind.2 ?_))
    unfold checkTable
    rw [isTable]
    exact same
  unfold After
  cases table : given <|> world.active with
  | some id =>
      obtain ⟨inside, empty⟩ := new id table
      rw [Pairing.resolveLeniently_given table]
      exact inTable id world inside empty
  | none =>
      rw [Pairing.resolveLeniently_own table]
      refine after_andThen.2 ((inTable _ _ (by simp) (by simp [World.cache])).mono ?_
        fun _ _ => False.elim)
      exact fun _ _ same => after_closeCache fun _ _ _ => same

/-- It notes first what its run with the table notes first. -/
theorem after_firstApplied {function : Term} {args : List Term}
    (run : ∀ id before, id < before.caches.length → before.cache id = .empty →
      After (resolution resolver t env id) before
        (fun _ done => FirstApplied function args (done.cache id).events)
        fun _ done => FirstApplied function args (done.cache id).events) :
    After (resolveWith resolution resolver t env given) world
      (fun _ done => FirstApplied function args (done.cache (world.tableFor given)).events)
      fun _ done => FirstApplied function args (done.cache (world.tableFor given)).events := by
  have inTable : ∀ id before, id < before.caches.length → before.cache id = .empty →
      After (resolveIn resolution resolver t env id) before
        (fun _ done => FirstApplied function args (done.cache id).events)
        fun _ done => FirstApplied function args (done.cache id).events := by
    intro id before inside empty
    have reports : After (resolution resolver t env id >>= fun result => do
        let table ← Run.cache id
        Run.checkTable table "hits"
        Run.log .debug ("Resolved template: " ++ toString table.hits ++ " cache hits, " ++
          toString table.misses ++ " misses")
        return result) before (fun _ done => FirstApplied function args (done.cache id).events)
          fun _ done => FirstApplied function args (done.cache id).events :=
      after_bind.2 ((run id before inside empty).mono (fun _ _ first => first.after)
        fun _ _ first => first)
    refine after_recover.2 (reports.mono (fun _ _ first => first) fun failure done first => ?_)
    cases failure.isExhaustion with
    | false => exact first
    | true =>
        have throws : After (do throw (.endless resolution.ceiling (← Run.chain id)) : Run Term) done
            (fun _ done => FirstApplied function args (done.cache id).events)
            fun _ done => FirstApplied function args (done.cache id).events := first.after
        exact throws
  have lenient : After (resolveLeniently resolution resolver t env given) world
      (fun _ done => FirstApplied function args (done.cache (world.tableFor given)).events)
      fun _ done => FirstApplied function args (done.cache (world.tableFor given)).events := by
    unfold After World.tableFor
    cases table : given <|> world.active with
    | some id =>
        obtain ⟨inside, empty⟩ := new id table
        rw [Pairing.resolveLeniently_given table]
        exact inTable id world inside empty
    | none =>
        rw [Pairing.resolveLeniently_own table]
        refine after_andThen.2 ((inTable _ _ (by simp) (by simp [World.cache])).mono ?_ ?_)
        · exact fun _ _ first => first.after
        · exact fun _ _ first => first.after
  exact after_bind.2 (lenient.mono (fun _ _ first => first.after) fun _ _ first => first)

end

/-- The limits of a chain leave room for a lookup of its first name. -/
theorem DataChain.led (data : resolver.DataChain stack env names value) {left : Term}
    (leads : resolver.Leads env left names) : resolver.Led env (stack.levels - 1) names left :=
  ⟨leads, data.distinct, Nat.le_sub_one_of_lt data.nested, Nat.le_of_lt data.shallow⟩

/-- There is no reference in data. -/
theorem acceptsResult_datum (tells : resolver.Tells) (datum : value.isDatum = true)
    (known : resolver.classifier.isRef value = false) : resolver.AcceptsResult value := by
  refine fun _ => ⟨tells.check value, ?_⟩
  cases value with
  | text kind s => simp [Term.references, known]
  | list _ _ _ | tuple _ _ | map _ _ _ => cases datum
  | _ => simp [Term.references]

section

variable (rules : resolver.rules = Rule.standard) (tells : resolver.Tells)
  (looked : ∀ name, resolver.classifier.kind (.ref name) = .ref) {given : Option CacheId}
  (new : ∀ id, (given <|> world.active) = some id →
    id < world.caches.length ∧ world.cache id = .empty)

include rules tells looked new

/-- A reference is resolved to what its name leads to. -/
theorem after_led (led : resolver.Led env (stack.levels - 1) (name :: rest) value) :
    After (resolveLeniently (resolveTerm stack.ceiling stack.levels) resolver (.ref name) env given) world
      (fun value' _ => value' = value) fun _ _ => False := by
  have steps : 1 ≤ resolver.config.maxDepth :=
    Nat.le_trans (Nat.le_add_left 1 rest.length) led.shallow
  have isRef : resolver.classifier.classify (.ref name) = .ok .ref :=
    (tells.classify _).trans (congrArg Except.ok (looked name))
  obtain ⟨levels, room⟩ : ∃ levels, stack.levels = levels + 1 :=
    Nat.exists_eq_add_one.2 (Nat.lt_of_lt_pred (Nat.lt_of_lt_of_le (Nat.succ_pos _) led.nested))
  rw [room] at led ⊢
  refine after_value new fun id before inside empty => ?_
  rw [resolveTerm_ref rules isRef steps]
  refine (led.leads.lookup rules tells looked rfl led.distinct led.nested (.new inside empty) ?_
    ?_).mono ?_ fun _ _ => False.elim
  · simp [empty, Cache.empty]
  · simpa [empty, Cache.empty] using led.shallow
  · exact fun value' done ends => ⟨ends.1, ends.2.ready.isTable⟩

/--
A reference to a name that is bound through a chain of references to data is resolved to the data,
however strict the settings are, except where the data is the text of the last name; and a function
of such names that are no exceptions is applied to their data before anything else is applied,
whatever comes of that.
-/
theorem resolve_chain {values : String → Term} {others : String → List String}
    {names : List String}
    (data : ∀ name ∈ names, resolver.DataChain stack env (name :: others name) (values name)) :
    (∀ name ∈ names, (∃ done, resolver.resolve (.ref name) env given stack world =
        .ok (values name) done) ↔ (values name).text? ≠ (name :: others name).getLast?) ∧
      ∀ stamp label deps doc callee, deps ≠ [] → (∀ dep ∈ deps, dep ∈ names ∧
          (values dep).text? ≠ (dep :: others dep).getLast?) →
        resolver.classifier.kind (.function stamp label deps doc callee) = .function →
          After (resolver.resolve (.function stamp label deps doc callee) env given stack) world
            (fun _ done => FirstApplied (.function stamp label deps doc callee) (deps.map values)
              (done.cache (world.tableFor given)).events)
            fun _ done => FirstApplied (.function stamp label deps doc callee) (deps.map values)
              (done.cache (world.tableFor given)).events := by
  constructor
  · intro name member
    have chained := data name member
    constructor
    · rintro ⟨done, run⟩ own
      obtain ⟨last, isLast⟩ : ∃ last, (name :: others name).getLast? = some last :=
        ⟨_, List.getLast?_cons⟩
      have ends := after_led rules tells looked new
        (chained.led (chained.leads_left isLast (own.trans isLast)))
      have datum := chained.datum
      rw [ends.of_ok (resolveWith_eq_ok.1 run).1] at datum
      cases datum
    · intro kept
      have ends := after_led rules tells looked new (chained.led (chained.leads kept))
      unfold After at ends
      split at ends
      · next found done ran =>
          rw [ends] at ran
          exact ⟨done, resolveWith_eq_ok.2
            ⟨ran, acceptsResult_datum tells chained.datum chained.known⟩⟩
      · exact ends.elim
  · intro stamp label deps doc callee some_ led classified
    obtain ⟨first, member⟩ := List.exists_mem_of_ne_nil deps some_
    have steps : 1 ≤ resolver.config.maxDepth :=
      Nat.lt_of_le_of_lt (Nat.zero_le _) (data first (led first member).1).shallow
    have reaches : ∀ dep ∈ deps,
        resolver.Led env (stack.levels - 1) (dep :: others dep) (values dep) := by
      intro dep member
      have chained := data dep (led dep member).1
      exact chained.led (chained.leads (led dep member).2)
    have known : ∀ dep ∈ deps, resolver.classifier.isRef (values dep) = false :=
      fun dep member => (data dep (led dep member).1).known
    obtain ⟨levels, room⟩ : ∃ levels, stack.levels = levels + 1 :=
      Nat.exists_eq_add_one.2 (Nat.zero_lt_of_lt (data first (led first member).1).nested)
    rw [room] at reaches
    refine after_firstApplied new fun id before inside empty => ?_
    rw [room]
    exact after_function rules tells looked classified steps reaches known inside empty

end

/-- Data at the end of a chain of two may be the text of the first name. -/
theorem spelled_like_first :
    (∃ done, strictStandard.resolve (.ref "A") ⟨[[(.str "A", .ref "B"), (.str "B", .str "A")]], []⟩
        none .usual .empty = .ok (.str "A") done) ∧
      After (strictStandard.resolve (.keeper "A")
          ⟨[[(.str "A", .ref "B"), (.str "B", .str "A")]], []⟩ none .usual) .empty
        (fun _ done => FirstApplied (.keeper "A") [.str "A"] (done.cache 0).events)
        fun _ done => FirstApplied (.keeper "A") [.str "A"] (done.cache 0).events := by
  have data : ∀ name ∈ ["A"], strictStandard.DataChain .usual
      ⟨[[(.str "A", .ref "B"), (.str "B", .str "A")]], []⟩ (name :: ["B"]) (.str "A") := by
    intro name member
    obtain rfl := List.mem_singleton.1 member
    exact ⟨.link rfl (.last rfl), by decide, by decide, by decide, rfl, rfl⟩
  have tells : strictStandard.Tells := tells_of_nil rfl
  have new := World.new_of_idle (show World.empty.active = none from rfl)
  have ends := resolve_chain rfl tells (fun _ => rfl) new data
  refine ⟨(ends.1 "A" List.mem_cons_self).2 (by decide), ?_⟩
  refine ends.2 0 "keep" ["A"] none _ nofun (fun dep member => ⟨member, ?_⟩) rfl
  obtain rfl := List.mem_singleton.1 member
  decide

/-- Data that is the text of its own name is left as a reference, and strict settings refuse it. -/
theorem spelled_like_last :
    standard.DataChain .usual ⟨[[(.str "K", .str "K")]], []⟩ ["K"] (.str "K") ∧
      (∃ done, standard.resolve (.ref "K") ⟨[[(.str "K", .str "K")]], []⟩ none .usual .empty =
        .ok (.ref "K") done) ∧
      ∃ shown done, strictStandard.resolve (.ref "K") ⟨[[(.str "K", .str "K")]], []⟩ none .usual .empty =
        .error (.unresolved ["K"] shown) done :=
  ⟨⟨.last rfl, by decide, by decide, by decide, rfl, rfl⟩, ⟨_, rfl⟩, _, _, rfl⟩

end Resolver

end ScopedTemplate
