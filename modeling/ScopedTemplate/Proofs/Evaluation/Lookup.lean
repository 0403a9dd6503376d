import ScopedTemplate.Proofs.Evaluation.Computation
import ScopedTemplate.Proofs.Run.Custody
import Mathlib.Data.Nat.Find

/-!
# Lookups compute values

The value of a name that is served was stored by a lookup in an environment with the same bindings;
one that is computed is the value of its binding.  A name in flight that is looked up again has no
value: its value would be needed to find it.
-/

namespace ScopedTemplate

open Run

namespace Domain

variable (domain : Domain) (cache : CacheId)

def Valued (env : Environment Term) (t value : Term) : Prop :=
  domain.meaning.Evaluates (env.bindings domain.sorts) (t.outline domain.sorts)
    (value.outline domain.sorts)

/-- A resolution failed, although a term has a value, at a limit only. -/
def Fails (flight : Flight) (env : Environment Term) (t : Term) (failure : Failure) : Prop :=
  ∀ depth value, domain.meaning.evaluate depth (env.bindings domain.sorts)
      (t.outline domain.sorts) = some value →
    domain.Undecided flight depth → failure.isLimit = true

def NameValued (env : Environment Term) (name : String) (value : Term) : Prop :=
  ∃ depth, domain.nameValue depth env name = some (value.outline domain.sorts)

def NameFails (flight : Flight) (env : Environment Term) (name : String) (failure : Failure) :
    Prop :=
  ∀ depth value, domain.nameValue depth env name = some value →
    domain.Undecided flight (depth + 1) → failure.isLimit = true

def Refines (resolution : Resolution) : Prop :=
  ∀ {stage flight t env}, domain.Holds stage t → domain.admits stage env →
    domain.Computes cache stage flight (resolution domain.meaning.resolver t env cache)
      domain.Holds (domain.Valued env t) (domain.Fails flight env t)

variable {domain} {cache} {resolution : Resolution} {env : Environment Term}
  {stage : domain.Stage} {flight : Flight}

theorem nameValue_mono {depth depth' : Nat} (le : depth ≤ depth') {name : String} {value : Term}
    (found : domain.nameValue depth env name = some value) :
    domain.nameValue depth' env name = some value :=
  Meaning.nameValue_mono (fun _ _ _ => Meaning.evaluate_mono le) found

theorem nameValue_unbound {kind : TextKind} {s : String}
    (unbound : env.target? (.text kind s) = none) (depth : Nat) :
    domain.nameValue depth env s = some (.ref s) := by
  have target : (env.bindings domain.sorts).target? s = none := by
    rw [Environment.target?_bindings env kind, unbound]
    rfl
  unfold Domain.nameValue Meaning.nameValue
  rw [target]

theorem nameValue_bound {kind : TextKind} {s : String} {binding : Term}
    (bound : env.target? (.text kind s) = some binding) (depth : Nat) :
    domain.nameValue depth env s =
      domain.meaning.evaluate depth (env.bindings domain.sorts) (binding.outline domain.sorts) := by
  have target : (env.bindings domain.sorts).target? s = some (binding.outline domain.sorts) := by
    rw [Environment.target?_bindings env kind, bound]
    rfl
  unfold Domain.nameValue Meaning.nameValue
  rw [target]

/-- The value of a name is found at some depth first. -/
theorem first_depth {depth : Nat} {name : String} {value : Term}
    (found : domain.nameValue depth env name = some value) :
    ∃ first ≤ depth, domain.nameValue first env name = some value ∧
      ∀ below < first, domain.nameValue below env name = none := by
  have some_depth : ∃ depth, (domain.nameValue depth env name).isSome = true :=
    ⟨depth, Option.isSome_of_eq_some found⟩
  have le : Nat.find some_depth ≤ depth :=
    Nat.find_min' some_depth (Option.isSome_of_eq_some found)
  obtain ⟨value', here⟩ := Option.isSome_iff_exists.1 (Nat.find_spec some_depth)
  have same := nameValue_mono le here
  rw [found] at same
  refine ⟨Nat.find some_depth, le, here.trans same.symm, fun below lt => ?_⟩
  exact Option.not_isSome_iff_eq_none.1 (Nat.find_min some_depth lt)

/-- Names under one key have one value. -/
theorem nameValue_of_key (lawful : domain.Lawful) {events : List Event}
    (trusted : domain.trusts events) {env' : Environment Term} {name name' : String}
    (arises : Arises events env) (arises' : Arises events env') (admits : domain.admits stage env)
    (admits' : domain.admits stage env')
    (same : CacheKey.of (.ref name) env = CacheKey.of (.ref name') env') (depth : Nat) :
    domain.nameValue depth env name = domain.nameValue depth env' name' := by
  obtain ⟨names, fingerprints⟩ := CacheKey.mk.inj same
  have names : name = name' := names
  subst names
  unfold Domain.nameValue
  rw [lawful.agree trusted arises arises' admits admits' fingerprints]

theorem of_text (kind : TextKind) (s : String) (env : Environment Term) :
    CacheKey.of (.text kind s) env = CacheKey.of (.ref s) env := rfl

section

variable {world : World} {kind : TextKind} {s : String}

theorem Sane.hit (lawful : domain.Lawful) (sane : domain.Sane cache stage flight world)
    (admits : domain.admits stage env) (key : CacheKey) :
    domain.Sane cache stage flight (world.change cache (Cache.hit · key env)) := by
  refine sane.note lawful rfl ?_ rfl rfl rfl sane.pending fun _ => Or.inl
  rintro _ ⟨⟩
  exact admits

theorem Sane.refuse (lawful : domain.Lawful) (sane : domain.Sane cache stage flight world)
    (admits : domain.admits stage env) (key : CacheKey) :
    domain.Sane cache stage flight
      (world.change cache (Cache.record · (.refused key env))) := by
  refine sane.note lawful rfl ?_ rfl rfl rfl sane.pending fun _ => Or.inl
  rintro _ ⟨⟩
  exact admits

theorem Sane.enter (lawful : domain.Lawful) (sane : domain.Sane cache stage flight world)
    (admits : domain.admits stage env) (kind : TextKind) (s : String) :
    domain.Sane cache stage (flight ++ [(s, env)])
      (world.change cache (Cache.enter · (.of (.text kind s) env) env)) := by
  refine sane.note lawful rfl ?_ rfl rfl rfl ?_ ?_
  · rintro _ ⟨⟩
    exact admits
  · unfold Cache.enter
    rw [sane.pending, List.map_append]
    rfl
  · intro entry member
    rcases List.mem_append.1 member with before | last
    · exact .inl before
    · rw [List.mem_singleton.1 last]
      exact .inr rfl

/-- When a computation ends its name is in flight no longer. -/
theorem Sane.leave {entry : String × Environment Term}
    (sane : domain.Sane cache stage (flight ++ [entry]) world) :
    domain.Sane cache stage flight (world.change cache Cache.leave) := by
  have table := world.cache_change sane.inside Cache.leave
  refine ⟨?_, ?_, ?_, sane.reached, ?_, ?_, ?_, ?_, ?_⟩
  · rw [World.length_change]
    exact sane.inside
  all_goals rw [table]
  · exact sane.isOpen
  · exact sane.isTable
  · exact Cache.pending_leave (sane.pending.trans List.map_append)
  · exact fun other member => sane.flying other (List.mem_append_left _ member)
  · exact sane.arisen
  · exact sane.stored
  · exact sane.right

/-- A value of a name may be stored. -/
theorem Sane.put (sane : domain.Sane cache stage flight world) {value : Term}
    (holds : domain.Holds stage value) (arises : Arises (world.cache cache).events env)
    (valued : domain.trusts (world.cache cache).events → domain.NameValued env s value) :
    domain.Sane cache stage flight
      (world.change cache (Cache.put · (.of (.text kind s) env) value)) := by
  have table := world.cache_change sane.inside (Cache.put · (.of (.text kind s) env) value)
  refine ⟨?_, ?_, ?_, sane.reached, ?_, ?_, ?_, ?_, ?_⟩
  · rw [World.length_change]
    exact sane.inside
  all_goals rw [table]
  · exact sane.isOpen
  · exact sane.isTable
  · exact sane.pending
  · exact sane.flying
  · exact sane.arisen
  · intro entry member
    rcases Cache.mem_store member with rfl | before
    · exact holds
    · exact sane.stored entry before
  · intro trusted entry member
    rcases Cache.mem_store member with rfl | before
    · obtain ⟨depth, found⟩ := valued trusted
      exact ⟨s, env, depth, arises, of_text kind s env, found⟩
    · exact sane.right trusted entry before

end

/-- A lookup that is refused, although the name has a value, is so at a limit only. -/
theorem Sane.refused (lawful : domain.Lawful) {world : World} {kind : TextKind} {s : String}
    (sane : domain.Sane cache stage flight world) (admits : domain.admits stage env)
    {detectCycles : Bool} {limit : Option Int} {failure : Failure}
    (refuses : (world.cache cache).Refuses (.of (.text kind s) env) detectCycles limit failure)
    {events : List Event} (grown : (world.cache cache).events <:+ events)
    (arises : Arises events env) (trusted : domain.trusts events) :
    domain.NameFails flight env s failure := by
  cases refuses with
  | tooDeep limited deep => exact fun _ _ _ _ => rfl
  | inFlight detects pending =>
      intro depth value found undecided
      rw [sane.pending] at pending
      obtain ⟨entry, member, same⟩ := List.mem_map.1 pending
      have flying := sane.flying entry member
      have undefined := undecided entry member depth (Nat.lt_succ_self depth)
      rw [nameValue_of_key lawful trusted (flying.suffix grown) arises (sane.arisen _ flying) admits
        same, found] at undefined
      cases undefined

section

variable {world : World} {event : Event}

/-- What was noted before a change of the table is noted after it. -/
theorem Sane.grown (sane : domain.Sane cache stage flight world) (change : Cache → Cache)
    (noted : (change (world.cache cache)).events = event :: (world.cache cache).events) :
    (world.cache cache).events <:+ ((world.change cache change).cache cache).events := by
  rw [world.cache_change sane.inside, noted]
  exact List.suffix_cons _ _

theorem Sane.arises (sane : domain.Sane cache stage flight world) (change : Cache → Cache)
    (noted : (change (world.cache cache)).events = event :: (world.cache cache).events)
    (here : event.scope? = some env) :
    Arises ((world.change cache change).cache cache).events env := by
  rw [world.cache_change sane.inside, noted]
  exact ⟨event, List.mem_cons_self, here⟩

/-- The end of a computation is not noted. -/
theorem Sane.events_leave (sane : domain.Sane cache stage flight world) :
    ((world.change cache Cache.leave).cache cache).events = (world.cache cache).events := by
  rw [world.cache_change sane.inside]
  rfl

variable {kind : TextKind} {s : String} {value binding : Term}

/-- What is stored under the key of a name is served as the value of that name. -/
theorem Sane.serve (lawful : domain.Lawful) (sane : domain.Sane cache stage flight world)
    (admits : domain.admits stage env)
    (found : (world.cache cache).find? (.of (.text kind s) env) = some value) :
    let done : World := { world.change cache (Cache.hit · (.of (.text kind s) env) env) with
      nextStamp := (value.detach world.nextStamp).2 }
    ∃ stage', domain.Onward cache stage flight world stage' done ∧
      domain.Holds stage' (value.detach world.nextStamp).1 ∧
      (domain.trusts (done.cache cache).events →
        domain.NameValued env s (value.detach world.nextStamp).1) := by
  intro done
  have stored := Cache.mem_of_find? found
  have hits := sane.hit lawful admits (.of (.text kind s) env)
  have grown := sane.grown (Cache.hit · (.of (.text kind s) env) env) rfl
  have here := sane.arises (Cache.hit · (.of (.text kind s) env) env) rfl rfl
  obtain ⟨stage', later, reached, copied⟩ :=
    lawful.detach sane.reached value (sane.stored _ stored)
  have served : domain.Sane cache stage' flight done :=
    hits.later lawful later ⟨List.prefix_refl _, rfl⟩ reached
  refine ⟨stage', ⟨later, served, grown, rfl⟩, copied, fun trusted => ?_⟩
  -- what is stored is the value of a name that was looked up before under the same key
  obtain ⟨name, env', depth, arises, key, valued⟩ :=
    sane.right (lawful.trusts_suffix grown trusted) _ stored
  refine ⟨depth, ?_⟩
  rw [nameValue_of_key lawful trusted here (arises.suffix grown) admits (sane.arisen _ arises) key,
    valued, Term.outline_detach]

/-- When a name has been computed, a copy of its value is stored and nothing is noted. -/
theorem Sane.settle (lawful : domain.Lawful)
    (sane : domain.Sane cache stage (flight ++ [(s, env)]) world)
    (holds : domain.Holds stage value) (arises : Arises (world.cache cache).events env)
    (valued : domain.trusts (world.cache cache).events → domain.NameValued env s value) :
    let done := World.change { world.change cache Cache.leave with
      nextStamp := (value.detach world.nextStamp).2 } cache
        (Cache.put · (.of (.text kind s) env) (value.detach world.nextStamp).1)
    ∃ stage', domain.Later stage stage' ∧ domain.Sane cache stage' flight done ∧
      (done.cache cache).events = (world.cache cache).events := by
  intro done
  obtain ⟨stage', later, reached, copied⟩ := lawful.detach sane.reached value holds
  have left : domain.Sane cache stage' flight { world.change cache Cache.leave with
      nextStamp := (value.detach world.nextStamp).2 } :=
    sane.leave.later lawful later ⟨List.prefix_refl _, rfl⟩ reached
  have events : (World.cache { world.change cache Cache.leave with
      nextStamp := (value.detach world.nextStamp).2 } cache).events = (world.cache cache).events :=
    sane.events_leave
  refine ⟨stage', later, left.put copied ?_ fun trusted => ?_, ?_⟩
  · rw [events]
    exact arises
  · rw [events] at trusted
    obtain ⟨depth, found⟩ := valued trusted
    refine ⟨depth, ?_⟩
    rw [Term.outline_detach]
    exact found
  · rw [World.cache_change _ left.inside]
    exact events

/-- The value of the binding is the value of the name. -/
theorem nameValued_of_binding (bound : env.target? (.text kind s) = some binding)
    (valued : domain.Valued env binding value) : domain.NameValued env s value := by
  obtain ⟨depth, found⟩ := valued
  exact ⟨depth, (nameValue_bound bound depth).trans found⟩

/-- If the binding fails with the name in flight, so does the name: it has no value before. -/
theorem nameFails_of_binding (bound : env.target? (.text kind s) = some binding) {failure : Failure}
    (fails : domain.Fails (flight ++ [(s, env)]) env binding failure) :
    domain.NameFails flight env s failure := by
  intro depth value found undecided
  obtain ⟨first, le, here, before⟩ := first_depth found
  rw [nameValue_bound bound] at here
  refine fails first value here fun entry member below lt => ?_
  rcases List.mem_append.1 member with earlier | last
  · exact undecided entry earlier below (by omega)
  · rw [List.mem_singleton.1 last]
    exact before below lt

end

/-- The value of a name that is bound is that of its binding, stored under its key. -/
theorem Lawful.memoize (lawful : domain.Lawful) (refines : domain.Refines cache resolution)
    (admits : domain.admits stage env) {kind : TextKind} {s : String} {binding : Term}
    (bound : env.target? (.text kind s) = some binding) {detectCycles : Bool} {limit : Option Int} :
    domain.Computes cache stage flight
      (memoize cache (.text kind s) env detectCycles limit
        (resolution domain.meaning.resolver binding env cache)) domain.Holds
      (domain.NameValued env s) (domain.NameFails flight env s) := by
  intro world sane
  have holds : domain.Holds stage binding :=
    lawful.binding admits (Option.eq_some_of_filter_eq_some bound)
  apply after_memoize_stamped
  · rintro value world' world'' same ⟨stage', onward, valued, right⟩
    refine ⟨stage', onward.trans lawful (.of_same lawful onward.sane same), valued, ?_⟩
    rw [same.cache_eq]
    exact right
  · exact fun _ unusable => absurd unusable (Cache.not_unusable sane.isOpen sane.isTable)
  · intro failure refuses
    have noted := sane.refuse lawful admits (.of (.text kind s) env)
    have grown := sane.grown (Cache.record · (.refused (.of (.text kind s) env) env)) rfl
    have here := sane.arises (Cache.record · (.refused (.of (.text kind s) env) env)) rfl rfl
    exact ⟨stage, ⟨lawful.refl stage, noted, grown, rfl⟩,
      sane.refused lawful admits refuses grown here⟩
  · exact fun value found => sane.serve lawful admits found
  · intro _ entered same
    have enters := (sane.enter lawful admits kind s).of_same same
    have grown := sane.grown (Cache.enter · (.of (.text kind s) env) env) rfl
    have here := sane.arises (Cache.enter · (.of (.text kind s) env) env) rfl rfl
    rw [← same.cache_eq] at grown here
    have active : entered.active = world.active := same.active
    refine (refines holds admits entered enters).mono ?_ ?_
    · rintro value done ⟨stage', onward, valued, right⟩
      have named := fun trusted => nameValued_of_binding bound (right trusted)
      obtain ⟨stage'', later, settled, events⟩ :=
        onward.sane.settle lawful valued (here.suffix onward.grown) named
      refine ⟨stage'', ⟨lawful.trans onward.later later, settled, ?_, onward.active.trans active⟩,
        lawful.holds_later later valued, ?_⟩
      · rw [events]
        exact grown.trans onward.grown
      · rw [events]
        exact named
    · rintro failure done ⟨stage', onward, wrong⟩
      refine ⟨stage', ⟨onward.later, onward.sane.leave, ?_, onward.active.trans active⟩, ?_⟩
      · rw [onward.sane.events_leave]
        exact grown.trans onward.grown
      · rw [onward.sane.events_leave]
        exact fun trusted => nameFails_of_binding bound (wrong trusted)

/-- A lookup computes the value of a name. -/
theorem Lawful.lookup (lawful : domain.Lawful) (refines : domain.Refines cache resolution)
    (admits : domain.admits stage env) (kind : TextKind) (s : String) :
    domain.Computes cache stage flight
      (lookupName resolution domain.meaning.resolver env cache (.text kind s)) domain.Holds
      (domain.NameValued env s) (domain.NameFails flight env s) := by
  unfold lookupName
  split
  · next unbound =>
      refine (Computes.record lawful rfl).seq lawful fun stage' _ later _ => ?_
      refine .pure lawful (Term.everywhere_of_inner rfl (lawful.name _ s)) ?_
      exact ⟨0, nameValue_unbound unbound 0⟩
  · next binding bound =>
      exact lawful.memoize refines admits bound

end Domain

end ScopedTemplate
