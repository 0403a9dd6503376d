import ScopedTemplate.Proofs.Cycles.Tracing
import ScopedTemplate.Proofs.Evaluation.Parts

/-!
# Faults of templates without functions

A template without functions that has no value either depends on itself or is stuck at defaults that
are no mapping.  Unless a limit is met, a resolution fails for one of the two, and it is at the place
where the template is stuck that it finds such defaults.
-/

namespace ScopedTemplate

variable {ceiling : Int} {stack : Stack}

open Run

/-! ## Reports -/

/-- A failure that was to show what is bound in an environment, if that can be written. -/
inductive Reported (env : Environment Term) (report : Snapshot → Failure) : Failure → Prop where
  | shown (written : Term.areWritableEntries env.flatten = true) :
      Reported env report (report env.snapshot)
  | tooLong (unwritten : Term.areWritableEntries env.flatten = false) :
      Reported env report (.value .tooManyDigits)

/-- Whether the bindings can be written decides about the class of the error. -/
theorem Reported.name_eq {env env' : Environment Term} {report report' : Snapshot → Failure}
    {failure failure' : Failure} (reported : Reported env report failure)
    (reported' : Reported env' report' failure')
    (alike : ∀ shown shown', (report shown).name = (report' shown').name)
    (same : Term.areWritableEntries env.flatten = Term.areWritableEntries env'.flatten) :
    failure.name = failure'.name := by
  cases reported with
  | shown written =>
      cases reported' with
      | shown _ => exact alike _ _
      | tooLong unwritten => rw [written, unwritten] at same; cases same
  | tooLong unwritten =>
      cases reported' with
      | shown written => rw [written, unwritten] at same; cases same
      | tooLong _ => rfl

theorem after_report {α : Type} (env : Environment Term) (report : Snapshot → Failure)
    (world : World) :
    After (do throw (report (← Run.snapshot env)) : Run α) world (fun _ _ => False)
      fun failure _ => Reported env report failure := by
  refine after_bind.2 ?_
  unfold Run.snapshot
  split
  · next written => exact .shown written
  · next unwritten => exact .tooLong (Bool.eq_false_iff.2 unwritten)

/-- A failure says that names depend on each other in a circle. -/
def Failure.IsCycle (failure : Failure) : Prop := ∃ key chain, failure = .cyclic key chain none

namespace Resolver

variable (resolver : Resolver Term)

def Misnested (place : Environment Term) (failure : Failure) : Prop :=
  ∃ reason, Reported place (.resolution resolver.config.defaultsKey reason) failure

def DueTo (faulty : Environment Term → Prop) (failure : Failure) : Prop :=
  failure.isLimit = true ∨ failure.IsCycle ∨
    ∃ place, faulty place ∧ resolver.Misnested place failure

/-- One failure is about a cycle, the other about defaults that are no mapping. -/
def Diverge (failure failure' : Failure) : Prop :=
  failure.IsCycle ∧ (∃ place, resolver.Misnested place failure') ∨
    (∃ place, resolver.Misnested place failure) ∧ failure'.IsCycle

variable {resolver} {faulty faulty' : Environment Term → Prop} {failure : Failure}

theorem DueTo.mono (imp : ∀ place, faulty place → faulty' place)
    (due : resolver.DueTo faulty failure) : resolver.DueTo faulty' failure := by
  rcases due with limit | cycle | ⟨place, here, misnested⟩
  · exact .inl limit
  · exact .inr (.inl cycle)
  · exact .inr (.inr ⟨place, imp place here, misnested⟩)

end Resolver

namespace Domain

variable {domain : Domain} {stage : domain.Stage} {env : Environment Term} {t : Term}

/-! ## Failures -/

variable {α β : Type} {cache : CacheId} {flight : Flight} {resolution : Resolution} {run : Run α}

variable (domain) (cache) in
def Throws (stage : domain.Stage) (flight : Flight) (run : Run α) (wrong : Failure → Prop) : Prop :=
  ∀ world, domain.Sane cache stage flight world →
    After run world (fun _ _ => True) fun failure _ => wrong failure

variable (domain) (cache) in
/-- A resolution computes the values of terms, and it is known why it fails. -/
def Explains (resolution : Resolution) : Prop :=
  ∀ {stage flight t env}, domain.Holds stage t → domain.admits stage env →
    domain.Computes cache stage flight (resolution domain.meaning.resolver t env cache)
      domain.Holds (domain.Valued env t) (domain.meaning.resolver.DueTo (domain.Stuck env t))

section

variable {safe : domain.Stage → α → Prop} {right : α → Prop} {wrong wrong' : Failure → Prop}

/-- A computation of values fails for the reasons that are known for it. -/
theorem Computes.failing (computes : domain.Computes cache stage flight run safe right wrong)
    (throws : domain.Throws cache stage flight run wrong') :
    domain.Computes cache stage flight run safe right wrong' := by
  intro world sane
  refine ((computes world sane).and (throws world sane)).mono (fun _ _ ends => ends.1) ?_
  rintro failure world' ⟨⟨stage', onward, _⟩, fails⟩
  exact ⟨stage', onward, fun _ => fails⟩

theorem Throws.mono (throws : domain.Throws cache stage flight run wrong)
    (imp : ∀ failure, wrong failure → wrong' failure) :
    domain.Throws cache stage flight run wrong' :=
  fun world sane => (throws world sane).mono (fun _ _ _ => trivial) fun failure _ => imp failure

variable (trusts : ∀ events, domain.trusts events)

include trusts

theorem Computes.throws (computes : domain.Computes cache stage flight run safe right wrong) :
    domain.Throws cache stage flight run wrong := by
  intro world sane
  refine (computes world sane).mono (fun _ _ _ => trivial) ?_
  rintro failure world' ⟨_, _, fails⟩
  exact fails (trusts _)

/-- What is run later may use that what was found first is right. -/
theorem Computes.bind_throws {next : α → Run β}
    (computes : domain.Computes cache stage flight run safe right wrong)
    (later : ∀ stage' value, domain.Later stage stage' → safe stage' value → right value →
      domain.Throws cache stage' flight (next value) wrong) :
    domain.Throws cache stage flight (run >>= next) wrong := by
  intro world sane
  refine after_bind.2 ((computes world sane).mono ?_ ?_)
  · rintro value world' ⟨stage', onward, holds, valued⟩
    exact later stage' value onward.later holds (valued (trusts _)) world' onward.sane
  · rintro failure world' ⟨_, _, fails⟩
    exact fails (trusts _)

end

variable (lawful : domain.Lawful) (trusts : ∀ events, domain.trusts events)

/-! ### Lookups -/

include lawful in
/-- A lookup fails for a cycle, a limit, or since the binding has no value. -/
theorem lookup_throws (explains : domain.Explains cache resolution)
    (trusts : ∀ events, domain.trusts events) (admits : domain.admits stage env)
    {kind : TextKind} {s : String} {binding : Term}
    (bound : env.target? (.text kind s) = some binding) :
    domain.Throws cache stage flight
      (lookupName resolution domain.meaning.resolver env cache (.text kind s))
      (domain.meaning.resolver.DueTo (domain.Stuck env binding)) := by
  intro world sane
  have holds : domain.Holds stage binding :=
    lawful.binding admits (Option.eq_some_of_filter_eq_some bound)
  unfold lookupName
  rw [bound]
  apply after_memoize_stamped
  · exact fun _ _ _ _ _ => trivial
  · exact fun _ unusable => absurd unusable (Cache.not_unusable sane.isOpen sane.isTable)
  · intro failure refuses
    cases refuses with
    | inFlight _ _ => exact .inr (.inl ⟨_, _, rfl⟩)
    | tooDeep _ _ => exact .inl rfl
  · exact fun _ _ => trivial
  · intro _ entered same
    have enters := (sane.enter lawful admits kind s).of_same same
    refine (explains holds admits entered enters).mono (fun _ _ _ => trivial) ?_
    rintro failure done ⟨_, _, fails⟩
    exact fails (trusts _)

/-! ### Parts in order -/

include lawful trusts in
/-- The first element without a value is the one that fails. -/
theorem items_throw (explains : domain.Explains cache resolution) (admits : domain.admits stage env)
    {items : List Term} (holds : ∀ item ∈ items, domain.Holds stage item) :
    domain.Throws cache stage flight
      (domain.meaning.resolver.resolveItems resolution cache env items)
      (domain.meaning.resolver.DueTo (domain.StuckAmong env items)) := by
  induction items generalizing stage with
  | nil => exact fun _ _ => trivial
  | cons item rest ih =>
      obtain ⟨first, others⟩ := List.forall_mem_cons.1 holds
      refine ((explains first admits).mono (fun _ _ holds => holds) (fun _ valued => valued)
        fun _ due => due.mono fun _ stuck => stuck.among rest).bind_throws trusts
          fun stage' value later _ valued => ?_
      have more := ih (lawful.admits_later later admits) fun item member =>
        lawful.holds_later later (others item member)
      intro world sane
      refine after_bind.2 ((more world sane).mono (fun _ _ _ => trivial) fun failure _ due => ?_)
      exact due.mono fun _ among => among.cons ⟨_, valued⟩

/-- The values of entries are resolved like elements. -/
theorem entries_throw {entries : Entries} {wrong : Failure → Prop}
    (throws : domain.Throws cache stage flight
      (domain.meaning.resolver.resolveItems resolution cache env (Entries.values entries)) wrong) :
    domain.Throws cache stage flight
      (domain.meaning.resolver.resolveEntries resolution cache env entries) wrong := by
  intro world sane
  rw [Resolver.resolveEntries_eq]
  exact after_bind.2 ((throws world sane).mono (fun _ _ _ => trivial) fun _ _ fails => fails)

/-! ### Nodes -/

section

variable (tells : domain.meaning.resolver.Tells)

include lawful trusts tells

omit trusts in
/-- Resolved children that are put together are pruned, unless a limit is met. -/
theorem gathered_throws {make : Run Term} {made : Term → Prop} (makes : Silent make made)
    (gathers : ∀ t, made t → domain.meaning.resolver.Gathered t) (steps : Nat) :
    domain.Throws cache stage flight
      (make >>= fun t =>
        domain.meaning.resolver.follow resolution cache steps (.again t env true))
      fun failure => failure.isLimit = true := by
  intro world sane
  refine after_bind.2 ((makes world).mono ?_ fun _ _ => False.elim)
  rintro t world' ⟨same, isMade⟩
  cases steps with
  | zero =>
      have isTable : (world'.cache cache).standIn = none := by
        rw [same.cache_eq]
        exact sane.isTable
      refine after_bind.2 (after_ofResult.2 ⟨fun kind _ => ?_, fun failure refused => ?_⟩)
      · refine after_bind.2 (after_bind.2 (after_cache.2 ?_))
        unfold Run.checkTable
        rw [isTable]
        exact rfl
      · rw [tells.classify] at refused
        cases refused
  | succ steps =>
      have gathered := gathers t isMade
      exact (gathered.follow_silent lawful.rules tells steps (Resolver.prune_silent tells gathered)
        world').mono (fun _ _ _ => trivial) fun _ _ => False.elim

/-- What is put together from resolved children fails where they do, or at a limit. -/
theorem collected_throws {faulty : Environment Term → Prop}
    {safe : domain.Stage → α → Prop} {right : α → Prop} {make : α → Run Term} {made : α → Term → Prop}
    (computes : domain.Computes cache stage flight run safe right
      (domain.meaning.resolver.DueTo faulty))
    (makes : ∀ values, Silent (make values) (made values))
    (gathers : ∀ {stage' values t}, safe stage' values → made values t →
      domain.meaning.resolver.Gathered t) (steps : Nat) :
    domain.Throws cache stage flight
      (run >>= fun values => make values >>= fun t =>
        domain.meaning.resolver.follow resolution cache steps (.again t env true))
      (domain.meaning.resolver.DueTo faulty) := by
  refine computes.bind_throws trusts fun stage' values _ resolved _ => ?_
  exact (gathered_throws lawful tells (makes values) (fun _ => gathers resolved) steps).mono
    fun _ => .inl

omit tells in
/-- Without steps left a limit is met. -/
theorem limit_throws {node : Node} :
    domain.Throws cache stage flight (domain.meaning.resolver.reduce resolution cache 0 node)
      fun failure => failure.isLimit = true := by
  have limited : domain.Computes cache stage flight
      (domain.meaning.resolver.reduce resolution cache 0 node) (fun _ _ => True) (fun _ => True)
        fun failure => failure.isLimit = true :=
    lawful.reduce_zero fun _ limit => limit
  exact limited.throws trusts

/-- A collection is first resolved part by part. -/
theorem collection_throws {levels : Nat}
    (explains : domain.Explains cache (resolveTerm ceiling levels)) (steps : Nat)
    (holds : domain.Holds stage t) (admits : domain.admits stage env)
    (isCollection : (domain.meaning.resolver.classifier.kind t).isCollection = true)
    (missing : t.entries?.bind (Entries.find? · domain.meaning.resolver.defaultsKey) = none) :
    domain.Throws cache stage flight
      (domain.meaning.resolver.reduce (resolveTerm ceiling levels) cache steps
        ⟨t, domain.meaning.resolver.classifier.kind t, env, false⟩)
      (domain.meaning.resolver.DueTo (domain.StuckAmong env t.inner)) := by
  cases steps with
  | zero => exact (limit_throws lawful trusts).mono fun _ => .inl
  | succ steps =>
      have inner : ∀ s ∈ t.inner, domain.Holds stage s := (Term.everywhere_iff.1 holds).2
      have throws : domain.Throws cache stage flight
          (domain.meaning.resolver.resolveItems (resolveTerm ceiling levels) cache env t.inner)
          (domain.meaning.resolver.DueTo (domain.StuckAmong env t.inner)) :=
        items_throw lawful trusts explains admits inner
      have refines : domain.Refines cache (resolveTerm ceiling levels) := lawful.refines levels
      cases looked : domain.meaning.resolver.classifier.kind t with
      | mapping =>
          obtain ⟨mapKind, stamp, entries, rfl⟩ := Classifier.map_of_kind looked
          have noDefaults : Entries.has entries domain.meaning.resolver.defaultsKey = false :=
            Entries.has_eq_false_iff.2 missing
          rw [Resolver.reduce_succ lawful.rules, Resolver.ruleFor_mapping, noDefaults,
            if_neg Bool.false_ne_true]
          unfold Resolver.transform Resolver.collect
          simp only [bind_assoc, pure_bind]
          refine collected_throws lawful trusts tells ((lawful.entries refines admits
            (Term.everywhere_map.1 holds).2).failing (entries_throw throws)) Silent.makeMap ?_ steps
          rintro _ values _ resolved ⟨stamp', rfl⟩
          refine .map ?_
          rw [Custody.has_of_keys resolved.1]
          exact noDefaults
      | sequence =>
          rw [Resolver.reduce_succ lawful.rules, Resolver.ruleFor_sequence]
          have valued := (lawful.items refines admits inner).failing throws
          rcases Classifier.items_of_kind looked with
            ⟨listKind, stamp, items, rfl⟩ | ⟨stamp, items, rfl⟩
          · unfold Resolver.transform Resolver.collect
            simp only [bind_assoc, pure_bind]
            refine collected_throws lawful trusts tells valued Silent.makeList ?_ steps
            rintro _ values _ _ ⟨stamp', rfl⟩
            exact .list
          · unfold Resolver.transform Resolver.collect
            simp only [bind_assoc, pure_bind]
            refine collected_throws lawful trusts tells valued Silent.makeTuple ?_ steps
            rintro _ values _ _ ⟨stamp', rfl⟩
            exact .tuple
      | _ =>
          rw [looked] at isCollection
          cases isCollection

/-- Defaults are entered if they are a mapping. -/
theorem defaults_throw {levels : Nat}
    (explains : domain.Explains cache (resolveTerm ceiling levels)) (steps : Nat) {kind : MapKind}
    {stamp : Option Stamp} {entries : Entries} {defaults : Term}
    (holds : domain.Holds stage (.map kind stamp entries)) (admits : domain.admits stage env)
    (looked : domain.meaning.resolver.classifier.kind (.map kind stamp entries) = .mapping)
    (found : Entries.find? entries domain.meaning.resolver.defaultsKey = some defaults) :
    domain.Throws cache stage flight
      (domain.meaning.resolver.reduce (resolveTerm ceiling levels) cache (steps + 1)
        ⟨.map kind stamp entries, .mapping, env, false⟩)
      (domain.meaning.resolver.DueTo (domain.Stuck env (.map kind stamp entries))) := by
  obtain ⟨here, inner⟩ := Term.everywhere_map.1 holds
  have defaulted : Entries.has entries domain.meaning.resolver.defaultsKey = true :=
    Entries.has_iff.2 ⟨defaults, found⟩
  rw [Resolver.reduce_succ lawful.rules, Resolver.ruleFor_mapping, defaulted, if_pos rfl]
  unfold Resolver.transform Resolver.enterDefaults
  dsimp only
  rw [found, Option.getD_some]
  cases shape : defaults.entries? with
  | none =>
      have noView : defaults.isView = false :=
        (lawful.declarative (Term.Everywhere.find? inner found).here).2
      have noScope : defaults.scopeSize? = none := by
        cases defaults <;> simp [Term.scopeSize?, Term.entries?, Term.isView] at shape noView ⊢
      have malformed : domain.meaning.resolver.parts? env (.map kind stamp entries) = none := by
        rw [Resolver.parts?_collection (by rw [looked]; rfl), Resolver.within?_defaults found, shape]
        rfl
      rw [noScope]
      refine fun world _ => after_bind.2 ((after_report env _ world).mono
        (fun _ _ => False.elim) ?_)
      exact fun _ _ reported => .inr (.inr ⟨env, .defaults malformed, _, reported⟩)
  | some scope =>
      obtain ⟨kind', stamp', rfl⟩ := Resolver.map_of_entries? shape
      have admitted := (lawful.child admits holds found).1
      have parts : domain.meaning.resolver.parts? env (.map kind stamp entries) =
          some (env.child scope,
            Entries.values (Entries.erase entries domain.meaning.resolver.defaultsKey)) :=
        (Resolver.Parted.nested looked found).parts?_eq
      dsimp only [Term.scopeSize?, Term.scopeEntries]
      simp only [bind_assoc, pure_bind]
      refine Computes.bind_throws trusts (Computes.log lawful _ _) fun stage' _ later _ _ => ?_
      refine Computes.bind_throws trusts (Computes.makeMap lawful (lawful.fits_later later here)
        (reduced_erase entries _) fun entry member => lawful.holds_later later
          (inner entry (List.mem_filter.1 member).1)) fun stage'' made later' makes _ => ?_
      obtain ⟨valued, stamp'', rfl⟩ := makes
      have isMap : domain.meaning.resolver.classifier.kind (.map .plain stamp''
          (Entries.erase entries domain.meaning.resolver.defaultsKey)) = .mapping :=
        Classifier.kind_plainMap looked
      have missing : Entries.find? (Entries.erase entries domain.meaning.resolver.defaultsKey)
          domain.meaning.resolver.defaultsKey = none :=
        Entries.has_eq_false_iff.1 (has_erase entries domain.meaning.resolver.defaultsKey)
      unfold Resolver.follow
      dsimp only
      rw [tells.classify]
      refine (collection_throws lawful trusts tells explains steps valued
        (lawful.admits_later (lawful.trans later later') admitted) ?_ missing).mono
          fun _ due => due.mono fun _ among => among.stuck parts
      rw [isMap]
      rfl

omit tells in
/-- A reference fails for what it is bound to. -/
theorem reference_throws (explains : domain.Explains cache resolution) (steps : Nat)
    {textKind : TextKind} {s : String} (admits : domain.admits stage env)
    (looked : domain.meaning.resolver.classifier.kind (.text textKind s) = .ref) :
    domain.Throws cache stage flight
      (domain.meaning.resolver.reduce resolution cache steps ⟨.text textKind s, .ref, env, false⟩)
      (domain.meaning.resolver.DueTo (domain.Stuck env (.text textKind s))) := by
  cases steps with
  | zero => exact (limit_throws lawful trusts).mono fun _ => .inl
  | succ steps =>
      cases bound : env.target? (.text textKind s) with
      | none =>
          rw [Resolver.reduce_succ lawful.rules, Resolver.ruleFor_ref, bound]
          exact fun _ _ => trivial
      | some binding =>
          have parts := (Resolver.Parted.target looked bound).parts?_eq
          rw [Resolver.reduce_succ lawful.rules, Resolver.ruleFor_ref, bound]
          intro world sane
          refine after_bind.2 (after_bind.2 ((lookup_throws lawful explains trusts admits bound
            world sane).mono (fun _ _ _ => trivial) fun failure _ due => ?_))
          exact due.mono fun _ stuck => (stuck.among []).stuck parts

/-- Why a node fails that has not been reduced yet. -/
theorem node_throws
    (plain : ∀ {stage t}, domain.fits stage t → Classifier.shapeKind t ≠ .function) {levels : Nat}
    (explains : domain.Explains cache (resolveTerm ceiling levels)) (steps : Nat)
    (holds : domain.Holds stage t) (admits : domain.admits stage env) :
    domain.Throws cache stage flight
      (domain.meaning.resolver.reduce (resolveTerm ceiling levels) cache steps
        ⟨t, domain.meaning.resolver.classifier.kind t, env, false⟩)
      (domain.meaning.resolver.DueTo (domain.Stuck env t)) := by
  have gathers : (domain.meaning.resolver.classifier.kind t).isCollection = true →
      t.entries?.bind (Entries.find? · domain.meaning.resolver.defaultsKey) = none →
        domain.Throws cache stage flight
          (domain.meaning.resolver.reduce (resolveTerm ceiling levels) cache steps
            ⟨t, domain.meaning.resolver.classifier.kind t, env, false⟩)
          (domain.meaning.resolver.DueTo (domain.Stuck env t)) := by
    intro isCollection missing
    refine (collection_throws lawful trusts tells explains steps holds admits isCollection
      missing).mono fun _ due => due.mono fun _ among => ?_
    exact among.stuck (Resolver.Parted.plain isCollection missing).parts?_eq
  cases looked : domain.meaning.resolver.classifier.kind t with
  | sequence =>
      rw [looked] at gathers
      refine gathers rfl ?_
      rcases Classifier.items_of_kind looked with ⟨_, _, _, rfl⟩ | ⟨_, _, rfl⟩ <;> rfl
  | mapping =>
      obtain ⟨mapKind, stamp, entries, rfl⟩ := Classifier.map_of_kind looked
      rw [looked] at gathers
      cases found : Entries.find? entries domain.meaning.resolver.defaultsKey with
      | none => exact gathers rfl found
      | some defaults =>
          cases steps with
          | zero => exact (limit_throws lawful trusts).mono fun _ => .inl
          | succ steps =>
              exact defaults_throw lawful trusts tells explains steps holds admits looked found
  | ref =>
      obtain ⟨textKind, s, rfl⟩ := Classifier.text_of_ref looked
      exact reference_throws lawful trusts explains steps admits looked
  | function =>
      exact absurd (Classifier.shape_of_kind looked (by decide) (by decide)) (plain holds.here)
  | callable =>
      have shape := Classifier.shape_of_kind looked (by decide) (by decide)
      exact absurd shape (lawful.declarative holds.here).1
  | removed | scalar =>
      cases steps with
      | zero => exact (limit_throws lawful trusts).mono fun _ => .inl
      | succ steps =>
          rw [Resolver.reduce_succ lawful.rules, Resolver.ruleFor_single (by simp)]
          exact fun _ _ => trivial

end

/-- It is known why resolutions of terms without functions fail. -/
theorem Lawful.explains (lawful : domain.Lawful) (trusts : ∀ events, domain.trusts events)
    (tells : domain.meaning.resolver.Tells)
    (plain : ∀ {stage t}, domain.fits stage t → Classifier.shapeKind t ≠ .function) (ceiling : Int)
    (levels : Nat) : domain.Explains cache (resolveTerm ceiling levels) := by
  induction levels with
  | zero => exact fun _ _ => .throw lawful (.inl rfl)
  | succ levels ih =>
      intro stage flight t env holds admits
      refine (lawful.refines (levels + 1) holds admits).failing ?_
      rw [resolveTerm_succ]
      unfold Resolver.resolveNode
      rw [tells.classify]
      exact node_throws lawful trusts tells plain ih _ holds admits

/-- A result is refused for the references that are left in it. -/
theorem checkResult_refuses {resolver : Resolver Term} (tells : resolver.Tells)
    (env : Environment Term) (result : Term) (world : World) :
    After (resolver.checkResult env result) world (fun _ _ => True)
      fun failure _ => ∃ names, Reported env (.unresolved names) failure := by
  unfold Resolver.checkResult
  split
  · refine after_bind.2 (after_ofResult.2 ⟨fun _ _ => ?_, fun failure refused => ?_⟩)
    · generalize result.referenceNames resolver.classifier resolver.config.defaultsKey = names
      cases names with
      | nil => exact trivial
      | cons name others =>
          exact (after_report env (.unresolved (name :: others)) world).mono (fun _ _ => False.elim)
            fun _ _ reported => ⟨_, reported⟩
    · rw [tells.check] at refused
      cases refused
  · trivial

variable (domain) in
/-- Why a resolution fails: a term has no value, or its value is refused. -/
inductive Explained (env : Environment Term) (t : Term) : Failure → Prop where
  | due {failure : Failure} (due : domain.meaning.resolver.DueTo (domain.Stuck env t) failure)
      (noValue : failure.isLimit = false → ¬ domain.HasValue env t) : Explained env t failure
  | refused {failure : Failure} {value : Term} {names : List String}
      (valued : domain.Valued env t value)
      (refuses : ¬ domain.meaning.resolver.AcceptsResult value)
      (reported : Reported env (.unresolved names) failure) : Explained env t failure

/-- What a resolution with a new table returns, or why it fails. -/
theorem Lawful.resolve_explained (lawful : domain.Lawful) (trusts : ∀ events, domain.trusts events)
    (tells : domain.meaning.resolver.Tells)
    (plain : ∀ {stage t}, domain.fits stage t → Classifier.shapeKind t ≠ .function)
    {given : Option CacheId} {world : World} (new : ∀ id, (given <|> world.active) = some id →
      id < world.caches.length ∧ world.cache id = .empty)
    (reached : domain.reached stage world.nextStamp) (holds : domain.Holds stage t)
    (admits : domain.admits stage env) :
    After (domain.meaning.resolver.resolve t env given stack) world
      (fun value _ => (∃ stage, domain.Holds stage value) ∧ domain.Valued env t value ∧
        domain.meaning.resolver.AcceptsResult value)
      fun failure _ => domain.Explained env t failure := by
  have resolves := lawful.resolveLeniently stack.ceiling stack.levels new reached holds admits
  have explained := Computes.fromStart new reached fun _ => Computes.inTable lawful
    (fun _ => .inl) (lawful.explains trusts tells plain stack.ceiling stack.levels holds admits)
  refine after_bind.2 ((resolves.and explained).mono ?_ ?_)
  · rintro value world' ⟨⟨valued, right⟩, _⟩
    refine after_bind.2 (((Resolver.after_checkResult _ env value world').and
      (checkResult_refuses tells env value world')).mono ?_ ?_)
    · rintro _ _ ⟨⟨_, accepts⟩, _⟩
      exact ⟨valued, right (trusts _), accepts⟩
    · rintro failure _ ⟨⟨_, refuses⟩, names, reported⟩
      exact .refused (right (trusts _)) refuses reported
  · rintro failure world' ⟨wrong, due⟩
    refine .due (due (trusts _)) ?_
    rintro unlimited ⟨value, depth, found⟩
    have limited := wrong (trusts _) depth value found fun entry member =>
      absurd member List.not_mem_nil
    rw [unlimited] at limited
    cases limited

end Domain

end ScopedTemplate
