import ScopedTemplate.Proofs.Evaluation.Fault
import ScopedTemplate.Proofs.Lockstep.Alike
import ScopedTemplate.Proofs.Prefix.Marked

/-!
# A naming convention names references

A resolver with a prefix of references gives data without functions what a resolver without one gives
it when it is marked, up to which text is a reference.
-/

namespace ScopedTemplate

variable {stack : Stack}

open Run

/-! ## Equal values -/

namespace Entries

/-- A name finds the value that stands under it. -/
theorem Named.find?_of_mem {entries : Entries} (named : entries.Named) {key value : Term}
    (member : (key, value) ∈ entries) : find? entries key = some value := by
  induction entries with
  | nil => cases member
  | cons entry rest ih =>
      obtain ⟨apart, _⟩ := List.nodup_cons.1 named.nodup
      rw [find?_cons]
      rcases List.mem_cons.1 member with rfl | later
      · obtain ⟨s, rfl⟩ := named.names key List.mem_cons_self
        rw [Term.sameKey_text, beq_self_eq_true, if_pos rfl]
      · have inside : key ∈ keys rest := List.mem_map.2 ⟨_, later, rfl⟩
        have differs : ¬ entry.1.sameKey key = true := by
          intro same
          have equal := discernible_names.same entry.1 key (named.names _ List.mem_cons_self)
            (named.names _ (List.mem_cons_of_mem _ inside)) same
          rw [equal] at apart
          exact apart inside
        rw [if_neg differs]
        exact ih (named.sublist (List.sublist_cons_self _ _)) later

end Entries

namespace Term

variable {labels : List Term} {start : String} {t u : Term}

theorem equals_of_sameKey (same : t.sameKey u = true) : t.equals u = true := by
  unfold equals
  rw [same, Bool.true_or]

theorem equalItems_of_forall {items items' : List Term} {change change' : Term → Term}
    (each : ∀ item ∈ items, ∀ {item'}, change' item' = change item → item.equals item' = true)
    (same : items'.map change' = items.map change) : equalItems items items' = true := by
  induction items generalizing items' with
  | nil =>
      rw [List.map_eq_nil_iff.1 same]
      rfl
  | cons item rest ih =>
      obtain ⟨first, others⟩ := List.forall_mem_cons.1 each
      obtain ⟨item', rest', rfl, here, later⟩ := List.map_eq_cons_iff.1 same
      rw [equalItems, first here, ih others later]
      rfl

theorem equalEntries_iff {entries others : Entries} : equalEntries entries others = true ↔
    ∀ entry ∈ entries, (Entries.find? others entry.1).any (equals entry.2) = true := by
  induction entries with
  | nil => simp [equalEntries]
  | cons entry rest ih => simp [equalEntries, ih]

/-! ### Shapes of outlines -/

variable {sorts : Bool} {kind : ListKind}

theorem list_of_outline {items : List Term} (same : u.outline sorts = .list kind none items) :
    ∃ stamp' items', u = .list kind stamp' items' ∧ items'.map (outline sorts) = items := by
  cases u with
  | list kind' stamp' items' =>
      rw [outline_list] at same
      cases same
      exact ⟨stamp', items', rfl, rfl⟩
  | tuple _ _ | map _ _ _ => simp at same
  | _ => cases same

theorem tuple_of_outline {items : List Term} (same : u.outline sorts = .tuple none items) :
    ∃ stamp' items', u = .tuple stamp' items' ∧ items'.map (outline sorts) = items := by
  cases u with
  | tuple stamp' items' =>
      rw [outline_tuple] at same
      cases same
      exact ⟨stamp', items', rfl, rfl⟩
  | list _ _ _ | map _ _ _ => simp at same
  | _ => cases same

theorem map_of_outline {kind : MapKind} {entries : Entries}
    (same : u.outline sorts = .map kind none entries) : ∃ stamp' entries',
      u = .map kind stamp' entries' ∧
        Entries.mapValues (outline sorts) (Entries.arrange sorts entries') = entries := by
  cases u with
  | map kind' stamp' entries' =>
      rw [outline_map] at same
      cases same
      exact ⟨stamp', entries', rfl, rfl⟩
  | list _ _ _ | tuple _ _ => simp at same
  | _ => cases same

/-- Atoms are their outlines, but for what is no number. -/
theorem eq_of_outline (same : u.outline sorts = t) (atom : t.isAtom = true)
    (number : ∀ stamp, t ≠ .nan stamp) : u = t := by
  cases u with
  | list _ _ _ | tuple _ _ | map _ _ _ | set _ _ | point _ _ =>
      rw [← same] at atom
      cases atom
  | nan _ => exact absurd same.symm (number 0)
  | _ => exact same

/-- Marked data equals what it was before, however its mappings are ordered. -/
theorem IsData.equals_of_marked (data : t.IsData labels)
    (marks : u.outline true = (t.outline true).marked start) : t.equals u = true := by
  induction data generalizing u with
  | @intro t here inner ih =>
      cases t with
      | list kind stamp items =>
          rw [outline_list, marked_list, List.map_map] at marks
          obtain ⟨stamp', items', rfl, same⟩ := list_of_outline marks
          unfold equals
          exact Bool.or_eq_true_iff.2 (.inr (equalItems_of_forall ih same))
      | tuple stamp items =>
          rw [outline_tuple, marked_tuple, List.map_map] at marks
          obtain ⟨stamp', items', rfl, same⟩ := tuple_of_outline marks
          unfold equals
          exact Bool.or_eq_true_iff.2 (.inr (equalItems_of_forall ih same))
      | map kind stamp entries =>
          rw [outline_map, marked_map, Entries.mapValues_mapValues] at marks
          obtain ⟨stamp', entries', rfl, same⟩ := map_of_outline marks
          have lengths : entries.length = entries'.length := by
            have lengths := congrArg List.length same
            simpa [Entries.mapValues, eq_comm] using lengths
          have values : equalEntries entries entries' = true := by
            refine equalEntries_iff.2 fun entry member => ?_
            have found := congrArg (Entries.find? · entry.1) same
            simp only [Entries.find?_mapValues, Entries.find?_arrange,
              here.2.1.find?_of_mem member, Option.map_some] at found
            obtain ⟨value', found', marks⟩ := Option.map_eq_some_iff.1 found
            rw [found', Option.any_some]
            exact ih _ (List.mem_map_of_mem member) marks
          unfold equals
          refine Bool.or_eq_true_iff.2 (.inr ?_)
          dsimp only
          rw [lengths, beq_self_eq_true, values, Bool.and_true]
      | text kind s =>
          obtain ⟨kind', same⟩ := marked_text start kind s
          rw [outline_text, same] at marks
          rw [eq_of_outline marks rfl (by rintro _ ⟨⟩)]
          exact equals_of_sameKey (by rw [sameKey_text, beq_self_eq_true])
      | null | bool _ | int _ | removed =>
          rw [eq_of_outline marks rfl (by rintro _ ⟨⟩)]
          exact equals_of_sameKey (sameKey_iff.2 ⟨_, key?.eq_def _, key?.eq_def _⟩)
      | function _ _ _ _ _ => exact here.1.elim
      | _ => exact here.elim

end Term

/-! ## Marked inputs -/

/-- But for their identities, a term is another one, marked. -/
def Term.Marks (start : String) (t t' : Term) : Prop :=
  t'.outline false = (t.outline false).marked start

/-- But for their identities, names are bound to what they are bound to in another, marked. -/
def Environment.Marks (start : String) (env env' : Environment Term) : Prop :=
  env'.mapValues (Term.outline false) = env.mapValues fun t => (t.outline false).marked start

/-- Data to a resolver with a prefix of references or without one. -/
abbrev Domain.naming (config : Config) (pinned : String → Bool) (given : Option String) : Domain :=
  .data (.naming config pinned given)

section

variable {config : Config} {pinned : String → Bool} {start : String} {t t' value value' : Term}
  {env env' place place' : Environment Term} {sorts : Bool}

theorem Term.Marks.outline (marks : t.Marks start t') :
    t'.outline sorts = (t.outline sorts).marked start := by
  rw [← Term.outline_outline t', marks, Term.outline_marked, Term.outline_outline]

namespace Environment

theorem pinned_mapValues (change : Term → Term) (env : Environment Term) :
    (env.mapValues change).pinned = env.pinned := by
  funext name
  unfold Environment.pinned mapValues Entries.has
  rw [Entries.find?_mapValues, Option.isSome_map]

theorem Marks.pinned_eq (marks : env.Marks start env') : env'.pinned = env.pinned := by
  have same := congrArg Environment.pinned marks
  rw [pinned_mapValues, pinned_mapValues] at same
  exact same

theorem Marks.bindings (marks : env.Marks start env') :
    env'.bindings sorts = (env.bindings sorts).marked start := by
  funext name
  have found := congrArg (lookup? · (.ref name)) marks
  simp only [lookup?_mapValues] at found
  unfold Environment.bindings Bindings.marked
  dsimp only
  cases looked : env.lookup? (.ref name) with
  | none =>
      rw [looked, Option.map_none, Option.map_eq_none_iff] at found
      rw [found]
      rfl
  | some binding =>
      rw [looked, Option.map_some, Option.map_eq_some_iff] at found
      obtain ⟨binding', looked', marks⟩ := found
      rw [looked']
      exact congrArg some (Term.Marks.outline marks)

/-- Marked bindings can be written as well as they could before. -/
theorem Marks.areWritable (marks : env.Marks start env') :
    Term.areWritableEntries env.flatten = Term.areWritableEntries env'.flatten := by
  have flat := congrArg (fun env => Term.areWritableEntries env.flatten) marks
  simp only [flatten_mapValues] at flat
  rw [Term.areWritableEntries_mapValues fun value _ => value.isWritable_outline,
    Term.areWritableEntries_mapValues fun value _ =>
      (Term.isWritable_marked _).trans value.isWritable_outline] at flat
  exact flat.symm

end Environment

theorem evaluate_marks (proper : start ≠ "") (envs : env.Marks start env') (terms : t.Marks start t')
    (depth : Nat) : (Meaning.naming config pinned none).evaluate depth (env'.bindings true)
        (t'.outline true) =
      ((Meaning.naming config pinned (some start)).evaluate depth (env.bindings true)
        (t.outline true)).map (Term.marked start) := by
  rw [envs.bindings, terms.outline, Meaning.evaluate_marked proper]

namespace Domain

/-- Marked data has a value without a prefix exactly if it had one with the prefix. -/
theorem hasValue_marks (proper : start ≠ "") (envs : env.Marks start env')
    (terms : t.Marks start t') : (naming config pinned none).HasValue env' t' ↔
      (naming config pinned (some start)).HasValue env t := by
  constructor
  · rintro ⟨_, depth, found⟩
    obtain ⟨value, found, _⟩ :=
      Option.map_eq_some_iff.1 ((evaluate_marks proper envs terms depth).symm.trans found)
    exact ⟨value, depth, found⟩
  · rintro ⟨value, depth, found⟩
    exact ⟨_, depth, (evaluate_marks proper envs terms depth).trans (congrArg _ found)⟩

/-- The value is marked, too. -/
theorem outline_of_valued (proper : start ≠ "") (envs : env.Marks start env')
    (terms : t.Marks start t') (valued : (naming config pinned (some start)).Valued env t value)
    (valued' : (naming config pinned none).Valued env' t' value') :
    value'.outline true = (value.outline true).marked start := by
  obtain ⟨depth, found⟩ := valued
  refine valued'.unique ⟨depth, (evaluate_marks proper envs terms depth).trans ?_⟩
  exact congrArg (Option.map (Term.marked start)) found

theorem renders_naming (proper : start ≠ "") :
    (naming config pinned (some start)).meaning.resolver.Renders (Resolver.naming config none)
      fun t => (t.outline false).marked start :=
  (Resolver.renders_outline _).trans (Resolver.renders_marked proper)

/-- Marked data is stuck where it was stuck before. -/
theorem stuck_marks (proper : start ≠ "") (envs : env.Marks start env') (terms : t.Marks start t')
    (stuck : (naming config pinned (some start)).Stuck env t place) :
    ∃ place', (naming config pinned none).Stuck env' t' place' ∧ place.Marks start place' := by
  obtain ⟨place', stuck', places⟩ := stuck.rendered (renders_naming proper)
    (Resolver.renders_outline _) (fun envs terms => (hasValue_marks proper envs.symm terms.symm).2)
    envs.symm terms.symm
  exact ⟨place', stuck', places.symm⟩

theorem stuck_of_marks (proper : start ≠ "") (envs : env.Marks start env')
    (terms : t.Marks start t') (stuck' : (naming config pinned none).Stuck env' t' place') :
    ∃ place, (naming config pinned (some start)).Stuck env t place ∧ place.Marks start place' :=
  stuck'.rendered (Resolver.renders_outline _) (renders_naming proper)
    (fun envs terms => (hasValue_marks proper envs terms).1) envs terms

/-- Values of marked data are accepted as they were before. -/
theorem acceptsResult_of_valued (proper : start ≠ "") (envs : env.Marks start env')
    (terms : t.Marks start t') (valued : (naming config pinned (some start)).Valued env t value)
    (valued' : (naming config pinned none).Valued env' t' value') :
    (Resolver.naming config none).AcceptsResult value' ↔
      (Resolver.naming config (some start)).AcceptsResult value :=
  Resolver.acceptsResult_marked proper (outline_of_valued proper envs terms valued valued')

end Domain

end

/-! ## Failures -/

namespace Domain

variable {config : Config} {pinned : String → Bool} {start : String} {t t' : Term}
  {env env' : Environment Term} {failure failure' : Failure}

/-- Resolutions of data and of the marked data fail for matching reasons. -/
theorem Explained.agree (proper : start ≠ "") (envs : env.Marks start env')
    (terms : t.Marks start t') {stage' : (naming config pinned none).Stage}
    (holds' : (naming config pinned none).Holds stage' t')
    (admits' : (naming config pinned none).admits stage' env')
    (explained : (naming config pinned (some start)).Explained env t failure)
    (explained' : (naming config pinned none).Explained env' t' failure')
    (unlimited : failure.isLimit = false) (unlimited' : failure'.isLimit = false) :
    failure.name = failure'.name ∨ ¬ (Resolver.naming config (some start)).NestsIn env t ∧
      (Resolver.naming config (some start)).Diverge failure failure' := by
  have lawful' : (naming config pinned none).Lawful := lawful_data rfl
  cases explained with
  | due due noValue =>
      cases explained' with
      | due due' noValue' =>
          rcases due with limit | cycle | ⟨place, stuck, misnested⟩
          · rw [limit] at unlimited
            cases unlimited
          · rcases due' with limit | cycle' | ⟨place', stuck', misnested'⟩
            · rw [limit] at unlimited'
              cases unlimited'
            · obtain ⟨⟨_, _, rfl⟩, ⟨_, _, rfl⟩⟩ := And.intro cycle cycle'
              exact .inl rfl
            · obtain ⟨place, stuck, _⟩ := stuck_of_marks proper envs terms stuck'
              exact .inr ⟨stuck.not_nestsIn, .inl ⟨cycle, place', misnested'⟩⟩
          · rcases due' with limit | cycle' | ⟨place', stuck', misnested'⟩
            · rw [limit] at unlimited'
              cases unlimited'
            · exact .inr ⟨stuck.not_nestsIn, .inr ⟨⟨place, misnested⟩, cycle'⟩⟩
            · obtain ⟨other, otherStuck, places⟩ := stuck_marks proper envs terms stuck
              obtain rfl := lawful'.stuck_unique holds' admits' stuck' otherStuck
              obtain ⟨reason, reported⟩ := misnested
              obtain ⟨reason', reported'⟩ := misnested'
              exact .inl (reported.name_eq reported' (fun _ _ => rfl) places.areWritable)
      | refused valued' _ _ =>
          exact absurd ((hasValue_marks proper envs terms).1 ⟨_, valued'⟩) (noValue unlimited)
  | refused valued refuses reported =>
      cases explained' with
      | due _ noValue' =>
          exact absurd ((hasValue_marks proper envs terms).2 ⟨_, valued⟩) (noValue' unlimited')
      | refused _ _ reported' =>
          exact .inl (reported.name_eq reported' (fun _ _ => rfl) envs.areWritable)

end Domain

/-! ## Whole resolutions -/

namespace Resolver

variable {config : Config} {start : String} {template template' : Term}
  {env env' : Environment Term} {labels labels' : List Term} {given given' : Option CacheId}
  {world world' : World}

variable (config) in
/-- What a resolution of data gives, with a prefix of references or without one. -/
theorem resolve_naming {pinned : String → Bool} (stack : Stack) (named : Option String)
    (labelled : labels.length = world.nextStamp)
    (new : ∀ id, (given <|> world.active) = some id →
      id < world.caches.length ∧ world.cache id = .empty)
    (data : template.IsData labels) (bound : ∀ layer ∈ env.layers, Entries.BindData labels layer)
    (pins : env.pinned = pinned) :
    After ((naming config named).resolve template env given stack) world
      (fun value _ => (∃ labels : List Term, value.IsData labels) ∧
        (Domain.naming config pinned named).Valued env template value ∧
        (naming config named).AcceptsResult value)
      fun failure _ => (Domain.naming config pinned named).Explained env template failure := by
  have lawful : (Domain.naming config pinned named).Lawful := Domain.lawful_data rfl
  have noFunction : ∀ {stage t}, (Domain.naming config pinned named).fits stage t →
      Classifier.shapeKind t ≠ .function :=
    fun fits isFunction => fits.1.known isFunction
  refine (lawful.resolve_explained (fun _ => trivial) tells_naming noFunction new labelled
    (Domain.holds_data data) (Domain.admits_data bound pins)).mono ?_ fun _ _ explained => explained
  rintro value _ ⟨⟨stage, holds⟩, valued, accepts⟩
  exact ⟨⟨stage, holds.mono fun _ fits => fits.1⟩, valued, accepts⟩

/--
Text that a prefix makes references behaves like references: where neither run meets a limit, data
has with the prefix the values that it has without one when it is marked, and it fails with the same
class of error unless names depend on each other in a circle and nested defaults are no mapping.
-/
theorem resolve_marked (proper : start ≠ "")
    (labelled : labels.length = world.nextStamp) (labelled' : labels'.length = world'.nextStamp)
    (new : ∀ id, (given <|> world.active) = some id →
      id < world.caches.length ∧ world.cache id = .empty)
    (new' : ∀ id, (given' <|> world'.active) = some id →
      id < world'.caches.length ∧ world'.cache id = .empty)
    (data : template.IsData labels) (data' : template'.IsData labels')
    (bound : ∀ layer ∈ env.layers, Entries.BindData labels layer)
    (bound' : ∀ layer ∈ env'.layers, Entries.BindData labels' layer)
    (terms : template.Marks start template') (envs : env.Marks start env')
    (unlimited : ∀ failure done, (naming config (some start)).resolve template env given stack world =
      .error failure done → failure.isLimit = false)
    (unlimited' : ∀ failure done, (naming config none).resolve template' env' given' stack world' =
      .error failure done → failure.isLimit = false) :
    (∃ value done value' done',
      (naming config (some start)).resolve template env given stack world = .ok value done ∧
      (naming config none).resolve template' env' given' stack world' = .ok value' done' ∧
      value.equals value' = true ∧ value'.outline true = (value.outline true).marked start) ∨
    ∃ failure done failure' done',
      (naming config (some start)).resolve template env given stack world = .error failure done ∧
      (naming config none).resolve template' env' given' stack world' = .error failure' done' ∧
      (failure.name = failure'.name ∨ ¬ (naming config (some start)).NestsIn env template ∧
        (naming config (some start)).Diverge failure failure') := by
  have ends := resolve_naming config stack (some start) labelled new data bound rfl
  have ends' := resolve_naming config stack none labelled' new' data' bound' envs.pinned_eq
  cases run : (naming config (some start)).resolve template env given stack world with
  | ok value done =>
      obtain ⟨⟨labels, isData⟩, valued, accepts⟩ := ends.of_ok run
      cases run' : (naming config none).resolve template' env' given' stack world' with
      | ok value' done' =>
          obtain ⟨_, valued', _⟩ := ends'.of_ok run'
          have marks := Domain.outline_of_valued proper envs terms valued valued'
          exact .inl ⟨value, done, value', done', rfl, rfl, isData.equals_of_marked marks, marks⟩
      | error failure' done' =>
          exfalso
          cases ends'.of_error run' with
          | due _ noValue' =>
              exact noValue' (unlimited' _ _ run')
                ((Domain.hasValue_marks proper envs terms).2 ⟨_, valued⟩)
          | refused valued' refuses' _ =>
              exact refuses'
                ((Domain.acceptsResult_of_valued proper envs terms valued valued').2 accepts)
  | error failure done =>
      have explained := ends.of_error run
      cases run' : (naming config none).resolve template' env' given' stack world' with
      | ok value' done' =>
          exfalso
          obtain ⟨_, valued', accepts'⟩ := ends'.of_ok run'
          cases explained with
          | due _ noValue =>
              exact noValue (unlimited _ _ run)
                ((Domain.hasValue_marks proper envs terms).1 ⟨_, valued'⟩)
          | refused valued refuses _ =>
              exact refuses
                ((Domain.acceptsResult_of_valued proper envs terms valued valued').1 accepts')
      | error failure' done' =>
          refine .inr ⟨failure, done, failure', done', rfl, rfl, ?_⟩
          exact explained.agree proper envs terms (Domain.holds_data data')
            (Domain.admits_data bound' envs.pinned_eq) (ends'.of_error run') (unlimited _ _ run)
            (unlimited' _ _ run')

/-- Text under a prefix: in a scope of defaults, bound, and left. -/
def prefixed (name : String → Term) : Term := .map .plain none [
  (.str "::defaults", .map .plain none [(.str "$w", name "$x")]),
  (.str "a", name "$w"), (.str "b", .list .plain none [name "$y", .str "text"])]

def prefixing (name : String → Term) : Environment Term :=
  ⟨[[(.str "$x", .map .plain none [(.str "n", name "$z")]), (.str "$z", .str "end")]], []⟩

theorem prefixed_isData {name : String → Term} (isData : ∀ s, (name s).IsData []) :
    (prefixed name).IsData [] := by
  have text : Term.IsData [] (.str "text") := Term.everywhere_of_inner rfl nofun
  have scope : Entries.BindData [] [(.str "$w", name "$x")] := by
    refine Entries.bindData_of_names ["$w"] (by decide) rfl ?_
    simp only [List.forall_mem_cons]
    exact ⟨isData _, nofun⟩
  have items : Term.IsData [] (.list .plain none [name "$y", .str "text"]) := by
    refine Term.everywhere_list.2 ⟨⟨rfl, nofun⟩, ?_⟩
    simp only [List.forall_mem_cons]
    exact ⟨isData _, text, nofun⟩
  refine (Entries.bindData_of_names ["::defaults", "a", "b"] (by decide) rfl ?_).isData
  simp only [List.forall_mem_cons]
  exact ⟨scope.isData, isData _, items, nofun⟩

theorem prefixing_bindData {name : String → Term} (isData : ∀ s, (name s).IsData []) :
    ∀ layer ∈ (prefixing name).layers, Entries.BindData [] layer := by
  have text : Term.IsData [] (.str "end") := Term.everywhere_of_inner rfl nofun
  have overrides : Entries.BindData [] [] := Entries.bindData_of_names [] (by decide) rfl nofun
  have binding : Entries.BindData [] [(.str "n", name "$z")] := by
    refine Entries.bindData_of_names ["n"] (by decide) rfl ?_
    simp only [List.forall_mem_cons]
    exact ⟨isData _, nofun⟩
  have scope : Entries.BindData []
      [(.str "$x", .map .plain none [(.str "n", name "$z")]), (.str "$z", .str "end")] := by
    refine Entries.bindData_of_names ["$x", "$z"] (by decide) rfl ?_
    simp only [List.forall_mem_cons]
    exact ⟨binding.isData, text, nofun⟩
  exact List.forall_mem_cons.2 ⟨overrides, List.forall_mem_singleton.2 scope⟩

/-- Names are found by way of other names, and one is left. -/
theorem prefixed_marked : ∃ value done value' done',
    (naming .standard (some "$")).resolve (prefixed .str) (prefixing .str) none .usual .empty =
      .ok value done ∧
    (naming .standard none).resolve (prefixed .ref) (prefixing .ref) none .usual .empty =
      .ok value' done' ∧
    value.equals value' = true ∧ value'.outline true = (value.outline true).marked "$" := by
  have new := World.new_of_idle (show World.empty.active = none from rfl)
  have str : ∀ s, Term.IsData [] (.str s) := fun _ => Term.everywhere_of_inner rfl nofun
  have ref : ∀ s, Term.IsData [] (.ref s) := fun _ => Term.everywhere_of_inner rfl nofun
  obtain ⟨value, done, run⟩ := ok_of_succeeds (show succeeds ((naming .standard (some "$")).resolve
    (prefixed .str) (prefixing .str) none .usual) .empty = true by decide +kernel)
  obtain ⟨value', done', run'⟩ := ok_of_succeeds (show succeeds ((naming .standard none).resolve
    (prefixed .ref) (prefixing .ref) none .usual) .empty = true by decide +kernel)
  rcases resolve_marked (show "$" ≠ "" by decide) rfl rfl new new (prefixed_isData str)
    (prefixed_isData ref) (prefixing_bindData str) (prefixing_bindData ref) rfl rfl (by rw [run]; nofun) (by rw [run']; nofun) with
      agree | ⟨_, _, _, _, failed, _⟩
  · exact agree
  · rw [run] at failed
    cases failed

/-- The class of the error that a resolution ends with, unless it is about a limit. -/
def errorClass? : EStateM.Result Failure World Term → Option String
  | .ok _ _ => none
  | .error failure _ => if failure.isLimit then none else some failure.name

def misnested : Term := .map .plain none [(.str "::defaults", .str "w")]

/--
A name that depends on itself, by way of a scope that binds it to the same entries in another order
and `Z` to the inner one of two bindings.
-/
def crossing (outer inner : Term) : Environment Term := ⟨[[
  (.str "Y", .map .plain none [(.str "b", .ref "X"), (.str "c", misnested)]),
  (.str "X", .map .plain none [
    (.str "::defaults", .map .plain none [
      (.str "Y", .map .plain none [(.str "c", misnested), (.str "b", .ref "X")]), (.str "Z", inner)]),
    (.str "v", .ref "Y")]),
  (.str "Z", outer)]], []⟩

/--
Text and a reference have two fingerprints, but one when the text is marked: then the inner scope is
taken for the outer one, and the cycle is met before the defaults.
-/
theorem crossing_differs : (Term.ref "Y").Marks "$" (.ref "Y") ∧
    (crossing (.str "$q") (.ref "$q")).Marks "$" (crossing (.ref "$q") (.ref "$q")) ∧
    errorClass? ((naming .standard (some "$")).resolve (.ref "Y")
      (crossing (.str "$q") (.ref "$q")) none .usual .empty) = some "ResolutionError" ∧
    errorClass? ((naming .standard none).resolve (.ref "Y")
      (crossing (.ref "$q") (.ref "$q")) none .usual .empty) = some "CyclicDependencyError" := by
  refine ⟨rfl, rfl, ?_, ?_⟩
  · decide +kernel
  · decide +kernel

def lengthy (stamp : Stamp) : Term :=
  .list .plain (some stamp) (List.replicate (largeCollection + 1) .null)

/-- It is the other way round if a list that both scopes share is copied where it is marked. -/
example : errorClass? ((naming .standard (some "$")).resolve (.ref "Y")
      (crossing (lengthy 0) (lengthy 0)) none .usual { World.empty with nextStamp := 1 }) =
        some "CyclicDependencyError" ∧
    errorClass? ((naming .standard none).resolve (.ref "Y")
      (crossing (lengthy 0) (lengthy 1)) none .usual { World.empty with nextStamp := 2 }) =
        some "ResolutionError" := by
  decide +kernel

end Resolver

end ScopedTemplate
