import ScopedTemplate.Proofs.Evaluation.Reduction
import ScopedTemplate.Proofs.Twin.Runs

/-!
# Nodes side by side

A node is reduced alike in two resolutions that look up the same names alike, call the same functions alike
and resolve what is below alike.  Scopes of defaults are entered in both resolutions.
-/

namespace ScopedTemplate

open Run

namespace Twin

/-- Terms without scopes that are the same but for identity go on side by side. -/
theorem splits_of_confined {t : Twin} {env env' : Environment Term} {called : Term → Prop} {u u' : Term}
    (confined : t.resolver.Confined (t.names env env') called u) (same : u.Resembles u')
    (into : ∀ {v v'}, v.Resembles v' → t.resolver.Confined (t.names env env') called v →
      t.terms env env' v v') : t.Splits env env' u u' := by
  have whole := into same confined
  have items : ∀ {items items' : List Term}, List.Forall₂ Term.Resembles items items' →
      (∀ item ∈ items, t.resolver.Confined (t.names env env') called item) →
        List.Forall₂ (t.terms env env') items items' := by
    intro items items' similar each
    refine ((List.forall₂_and_left (p := t.resolver.Confined (t.names env env') called) _ _).2
      ⟨each, similar⟩).imp ?_
    exact fun _ _ found => into found.2 found.1
  cases confined with
  | data looked => exact .data looked
  | reference looked among =>
      obtain rfl := same.text
      exact .reference looked among
  | function looked among _ =>
      obtain rfl := same.function
      exact .function looked among whole
  | callable looked _ =>
      obtain ⟨_, _, _, _, _, rfl⟩ := Classifier.callable_of_kind looked
      obtain rfl := same.callable
      exact .callable looked whole
  | map looked noDefaults values =>
      obtain ⟨stamp', entries', rfl, fields⟩ := same.map
      refine .map looked noDefaults (((List.forall₂_and_left
        (p := fun entry : Term × Term => t.resolver.Confined (t.names env env') called entry.2) _ _).2
          ⟨values, fields⟩).imp ?_)
      exact fun _ _ found => ⟨found.2.1, into found.2.2 found.1⟩
  | list looked each =>
      obtain ⟨stamp', items', rfl, similar⟩ := same.list
      exact .list looked (items similar each)
  | tuple looked each =>
      obtain ⟨stamp', items', rfl, similar⟩ := same.tuple
      exact .tuple looked (items similar each)

variable (t : Twin)

/-- What two resolutions do below a node goes side by side. -/
structure Below (resolution resolution' : Resolution) : Prop where
  lookup : ∀ {env env'} kind s, t.envs env env' → t.names env env' s →
    t.Runs t.values (lookupName resolution t.resolver env t.cache (.text kind s))
      (lookupName resolution' t.resolver' env' t.cache' (.text kind s))
  child : ∀ {env env' u u'}, t.envs env env' → t.terms env env' u u' →
    t.Runs t.values (resolution t.resolver u env t.cache)
      (resolution' t.resolver' u' env' t.cache')
  function : ∀ {env env' stamp name deps doc callee args args'}, t.envs env env' →
    t.terms env env' (.function stamp name deps doc callee) (.function stamp name deps doc callee) →
    t.resolver.classifier.kind (.function stamp name deps doc callee) = .function →
    List.Forall₂ t.values args args' →
      t.Runs (t.terms env env') (invoke resolution callee (.function stamp name deps doc callee) args)
        (invoke resolution' callee (.function stamp name deps doc callee) args')
  callable : ∀ {env env' c stamp stamp'}, t.envs env env' → t.terms env env' c c →
    t.resolver.classifier.kind c = .callable →
      t.Runs (t.terms env env') (invoke resolution c c [.view stamp t.resolver env t.cache])
        (invoke resolution' c c [.view stamp' t.resolver' env' t.cache'])

variable {t} {resolution resolution' : Resolution} {env env' : Environment Term} {u u' : Term}

/-- Fields that are related in two ways. -/
theorem fields_and_left {P : Term → Prop} {R : Term → Term → Prop} {entries entries' : Entries}
    (each : Fields (fun value value' => P value ∧ R value value') entries entries') :
    (∀ entry ∈ entries, P entry.2) ∧ Fields R entries entries' := by
  refine (List.forall₂_and_left (p := fun entry : Term × Term => P entry.2) _ _).1 (each.imp ?_)
  exact fun _ _ same => ⟨same.2.1, same.1, same.2.2⟩

/-! ## Collected children -/

section

variable (lawful : t.Lawful)

include lawful

theorem items_resemble {items items' : List Term} (each : List.Forall₂ t.values items items') :
    List.Forall₂ Term.Resembles items items' :=
  each.imp fun _ _ => lawful.resembles

theorem fields_resemble {entries entries' : Entries} (each : Fields t.values entries entries') :
    Term.Resembles.Fields entries entries' :=
  each.imp fun _ _ same => ⟨same.1, lawful.resembles same.2⟩

/-- What is left out of a collection is left out of one that it is compared to. -/
theorem filter_items {items items' : List Term} (each : List.Forall₂ t.values items items') :
    List.Forall₂ t.values (items.filter (!t.resolver.drops ·)) (items'.filter (!t.resolver.drops ·)) :=
  List.rel_filter (fun _ _ same => by simp [(lawful.resembles same).drops]) each

theorem filter_fields {entries entries' : Entries} (each : Fields t.values entries entries') :
    Fields t.values (entries.filter (!t.resolver.drops ·.2))
      (entries'.filter (!t.resolver.drops ·.2)) :=
  List.rel_filter (fun _ _ same => by simp [(lawful.resembles same.2).drops]) each

end

/-- Collections of children that were resolved in both runs. -/
inductive Gathers (t : Twin) : Term → Term → Prop where
  | list {stamp stamp' : Option Stamp} {items items' : List Term}
      (each : List.Forall₂ t.values items items') :
      Gathers t (.list .plain stamp items) (.list .plain stamp' items')
  | tuple {stamp stamp' : Option Stamp} {items items' : List Term}
      (each : List.Forall₂ t.values items items') :
      Gathers t (.tuple stamp items) (.tuple stamp' items')
  | map {stamp stamp' : Option Stamp} {entries entries' : Entries}
      (noDefaults : Entries.has entries t.resolver.defaultsKey = false)
      (each : Fields t.values entries entries') :
      Gathers t (.map .plain stamp entries) (.map .plain stamp' entries')

section

variable (lawful : t.Lawful)

include lawful

theorem Gathers.gathered (gathers : t.Gathers u u') :
    t.resolver.Gathered u ∧ t.resolver'.Gathered u' := by
  cases gathers with
  | list => exact ⟨.list, .list⟩
  | tuple => exact ⟨.tuple, .tuple⟩
  | map noDefaults each =>
      have keys := (fields_resemble lawful each).keys
      refine ⟨.map noDefaults, lawful.akin.gathered (.map ?_)⟩
      exact (Custody.has_of_keys keys _).symm.trans noDefaults

theorem Gathers.same (gathers : t.Gathers u u') : u.Resembles u' := by
  cases gathers with
  | list each => exact lawful.resembles (lawful.list each)
  | tuple each => exact lawful.resembles (lawful.tuple each)
  | map noDefaults each => exact lawful.resembles (lawful.map noDefaults each)

/-- What is left out is left out in both runs. -/
theorem Gathers.prune (gathers : t.Gathers u u') :
    t.Runs (fun step step' => ∃ value value', step = .finish value ∧ step' = .finish value' ∧
      t.values value value') (t.resolver.prune u) (t.resolver'.prune u') := by
  unfold Resolver.prune
  rw [lawful.akin.drops]
  cases gathers with
  | list each =>
      dsimp only [Term.elements?]
      rw [lawful.akin.checkValues, Term.Resembles.checkValues (items_resemble lawful each)]
      refine (Runs.ofResult_same lawful _).bind fun _ _ _ => ?_
      unfold makeList
      simp only [bind_assoc, pure_bind]
      refine (Runs.collectionStamp lawful _ _).bind fun _ _ _ => .pure ⟨_, _, rfl, rfl, ?_⟩
      exact lawful.list (filter_items lawful each)
  | tuple each =>
      dsimp only
      rw [lawful.akin.checkValues, Term.Resembles.checkValues (items_resemble lawful each)]
      refine (Runs.ofResult_same lawful _).bind fun _ _ _ => ?_
      unfold makeTuple
      simp only [bind_assoc, pure_bind]
      refine (Runs.collectionStamp lawful _ _).bind fun _ _ _ => .pure ⟨_, _, rfl, rfl, ?_⟩
      exact lawful.tuple (filter_items lawful each)
  | map noDefaults each =>
      dsimp only
      rw [lawful.akin.checkValues,
        Term.Resembles.checkValues (fields_resemble lawful each).values]
      refine (Runs.ofResult_same lawful _).bind fun _ _ _ => ?_
      unfold makeMap
      simp only [bind_assoc, pure_bind]
      refine (Runs.collectionStamp lawful _ _).bind fun _ _ _ => .pure ⟨_, _, rfl, rfl, ?_⟩
      exact lawful.map (Entries.has_of_sublist List.filter_sublist noDefaults)
        (filter_fields lawful each)

/-! ## Limits on steps -/

variable {steps steps' : Nat} {node node' : Node}

/-- Nodes without steps left are reported in both runs. -/
theorem reduce_zero (label : node.term.label = node'.term.label) :
    t.Runs t.values (t.resolver.reduce resolution t.cache 0 node)
      (t.resolver'.reduce resolution' t.cache' 0 node') := by
  have exceeds := lawful.overrun node.term.label
  have exceeded : t.resolver'.overrun t.cache' node.term.label =
      t.resolver'.reduce resolution' t.cache' 0 node' := by
    rw [label]
    rfl
  rw [exceeded] at exceeds
  exact exceeds.mono fun _ _ => False.elim

/-- With as many steps, or with limits that may be exceeded at any time, both nodes have steps left. -/
theorem reduce_steps (label : node.term.label = node'.term.label)
    (limits : steps = steps' ∨ t.Loose)
    (goOn : ∀ less less', steps = less + 1 → steps' = less' + 1 → less = less' ∨ t.Loose →
      t.Runs t.values (t.resolver.reduce resolution t.cache (less + 1) node)
        (t.resolver'.reduce resolution' t.cache' (less' + 1) node')) :
    t.Runs t.values (t.resolver.reduce resolution t.cache steps node)
      (t.resolver'.reduce resolution' t.cache' steps' node') := by
  cases steps with
  | zero =>
      cases steps' with
      | zero => exact reduce_zero lawful label
      | succ less' =>
          rcases limits with same | loose
          · cases same
          · exact (loose.left _ _).mono fun _ _ => False.elim
  | succ less =>
      cases steps' with
      | zero =>
          rcases limits with same | loose
          · cases same
          · exact (loose.right _ _).mono fun _ _ => False.elim
      | succ less' => exact goOn less less' rfl rfl (limits.imp_left Nat.succ.inj)

/-- A step that goes on with other terms does so in both runs. -/
theorem follow_again {collected : Bool} (same : u.Resembles u')
    (goOn : ∀ kind, kind = t.resolver.classifier.kind u → t.Runs t.values
      (t.resolver.reduce resolution t.cache steps ⟨u, kind, env, collected⟩)
      (t.resolver'.reduce resolution' t.cache' steps' ⟨u', kind, env', collected⟩)) :
    t.Runs t.values (t.resolver.follow resolution t.cache steps (.again u env collected))
      (t.resolver'.follow resolution' t.cache' steps' (.again u' env' collected)) := by
  unfold Resolver.follow
  dsimp only
  rw [lawful.akin.classifier, ← same.classify]
  refine (Runs.ofResult_same lawful _).bind ?_
  rintro kind _ ⟨rfl, classified⟩
  exact goOn kind (Classifier.kind_of_classify classified)

/-- Collections of resolved children are finished side by side. -/
theorem Gathers.follow (gathers : t.Gathers u u') (limits : steps = steps' ∨ t.Loose) :
    t.Runs t.values
      (t.resolver.follow resolution t.cache steps (.again u env true))
      (t.resolver'.follow resolution' t.cache' steps' (.again u' env' true)) := by
  have same := gathers.same lawful
  refine follow_again lawful same fun kind looked => ?_
  refine reduce_steps lawful same.label limits fun less less' _ _ _ => ?_
  have selected : t.resolver.ruleFor ⟨u, kind, env, true⟩ = .removal := by
    rw [looked]
    exact (gathers.gathered lawful).1.ruleFor
  have selected' : t.resolver'.ruleFor ⟨u', kind, env', true⟩ = .removal := by
    rw [looked, same.kind, ← lawful.akin.classifier]
    exact (gathers.gathered lawful).2.ruleFor
  rw [Resolver.reduce_succ lawful.akin.rules, Resolver.reduce_succ lawful.akin.rules', selected,
    selected']
  refine (gathers.prune lawful).bind ?_
  rintro _ _ ⟨value, value', rfl, rfl, values⟩
  exact .pure values

end

/-! ## Nodes -/

namespace Below

variable (below : t.Below resolution resolution') (envs : t.envs env env')

include below envs

theorem resolveItems {items items' : List Term}
    (each : List.Forall₂ (t.terms env env') items items') :
    t.Runs (List.Forall₂ t.values)
      (t.resolver.resolveItems resolution t.cache env items)
      (t.resolver'.resolveItems resolution' t.cache' env' items') := by
  induction each with
  | nil => exact .pure .nil
  | cons first _ ih =>
      refine (below.child envs first).bind fun value value' values => ?_
      exact ih.bind fun rest rest' others => .pure (.cons values others)

theorem resolveEntries {entries entries' : Entries}
    (fields : Fields (t.terms env env') entries entries') :
    t.Runs (fun values values' => Fields t.values values values' ∧
        Entries.keys values = Entries.keys entries)
      (t.resolver.resolveEntries resolution t.cache env entries)
      (t.resolver'.resolveEntries resolution' t.cache' env' entries') := by
  induction fields with
  | nil => exact .pure ⟨.nil, rfl⟩
  | @cons entry entry' rest rest' first _ ih =>
      refine (below.child envs first.2).bind fun value value' values => ?_
      refine ih.bind fun more more' fields => .pure ⟨.cons ⟨first.1, values⟩ fields.1, ?_⟩
      exact congrArg (entry.1 :: ·) fields.2

variable (lawful : t.Lawful)

include lawful

theorem resolveDependencies (function : String) {deps : List String}
    (among : ∀ dep ∈ deps, t.names env env' dep) :
    t.Runs (Fields t.values)
      (t.resolver.resolveDependencies resolution t.cache function env deps)
      (t.resolver'.resolveDependencies resolution' t.cache' function env' deps) := by
  induction deps with
  | nil => exact .pure .nil
  | cons dep rest ih =>
      obtain ⟨first, others⟩ := List.forall_mem_cons.1 among
      refine (below.lookup .ref dep envs first).bind fun value value' values => ?_
      refine (lawful.dependency envs first values).bind fun _ _ _ => ?_
      exact (ih others).bind fun more more' fields => .pure (.cons ⟨rfl, values⟩ fields)

/-- A function is applied to related arguments in both runs. -/
theorem applyFunction {stamp : Stamp} {name : String} {deps : List String} {doc : Option String}
    {callee : Term} {kind kind' : Kind}
    (looked : t.resolver.classifier.kind (.function stamp name deps doc callee) = .function)
    (among : ∀ dep ∈ deps, t.names env env' dep)
    (terms : t.terms env env' (.function stamp name deps doc callee)
      (.function stamp name deps doc callee)) :
    t.Runs (fun step step' => ∃ result result', step = .again result env false ∧
        step' = .again result' env' false ∧ t.terms env env' result result')
      (t.resolver.applyFunction resolution t.cache
        ⟨.function stamp name deps doc callee, kind, env, false⟩)
      (t.resolver'.applyFunction resolution' t.cache'
        ⟨.function stamp name deps doc callee, kind', env', false⟩) := by
  have null : t.values .null .null := by
    refine lawful.single rfl ?_
    rcases Classifier.kind_cases t.resolver.classifier .null with
      scalar | ⟨-, _, _, text⟩ | ⟨shape, -⟩
    · exact .inl scalar
    · cases text
    · exact .inl shape
  unfold Resolver.applyFunction
  dsimp only
  refine (below.resolveDependencies envs lawful name among).bind fun values values' fields => ?_
  refine (Runs.log lawful _ _ _ _).bind fun _ _ _ => ?_
  refine (Runs.record lawful rfl rfl).bind fun _ _ _ => ?_
  have args := Resolver.arguments_related null fields deps
  refine (below.function envs terms looked args).bind fun result result' terms => ?_
  exact .pure ⟨result, result', rfl, rfl, terms⟩

/-- A callable is given a view in both runs. -/
theorem applyCallable {c : Term} {kind kind' : Kind}
    (looked : t.resolver.classifier.kind c = .callable) (terms : t.terms env env' c c) :
    t.Runs (fun step step' => ∃ result result', step = .again result env false ∧
        step' = .again result' env' false ∧ t.terms env env' result result')
      (t.resolver.applyCallable resolution t.cache ⟨c, kind, env, false⟩)
      (t.resolver'.applyCallable resolution' t.cache' ⟨c, kind', env', false⟩) := by
  obtain ⟨_, _, _, _, _, rfl⟩ := Classifier.callable_of_kind looked
  unfold Resolver.applyCallable
  dsimp only
  refine (Runs.log lawful _ _ _ _).bind fun _ _ _ => ?_
  refine (Runs.takeStamps lawful _ _).bind fun stamp stamp' _ => ?_
  refine (below.callable envs terms looked).bind fun result result' terms => ?_
  exact .pure ⟨result, result', rfl, rfl, terms⟩

/-- The entries of mappings are gathered in both runs. -/
theorem collectMap {kind : MapKind} {stamp stamp' : Option Stamp} {entries entries' : Entries}
    {kind' kind'' : Kind} (noDefaults : Entries.has entries t.resolver.defaultsKey = false)
    (fields : Fields (t.terms env env') entries entries') :
    t.Runs (fun step step' => ∃ made made', step = .again made env true ∧
        step' = .again made' env' true ∧ t.Gathers made made')
      (t.resolver.collect resolution t.cache ⟨.map kind stamp entries, kind', env, false⟩)
      (t.resolver'.collect resolution' t.cache' ⟨.map kind stamp' entries', kind'', env', false⟩) := by
  unfold Resolver.collect
  dsimp only
  refine (below.resolveEntries envs fields).bind fun values values' resolved => ?_
  unfold makeMap
  simp only [bind_assoc, pure_bind]
  refine (Runs.collectionStamp lawful _ _).bind fun _ _ _ => .pure ⟨_, _, rfl, rfl, ?_⟩
  exact .map ((Custody.has_of_keys resolved.2 _).trans noDefaults) resolved.1

/-- Mappings without defaults are resolved side by side. -/
theorem reduceMap {steps steps' : Nat} (limits : steps = steps' ∨ t.Loose) {kind : MapKind}
    {stamp stamp' : Option Stamp} {entries entries' : Entries}
    (noDefaults : Entries.has entries t.resolver.defaultsKey = false)
    (fields : Fields (t.terms env env') entries entries')
    (same : (Term.map kind stamp entries).Resembles (.map kind stamp' entries')) :
    t.Runs t.values
      (t.resolver.reduce resolution t.cache steps ⟨.map kind stamp entries, .mapping, env, false⟩)
      (t.resolver'.reduce resolution' t.cache' steps'
        ⟨.map kind stamp' entries', .mapping, env', false⟩) := by
  refine reduce_steps lawful same.label limits fun less less' _ _ fewer => ?_
  have keys : Entries.keys entries = Entries.keys entries' := by
    obtain ⟨_, _, alike, similar⟩ := same.map
    cases alike
    exact similar.keys
  have noDefaults' : Entries.has entries' t.resolver'.defaultsKey = false := by
    rw [lawful.akin.key, ← Custody.has_of_keys keys]
    exact noDefaults
  rw [Resolver.reduce_succ lawful.akin.rules, Resolver.reduce_succ lawful.akin.rules',
    Resolver.ruleFor_mapping, Resolver.ruleFor_mapping, noDefaults, noDefaults',
    if_neg Bool.false_ne_true]
  refine (below.collectMap envs lawful noDefaults fields).bind ?_
  rintro _ _ ⟨made, made', rfl, rfl, gathers⟩
  exact gathers.follow lawful fewer

omit envs in
/-- A scope is entered in both runs. -/
theorem reduceScoped {steps steps' : Nat} (limits : steps = steps' ∨ t.Loose)
    {kind scopeKind : MapKind} {stamp stamp' scopeStamp : Option Stamp}
    {entries entries' scope : Entries}
    (looked : t.resolver.classifier.kind (.map kind stamp entries) = .mapping)
    (found : Entries.find? entries t.resolver.defaultsKey = some (.map scopeKind scopeStamp scope))
    (found' : Entries.find? entries' t.resolver.defaultsKey = some (.map scopeKind scopeStamp scope))
    (envs : t.envs (env.child scope) (env'.child scope))
    (fields : Fields (t.terms (env.child scope) (env'.child scope))
      (Entries.erase entries t.resolver.defaultsKey) (Entries.erase entries' t.resolver.defaultsKey)) :
    t.Runs t.values
      (t.resolver.transform resolution t.cache ⟨.map kind stamp entries, .mapping, env, false⟩
          .nestedDefaults >>= t.resolver.follow resolution t.cache steps)
      (t.resolver'.transform resolution' t.cache' ⟨.map kind stamp' entries', .mapping, env', false⟩
          .nestedDefaults >>= t.resolver'.follow resolution' t.cache' steps') := by
  have similar : Term.Resembles.Fields (Entries.erase entries t.resolver.defaultsKey)
      (Entries.erase entries' t.resolver.defaultsKey) :=
    fields.imp fun _ _ same => ⟨same.1, lawful.similar same.2⟩
  unfold Resolver.transform Resolver.enterDefaults
  dsimp only
  rw [lawful.akin.key, found, found', Option.getD_some]
  simp only [Term.scopeSize?, Term.scopeEntries, bind_assoc, pure_bind]
  refine (Runs.log lawful _ _ _ _).bind fun _ _ _ => ?_
  unfold makeMap
  simp only [bind_assoc, pure_bind]
  refine (Runs.collectionStamp lawful _ _).bind fun rest rest' _ => ?_
  have same : (Term.map .plain rest (Entries.erase entries t.resolver.defaultsKey)).Resembles
      (.map .plain rest' (Entries.erase entries' t.resolver.defaultsKey)) := .of_fields similar
  refine follow_again lawful same fun kind' plain => ?_
  rw [Classifier.kind_plainMap looked] at plain
  subst plain
  exact below.reduceMap envs lawful limits (Domain.has_erase _ _) fields same

omit below envs in
/-- Defaults that are no mapping are reported in both runs. -/
theorem reduceMalformed {steps steps' : Nat} {kind : MapKind} {stamp stamp' : Option Stamp}
    {entries entries' : Entries} {defaults : Term}
    (found : Entries.find? entries t.resolver.defaultsKey = some defaults)
    (found' : Entries.find? entries' t.resolver.defaultsKey = some defaults)
    (noScope : defaults.scopeSize? = none)
    (reported : ∀ key reason, t.Runs (fun _ _ => False)
      (do throw (.resolution key reason (← snapshot env)) : Run Step)
      (do throw (.resolution key reason (← snapshot env')) : Run Step)) :
    t.Runs t.values
      (t.resolver.transform resolution t.cache ⟨.map kind stamp entries, .mapping, env, false⟩
          .nestedDefaults >>= t.resolver.follow resolution t.cache steps)
      (t.resolver'.transform resolution' t.cache' ⟨.map kind stamp' entries', .mapping, env', false⟩
          .nestedDefaults >>= t.resolver'.follow resolution' t.cache' steps') := by
  unfold Resolver.transform Resolver.enterDefaults
  dsimp only
  rw [lawful.akin.key, found, found', Option.getD_some, noScope, lawful.akin.defaultsKey]
  exact (reported _ _).bind fun _ _ => False.elim

/-- A node is reduced in both runs: the induction is on the steps that are left. -/
theorem reduce (steps steps' : Nat) (limits : steps = steps' ∨ t.Loose) {u u' : Term}
    (terms : t.terms env env' u u') :
    t.Runs t.values
      (t.resolver.reduce resolution t.cache steps ⟨u, t.resolver.classifier.kind u, env, false⟩)
      (t.resolver'.reduce resolution' t.cache' steps'
        ⟨u', t.resolver.classifier.kind u, env', false⟩) := by
  induction steps generalizing steps' u u' with
  | zero => exact reduce_steps lawful (lawful.similar terms).label limits fun _ _ left => by cases left
  | succ steps ih =>
      have same := lawful.similar terms
      refine reduce_steps lawful same.label limits fun less less' left _ fewer => ?_
      obtain rfl := Nat.succ.inj left
      have again : ∀ {run run' : Run Step}, t.Runs (fun step step' => ∃ result result',
          step = .again result env false ∧ step' = .again result' env' false ∧
            t.terms env env' result result') run run' →
          t.Runs t.values (run >>= t.resolver.follow resolution t.cache steps)
            (run' >>= t.resolver'.follow resolution' t.cache' less') := by
        refine fun runs => runs.bind ?_
        rintro _ _ ⟨result, result', rfl, rfl, terms⟩
        exact follow_again lawful (lawful.similar terms) fun _ looked => looked ▸ ih less' fewer terms
      cases lawful.splits envs terms with
      | map looked noDefaults fields =>
          rw [looked]
          exact below.reduceMap envs lawful (fewer.imp_left (congrArg Nat.succ)) noDefaults fields same
      | data looked =>
          rw [Resolver.reduce_succ lawful.akin.rules, Resolver.reduce_succ lawful.akin.rules',
            Resolver.ruleFor_single looked, Resolver.ruleFor_single looked]
          exact .pure (lawful.single same looked)
      | @reference kind s looked among =>
          have bound : (env.target? (.text kind s)).isSome = (env'.target? (.text kind s)).isSome :=
            lawful.bound envs among
          rw [Resolver.reduce_succ lawful.akin.rules, Resolver.reduce_succ lawful.akin.rules', looked,
            Resolver.ruleFor_ref, Resolver.ruleFor_ref, ← bound]
          split
          · simp only [Resolver.transform, bind_assoc, pure_bind]
            exact (below.lookup _ _ envs among).bind fun _ _ values => .pure values
          · simp only [Resolver.transform, bind_assoc, pure_bind]
            exact (Runs.record lawful rfl rfl).bind fun _ _ _ =>
              .pure (lawful.reference envs among looked)
      | function looked among terms =>
          rw [Resolver.reduce_succ lawful.akin.rules, Resolver.reduce_succ lawful.akin.rules', looked,
            Resolver.ruleFor_function, Resolver.ruleFor_function]
          exact again (below.applyFunction envs lawful looked among terms)
      | callable looked terms =>
          rw [Resolver.reduce_succ lawful.akin.rules, Resolver.reduce_succ lawful.akin.rules', looked,
            Resolver.ruleFor_callable, Resolver.ruleFor_callable]
          exact again (below.applyCallable envs lawful looked terms)
      | enters looked found found' inner fields =>
          have has := Entries.has_iff.2 ⟨_, found⟩
          have has' := Entries.has_iff.2 ⟨_, lawful.akin.key ▸ found'⟩
          rw [Resolver.reduce_succ lawful.akin.rules, Resolver.reduce_succ lawful.akin.rules', looked,
            Resolver.ruleFor_mapping, Resolver.ruleFor_mapping, if_pos has, if_pos has']
          exact below.reduceScoped lawful fewer looked found found' inner fields
      | malformed looked found found' noScope reported =>
          have has := Entries.has_iff.2 ⟨_, found⟩
          have has' := Entries.has_iff.2 ⟨_, lawful.akin.key ▸ found'⟩
          rw [Resolver.reduce_succ lawful.akin.rules, Resolver.reduce_succ lawful.akin.rules', looked,
            Resolver.ruleFor_mapping, Resolver.ruleFor_mapping, if_pos has, if_pos has']
          exact reduceMalformed lawful found found' noScope reported
      | list looked each =>
          rw [Resolver.reduce_succ lawful.akin.rules, Resolver.reduce_succ lawful.akin.rules', looked,
            Resolver.ruleFor_sequence, Resolver.ruleFor_sequence]
          simp only [Resolver.transform, Resolver.collect, makeList, bind_assoc, pure_bind]
          refine (below.resolveItems envs each).bind fun values values' resolved => ?_
          refine (Runs.collectionStamp lawful _ _).bind fun _ _ _ => ?_
          exact Gathers.follow lawful (.list resolved) fewer
      | tuple looked each =>
          rw [Resolver.reduce_succ lawful.akin.rules, Resolver.reduce_succ lawful.akin.rules', looked,
            Resolver.ruleFor_sequence, Resolver.ruleFor_sequence]
          simp only [Resolver.transform, Resolver.collect, makeTuple, bind_assoc, pure_bind]
          refine (below.resolveItems envs each).bind fun values values' resolved => ?_
          refine (Runs.collectionStamp lawful _ _).bind fun _ _ _ => ?_
          exact Gathers.follow lawful (.tuple resolved) fewer

/-- Terms are resolved side by side one level up. -/
theorem resolveNode {u u' : Term} (terms : t.terms env env' u u') :
    t.Runs t.values (t.resolver.resolveNode resolution t.cache u env)
      (t.resolver'.resolveNode resolution' t.cache' u' env') := by
  unfold Resolver.resolveNode
  rw [lawful.akin.classifier, ← (lawful.similar terms).classify]
  refine (Runs.ofResult_same lawful _).bind ?_
  rintro kind _ ⟨rfl, classified⟩
  have ends := below.reduce envs lawful _ _ lawful.limits terms
  rw [← Classifier.kind_of_classify classified] at ends
  exact ends

end Below

end Twin

end ScopedTemplate
