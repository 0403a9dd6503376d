import ScopedTemplate.Proofs.Removal.Paired
import ScopedTemplate.Proofs.Resolver.Idempotence
import ScopedTemplate.Proofs.Resolver.Start

/-!
# Removal is pruning

A resolver that removes empty collections gives exactly what the same resolver gives without that
after pruning, and fails exactly when it does.  Every binding is trimmed where it is looked up, and so
what is put together from bindings is trimmed when its own children are.
-/

namespace ScopedTemplate

variable {ceiling : Int} {stack : Stack}

open Run

namespace Trimming

variable {p : Trimming} {resolution : Resolution} {env : Environment Term} {t : Term}

abbrev keeping (p : Trimming) : Resolver Term := p.resolver.removing false

abbrev dropping (p : Trimming) : Resolver Term := p.resolver.removing true

theorem rules_removing (rules : p.resolver.rules = Rule.standard) (removes : Bool) :
    (p.resolver.removing removes).rules = Rule.standard := rules

theorem tells_removing (tells : p.resolver.Tells) (removes : Bool) :
    (p.resolver.removing removes).Tells := tells

abbrev Still : Term → Prop := Term.Declarative fun _ => False

def Resolves (p : Trimming) (resolution : Resolution) : Prop :=
  ∀ {t : Term} {env : Environment Term}, Still t → env.EachBinding Still →
    p.Runs p.Values (resolution p.keeping t env p.whole) (resolution p.dropping t env p.trimmed)

/-! ## What is left out -/

variable {items items' : List Term} {entries entries' : Entries}

/-- A value is left out with removal if it is left out without, or if it is hollow. -/
theorem drops_dropping {whole trimmed : Term} (values : p.Values whole trimmed) :
    p.dropping.drops trimmed =
      (p.keeping.drops whole || p.resolver.classifier.isHollow (trimmed.outline false)) := by
  rw [Term.isHollow_outline]
  unfold Resolver.drops
  rw [values.isRemoved]
  simp [Resolver.removing, Classifier.isHollow]

theorem outline_filter_items (each : List.Forall₂ p.Values items items') :
    (items'.filter (!p.dropping.drops ·)).map (Term.outline false) =
      Term.prunedItems p.resolver.classifier
        ((items.filter (!p.keeping.drops ·)).map (Term.outline false)) := by
  induction each with
  | nil => rfl
  | @cons item item' rest rest' values _ ih =>
      rw [List.filter_cons, List.filter_cons, drops_dropping values]
      cases p.keeping.drops item with
      | true => exact ih
      | false =>
          rw [Bool.false_or, Bool.not_false, if_pos rfl, List.map_cons, Term.prunedItems, ← values,
            ← ih]
          cases p.resolver.classifier.isHollow (item'.outline false) <;> rfl

abbrev Fields (p : Trimming) : Entries → Entries → Prop :=
  List.Forall₂ fun entry entry' => entry.1 = entry'.1 ∧ p.Values entry.2 entry'.2

theorem Fields.keys (each : p.Fields entries entries') : Entries.keys entries = Entries.keys entries' := by
  unfold Entries.keys
  induction each with
  | nil => rfl
  | cons first _ ih => rw [List.map_cons, List.map_cons, first.1, ih]

theorem outline_filter_entries (each : p.Fields entries entries') :
    Entries.mapValues (Term.outline false) (entries'.filter (!p.dropping.drops ·.2)) =
      Term.prunedEntries p.resolver.classifier
        (Entries.mapValues (Term.outline false) (entries.filter (!p.keeping.drops ·.2))) := by
  induction each with
  | nil => rfl
  | @cons entry entry' rest rest' first _ ih =>
      obtain ⟨same, values⟩ := first
      unfold Entries.mapValues at ih ⊢
      rw [List.filter_cons, List.filter_cons, drops_dropping values]
      cases p.keeping.drops entry.2 with
      | true => exact ih
      | false =>
          rw [Bool.false_or, Bool.not_false, if_pos rfl, List.map_cons, Term.prunedEntries, ← values,
            same, ← ih]
          cases p.resolver.classifier.isHollow (entry'.2.outline false) <;> rfl

/-! ## Collected children -/

/-- Collections of children that were resolved in both runs. -/
inductive Gathers (p : Trimming) : Term → Term → Prop where
  | list {stamp stamp' : Option Stamp} {items items' : List Term}
      (looked : p.resolver.classifier.kind (.list .plain none []) = .sequence)
      (each : List.Forall₂ p.Values items items') :
      Gathers p (.list .plain stamp items) (.list .plain stamp' items')
  | tuple {stamp stamp' : Option Stamp} {items items' : List Term}
      (looked : p.resolver.classifier.kind (.tuple none []) = .sequence)
      (each : List.Forall₂ p.Values items items') :
      Gathers p (.tuple stamp items) (.tuple stamp' items')
  | map {stamp stamp' : Option Stamp} {entries entries' : Entries}
      (looked : p.resolver.classifier.kind (.map .plain none []) = .mapping)
      (noDefaults : Entries.has entries p.resolver.defaultsKey = false)
      (each : p.Fields entries entries') :
      Gathers p (.map .plain stamp entries) (.map .plain stamp' entries')

variable {u u' : Term}

theorem Gathers.gathered (gathers : p.Gathers u u') :
    p.keeping.Gathered u ∧ p.dropping.Gathered u' := by
  cases gathers with
  | list => exact ⟨.list, .list⟩
  | tuple => exact ⟨.tuple, .tuple⟩
  | map looked noDefaults each =>
      exact ⟨.map noDefaults, .map ((Custody.has_of_keys each.keys _).symm.trans noDefaults)⟩

theorem Gathers.label (gathers : p.Gathers u u') : u.label = u'.label := by
  cases gathers <;> rfl

/-- Values of related parts are related when what is left out of them is. -/
theorem Gathers.prune (gathers : p.Gathers u u') (tells : p.resolver.Tells) :
    p.Runs (fun step step' => ∃ value value', step = .finish value ∧ step' = .finish value' ∧
      p.Values value value') (p.keeping.prune u) (p.dropping.prune u') := by
  have checked : ∀ values, p.keeping.checkValues values = .ok () ∧
      p.dropping.checkValues values = .ok () := fun values =>
    ⟨(tells_removing tells false).checkValues values, (tells_removing tells true).checkValues values⟩
  unfold Resolver.prune
  cases gathers with
  | @list stamp stamp' items items' looked each =>
      dsimp only [Term.elements?]
      rw [(checked items).1, (checked items').2]
      unfold makeList
      simp only [ofResult, bind_assoc, pure_bind]
      refine (Runs.collectionStamp _ _).bind fun _ _ _ => .pure ⟨_, _, rfl, rfl, ?_⟩
      show Term.outline false _ = _
      rw [Term.outline_list, Term.outline_list, outline_filter_items each]
      exact (Term.pruned_list (Classifier.kind_plainList looked)).symm
  | @tuple stamp stamp' items items' looked each =>
      dsimp only
      rw [(checked items).1, (checked items').2]
      unfold makeTuple
      simp only [ofResult, bind_assoc, pure_bind]
      refine (Runs.collectionStamp _ _).bind fun _ _ _ => .pure ⟨_, _, rfl, rfl, ?_⟩
      show Term.outline false _ = _
      rw [Term.outline_tuple, Term.outline_tuple, outline_filter_items each]
      refine (Term.pruned_tuple ?_).symm
      exact looked
  | @map stamp stamp' entries entries' looked noDefaults each =>
      dsimp only
      rw [(checked _).1, (checked _).2]
      unfold makeMap
      simp only [ofResult, bind_assoc, pure_bind]
      refine (Runs.collectionStamp _ _).bind fun _ _ _ => .pure ⟨_, _, rfl, rfl, ?_⟩
      show Term.outline false _ = _
      rw [Term.outline_map, Term.outline_map]
      unfold Entries.arrange
      rw [if_neg Bool.false_ne_true, if_neg Bool.false_ne_true, outline_filter_entries each]
      exact (Term.pruned_map (Classifier.kind_plainMap looked)).symm

variable {steps : Nat}

/-- A node without steps left is reported in both runs. -/
theorem reduce_zero {node node' : Node} (label : node.term.label = node'.term.label) :
    p.Runs p.Values (p.keeping.reduce resolution p.whole 0 node)
      (p.dropping.reduce resolution p.trimmed 0 node') := by
  unfold Resolver.reduce
  rw [label]
  refine Runs.chain.bind ?_
  rintro names _ rfl
  exact .fail _

/-- One rule makes the next step of a node in both runs. -/
theorem reduce_step (rules : p.resolver.rules = Rule.standard) {node : Node} {rule : Rule Term}
    (selected : p.resolver.ruleFor node = rule)
    (runs : p.Runs p.Values
      (p.keeping.transform resolution p.whole node rule >>=
        p.keeping.follow resolution p.whole steps)
      (p.dropping.transform resolution p.trimmed node rule >>=
        p.dropping.follow resolution p.trimmed steps)) :
    p.Runs p.Values (p.keeping.reduce resolution p.whole (steps + 1) node)
      (p.dropping.reduce resolution p.trimmed (steps + 1) node) := by
  have same : ∀ removes, (p.resolver.removing removes).ruleFor node = rule := fun _ => selected
  rw [Resolver.reduce_succ (rules_removing rules false),
    Resolver.reduce_succ (rules_removing rules true), same, same]
  exact runs

section Standard

variable (rules : p.resolver.rules = Rule.standard) (tells : p.resolver.Tells)

include rules tells

/-- Collections of resolved children are finished side by side. -/
theorem Gathers.follow (gathers : p.Gathers u u') :
    p.Runs p.Values (p.keeping.follow resolution p.whole steps (.again u env true))
      (p.dropping.follow resolution p.trimmed steps (.again u' env true)) := by
  unfold Resolver.follow
  dsimp only
  rw [(tells_removing tells false).classify, (tells_removing tells true).classify]
  simp only [ofResult, pure_bind]
  cases steps with
  | zero => exact reduce_zero gathers.label
  | succ steps =>
      rw [Resolver.reduce_succ (rules_removing rules false),
        Resolver.reduce_succ (rules_removing rules true), gathers.gathered.1.ruleFor,
        gathers.gathered.2.ruleFor]
      refine (gathers.prune tells).bind ?_
      rintro _ _ ⟨value, value', rfl, rfl, values⟩
      exact .pure values

end Standard

/-! ## Nodes -/

namespace Resolves

variable (resolves : p.Resolves resolution) (bindings : env.EachBinding Still)

include resolves bindings

theorem lookupName (name : Term) :
    p.Runs p.Values (lookupName resolution p.keeping env p.whole name)
      (lookupName resolution p.dropping env p.trimmed name) := by
  unfold ScopedTemplate.lookupName
  cases found : env.target? name with
  | none => exact (Runs.record _ _).bind fun _ _ _ => .pure rfl
  | some binding =>
      have bound : env.lookup? name = some binding := (Option.filter_eq_some_iff.1 found).1
      exact Runs.memoize name env _ _ (resolves (bindings.lookup? bound) bindings)

theorem resolveItems {items : List Term} (each : ∀ item ∈ items, Still item) :
    p.Runs (List.Forall₂ p.Values) (p.keeping.resolveItems resolution p.whole env items)
      (p.dropping.resolveItems resolution p.trimmed env items) := by
  induction items with
  | nil => exact .pure .nil
  | cons item rest ih =>
      obtain ⟨first, others⟩ := List.forall_mem_cons.1 each
      refine (resolves first bindings).bind fun value value' values => ?_
      exact (ih others).bind fun more more' moreValues => .pure (.cons values moreValues)

theorem resolveEntries {entries : Entries} (each : ∀ entry ∈ entries, Still entry.2) :
    p.Runs (fun values values' => p.Fields values values' ∧
        Entries.keys values = Entries.keys entries)
      (p.keeping.resolveEntries resolution p.whole env entries)
      (p.dropping.resolveEntries resolution p.trimmed env entries) := by
  induction entries with
  | nil => exact .pure ⟨.nil, rfl⟩
  | cons entry rest ih =>
      obtain ⟨first, others⟩ := List.forall_mem_cons.1 each
      refine (resolves first bindings).bind fun value value' values => ?_
      refine (ih others).bind fun more more' fields => .pure ⟨.cons ⟨rfl, values⟩ fields.1, ?_⟩
      exact congrArg (entry.1 :: ·) fields.2

variable (rules : p.resolver.rules = Rule.standard) (tells : p.resolver.Tells)

include rules tells

/-- A mapping without defaults is gathered and pruned, whatever its stamps are. -/
theorem reduce_unscoped {kind : MapKind} {stamp stamp' : Option Stamp} {entries : Entries}
    (looked : p.resolver.classifier.kind (.map kind stamp entries) = .mapping)
    (noDefaults : Entries.has entries p.resolver.defaultsKey = false)
    (each : ∀ entry ∈ entries, Still entry.2) (steps : Nat) :
    p.Runs p.Values
      (p.keeping.reduce resolution p.whole steps ⟨.map kind stamp entries, .mapping, env, false⟩)
      (p.dropping.reduce resolution p.trimmed steps
        ⟨.map kind stamp' entries, .mapping, env, false⟩) := by
  cases steps with
  | zero => exact reduce_zero (by cases kind <;> rfl)
  | succ steps =>
      have unscoped : ∀ removes, Entries.has entries (p.resolver.removing removes).defaultsKey = false :=
        fun _ => noDefaults
      rw [Resolver.reduce_succ (rules_removing rules false),
        Resolver.reduce_succ (rules_removing rules true), Resolver.ruleFor_mapping,
        Resolver.ruleFor_mapping, unscoped, unscoped, if_neg Bool.false_ne_true]
      unfold Resolver.transform Resolver.collect
      dsimp only
      simp only [bind_assoc]
      refine (resolves.resolveEntries bindings each).bind fun values values' fields => ?_
      unfold makeMap
      simp only [bind_assoc, pure_bind]
      refine (Runs.collectionStamp _ _).bind fun _ _ _ => Gathers.follow rules tells ?_
      refine .map (Classifier.kind_plainMap looked) ?_ fields.1
      exact (Custody.has_of_keys fields.2 _).trans noDefaults

/-- A scope of defaults is entered, or refused, in both runs. -/
theorem reduce_scoped {kind : MapKind} {stamp : Option Stamp} {entries : Entries}
    (looked : p.resolver.classifier.kind (.map kind stamp entries) = .mapping)
    (defaulted : Entries.has entries p.resolver.defaultsKey = true)
    (each : ∀ entry ∈ entries, Still entry.2) (steps : Nat) :
    p.Runs p.Values
      (p.keeping.reduce resolution p.whole (steps + 1)
        ⟨.map kind stamp entries, .mapping, env, false⟩)
      (p.dropping.reduce resolution p.trimmed (steps + 1)
        ⟨.map kind stamp entries, .mapping, env, false⟩) := by
  have entered : ∀ removes, Entries.has entries (p.resolver.removing removes).defaultsKey = true :=
    fun _ => defaulted
  rw [Resolver.reduce_succ (rules_removing rules false),
    Resolver.reduce_succ (rules_removing rules true), Resolver.ruleFor_mapping,
    Resolver.ruleFor_mapping, entered, entered, if_pos rfl]
  unfold Resolver.transform Resolver.enterDefaults
  have key : ∀ removes, (p.resolver.removing removes).defaultsKey = p.resolver.defaultsKey :=
    fun _ => rfl
  dsimp only
  rw [key, key]
  obtain ⟨defaults, found⟩ := Entries.has_iff.1 defaulted
  have inner := Term.Everywhere.find? each found
  rw [found, Option.getD_some]
  have refused : p.Runs p.Values
      (do
        let step ← (do throw (.resolution p.resolver.config.defaultsKey
          ("nested defaults must be a mapping, got " ++ defaults.typeName)
          (← Run.snapshot env)) : Run Step)
        p.keeping.follow resolution p.whole steps step)
      (do
        let step ← (do throw (.resolution p.resolver.config.defaultsKey
          ("nested defaults must be a mapping, got " ++ defaults.typeName)
          (← Run.snapshot env)) : Run Step)
        p.dropping.follow resolution p.trimmed steps step) := by
    simp only [bind_assoc]
    refine (Runs.snapshot env).bind ?_
    rintro shown _ rfl
    exact .fail _
  cases defaults with
  | map scopeKind scopeStamp scope =>
      have deeper : (env.child scope).EachBinding Still :=
        bindings.child (Term.everywhere_map.1 inner).2
      have remaining : ∀ entry ∈ Entries.erase entries p.resolver.defaultsKey, Still entry.2 :=
        fun entry member => each entry (List.mem_filter.1 member).1
      simp only [Term.scopeSize?, Term.scopeEntries, bind_assoc, pure_bind]
      refine (Runs.log _ _ _ _).bind fun _ _ _ => ?_
      unfold makeMap
      simp only [bind_assoc, pure_bind]
      refine (Runs.collectionStamp _ _).bind fun stamp stamp' _ => ?_
      unfold Resolver.follow
      dsimp only
      rw [(tells_removing tells false).classify, (tells_removing tells true).classify]
      have plain : ∀ stamp, p.resolver.classifier.kind
          (.map .plain stamp (Entries.erase entries p.resolver.defaultsKey)) = .mapping :=
        fun _ => Classifier.kind_plainMap looked
      have plain' : ∀ removes stamp, (p.resolver.removing removes).classifier.kind
          (.map .plain stamp (Entries.erase entries p.resolver.defaultsKey)) = .mapping :=
        fun _ => plain
      rw [plain', plain', ofResult, pure_bind, pure_bind]
      exact resolves.reduce_unscoped deeper rules tells (plain stamp) (Domain.has_erase _ _) remaining steps
  | view _ _ _ _ => cases inner.here.noView
  | _ => exact refused

/-- The elements of a sequence are gathered and pruned. -/
theorem follow_items {made : ∀ _ : Option Stamp, List Term → Term}
    (gathers : ∀ {stamp stamp' : Option Stamp} {items items' : List Term},
      List.Forall₂ p.Values items items' → p.Gathers (made stamp items) (made stamp' items'))
    {items : List Term} (each : ∀ item ∈ items, Still item) (steps : Nat) :
    p.Runs p.Values
      (do
        let values ← p.keeping.resolveItems resolution p.whole env items
        let stamp ← Run.collectionStamp values.length
        p.keeping.follow resolution p.whole steps (.again (made stamp values) env true))
      (do
        let values ← p.dropping.resolveItems resolution p.trimmed env items
        let stamp ← Run.collectionStamp values.length
        p.dropping.follow resolution p.trimmed steps (.again (made stamp values) env true)) := by
  refine (resolves.resolveItems bindings each).bind fun values values' forall₂ => ?_
  exact (Runs.collectionStamp _ _).bind fun _ _ _ => (gathers forall₂).follow rules tells

omit tells in
/-- A still node is reduced in both runs. -/
theorem reduce (still : Still t)
    (told : (p.resolver.classifier.kind t).isCollection = true → p.resolver.Tells) (steps : Nat) :
    p.Runs p.Values
      (p.keeping.reduce resolution p.whole steps ⟨t, p.resolver.classifier.kind t, env, false⟩)
      (p.dropping.reduce resolution p.trimmed steps
        ⟨t, p.resolver.classifier.kind t, env, false⟩) := by
  cases steps with
  | zero => exact reduce_zero rfl
  | succ steps =>
      have applies := p.resolver.applies_ruleFor ⟨t, p.resolver.classifier.kind t, env, false⟩
      generalize selected : p.resolver.ruleFor ⟨t, p.resolver.classifier.kind t, env, false⟩ = rule
        at applies
      cases applies with
      | lookup isRef bound =>
          refine reduce_step rules selected ?_
          simp only [Resolver.transform, bind_assoc, pure_bind]
          exact (resolves.lookupName bindings t).bind fun _ _ values => .pure values
      | fixpoint isRef unbound =>
          refine reduce_step rules selected ?_
          simp only [Resolver.transform, bind_assoc, pure_bind]
          obtain ⟨kind, name, rfl⟩ := Classifier.text_of_ref isRef
          exact (Runs.record _ _).bind fun _ _ _ => .pure rfl
      | application isFunction =>
          exact (still.here.known
            (Classifier.shape_of_kind isFunction (by decide) (by decide))).elim
      | callable isCallable =>
          exact absurd (Classifier.shape_of_kind isCallable (by decide) (by decide))
            still.here.noCallable
      | nestedDefaults isMapping defaults =>
          obtain ⟨kind, stamp, entries, rfl⟩ := Classifier.map_of_kind isMapping
          have tells := told (congrArg Kind.isCollection isMapping)
          have each := (Term.everywhere_map.1 still).2
          dsimp only at isMapping ⊢
          rw [isMapping]
          exact resolves.reduce_scoped bindings rules tells isMapping defaults each steps
      | collection isCollection fresh unscoped =>
          have tells := told isCollection
          rcases Classifier.kind_of_isCollection isCollection with looked | looked
          · obtain ⟨kind, stamp, entries, rfl⟩ := Classifier.map_of_kind looked
            have each := (Term.everywhere_map.1 still).2
            have noDefaults := unscoped looked
            rw [looked]
            exact resolves.reduce_unscoped bindings rules tells looked noDefaults each _
          · refine reduce_step rules selected ?_
            rcases Classifier.items_of_kind looked with ⟨kind, stamp, items, rfl⟩ | ⟨stamp, items, rfl⟩
            · have each := (Term.everywhere_list.1 still).2
              simp only [Resolver.transform, Resolver.collect, makeList, bind_assoc, pure_bind]
              exact resolves.follow_items bindings rules tells
                (fun more => .list (Classifier.kind_plainList looked) more) each steps
            · have each := (Term.everywhere_tuple.1 still).2
              simp only [Resolver.transform, Resolver.collect, makeTuple, bind_assoc, pure_bind]
              exact resolves.follow_items bindings rules tells (fun more => .tuple looked more) each
                steps
      | removal collected => cases collected
      | passThrough single fresh =>
          refine reduce_step rules selected (.pure (.of_kind ?_))
          rcases single with looked | looked
          · exact congrArg Kind.isCollection looked
          · exact congrArg Kind.isCollection looked

end Resolves

/-- Resolutions of still terms go side by side at every level. -/
theorem resolves_resolveTerm (rules : p.resolver.rules = Rule.standard) (levels : Nat) :
    p.Resolves (resolveTerm ceiling levels) := by
  induction levels with
  | zero => exact fun _ _ => .fail _
  | succ levels ih =>
      intro t env still bindings
      rw [resolveTerm_succ, resolveTerm_succ]
      unfold Resolver.resolveNode
      have classifier : ∀ removes, (p.resolver.removing removes).classifier = p.resolver.classifier :=
        fun _ => rfl
      have limit : ∀ removes, (p.resolver.removing removes).config.maxDepth =
        p.resolver.config.maxDepth := fun _ => rfl
      rw [classifier, classifier, limit, limit]
      cases classified : p.resolver.classifier.classify t with
      | error failure => exact .fail failure
      | ok kind =>
          obtain rfl := Classifier.kind_of_classify classified
          rw [ofResult, pure_bind, pure_bind]
          refine ih.reduce bindings rules still (fun isCollection => ?_) _
          by_contra untold
          rcases Resolver.single_of_classify untold classified with looked | looked
          · rw [looked] at isCollection
            cases isCollection
          · rw [looked] at isCollection
            cases isCollection

/-! ## Whole resolutions -/

theorem Ends.agree {α β : Type} {R : α → β → Prop} {result : EStateM.Result Failure World α}
    {result' : EStateM.Result Failure World β} (ends : p.Ends R result result') :
    Agree R (outcome result) (outcome result') := by
  cases ends with
  | ok related _ => exact .ok related
  | error _ => exact .error _

/-- The counts of a table are reported in both runs. -/
theorem Resolves.resolveIn (resolves : p.Resolves resolution) (still : Still t)
    (bindings : env.EachBinding Still) :
    p.Runs p.Values (resolveIn resolution p.keeping t env p.whole)
      (resolveIn resolution p.dropping t env p.trimmed) := by
  refine Runs.reportEndless ((resolves still bindings).bind fun value value' values => ?_)
  refine Runs.table fun table table' tables => (Runs.checkTable tables _).bind fun _ _ _ => ?_
  exact (Runs.log _ _ _ _).bind fun _ _ _ => .pure values

theorem worlds_of_new {world world' : World} (new : world.IsNew p.whole)
    (new' : world'.IsNew p.trimmed) : p.Worlds world world' := by
  refine ⟨new.inside, new'.inside, ?_⟩
  rw [new.empty, new'.empty]
  exact ⟨.nil, rfl, rfl, rfl⟩

end Trimming

namespace Resolver

variable {resolver : Resolver Term} {template : Term} {env : Environment Term}
  {given given' : Option CacheId} {world world' : World}

/-- A value is accepted exactly if it is accepted when it is trimmed. -/
theorem agree_checkResult {whole trimmed : Term}
    (trims : Term.Trims resolver.classifier whole trimmed) (world world' : World) :
    Agree (fun _ _ => True) (outcome ((resolver.removing false).checkResult env whole world))
      (outcome ((resolver.removing true).checkResult env trimmed world')) := by
  have verdict : ∀ removes t, (resolver.removing removes).checkResult env t =
      resolver.checkResult env t := fun _ _ => rfl
  rw [verdict, verdict]
  unfold checkResult
  rw [trims.check, trims.referenceNames]
  cases resolver.config.strict with
  | false => exact .ok trivial
  | true =>
      cases resolver.classifier.check whole with
      | error failure => exact .error failure
      | ok _ =>
          cases whole.referenceNames resolver.classifier resolver.config.defaultsKey with
          | nil => exact .ok trivial
          | cons name names =>
              simp only [if_pos, ofResult, pure_bind]
              unfold snapshot
              split
              · exact .error _
              · exact .error _

theorem agree_resolve (stack : Stack) (rules : resolver.rules = Rule.standard)
    (new : ∀ id, (given <|> world.active) = some id →
      id < world.caches.length ∧ world.cache id = .empty)
    (new' : ∀ id, (given' <|> world'.active) = some id →
      id < world'.caches.length ∧ world'.cache id = .empty)
    (still : Trimming.Still template) (bindings : env.EachBinding Trimming.Still) :
    Agree (Term.Trims resolver.classifier)
      (outcome ((resolver.removing false).resolve template env given stack world))
      (outcome ((resolver.removing true).resolve template env given' stack world')) := by
  obtain ⟨whole, start, isNew, same⟩ := outcome_resolveLeniently new
  obtain ⟨trimmed, start', isNew', same'⟩ := outcome_resolveLeniently new'
  let p : Trimming := ⟨resolver, whole, trimmed⟩
  have resolves : p.Resolves (resolveTerm stack.ceiling stack.levels) := Trimming.resolves_resolveTerm rules _
  have ends := (resolves.resolveIn still bindings start start'
    (Trimming.worlds_of_new isNew isNew')).agree
  rw [← same, ← same'] at ends
  exact ends.bind fun value value' trims done done' =>
    (agree_checkResult trims done done').bind fun _ _ _ _ _ => .ok trims

/--
With the built-in rules and a new table, a template in which nothing is called has with removal
exactly the values that it has without, pruned, and exactly the failures that it has without.
-/
theorem resolve_removing (rules : resolver.rules = Rule.standard)
    (new : ∀ id, (given <|> world.active) = some id →
      id < world.caches.length ∧ world.cache id = .empty)
    (new' : ∀ id, (given' <|> world'.active) = some id →
      id < world'.caches.length ∧ world'.cache id = .empty)
    (declared : template.Declarative fun _ => False)
    (bindings : env.EachBinding (Term.Declarative fun _ => False)) :
    (∀ result, (∃ value done, (resolver.removing true).resolve template env given' stack world' =
          .ok value done ∧ value.outline false = result) ↔
        ∃ value done, (resolver.removing false).resolve template env given stack world =
          .ok value done ∧ (value.outline false).pruned resolver.classifier = result) ∧
      ∀ failure, (∃ done, (resolver.removing true).resolve template env given' stack world' =
          .error failure done) ↔
        ∃ done, (resolver.removing false).resolve template env given stack world =
          .error failure done := by
  have agree := agree_resolve stack rules new new' declared bindings
  cases kept : (resolver.removing false).resolve template env given stack world with
  | ok whole done =>
      cases removed : (resolver.removing true).resolve template env given' stack world' with
      | error failure' done' =>
          rw [kept, removed] at agree
          cases agree
      | ok trimmed done' =>
          rw [kept, removed] at agree
          cases agree with
          | ok trims =>
              refine ⟨fun result => ?_, fun failure => by simp⟩
              unfold Term.Trims at trims
              simp [trims]
  | error failure done =>
      cases removed : (resolver.removing true).resolve template env given' stack world' with
      | ok trimmed done' =>
          rw [kept, removed] at agree
          cases agree
      | error failure' done' =>
          rw [kept, removed] at agree
          cases agree with
          | error => simp

/-- What is hollow by way of a name, in a scope, and below other collections. -/
def hollows : Term := .map .plain none [
  (.str "a", .ref "A"),
  (.str "b", .map .plain none [
    (.str "::defaults", .map .plain none [(.str "A", .list .plain none [.removed])]),
    (.str "x", .ref "A"), (.str "y", .ref "B")]),
  (.str "c", .list .plain none [.tuple none [.list .plain none []], .int 1])]

theorem hollows_removing : ∃ value done,
    (standard.removing false).resolve hollows
        ⟨[[(.str "A", .map .plain none [(.str "e", .tuple none [])])]], []⟩ none .usual .empty =
      .ok value done ∧
    (value.outline false).pruned standard.classifier = .map .plain none [
      (.str "b", .map .plain none [(.str "y", .ref "B")]),
      (.str "c", .list .plain none [.int 1])] := by
  have new := World.new_of_idle (show World.empty.active = none from rfl)
  have rules : standard.rules = Rule.standard := rfl
  have single : ∀ {t : Term}, t.inner = [] → t.IsDeclarative (fun _ => False) →
      t.Declarative fun _ => False := Term.everywhere_of_inner
  have name : ∀ s, (Term.ref s).Declarative fun _ => False := fun _ => single rfl ⟨nofun, rfl, nofun⟩
  have removed : Term.removed.Declarative fun _ => False := single rfl ⟨nofun, rfl, nofun⟩
  have one : (Term.int 1).Declarative fun _ => False := single rfl ⟨nofun, rfl, nofun⟩
  have map : ∀ entries : Entries, (Term.map .plain none entries).IsDeclarative fun _ => False :=
    fun _ => ⟨nofun, rfl, nofun⟩
  have list : ∀ items, (Term.list .plain none items).IsDeclarative fun _ => False :=
    fun _ => ⟨nofun, rfl, nofun⟩
  have tuple : ∀ items, (Term.tuple none items).IsDeclarative fun _ => False :=
    fun _ => ⟨nofun, rfl, nofun⟩
  have declared : hollows.Declarative fun _ => False := by
    simp [hollows, Term.everywhere_map, Term.everywhere_list, Term.everywhere_tuple, name, removed,
      one, map, list, tuple]
  have bindings : Environment.EachBinding (Term.Declarative fun _ => False)
      ⟨[[(.str "A", .map .plain none [(.str "e", .tuple none [])])]], []⟩ := by
    simp [Environment.eachBinding_iff, Term.everywhere_map, Term.everywhere_tuple, map, tuple]
  exact ((resolve_removing rules new new declared bindings).1 _).1 ⟨_, _, rfl, rfl⟩

end Resolver

end ScopedTemplate
