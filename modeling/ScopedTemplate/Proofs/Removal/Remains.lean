import ScopedTemplate.Proofs.Cycles.Exact
import ScopedTemplate.Proofs.Lockstep.Inputs
import ScopedTemplate.Proofs.Removal.Pruned
import ScopedTemplate.Proofs.Sharing.Answers

/-!
# Data resolves to what remains of it

Where nothing is looked up, called or bound, a resolution only rebuilds collections as plain ones, from the
inside out, and leaves out the removal mark and what is empty then.
-/

namespace ScopedTemplate

variable {ceiling : Int} {stack : Stack}

open Run

/-- What is no leaf, no reference and not the removal mark has the kind of its shape. -/
theorem Classifier.kind_of_notLeaf {classifier : Classifier} {t : Term}
    (notLeaf : classifier.isLeaf t = false) (noRef : classifier.isRef t = false)
    (kept : t.isRemoved = false) : classifier.kind t = shapeKind t := by
  simp [kind, notLeaf, noRef, kept]

/-! ## Collections without identity -/

namespace Term

mutual

/-- A term without the identity of its collections; leaves keep theirs. -/
def unmarked (classifier : Classifier) : Term → Term
  | .list kind stamp items =>
    if classifier.isLeaf (.list kind stamp items) then .list kind stamp items
    else .list kind none (unmarkedItems classifier items)
  | .tuple stamp items =>
    if classifier.isLeaf (.tuple stamp items) then .tuple stamp items
    else .tuple none (unmarkedItems classifier items)
  | .map kind stamp entries =>
    if classifier.isLeaf (.map kind stamp entries) then .map kind stamp entries
    else .map kind none (unmarkedEntries classifier entries)
  | t => t

def unmarkedItems (classifier : Classifier) : List Term → List Term
  | [] => []
  | t :: ts => unmarked classifier t :: unmarkedItems classifier ts

def unmarkedEntries (classifier : Classifier) : List (Term × Term) → List (Term × Term)
  | [] => []
  | (key, value) :: rest => (key, unmarked classifier value) :: unmarkedEntries classifier rest

end

variable {classifier : Classifier}

theorem unmarkedItems_eq_map (items : List Term) :
    unmarkedItems classifier items = items.map (unmarked classifier) := by
  induction items with
  | nil => rfl
  | cons t ts ih => rw [unmarkedItems, List.map_cons, ih]

theorem unmarkedEntries_eq_mapValues (entries : Entries) :
    unmarkedEntries classifier entries = Entries.mapValues (unmarked classifier) entries := by
  unfold Entries.mapValues
  induction entries with
  | nil => rfl
  | cons entry rest ih => rw [unmarkedEntries, List.map_cons, ih]

theorem unmarked_list {kind : ListKind} {stamp : Option Stamp} {items : List Term}
    (looked : classifier.kind (.list kind stamp items) = .sequence) :
    (Term.list kind stamp items).unmarked classifier =
      .list kind none (items.map (unmarked classifier)) := by
  rw [unmarked, isLeaf_of_kind (by rw [looked]; decide) rfl, if_neg nofun, unmarkedItems_eq_map]

theorem unmarked_tuple {stamp : Option Stamp} {items : List Term}
    (looked : classifier.kind (.tuple stamp items) = .sequence) :
    (Term.tuple stamp items).unmarked classifier =
      .tuple none (items.map (unmarked classifier)) := by
  rw [unmarked, isLeaf_of_kind (by rw [looked]; decide) rfl, if_neg nofun, unmarkedItems_eq_map]

theorem unmarked_map {kind : MapKind} {stamp : Option Stamp} {entries : Entries}
    (looked : classifier.kind (.map kind stamp entries) = .mapping) :
    (Term.map kind stamp entries).unmarked classifier =
      .map kind none (Entries.mapValues (unmarked classifier) entries) := by
  rw [unmarked, isLeaf_of_kind (by rw [looked]; decide) rfl, if_neg nofun,
    unmarkedEntries_eq_mapValues]

theorem unmarked_of_kind {t : Term} (single : classifier.isCollection t = false) :
    t.unmarked classifier = t := by
  unfold Classifier.isCollection Classifier.kind at single
  cases leaf : classifier.isLeaf t with
  | true => cases t <;> simp [unmarked, leaf]
  | false =>
      rw [leaf] at single
      cases t with
      | list _ _ _ | tuple _ _ | map _ _ _ => cases single
      | _ => rw [unmarked] <;> exact nofun

mutual

/-- A term has the outline it has without identity. -/
theorem outline_unmarked : (t : Term) → (t.unmarked classifier).outline false = t.outline false
  | .list kind stamp items => by
      rw [unmarked]
      split
      · rfl
      · rw [outline, outline, outline_unmarkedItems items]
  | .tuple stamp items => by
      rw [unmarked]
      split
      · rfl
      · rw [outline, outline, outline_unmarkedItems items]
  | .map kind stamp entries => by
      rw [unmarked]
      split
      · rfl
      · rw [outline, outline, outline_unmarkedEntries entries]
  | .null | .bool _ | .int _ | .float _ | .nan _ | .text _ _ | .bytes _ | .set _ _ | .point _ _
  | .removed | .function _ _ _ _ _ | .callable _ _ _ _ _ | .builtin _ | .type _ | .internal _
  | .view _ _ _ _ => rfl

theorem outline_unmarkedItems : (items : List Term) →
    outlineItems false (unmarkedItems classifier items) = outlineItems false items
  | [] => rfl
  | t :: ts => by
      rw [unmarkedItems, outlineItems, outlineItems, outline_unmarked t, outline_unmarkedItems ts]

theorem outline_unmarkedEntries : (entries : List (Term × Term)) →
    outlineEntries false (unmarkedEntries classifier entries) = outlineEntries false entries
  | [] => rfl
  | (key, value) :: rest => by
      rw [unmarkedEntries, outlineEntries, outlineEntries, outline_unmarked value,
        outline_unmarkedEntries rest]

end

end Term

/-! ## What remains of a term -/

namespace Resolver

variable (resolver : Resolver Term)

mutual

/-- A term whose collections are plain and without what is left out of them; leaves stay as they are. -/
def remains : Term → Term
  | .list kind stamp items =>
    if resolver.classifier.isLeaf (.list kind stamp items) then .list kind stamp items
    else .list .plain none (remainingItems items)
  | .tuple stamp items =>
    if resolver.classifier.isLeaf (.tuple stamp items) then .tuple stamp items
    else .tuple none (remainingItems items)
  | .map kind stamp entries =>
    if resolver.classifier.isLeaf (.map kind stamp entries) then .map kind stamp entries
    else .map .plain none (remainingEntries entries)
  | t => t

def remainingItems : List Term → List Term
  | [] => []
  | t :: ts =>
    if resolver.drops (remains t) then remainingItems ts else remains t :: remainingItems ts

def remainingEntries : List (Term × Term) → List (Term × Term)
  | [] => []
  | (key, value) :: rest =>
    if resolver.drops (remains value) then remainingEntries rest
    else (key, remains value) :: remainingEntries rest

end

variable {resolver}

theorem remainingItems_eq (items : List Term) :
    resolver.remainingItems items = (items.map resolver.remains).filter (!resolver.drops ·) := by
  induction items with
  | nil => rfl
  | cons t ts ih => cases drops : resolver.drops (resolver.remains t) <;> simp [remainingItems, drops, ih]

theorem remainingEntries_eq (entries : Entries) :
    resolver.remainingEntries entries =
      (Entries.mapValues resolver.remains entries).filter (!resolver.drops ·.2) := by
  unfold Entries.mapValues
  induction entries with
  | nil => rfl
  | cons entry rest ih =>
      cases drops : resolver.drops (resolver.remains entry.2) <;>
        simp [remainingEntries, drops, ih]

theorem remains_list {kind : ListKind} {stamp : Option Stamp} {items : List Term}
    (looked : resolver.classifier.kind (.list kind stamp items) = .sequence) :
    resolver.remains (.list kind stamp items) = .list .plain none (resolver.remainingItems items) := by
  rw [remains, Term.isLeaf_of_kind (by rw [looked]; decide) rfl, if_neg nofun]

theorem remains_tuple {stamp : Option Stamp} {items : List Term}
    (looked : resolver.classifier.kind (.tuple stamp items) = .sequence) :
    resolver.remains (.tuple stamp items) = .tuple none (resolver.remainingItems items) := by
  rw [remains, Term.isLeaf_of_kind (by rw [looked]; decide) rfl, if_neg nofun]

theorem remains_map {kind : MapKind} {stamp : Option Stamp} {entries : Entries}
    (looked : resolver.classifier.kind (.map kind stamp entries) = .mapping) :
    resolver.remains (.map kind stamp entries) =
      .map .plain none (resolver.remainingEntries entries) := by
  rw [remains, Term.isLeaf_of_kind (by rw [looked]; decide) rfl, if_neg nofun]

/-- What has no children stays as it is. -/
theorem remains_of_kind {t : Term} (single : resolver.classifier.isCollection t = false) :
    resolver.remains t = t := by
  unfold Classifier.isCollection Classifier.kind at single
  cases leaf : resolver.classifier.isLeaf t with
  | true => cases t <;> simp [remains, leaf]
  | false =>
      rw [leaf] at single
      cases t with
      | list _ _ _ | tuple _ _ | map _ _ _ => cases single
      | _ => rw [remains] <;> exact nofun

@[simp] theorem drops_unmarked (t : Term) :
    resolver.drops (t.unmarked resolver.classifier) = resolver.drops t := by
  rw [← @drops_outline resolver false, Term.outline_unmarked, drops_outline]

mutual

/-- Nothing more is left out of what remains. -/
theorem remains_remains : (t : Term) → resolver.remains (resolver.remains t) = resolver.remains t
  | .list kind stamp items => by
      cases leaf : resolver.classifier.isLeaf (.list kind stamp items) with
      | true => simp [remains, leaf]
      | false =>
          have looked : resolver.classifier.kind (.list kind stamp items) = .sequence :=
            Classifier.kind_of_notLeaf leaf rfl rfl
          rw [remains_list looked, remains_list (Classifier.kind_plainList looked),
            remaining_remainingItems items]
  | .tuple stamp items => by
      cases leaf : resolver.classifier.isLeaf (.tuple stamp items) with
      | true => simp [remains, leaf]
      | false =>
          have looked : resolver.classifier.kind (.tuple stamp items) = .sequence :=
            Classifier.kind_of_notLeaf leaf rfl rfl
          rw [remains_tuple looked, remains_tuple (looked.symm ▸ rfl), remaining_remainingItems items]
  | .map kind stamp entries => by
      cases leaf : resolver.classifier.isLeaf (.map kind stamp entries) with
      | true => simp [remains, leaf]
      | false =>
          have looked : resolver.classifier.kind (.map kind stamp entries) = .mapping :=
            Classifier.kind_of_notLeaf leaf rfl rfl
          rw [remains_map looked, remains_map (Classifier.kind_plainMap looked),
            remaining_remainingEntries entries]
  | .null | .bool _ | .int _ | .float _ | .nan _ | .text _ _ | .bytes _ | .set _ _ | .point _ _
  | .removed | .function _ _ _ _ _ | .callable _ _ _ _ _ | .builtin _ | .type _ | .internal _
  | .view _ _ _ _ => rfl

theorem remaining_remainingItems : (items : List Term) →
    resolver.remainingItems (resolver.remainingItems items) = resolver.remainingItems items
  | [] => rfl
  | t :: ts => by
      rw [remainingItems]
      split
      · exact remaining_remainingItems ts
      · next kept =>
          rw [remainingItems, remains_remains t, if_neg kept, remaining_remainingItems ts]

theorem remaining_remainingEntries : (entries : List (Term × Term)) →
    resolver.remainingEntries (resolver.remainingEntries entries) = resolver.remainingEntries entries
  | [] => rfl
  | (key, value) :: rest => by
      rw [remainingEntries]
      split
      · exact remaining_remainingEntries rest
      · next kept =>
          rw [remainingEntries, remains_remains value, if_neg kept, remaining_remainingEntries rest]

end

/-! ## Data -/

/--
Data without references, functions and defaults, in at most so many levels; leaves are not looked into.
-/
inductive IsData (resolver : Resolver Term) : Nat → Term → Prop where
  | single {levels : Nat} {t : Term}
      (looked : resolver.classifier.kind t = .scalar ∨ resolver.classifier.kind t = .removed) :
      IsData resolver (levels + 1) t
  | list {levels : Nat} {kind : ListKind} {stamp : Option Stamp} {items : List Term}
      (looked : resolver.classifier.kind (.list kind stamp items) = .sequence)
      (each : ∀ item ∈ items, IsData resolver levels item) :
      IsData resolver (levels + 1) (.list kind stamp items)
  | tuple {levels : Nat} {stamp : Option Stamp} {items : List Term}
      (looked : resolver.classifier.kind (.tuple stamp items) = .sequence)
      (each : ∀ item ∈ items, IsData resolver levels item) :
      IsData resolver (levels + 1) (.tuple stamp items)
  | map {levels : Nat} {kind : MapKind} {stamp : Option Stamp} {entries : Entries}
      (looked : resolver.classifier.kind (.map kind stamp entries) = .mapping)
      (noDefaults : Entries.has entries resolver.defaultsKey = false)
      (each : ∀ entry ∈ entries, IsData resolver levels entry.2) :
      IsData resolver (levels + 1) (.map kind stamp entries)

/-! ## Resolutions of data -/

variable {resolution : Resolution} {env : Environment Term} {cache : CacheId} {t : Term}

/-- Elements are rebuilt one after the other. -/
theorem items_silent {items : List Term}
    (each : ∀ item ∈ items, Silent (resolution resolver item env cache) fun value =>
      value.unmarked resolver.classifier = resolver.remains item) :
    Silent (resolver.resolveItems resolution cache env items) fun values =>
      values.map (Term.unmarked resolver.classifier) = items.map resolver.remains := by
  induction items with
  | nil => exact .pure rfl
  | cons item rest ih =>
      obtain ⟨first, others⟩ := List.forall_mem_cons.1 each
      refine first.bind fun value same => (ih others).bind fun values more => .pure ?_
      rw [List.map_cons, List.map_cons, same, more]

/-- What is kept of rebuilt elements is what remains. -/
theorem unmarked_kept {items values : List Term}
    (same : values.map (Term.unmarked resolver.classifier) = items.map resolver.remains) :
    (values.filter (!resolver.drops ·)).map (Term.unmarked resolver.classifier) =
      resolver.remainingItems items := by
  rw [remainingItems_eq, ← same, List.filter_map]
  simp [Function.comp_def]

theorem unmarked_keptEntries {entries found : Entries}
    (same : Entries.mapValues (Term.unmarked resolver.classifier) found =
      Entries.mapValues resolver.remains entries) :
    Entries.mapValues (Term.unmarked resolver.classifier) (found.filter (!resolver.drops ·.2)) =
      resolver.remainingEntries entries := by
  rw [remainingEntries_eq, ← same]
  unfold Entries.mapValues
  rw [List.filter_map]
  simp [Function.comp_def]

/-- The children of data are gathered and pruned, which takes two steps. -/
theorem collect_silent (rules : resolver.rules = Rule.standard) (tells : resolver.Tells)
    {levels : Nat} (remains : IsData resolver (levels + 1) t)
    (isCollection : resolver.classifier.isCollection t = true)
    (each : ∀ s, IsData resolver levels s → Silent (resolution resolver s env cache) fun value =>
      value.unmarked resolver.classifier = resolver.remains s) (steps : Nat) :
    Silent (resolver.collect resolution cache ⟨t, resolver.classifier.kind t, env, false⟩ >>=
      resolver.follow resolution cache (steps + 1)) fun value =>
        value.unmarked resolver.classifier = resolver.remains t := by
  unfold Classifier.isCollection at isCollection
  cases remains with
  | single looked =>
      rcases looked with looked | looked <;> rw [looked] at isCollection <;> cases isCollection
  | @list _ kind stamp items looked inner =>
      rw [remains_list looked]
      unfold collect
      dsimp only
      rw [bind_assoc]
      refine (items_silent fun item member => each item (inner item member)).bind
        fun values same => ?_
      rw [bind_assoc]
      refine (Silent.makeList values).bind ?_
      rintro _ ⟨stamp', rfl⟩
      refine Gathered.list.follow_silent rules tells steps ?_
      refine (Silent.ofResult (tells.checkValues values) trivial).bind fun _ (_ : True) => ?_
      refine (Silent.makeList _).bind ?_
      rintro _ ⟨stamp', rfl⟩
      refine .pure ⟨_, rfl, ?_⟩
      rw [Term.unmarked_list (Classifier.kind_plainList looked), unmarked_kept same]
  | @tuple _ stamp items looked inner =>
      rw [remains_tuple looked]
      unfold collect
      dsimp only
      rw [bind_assoc]
      refine (items_silent fun item member => each item (inner item member)).bind
        fun values same => ?_
      rw [bind_assoc]
      refine (Silent.makeTuple values).bind ?_
      rintro _ ⟨stamp', rfl⟩
      refine Gathered.tuple.follow_silent rules tells steps ?_
      refine (Silent.ofResult (tells.checkValues values) trivial).bind fun _ (_ : True) => ?_
      refine (Silent.makeTuple _).bind ?_
      rintro _ ⟨stamp', rfl⟩
      refine .pure ⟨_, rfl, ?_⟩
      rw [Term.unmarked_tuple (looked.symm ▸ rfl), unmarked_kept same]
  | @map _ kind stamp entries looked noDefaults inner =>
      rw [remains_map looked]
      unfold collect
      dsimp only
      rw [resolveEntries_eq, bind_assoc, bind_assoc]
      refine (items_silent fun item member => ?_).bind fun values same => ?_
      · obtain ⟨entry, among, rfl⟩ := List.mem_map.1 member
        exact each _ (inner entry among)
      · rw [pure_bind, bind_assoc]
        refine (Silent.makeMap _).bind ?_
        rintro _ ⟨stamp', rfl⟩
        refine (Gathered.map (Entries.has_zip noDefaults values)).follow_silent rules tells steps ?_
        refine (Silent.ofResult (tells.checkValues _) trivial).bind fun _ (_ : True) => ?_
        refine (Silent.makeMap _).bind ?_
        rintro _ ⟨stamp', rfl⟩
        refine .pure ⟨_, rfl, ?_⟩
        rw [Term.unmarked_map (Classifier.kind_plainMap looked),
          unmarked_keptEntries (Entries.mapValues_zip same)]

/-- Data resolves to what remains of it, and nothing is looked up. -/
theorem IsData.silent (rules : resolver.rules = Rule.standard) (tells : resolver.Tells)
    (steps : 1 ≤ resolver.config.maxDepth) {levels : Nat} (remains : IsData resolver levels t)
    (deep : resolver.classifier.isCollection t = true → 2 ≤ resolver.config.maxDepth) :
    Silent (resolveTerm ceiling levels resolver t env cache) fun value =>
      value.unmarked resolver.classifier = resolver.remains t := by
  induction levels generalizing t with
  | zero => cases remains
  | succ levels ih =>
      obtain ⟨most, limit⟩ : ∃ most, resolver.config.maxDepth = most + 1 :=
        ⟨resolver.config.maxDepth - 1, by omega⟩
      rw [resolveTerm_succ]
      unfold resolveNode
      rw [tells.classify t]
      change Silent (resolver.reduce (resolveTerm ceiling levels) cache resolver.config.maxDepth
        ⟨t, resolver.classifier.kind t, env, false⟩) _
      rw [limit, reduce_succ rules]
      have applies := resolver.applies_ruleFor ⟨t, resolver.classifier.kind t, env, false⟩
      generalize resolver.ruleFor ⟨t, resolver.classifier.kind t, env, false⟩ = rule at applies
      cases applies with
      | collection isCollection _ _ =>
          have two := deep isCollection
          obtain ⟨more, rfl⟩ : ∃ more, most = more + 1 := ⟨most - 1, by omega⟩
          exact collect_silent rules tells remains isCollection
            (fun s inside => ih inside fun _ => two) more
      | passThrough looked _ =>
          refine .pure (?_ : t.unmarked resolver.classifier = resolver.remains t)
          have single : resolver.classifier.isCollection t = false := by
            unfold Classifier.isCollection
            rcases looked with looked | looked <;>
              rw [show resolver.classifier.kind t = _ from looked] <;> rfl
          rw [Term.unmarked_of_kind single, remains_of_kind single]
      | nestedDefaults isMapping defaults =>
          cases remains with
          | map _ noDefaults _ => exact absurd (noDefaults.symm.trans defaults) (by decide)
          | _ => simp_all
      | removal collected => cases collected
      | _ => cases remains <;> simp_all

theorem IsData.references {levels : Nat} (remains : IsData resolver levels t) :
    (resolver.remains t).references resolver.classifier resolver.config.defaultsKey = [] := by
  induction remains with
  | single looked =>
      rw [remains_of_kind, Term.references_data looked]
      unfold Classifier.isCollection
      rcases looked with looked | looked <;> rw [looked] <;> rfl
  | list looked _ ih =>
      rw [remains_list looked, Term.references_list (Classifier.kind_plainList looked),
        remainingItems_eq, List.eq_nil_iff_forall_not_mem]
      intro name among
      obtain ⟨s, member, here⟩ := Term.mem_referencesInItems.1 among
      obtain ⟨item, inside, rfl⟩ := List.mem_map.1 (List.mem_filter.1 member).1
      rw [ih item inside] at here
      cases here
  | tuple looked _ ih =>
      rw [remains_tuple looked, Term.references_tuple (looked.symm ▸ rfl), remainingItems_eq,
        List.eq_nil_iff_forall_not_mem]
      intro name among
      obtain ⟨s, member, here⟩ := Term.mem_referencesInItems.1 among
      obtain ⟨item, inside, rfl⟩ := List.mem_map.1 (List.mem_filter.1 member).1
      rw [ih item inside] at here
      cases here
  | map looked _ _ ih =>
      rw [remains_map looked, Term.references_map (Classifier.kind_plainMap looked),
        remainingEntries_eq, List.eq_nil_iff_forall_not_mem]
      intro name among
      obtain ⟨entry, member, _, here⟩ := Term.mem_referencesInEntries.1 among
      obtain ⟨original, inside, rfl⟩ := List.mem_map.1 (List.mem_filter.1 member).1
      rw [ih original inside] at here
      cases here

/-! ## Whole resolutions -/

variable {given : Option CacheId} {world : World} {post : Term → Prop}

/-- A silent run stays silent when the counts of its table are reported. -/
theorem after_resolveIn_silent {id : CacheId} (silent : Silent (resolution resolver t env id) post)
    (isTable : (world.cache id).standIn = none) :
    After (resolveIn resolution resolver t env id) world
      (fun value done => World.SameTables world done ∧ post value) fun _ _ => False := by
  unfold resolveIn reportEndless
  refine after_recover.2 (after_bind.2 ((silent world).mono ?_ fun _ _ => False.elim))
  rintro value done ⟨same, holds⟩
  refine after_bind.2 (after_cache.2 (after_bind.2 ?_))
  unfold checkTable
  rw [same.cache_eq, isTable]
  exact ⟨same.trans ⟨rfl, rfl, rfl⟩, holds⟩

/-- A silent resolution leaves all tables alone, and closes its own one if it has one. -/
theorem resolveLeniently_silent
    (silent : ∀ id, Silent (resolution resolver t env id) post)
    (isTable : ∀ id, (given <|> world.active) = some id → (world.cache id).standIn = none) :
    ∃ value done, resolveLeniently resolution resolver t env given world = .ok value done ∧
      post value ∧ done.caches = if (given <|> world.active).isSome then world.caches
        else world.caches ++ [Cache.empty.close] := by
  cases table : given <|> world.active with
  | some id =>
      have ends := after_resolveIn_silent (silent id) (isTable id table)
      rw [Pairing.resolveLeniently_given table]
      unfold After at ends
      split at ends
      · next value done ran => exact ⟨value, done, ran, ends.2, ends.1.caches⟩
      · exact ends.elim
  | none =>
      let opened : World := { world with caches := world.caches ++ [.empty] }
      have isNew : (opened.cache world.caches.length).standIn = none := by
        simp [opened, World.cache, Cache.empty]
      have closes : After (andThen (resolveIn resolution resolver t env world.caches.length)
          (closeCache world.caches.length)) opened (fun value done => post value ∧
            done.caches = world.caches ++ [Cache.empty.close]) fun _ _ => False := by
        refine after_andThen.2 ((after_resolveIn_silent (silent _) isNew).mono ?_
          fun _ _ => False.elim)
        rintro value done ⟨same, holds⟩
        refine after_closeCache fun noted same' _ => ⟨holds, ?_⟩
        have tables : noted.caches = world.caches ++ [.empty] := same'.caches.trans same.caches
        simp [World.change, World.setCache, World.cache, tables]
      rw [Pairing.resolveLeniently_own table]
      unfold After at closes
      split at closes
      · next value done ran => exact ⟨value, done, ran, closes⟩
      · exact closes.elim

/--
Data without references, functions and defaults resolves to what remains of it, but for the identity of the
rebuilt collections, whatever the environment and the tables: nothing is looked up.  It takes two steps for
a collection, room for its levels, and leaf types that tell their instances.
-/
theorem resolve_remains (rules : resolver.rules = Rule.standard) (tells : resolver.Tells)
    (steps : 1 ≤ resolver.config.maxDepth) {stack : Stack} (remains : IsData resolver stack.levels t)
    (deep : resolver.classifier.isCollection t = true → 2 ≤ resolver.config.maxDepth)
    (env : Environment Term)
    (isTable : ∀ id, (given <|> world.active) = some id → (world.cache id).standIn = none) :
    (∃ value done, resolver.resolve t env given stack world = .ok value done ∧
      value.unmarked resolver.classifier = resolver.remains t ∧
      done.caches = if (given <|> world.active).isSome then world.caches
        else world.caches ++ [Cache.empty.close]) ∧
    resolver.remains (resolver.remains t) = resolver.remains t := by
  refine ⟨?_, remains_remains t⟩
  obtain ⟨value, done, ran, same, tables⟩ := resolveLeniently_silent
    (fun id => remains.silent rules tells steps deep) isTable
  refine ⟨value, done, resolveWith_eq_ok.2 ⟨ran, ?_⟩, same, tables⟩
  have accepts : resolver.AcceptsResult (resolver.remains t) :=
    fun _ => ⟨tells.check _, remains.references⟩
  rw [← same] at accepts
  exact acceptsResult_of_outline value.outline_unmarked accepts

def leafRows : Resolver Term :=
  { standard with
    config := { Config.standard with maxDepth := 2 }
    classifier := ⟨[⟨"data", "Rows"⟩], none⟩ }

/-- A frame with a leaf, a list that becomes empty, and a tuple with an empty mapping. -/
def frame : Term := .map .frame none [
  (.str "rows", .list .rows none [.removed]),
  (.str "gone", .list .plain none [.list .plain none [], .removed]),
  (.str "kept", .tuple none [.map .plain none [], .int 1])]

/-- The frame becomes a plain mapping without the list, and the leaf stays as it is. -/
theorem frame_remains : ∃ value done,
    leafRows.resolve frame .empty none ⟨3, 6⟩ .empty = .ok value done ∧
      value.unmarked leafRows.classifier = .map .plain none [
        (.str "rows", .list .rows none [.removed]), (.str "kept", .tuple none [.int 1])] := by
  have tells : leafRows.Tells := by
    intro type member
    rw [List.mem_singleton.1 member]
    rfl
  have single : ∀ {levels : Nat} {t : Term}, leafRows.classifier.kind t = .scalar ∨
      leafRows.classifier.kind t = .removed → IsData leafRows (levels + 1) t := .single
  have remains : IsData leafRows (Stack.mk 3 6).levels frame := by
    refine .map rfl rfl ?_
    simp only [List.forall_mem_cons]
    refine ⟨single (.inl rfl), .list rfl ?_, .tuple rfl ?_, List.forall_mem_nil _⟩
    · exact List.forall_mem_cons.2 ⟨.list rfl (List.forall_mem_nil _),
        List.forall_mem_singleton.2 (single (.inr rfl))⟩
    · exact List.forall_mem_cons.2 ⟨.map rfl rfl (List.forall_mem_nil _),
        List.forall_mem_singleton.2 (single (.inl rfl))⟩
  have own : ∀ id, ((none : Option CacheId) <|> World.empty.active) = some id →
      (World.empty.cache id).standIn = none := nofun
  obtain ⟨⟨value, done, ran, same, _⟩, _⟩ := resolve_remains rfl tells (by decide) remains
    (fun _ => Nat.le_refl 2) .empty own
  exact ⟨value, done, ran, same⟩

/--
With a single step no collection is resolved, no term has a kind if a leaf type does not tell its instances,
and nesting that is too deep is reported as a cycle.
-/
theorem data_refused :
    (∃ world', Resolver.resolve { standard with config := { Config.standard with maxDepth := 1 } }
      (.list .plain none [.int 1]) .empty none .usual .empty = .error (.cyclic "list" [] (some 1)) world') ∧
    (∃ world', Resolver.resolve { standard with classifier := ⟨[⟨"typing", "Any"⟩], none⟩ } (.int 1)
      .empty none .usual .empty =
        .error (.type (.noInstances "typing.Any cannot be used with isinstance()")) world') ∧
    ∃ world', standard.resolve (nested 12000) .empty none .usual .empty = .error (.endless 20000 []) world' := by
  refine ⟨⟨_, rfl⟩, ⟨_, rfl⟩, ?_⟩
  have exhausts : resolveTerm 20000 10000 standard (nested 12000) .empty 0 opened =
      .error .exhausted opened := by
    rw [resolveTerm_nested (by decide)]
    rfl
  exact resolveWith_exhausted exhausts rfl rfl

end Resolver

end ScopedTemplate
