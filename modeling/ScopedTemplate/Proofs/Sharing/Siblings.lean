import Mathlib.Data.List.Nodup
import ScopedTemplate.Proofs.Evaluation.Relation
import ScopedTemplate.Proofs.Removal.Pruned
import ScopedTemplate.Proofs.Resolver.Idempotence
import ScopedTemplate.Proofs.Resolver.Refinement

/-!
# Siblings do not disturb each other

What stands side by side in a template shares one table.  Each part is nevertheless what it is when it
is resolved alone, as long as fingerprints tell the environments apart in which names are looked up.
-/

namespace ScopedTemplate

variable {stack : Stack}

open Run

namespace Resolver

variable (resolver : Resolver Term)

/-- Parts of a collection, and what the collection becomes when the parts have values. -/
inductive Siblings : List Term → Term → (List Term → Term) → Prop where
  | list {kind : ListKind} {stamp : Option Stamp} {items : List Term}
      (looked : resolver.classifier.classify (.list kind stamp items) = .ok .sequence) :
      Siblings items (.list kind stamp items) fun values =>
        .list .plain none (values.filter (!resolver.drops ·))
  | map {kind : MapKind} {stamp : Option Stamp} {entries : Entries}
      (looked : resolver.classifier.classify (.map kind stamp entries) = .ok .mapping)
      (unscoped : Entries.has entries resolver.defaultsKey = false) :
      Siblings (Entries.values entries) (.map kind stamp entries) fun values =>
        .map .plain none (Entries.arrange true
          (((Entries.keys entries).zip values).filter (!resolver.drops ·.2)))

variable {resolver} {items values : List Term} {whole : Term} {gather : List Term → Term}

/-- A collection that is looked into is told apart from leaves of every leaf type. -/
theorem Siblings.tells (siblings : resolver.Siblings items whole gather) : resolver.Tells := by
  by_contra untold
  cases siblings with
  | list looked => rcases single_of_classify untold looked with same | same <;> cases same
  | map looked _ => rcases single_of_classify untold looked with same | same <;> cases same

/-! ## References that are left -/

/-- What is dropped has no references. -/
theorem references_of_drops {t : Term} (dropped : resolver.drops t = true) {defaultsKey : String} :
    t.references resolver.classifier defaultsKey = [] := by
  unfold drops at dropped
  rcases Bool.or_eq_true_iff.1 dropped with removed | hollow
  · cases t with
    | removed => rfl
    | _ => cases removed
  · rw [Bool.and_assoc, Bool.and_eq_true] at hollow
    exact Term.references_of_isHollow hollow.2

/-- No reference is left among terms if none is left among those that are kept. -/
theorem kept_references {terms : List Term} {defaultsKey : String} :
    (∀ t ∈ terms.filter (!resolver.drops ·), t.references resolver.classifier defaultsKey = []) ↔
      ∀ t ∈ terms, t.references resolver.classifier defaultsKey = [] := by
  constructor
  · intro kept t member
    cases dropped : resolver.drops t with
    | true => exact references_of_drops dropped
    | false => exact kept t (List.mem_filter.2 ⟨member, by rw [dropped]; rfl⟩)
  · exact fun all t member => all t (List.mem_filter.1 member).1

theorem referencesInItems_eq_nil {classifier : Classifier} {defaultsKey : String}
    {terms : List Term} : Term.referencesInItems classifier defaultsKey terms = [] ↔
      ∀ t ∈ terms, t.references classifier defaultsKey = [] := by
  simp only [List.eq_nil_iff_forall_not_mem, Term.mem_referencesInItems, not_exists, not_and]
  exact ⟨fun none t member name => none name t member, fun none name t member => none t member name⟩

/-- The references of entries are those of their values, if none of these is a scope of defaults. -/
theorem referencesInEntries_eq_nil {entries : Entries}
    (unscoped : Entries.has entries resolver.defaultsKey = false) :
    Term.referencesInEntries resolver.classifier resolver.config.defaultsKey entries = [] ↔
      ∀ t ∈ Entries.values entries,
        t.references resolver.classifier resolver.config.defaultsKey = [] := by
  simp only [List.eq_nil_iff_forall_not_mem, mem_referencesOf_map unscoped, not_exists, not_and]
  unfold Entries.values referencesOf
  simp only [List.forall_mem_map]
  exact ⟨fun none entry member name => none name entry member,
    fun none name entry member => none entry member name⟩

theorem Siblings.references_gather (siblings : resolver.Siblings items whole gather)
    (length : values.length = items.length) :
    (gather values).references resolver.classifier resolver.config.defaultsKey = [] ↔
      ∀ value ∈ values,
        value.references resolver.classifier resolver.config.defaultsKey = [] := by
  cases siblings with
  | list looked =>
      rw [Term.references_list (Classifier.kind_plainList (Classifier.kind_of_classify looked).symm),
        referencesInItems_eq_nil]
      exact kept_references
  | @map kind stamp entries looked unscoped =>
      have lengths : values.length ≤ (Entries.keys entries).length := by
        rw [length]
        simp [Entries.keys, Entries.values]
      have inner : Entries.values (((Entries.keys entries).zip values).filter
          (!resolver.drops ·.2)) = values.filter (!resolver.drops ·) := by
        have second : ((Entries.keys entries).zip values).map Prod.snd = values :=
          List.map_snd_zip lengths
        unfold Entries.values
        conv_rhs => rw [← second, List.filter_map]
        rfl
      have noDefaults : Entries.has (Entries.arrange true (((Entries.keys entries).zip values).filter
          (!resolver.drops ·.2))) resolver.defaultsKey = false := by
        rw [Entries.has_arrange]
        exact Entries.has_of_sublist List.filter_sublist (Entries.has_zip unscoped values)
      rw [Term.references_map (Classifier.kind_plainMap (Classifier.kind_of_classify looked).symm),
        referencesInEntries_eq_nil noDefaults]
      refine Iff.trans ?_ kept_references
      rw [← inner]
      have perm := (Entries.arrange_perm true (((Entries.keys entries).zip values).filter
        (!resolver.drops ·.2))).map Prod.snd
      exact forall_congr' fun t => imp_congr_left perm.mem_iff

/-- Strict settings accept siblings exactly if they accept each of them. -/
theorem Siblings.acceptsResult (siblings : resolver.Siblings items whole gather)
    (length : values.length = items.length) {value : Term}
    (same : value.outline true = gather (values.map (Term.outline true))) :
    resolver.AcceptsResult value ↔ ∀ result ∈ values, resolver.AcceptsResult result := by
  have left : value.references resolver.classifier resolver.config.defaultsKey = [] ↔
      ∀ result ∈ values, result.references resolver.classifier resolver.config.defaultsKey = [] := by
    rw [← Term.references_outline_eq_nil true, same,
      siblings.references_gather ((List.length_map _).trans length)]
    simp only [List.forall_mem_map, Term.references_outline_eq_nil]
  unfold AcceptsResult
  rw [left]
  constructor
  · exact fun accepts result member strict =>
      ⟨siblings.tells.check result, (accepts strict).2 result member⟩
  · exact fun accepts strict =>
      ⟨siblings.tells.check value, fun result member => (accepts result member strict).2⟩

end Resolver

namespace Meaning

variable {meaning : Meaning} {bindings : Bindings}

theorem evaluatesEntries_arrange {entries values : Entries} :
    meaning.EvaluatesEntries bindings (Entries.arrange true entries) values ↔
      ∃ found, meaning.EvaluatesEntries bindings entries found ∧ values = Entries.arrange true found := by
  simp only [← traverse_evaluates, Entries.traverse_arrange, Option.map_eq_some_iff]
  constructor
  · rintro ⟨depth, found, valued, rfl⟩
    exact ⟨found, ⟨depth, valued⟩, rfl⟩
  · rintro ⟨found, ⟨depth, valued⟩, rfl⟩
    exact ⟨depth, found, valued, rfl⟩

theorem evaluatesEntries_iff {entries values : Entries} :
    meaning.EvaluatesEntries bindings entries values ↔ ∃ results,
      List.Forall₂ (meaning.Evaluates bindings) (Entries.values entries) results ∧
        values = (Entries.keys entries).zip results := by
  constructor
  · intro each
    induction each with
    | nil => exact ⟨[], .nil, rfl⟩
    | @cons entry value _ _ first _ ih =>
        obtain ⟨results, others, rfl⟩ := ih
        obtain ⟨key, result⟩ := value
        obtain ⟨rfl, valued⟩ := first
        exact ⟨result :: results, .cons valued others, rfl⟩
  · rintro ⟨results, each, rfl⟩
    induction entries generalizing results with
    | nil => exact .nil
    | cons entry rest ih =>
        cases each with
        | cons first others => exact .cons ⟨rfl, first⟩ (ih _ others)

/-- Siblings have a value exactly if each of them does. -/
theorem evaluates_siblings {items : List Term} {whole value : Term} {gather : List Term → Term}
    (siblings : meaning.resolver.Siblings items whole gather) :
    meaning.Evaluates bindings (whole.outline true) value ↔ ∃ values,
      List.Forall₂ (meaning.Evaluates bindings) (items.map (Term.outline true)) values ∧
        value = gather values := by
  have tells := siblings.tells
  cases siblings with
  | @list kind stamp items looked =>
      have outlined : meaning.resolver.classifier.classify
          (.list kind none (items.map (Term.outline true))) = .ok .sequence := by
        rw [← Term.outline_list, Classifier.classify_outline]
        exact looked
      rw [Term.outline_list, evaluates_list outlined]
      exact exists_congr fun values => and_congr_right fun _ =>
        and_iff_right (tells.checkValues values)
  | @map kind stamp entries looked unscoped =>
      have outlined : meaning.resolver.classifier.classify (.map kind none
          (Entries.arrange true (Entries.mapValues (Term.outline true) entries))) = .ok .mapping := by
        rw [Entries.arrange_mapValues, ← Term.outline_map, Classifier.classify_outline]
        exact looked
      have noDefaults : Entries.find? (Entries.arrange true
          (Entries.mapValues (Term.outline true) entries)) meaning.resolver.defaultsKey = none := by
        rw [Entries.find?_arrange, Entries.find?_mapValues, Entries.has_eq_false_iff.1 unscoped,
          Option.map_none]
      have keys : Entries.keys (Entries.mapValues (Term.outline true) entries) = Entries.keys entries :=
        Entries.keys_mapValues _ _
      have inner : Entries.values (Entries.mapValues (Term.outline true) entries) =
          (Entries.values entries).map (Term.outline true) := by
        simp [Entries.values, Entries.mapValues]
      rw [Term.outline_map, ← Entries.arrange_mapValues, evaluates_map outlined noDefaults]
      constructor
      · rintro ⟨_, arranged, _, rfl⟩
        obtain ⟨_, found, rfl⟩ := evaluatesEntries_arrange.1 arranged
        obtain ⟨values, each, rfl⟩ := evaluatesEntries_iff.1 found
        rw [keys, ← Entries.arrange_filter]
        exact ⟨values, inner ▸ each, rfl⟩
      · rintro ⟨values, each, rfl⟩
        refine ⟨_, evaluatesEntries_arrange.2 ⟨_, evaluatesEntries_iff.2 ⟨values, ?_, rfl⟩, rfl⟩,
          tells.checkValues _, ?_⟩
        · rw [inner]
          exact each
        · rw [keys, ← Entries.arrange_filter]

end Meaning

namespace Resolver

section Runs

variable {resolver : Resolver Term} {items : List Term} {whole : Term}
  {gather : List Term → Term} {env : Environment Term} {given : Option CacheId} {world : World}
  {functions : Term → Prop} {apply : Term → List Term → Option Term}

def eventsIn {α : Type} (cache : CacheId) (result : EStateM.Result Failure World α) : List Event :=
  match result with
  | .ok _ done | .error _ done => (done.cache cache).events

/--
A resolution alone, in which fingerprints tell apart the environments that arise, and no limit is
met.
-/
structure Settles (resolver : Resolver Term) (env : Environment Term) (given : Option CacheId)
    (stack : Stack) (world : World) (t : Term) : Prop where
  discerns : Discerns true (eventsIn (world.tableFor given) (resolver.resolve t env given stack world))
  unlimited : ∀ failure done, resolver.resolve t env given stack world = .error failure done →
    failure.isLimit = false

/-- The check of a result notes nothing. -/
theorem eventsIn_resolve (cache : CacheId) (t : Term) :
    eventsIn cache (resolver.resolve t env given stack world) =
      eventsIn cache (resolveLeniently (resolveTerm stack.ceiling stack.levels) resolver t env given world) := by
  unfold resolve resolveWith
  simp only [Bind.bind, EStateM.bind]
  cases resolveLeniently (resolveTerm stack.ceiling stack.levels) resolver t env given world with
  | error failure done => rfl
  | ok value done =>
      have checked := after_checkResult resolver env value done
      unfold After at checked
      dsimp only
      generalize resolver.checkResult env value done = ends at checked
      cases ends with
      | ok _ done' =>
          obtain ⟨rfl, _⟩ := checked
          rfl
      | error failure done' =>
          obtain ⟨rfl, _⟩ := checked
          rfl

variable (rules : resolver.rules = Rule.standard)
  (pure : (Domain.discerning functions ⟨resolver, env.pinned, apply⟩ true).IsPure)
  (new : ∀ id, (given <|> world.active) = some id →
    id < world.caches.length ∧ world.cache id = .empty)
  (bindings : env.EachBinding (Term.Declarative functions))

include rules pure new bindings

/-- Where fingerprints tell, a resolution gives the value of a term, if that is accepted. -/
theorem Settles.ends {t : Term} (settles : Settles resolver env given stack world t)
    (declared : t.Declarative functions) :
    (∀ value done, resolver.resolve t env given stack world = .ok value done →
      (Meaning.mk resolver env.pinned apply).Evaluates (env.bindings true) (t.outline true)
        (value.outline true) ∧ resolver.AcceptsResult value) ∧
    ∀ result, (Meaning.mk resolver env.pinned apply).Evaluates (env.bindings true)
        (t.outline true) result →
      ∃ value, value.outline true = result ∧ (resolver.AcceptsResult value →
        ∃ done, resolver.resolve t env given stack world = .ok value done) := by
  let domain := Domain.discerning functions ⟨resolver, env.pinned, apply⟩ true
  have lawful : domain.Lawful := Domain.lawful_discerning rules pure
  have admits : domain.admits () env := ⟨bindings, rfl⟩
  have reached : domain.reached () world.nextStamp := trivial
  have discerns := settles.discerns
  have ends := lawful.resolveLeniently stack.ceiling stack.levels new reached declared admits
  rw [eventsIn_resolve] at discerns
  constructor
  · intro value done run
    obtain ⟨found, accepts⟩ := resolveWith_eq_ok.1 run
    rw [found] at discerns
    exact ⟨(ends.of_ok found).2 discerns, accepts⟩
  · rintro result ⟨depth, evaluates⟩
    cases found : resolveLeniently (resolveTerm stack.ceiling stack.levels) resolver t env given world with
    | ok value done =>
        rw [found] at discerns
        have valued := (ends.of_ok found).2 discerns
        exact ⟨value, Meaning.Evaluates.unique valued ⟨depth, evaluates⟩, fun accepts =>
          ⟨done, resolveWith_eq_ok.2 ⟨found, accepts⟩⟩⟩
    | error failure done =>
        rw [found] at discerns
        have limited := ends.of_error found discerns depth result evaluates fun entry member =>
          absurd member List.not_mem_nil
        have run : resolver.resolve t env given stack world = .error failure done := by
          unfold resolve resolveWith
          simp only [Bind.bind, EStateM.bind, found]
        rw [settles.unlimited failure done run] at limited
        cases limited

/-- Terms that have values are resolved to them, if these are accepted. -/
theorem Settles.each {terms found : List Term}
    (alone : ∀ t ∈ terms, Settles resolver env given stack world t)
    (declared : ∀ t ∈ terms, t.Declarative functions)
    (valued : List.Forall₂ ((Meaning.mk resolver env.pinned apply).Evaluates (env.bindings true))
      (terms.map (Term.outline true)) found) :
    ∃ values, found = values.map (Term.outline true) ∧
      List.Forall₂ (fun t value => resolver.AcceptsResult value →
        ∃ done, resolver.resolve t env given stack world = .ok value done) terms values := by
  induction terms generalizing found with
  | nil =>
      cases valued
      exact ⟨[], rfl, .nil⟩
  | cons t rest ih =>
      obtain ⟨first, others⟩ := List.forall_mem_cons.1 alone
      obtain ⟨firstDeclared, othersDeclared⟩ := List.forall_mem_cons.1 declared
      cases valued with
      | cons here later =>
          obtain ⟨value, rfl, returns⟩ :=
            (first.ends rules pure new bindings firstDeclared).2 _ here
          obtain ⟨values, rfl, more⟩ := ih others othersDeclared later
          exact ⟨value :: values, rfl, .cons returns more⟩

/--
With the built-in rules and a new table, siblings are resolved to what each of them is resolved to
alone, and fail exactly if one of them does, provided that fingerprints tell apart the environments
that arise, that functions are pure, and that no limit is met.
-/
theorem resolve_siblings (siblings : resolver.Siblings items whole gather)
    (declared : whole.Declarative functions) (together : Settles resolver env given stack world whole)
    (alone : ∀ item ∈ items, Settles resolver env given stack world item) (result : Term) :
    (∃ value done, resolver.resolve whole env given stack world = .ok value done ∧
        value.outline true = result) ↔
      ∃ values, List.Forall₂ (fun item value => ∃ done,
          resolver.resolve item env given stack world = .ok value done) items values ∧
        result = gather (values.map (Term.outline true)) := by
  have parts : ∀ item ∈ items, item.Declarative functions := by
    cases siblings with
    | list => exact (Term.everywhere_list.1 declared).2
    | map => exact List.forall_mem_map.2 (Term.everywhere_map.1 declared).2
  have ends := together.ends rules pure new bindings declared
  constructor
  · rintro ⟨value, done, run, rfl⟩
    obtain ⟨valued, accepts⟩ := ends.1 value done run
    obtain ⟨found, each, same⟩ := (Meaning.evaluates_siblings siblings).1 valued
    obtain ⟨values, rfl, returns⟩ := Settles.each rules pure new bindings alone parts each
    have accepted := (siblings.acceptsResult returns.length_eq.symm same).1 accepts
    refine ⟨values, List.forall₂_iff_zip.2 ⟨returns.length_eq, fun member => ?_⟩, same⟩
    exact (List.forall₂_iff_zip.1 returns).2 member (accepted _ (List.of_mem_zip member).2)
  · rintro ⟨values, each, rfl⟩
    have returned : List.Forall₂ (fun item value =>
        (Meaning.mk resolver env.pinned apply).Evaluates (env.bindings true) (item.outline true)
          (value.outline true) ∧ resolver.AcceptsResult value) items values := by
      have known : ∀ item ∈ items, Settles resolver env given stack world item ∧
          item.Declarative functions := fun item member => ⟨alone item member, parts item member⟩
      refine ((List.forall₂_and_left items values).2 ⟨known, each⟩).imp ?_
      rintro item value ⟨⟨settles, part⟩, done, run⟩
      exact (settles.ends rules pure new bindings part).1 value done run
    have valued : List.Forall₂ ((Meaning.mk resolver env.pinned apply).Evaluates (env.bindings true))
        (items.map (Term.outline true)) (values.map (Term.outline true)) := by
      rw [List.forall₂_map_left_iff, List.forall₂_map_right_iff]
      exact returned.imp fun _ _ ends => ends.1
    have flipped : List.Forall₂ (fun value item => resolver.AcceptsResult value ∧
        (Meaning.mk resolver env.pinned apply).Evaluates (env.bindings true) (item.outline true)
          (value.outline true)) values items :=
      .flip (returned.imp fun _ _ ends => ends.symm)
    have accepted := ((List.forall₂_and_left values items).1 flipped).1
    obtain ⟨value, same, returns⟩ := ends.2 _ ((Meaning.evaluates_siblings siblings).2 ⟨_, valued, rfl⟩)
    obtain ⟨done, run⟩ := returns ((siblings.acceptsResult each.length_eq.symm same).2 accepted)
    exact ⟨value, done, run, same⟩

end Runs

/-! ## A leaf and a collection under one name -/

/-- A run that returns settles if no two of the environments in it have one fingerprint. -/
theorem settles_of_scopes {resolver : Resolver Term} {t : Term} {env : Environment Term}
    {given : Option CacheId} {world : World} {scopes envs : List (Environment Term)}
    (returns : ∃ value done, resolver.resolve t env given stack world = .ok value done)
    (noted : (eventsIn (world.tableFor given)
      (resolver.resolve t env given stack world)).filterMap Event.scope? = scopes)
    (among : scopes ⊆ envs) (nodup : (envs.map Environment.fingerprint).Nodup) :
    Settles resolver env given stack world t := by
  have inside : ∀ {env'}, Arises (eventsIn (world.tableFor given)
      (resolver.resolve t env given stack world)) env' → env' ∈ envs := by
    rintro env' ⟨event, member, here⟩
    exact among (noted ▸ List.mem_filterMap.2 ⟨event, member, here⟩)
  refine ⟨fun env env' arises arises' same => ?_, fun failure done failed => ?_⟩
  · rw [List.inj_on_of_nodup_map nodup (inside arises) (inside arises') same]
  · obtain ⟨value, done', run⟩ := returns
    rw [run] at failed
    cases failed

def leafing (type : ValueType) : Resolver Term :=
  ⟨.standard, ⟨[type], none⟩, Rule.standard⟩

def showing (name : String) (binding : Term) : Term := .map .plain none [
  (.str "::defaults", .map .plain none [(.str name, binding)]), (.str "v", .ref name)]

def rowsAndList : List Term :=
  [showing "K" (.list .rows none [.ref "A"]), showing "K" (.list .plain none [.ref "A"])]

theorem rows_beside_list : ∃ value done,
    (leafing ⟨"data", "Rows"⟩).resolve (.list .plain none rowsAndList)
        ⟨[[(.str "A", .str "x")]], []⟩ none .usual .empty = .ok value done ∧
      value.outline true = .list .plain none [
        .map .plain none [(.str "v", .list .rows none [.ref "A"])],
        .map .plain none [(.str "v", .list .plain none [.str "x"])]] := by
  have new := World.new_of_idle (show World.empty.active = none from rfl)
  have rules : (leafing ⟨"data", "Rows"⟩).rules = Rule.standard := rfl
  have siblings : (leafing ⟨"data", "Rows"⟩).Siblings rowsAndList (.list .plain none rowsAndList) _ :=
    .list rfl
  have pure : (Domain.discerning (fun _ => False)
      ⟨leafing ⟨"data", "Rows"⟩, fun _ => false, fun _ _ => none⟩ true).IsPure := by
    intro stage world stamp name deps doc callee args ceiling levels _ holds
    exact (holds.here.known rfl).elim
  have name : ∀ s, (Term.ref s).Declarative fun _ => False :=
    fun _ => Term.everywhere_of_inner rfl ⟨nofun, rfl, nofun⟩
  have text : ∀ s, (Term.str s).Declarative fun _ => False :=
    fun _ => Term.everywhere_of_inner rfl ⟨nofun, rfl, nofun⟩
  have map : ∀ entries : Entries, (Term.map .plain none entries).IsDeclarative fun _ => False :=
    fun _ => ⟨nofun, rfl, nofun⟩
  have list : ∀ kind items, (Term.list kind none items).IsDeclarative fun _ => False :=
    fun _ _ => ⟨nofun, rfl, nofun⟩
  have declared : (Term.list .plain none rowsAndList).Declarative fun _ => False := by
    simp [rowsAndList, showing, Term.everywhere_map, Term.everywhere_list, name, map, list]
  have bindings : Environment.EachBinding (Term.Declarative fun _ => False)
      ⟨[[(.str "A", .str "x")]], []⟩ := by
    simp [Environment.eachBinding_iff, text]
  let rows : Environment Term :=
    ⟨[[(.str "A", .str "x")], [(.str "K", .list .rows none [.ref "A"])]], []⟩
  let plain : Environment Term :=
    ⟨[[(.str "A", .str "x")], [(.str "K", .list .plain none [.ref "A"])]], []⟩
  have nodup : ([rows, plain].map Environment.fingerprint).Nodup := by decide
  have together : Settles (leafing ⟨"data", "Rows"⟩) ⟨[[(.str "A", .str "x")]], []⟩ none .usual .empty
      (.list .plain none rowsAndList) := by
    have among : [plain, plain, rows] ⊆ [rows, plain] := by simp
    exact settles_of_scopes ⟨_, _, rfl⟩ rfl among nodup
  have alone : ∀ item ∈ rowsAndList,
      Settles (leafing ⟨"data", "Rows"⟩) ⟨[[(.str "A", .str "x")]], []⟩ none .usual .empty item := by
    refine List.forall_mem_cons.2 ⟨?_, List.forall_mem_singleton.2 ?_⟩
    · have among : [rows] ⊆ [rows, plain] := by simp
      exact settles_of_scopes ⟨_, _, rfl⟩ rfl among nodup
    · have among : [plain, plain] ⊆ [rows, plain] := by simp
      exact settles_of_scopes ⟨_, _, rfl⟩ rfl among nodup
  refine (resolve_siblings rules pure new bindings siblings declared together alone _).2
    ⟨[.map .plain none [(.str "v", .list .rows none [.ref "A"])],
      .map .plain none [(.str "v", .list .plain none [.str "x"])]], ?_, rfl⟩
  exact .cons ⟨_, rfl⟩ (.cons ⟨_, rfl⟩ .nil)

/-- A frame that is a leaf, and a mapping of the same entries. -/
def frameAndMap : List Term :=
  [showing "K" (.map .frame none [(.str "x", .ref "A")]),
    showing "K" (.map .plain none [(.str "x", .ref "A")])]

/-- A frame has the content of a mapping, and so the second part shows the frame of the first one. -/
theorem frame_confused : ∃ first done alone done' second,
    frameAndMap[1]? = some second ∧
    (leafing ⟨"data", "Frame"⟩).resolve (.list .plain none frameAndMap)
        ⟨[[(.str "A", .str "one")]], []⟩ none .usual .empty =
      .ok (.list .plain none
        [first, .map .plain none [(.str "v", .map .frame none [(.str "x", .ref "A")])]]) done ∧
    (leafing ⟨"data", "Frame"⟩).resolve second ⟨[[(.str "A", .str "one")]], []⟩ none .usual .empty =
      .ok alone done' ∧
    alone.outline true ≠
      .map .plain none [(.str "v", .map .frame none [(.str "x", .ref "A")])] := by
  refine ⟨_, _, .map .plain none [(.str "v", .map .plain none [(.str "x", .str "one")])], _, _,
    rfl, rfl, rfl, ?_⟩
  simp [Entries.mapValues, Entries.arrange, Content.sortEntries, Content.insertEntry]

end Resolver

end ScopedTemplate
