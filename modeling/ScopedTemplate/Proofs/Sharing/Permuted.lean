import Mathlib.Data.List.Nodup
import ScopedTemplate.Proofs.Sharing.Comparable
import ScopedTemplate.Proofs.Term.Codes

/-!
# The order of siblings

Siblings share a table, so that one of them finds what another one left there.  Yet the order in which
they stand in a mapping decides at most whether a limit is met.
-/

namespace ScopedTemplate

variable {stack : Stack}

open Run

/-! ## Mappings in another order -/

namespace Entries

variable {entries entries' : Entries}

/-- Distinct keys are in one order only when they are sorted. -/
theorem arrange_of_perm {among : Term → Prop} (apart : Discernible among)
    (keyed : Entries.Keyed among entries) (perm : entries.Perm entries') :
    arrange true entries = arrange true entries' := by
  have ranked := perm.map fun entry => (entry.1.rank, entry)
  have sorted := ((Content.sortEntries_perm _).trans ranked).trans (Content.sortEntries_perm _).symm
  unfold arrange
  rw [if_pos rfl, if_pos rfl]
  refine congrArg (List.map Prod.snd) (sorted.eq_of_pairwise ?_ (Content.sortEntries_ascends _)
    (Content.sortEntries_ascends _))
  -- no two entries have keys of one rank, so that those of one place are the same
  intro one other member member' before after
  obtain ⟨entry, listed, rfl⟩ := List.mem_map.1 ((Content.sortEntries_perm _).mem_iff.1 member)
  obtain ⟨entry', listed', rfl⟩ := List.mem_map.1 ((Content.sortEntries_perm _).mem_iff.1 member')
  have listed' := perm.mem_iff.2 listed'
  have ranks : entry.1.rank = entry'.1.rank := Key.ble_antisymm before after
  have keys := apart.eq_of_rank (keyed.keyed _ (List.mem_map_of_mem listed))
    (keyed.keyed _ (List.mem_map_of_mem listed')) ranks
  rw [List.inj_on_of_nodup_map keyed.nodup listed listed' keys]

end Entries

/-- A mapping has one outline in any order. -/
theorem Term.outline_of_perm {among : Term → Prop} (apart : Discernible among)
    {kind : MapKind} {stamp : Option Stamp} {entries entries' : Entries}
    (keyed : Entries.Keyed among entries) (perm : entries.Perm entries') :
    (Term.map kind stamp entries).outline true = (Term.map kind stamp entries').outline true := by
  rw [outline_map, outline_map, Entries.arrange_of_perm apart keyed perm]

/-- What has the outline of a mapping is one. -/
theorem Term.isMap_of_outline {value : Term} {kind : MapKind} {stamp : Option Stamp} {entries : Entries}
    (same : value.outline true = .map kind stamp entries) :
    ∃ own found, value = .map kind own found := by
  cases value with
  | map kind' own found =>
      rw [outline_map] at same
      cases same
      exact ⟨own, found, rfl⟩
  | list _ _ _ =>
      rw [outline_list] at same
      cases same
  | tuple _ _ =>
      rw [outline_tuple] at same
      cases same
  | _ => cases same

/-- Outlines of mappings that are equal have the same entries, in some order. -/
theorem Term.perm_of_outline {kind kind' : MapKind} {stamp stamp' : Option Stamp}
    {entries entries' : Entries} (same : (Term.map kind stamp entries).outline true =
      (Term.map kind' stamp' entries').outline true) :
    (Entries.mapValues (outline true) entries).Perm (Entries.mapValues (outline true) entries') := by
  rw [outline_map, outline_map] at same
  injection same with _ _ same
  rw [← Entries.arrange_mapValues, ← Entries.arrange_mapValues] at same
  refine (Entries.arrange_perm true _).symm.trans ?_
  rw [same]
  exact Entries.arrange_perm true _

namespace Meaning

variable {meaning : Meaning} {bindings : Bindings}

theorem gathered_isMap {value : Bindings → Term → Option Term} {entries : Entries} {result : Term}
    (found : gathered meaning value bindings entries = some result) :
    ∃ entries, result = .map .plain none entries := by
  obtain ⟨values, _, found⟩ := Option.bind_eq_some_iff.1 found
  obtain ⟨_, _, found⟩ := Option.bind_eq_some_iff.1 found
  cases found
  exact ⟨_, rfl⟩

/-- The value of a mapping is a mapping. -/
theorem Evaluates.isMap {entries : Entries} {result : Term}
    (valued : meaning.Evaluates bindings (.map .plain none entries) result) :
    ∃ entries, result = .map .plain none entries := by
  obtain ⟨depth, found⟩ := valued
  cases depth with
  | zero => cases found
  | succ depth =>
      obtain ⟨kind, _, found⟩ := Option.bind_eq_some_iff.1 found
      cases kind with
      | mapping =>
          change mapped meaning _ bindings entries = some result at found
          unfold mapped at found
          split at found
          · exact gathered_isMap found
          · exact gathered_isMap found
          · cases found
      | scalar | removed =>
          cases found
          exact ⟨entries, rfl⟩
      | _ => cases found

end Meaning

/-! ## Templates of one outline -/

namespace Domain

variable {domain : Domain} {stage : domain.Stage} {world : World} {env : Environment Term}
  {given : Option CacheId} {t u : Term}

/-- Templates of one outline have equal results, and one of them has none beside the other at a limit only. -/
theorem Lawful.resolve_alike (lawful : domain.Lawful) (sorts : domain.sorts = true)
    (trusts : ∀ events, domain.trusts events)
    (new : ∀ id, (given <|> world.active) = some id →
      id < world.caches.length ∧ world.cache id = .empty)
    (reached : domain.reached stage world.nextStamp) (holds : domain.Holds stage t)
    (holds' : domain.Holds stage u) (admits : domain.admits stage env)
    (outlines : t.outline true = u.outline true) {value : Term} {done : World}
    (returned : domain.meaning.resolver.resolve t env given stack world = .ok value done) :
    (∀ value' done', domain.meaning.resolver.resolve u env given stack world = .ok value' done' →
      value.outline true = value'.outline true) ∧
    ∀ failure done', domain.meaning.resolver.resolve u env given stack world = .error failure done' →
      failure.isLimit = true := by
  have resolves := lawful.resolve_accepted stack sorts trusts new reached holds' admits
  obtain ⟨valued, accepts⟩ :=
    (lawful.resolve_accepted stack sorts trusts new reached holds admits).of_ok returned
  have valued' : domain.Valued env u value := by
    unfold Valued at valued ⊢
    rw [sorts] at valued ⊢
    rw [← outlines]
    exact valued
  constructor
  · intro value' done' returned'
    have same := valued'.unique (resolves.of_ok returned').1
    rw [sorts] at same
    exact same
  · intro failure done' failed
    exact resolves.of_error failed value valued' accepts

end Domain

namespace Resolver

variable {resolver : Resolver Term} {env : Environment Term} {given : Option CacheId}
  {world : World} {functions among : Term → Prop} {apply : Term → List Term → Option Term}
  {labels : List Term} {stamp : Option Stamp} {entries entries' : Entries}

/--
With the built-in rules, a new table, keys that are told apart, and pure functions that ignore the
order of mappings, a mapping has the same keys with equal values in any order of its entries, and it
has a value in one order if it has one in the other, unless a limit is met.
-/
theorem resolve_permuted (rules : resolver.rules = Rule.standard) (apart : Discernible among)
    (pure : (Domain.comparable functions among ⟨resolver, env.pinned, apply⟩).IsPure)
    (new : ∀ id, (given <|> world.active) = some id →
      id < world.caches.length ∧ world.cache id = .empty)
    (labelled : labels.length = world.nextStamp)
    (holds : (Domain.comparable functions among ⟨resolver, env.pinned, apply⟩).Holds labels
      (.map .plain stamp entries))
    (admits : (Domain.comparable functions among ⟨resolver, env.pinned, apply⟩).admits labels env)
    (perm : entries.Perm entries') :
    (∀ value done value' done',
      resolver.resolve (.map .plain stamp entries) env given stack world = .ok value done →
      resolver.resolve (.map .plain stamp entries') env given stack world = .ok value' done' →
        ∃ own found own' found', value = .map .plain own found ∧ value' = .map .plain own' found' ∧
          (Entries.mapValues (Term.outline true) found).Perm
            (Entries.mapValues (Term.outline true) found')) ∧
    (((∃ value done, resolver.resolve (.map .plain stamp entries) env given stack world = .ok value done) ↔
        ∃ value done, resolver.resolve (.map .plain stamp entries') env given stack world = .ok value done) ∨
      ∃ failure done, failure.isLimit = true ∧
        (resolver.resolve (.map .plain stamp entries) env given stack world = .error failure done ∨
          resolver.resolve (.map .plain stamp entries') env given stack world = .error failure done)) := by
  let domain := Domain.comparable functions among ⟨resolver, env.pinned, apply⟩
  have lawful : domain.Lawful := Domain.lawful_comparable rules apart pure
  -- both orders have one outline, which decides what either run can return
  obtain ⟨⟨_, keyed, own⟩, inner⟩ := Term.everywhere_map.1 holds
  have outlines : (Term.map .plain stamp entries).outline true =
      (Term.map .plain stamp entries').outline true := Term.outline_of_perm apart keyed perm
  have holds' : domain.Holds labels (.map .plain stamp entries') := by
    refine Term.everywhere_map.2 ⟨⟨rfl, keyed.perm perm, ?_⟩, ?_⟩
    · unfold Term.Labelled at own ⊢
      rw [← outlines]
      exact own
    · exact fun entry member => inner entry (perm.mem_iff.2 member)
  have trusts : ∀ events, domain.trusts events := fun _ => trivial
  constructor
  · intro value done value' done' returned returned'
    have same := (lawful.resolve_alike rfl trusts new labelled holds holds' admits outlines
      returned).1 value' done' returned'
    have valued : domain.Valued env (.map .plain stamp entries) value :=
      ((lawful.resolve_accepted stack rfl trusts new labelled holds admits).of_ok returned).1
    unfold Domain.Valued at valued
    rw [show domain.sorts = true from rfl, Term.outline_map] at valued
    obtain ⟨_, isMap⟩ := valued.isMap
    obtain ⟨own, found, rfl⟩ := Term.isMap_of_outline isMap
    obtain ⟨own', found', rfl⟩ := Term.isMap_of_outline (same.symm.trans isMap)
    exact ⟨own, found, own', found', rfl, rfl, Term.perm_of_outline same⟩
  · cases first : resolver.resolve (.map .plain stamp entries) env given stack world with
    | ok value done =>
        cases second : resolver.resolve (.map .plain stamp entries') env given stack world with
        | ok value' done' => exact .inl ⟨fun _ => ⟨value', done', rfl⟩, fun _ => ⟨value, done, rfl⟩⟩
        | error failure done' =>
            have limited := (lawful.resolve_alike rfl trusts new labelled holds holds' admits
              outlines first).2 failure done' second
            exact .inr ⟨failure, done', limited, .inr rfl⟩
    | error failure done =>
        cases second : resolver.resolve (.map .plain stamp entries') env given stack world with
        | ok value' done' =>
            have limited := (lawful.resolve_alike rfl trusts new labelled holds' holds admits
              outlines.symm second).2 failure done first
            exact .inr ⟨failure, done, limited, .inl rfl⟩
        | error failure' done' => exact .inl ⟨nofun, nofun⟩

def IsPlainKey (key : Term) : Prop := (∃ s, key = .str s) ∨ ∃ bs, key = .bytes bs

theorem discernible_plainKeys : Discernible IsPlainKey where
  hashed := by
    rintro _ (⟨s, rfl⟩ | ⟨bs, rfl⟩)
    · exact ⟨_, Term.key?_text _ _⟩
    · exact ⟨_, rfl⟩
  same := by
    rintro _ _ (⟨s, rfl⟩ | ⟨bs, rfl⟩) (⟨s', rfl⟩ | ⟨bs', rfl⟩) same
    · rw [Term.sameKey_text] at same
      rw [beq_iff_eq.1 same]
    · simp [Term.sameKey, Term.key?] at same
    · simp [Term.sameKey, Term.key?] at same
    · simpa [Term.sameKey, Term.key?] using same

/-- A function of a name that is bound by defaults, and a name that is bound outside. -/
def siblings : Entries := [
  (.str "a", .map .plain none [
    (.str "::defaults", .map .plain none [(.str "A", .ref "B")]), (.str "v", .keeper "A")]),
  (.bytes [1], .ref "B")]

def siblingValues : Entries := [
  (.str "a", .map .plain none [(.str "v", .bytes [1])]),
  (.bytes [1], .bytes [1])]

def siblingNames : Environment Term := ⟨[[(.str "B", .bytes [1])]], []⟩

def siblingWorld : World := { World.empty with nextStamp := 2 }

def siblingDomain : Domain :=
  Domain.comparable (· = .keeper "A") IsPlainKey
    ⟨standard, siblingNames.pinned, fun _ args => args[0]?⟩

theorem isPure_siblings : siblingDomain.IsPure := by
  refine Domain.isPure_keeper "A" (fun labels => List.prefix_refl labels) rfl ?_
  intro labels t fits isFunction
  have comparable : t.IsComparable (· = .keeper "A") IsPlainKey labels := fits
  exact comparable.known isFunction

theorem holds_siblings :
    siblingDomain.Holds [.keeper "A", .null] (.map .plain none siblings) := by
  have ref : siblingDomain.Holds [.keeper "A", .null] (.ref "B") := Term.everywhere_of_inner rfl trivial
  have keeper : siblingDomain.Holds [.keeper "A", .null] (.keeper "A") := by
    refine Term.everywhere_of_inner rfl ⟨rfl, ?_⟩
    rintro own ⟨⟩
    rfl
  have defaults : siblingDomain.Holds [.keeper "A", .null] (.map .plain none [(.str "A", .ref "B")]) :=
    Domain.comparable_map ⟨by simp [Entries.keys, IsPlainKey], by simp [Entries.keys]⟩
      (List.forall_mem_singleton.2 ref)
  have entered : siblingDomain.Holds [.keeper "A", .null] (.map .plain none [
      (.str "::defaults", .map .plain none [(.str "A", .ref "B")]), (.str "v", .keeper "A")]) :=
    Domain.comparable_map ⟨by simp [Entries.keys, IsPlainKey], by simp [Entries.keys]⟩
      (List.forall_mem_cons.2 ⟨defaults, List.forall_mem_singleton.2 keeper⟩)
  exact Domain.comparable_map
    ⟨by simp [siblings, Entries.keys, IsPlainKey], by simp [siblings, Entries.keys]⟩
    (List.forall_mem_cons.2 ⟨entered, List.forall_mem_singleton.2 ref⟩)

theorem admits_siblingNames : siblingDomain.admits [.keeper "A", .null] siblingNames := by
  refine ⟨?_, ?_, rfl⟩
  · intro layer member
    rcases List.mem_cons.1 member with rfl | last
    · exact .nil
    · rw [List.mem_singleton.1 (List.mem_reverse.1 last)]
      exact List.pairwise_singleton _ _
  · refine Environment.eachBinding_iff.2 ⟨List.forall_mem_nil _, ?_⟩
    refine List.forall_mem_singleton.2 (List.forall_mem_singleton.2 ?_)
    exact Term.everywhere_of_inner rfl trivial

/-- Both have their values in either order. -/
theorem swapped_siblings : ∃ done done',
    standard.resolve (.map .plain none siblings) siblingNames none .usual siblingWorld =
      .ok (.map .plain none siblingValues) done ∧
    standard.resolve (.map .plain none siblings.reverse) siblingNames none .usual siblingWorld =
      .ok (.map .plain none siblingValues.reverse) done' ∧
    (Entries.mapValues (Term.outline true) siblingValues).Perm
      (Entries.mapValues (Term.outline true) siblingValues.reverse) := by
  have new : ∀ id, ((none : Option CacheId) <|> siblingWorld.active) = some id →
      id < siblingWorld.caches.length ∧ siblingWorld.cache id = .empty := by
    rintro id ⟨⟩
  obtain ⟨done, first⟩ : ∃ done, standard.resolve (.map .plain none siblings) siblingNames none .usual
      siblingWorld = .ok (.map .plain none siblingValues) done := ⟨_, rfl⟩
  obtain ⟨done', second⟩ : ∃ done', standard.resolve (.map .plain none siblings.reverse) siblingNames
      none .usual siblingWorld = .ok (.map .plain none siblingValues.reverse) done' := ⟨_, rfl⟩
  obtain ⟨_, _, _, _, isMap, isMap', perm⟩ := (resolve_permuted rfl discernible_plainKeys
    isPure_siblings new rfl holds_siblings admits_siblingNames
    (List.reverse_perm siblings).symm).1 _ _ _ _ first second
  injection isMap with _ _ same
  injection isMap' with _ _ same'
  subst same same'
  exact ⟨done, done', first, second, perm⟩

def shown (name : String) : Term :=
  .function 0 "show" [name] none (.callable .procedure 1 "show" "show" (.concat [.arg 0]))

def showingEntries (entries : Entries) : Term := .map .plain none [
  (.str "::defaults", .map .plain none [(.str "M", .map .plain none entries)]), (.str "v", shown "M")]

/-- Two siblings that show mappings, in an order and the other way around. -/
def showingBoth (entries entries' : Entries) : Entries :=
  [(.str "a", showingEntries entries), (.str "b", showingEntries entries')]

/-- The text that is shown by what is under a name. -/
def shows? (name : String) : EStateM.Result Failure World Term → Option String
  | .ok (.map _ _ entries) _ =>
    match Entries.find? entries (.str name) with
    | some (.map _ _ [(_, .text _ s)]) => some s
    | _ => none
  | _ => none

/-- Whether a limit was met, if there is no value. -/
def limitMet? : EStateM.Result Failure World Term → Option Bool
  | .ok _ _ => none
  | .error failure _ => some failure.isLimit

/-- Names that lead to each other. -/
def led : Environment Term :=
  ⟨[[(.str "A", .ref "B"), (.str "B", .ref "C"), (.str "C", .str "c")]], []⟩

/-- Settings for two nested lookups. -/
def twofold : Resolver Term := { standard with config := { Config.standard with maxDepth := 2 } }

/--
The order of siblings decides whether a limit is met, and which of two mappings a function is given
that differ in their order, or in the types of their keys.
-/
theorem siblings_in_order :
    (limitMet? (twofold.resolve (.map .plain none
          [(.str "a", .ref "A"), (.str "b", .ref "B"), (.str "c", .ref "C")]) led none .usual .empty) =
        some true ∧
      limitMet? (twofold.resolve (.map .plain none
          [(.str "c", .ref "C"), (.str "b", .ref "B"), (.str "a", .ref "A")]) led none .usual .empty) =
        none) ∧
    (shows? "b" (standard.resolve (.map .plain none
          (showingBoth [(.str "p", .null), (.str "q", .null)] [(.str "q", .null), (.str "p", .null)]))
          .empty none .usual { World.empty with nextStamp := 2 }) =
        some "\x7b\"map\":[[\"p\",null],[\"q\",null]]\x7d" ∧
      shows? "b" (standard.resolve (.map .plain none
          (showingBoth [(.str "p", .null), (.str "q", .null)]
            [(.str "q", .null), (.str "p", .null)]).reverse)
          .empty none .usual { World.empty with nextStamp := 2 }) =
        some "\x7b\"map\":[[\"q\",null],[\"p\",null]]\x7d") ∧
    shows? "b" (standard.resolve (.map .plain none
        (showingBoth [(.str "k", .null)] [(.ref "k", .null)]))
        .empty none .usual { World.empty with nextStamp := 2 }) =
      some "\x7b\"map\":[[\"k\",null]]\x7d" ∧
    shows? "b" (standard.resolve (.map .plain none
        (showingBoth [(.str "k", .null)] [(.ref "k", .null)]).reverse)
        .empty none .usual { World.empty with nextStamp := 2 }) =
      some "\x7b\"map\":[[\x7b\"ref\":\"k\"\x7d,null]]\x7d" := by
  refine ⟨⟨?_, ?_⟩, ⟨?_, ?_⟩, ?_, ?_⟩ <;> decide +kernel

end Resolver

end ScopedTemplate
