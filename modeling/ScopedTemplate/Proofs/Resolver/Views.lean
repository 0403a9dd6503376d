import ScopedTemplate.Proofs.Bindings.Scopes
import ScopedTemplate.Proofs.Resolver.Start

/-!
# Views

What a view answers is what the lookup of a name ends with, for the names that some scope binds; about
which names these are, membership, iteration and length agree.  Whoever has something to fall back on
does not see one kind of failure: that a key is missing, wherever in the lookup it was.
-/

namespace ScopedTemplate

variable {stack : Stack}

open Run

/-! ## Bound names -/

namespace Term

theorem keys?_ne_text {items : List Term} {s : String} : keys? items ≠ some (.text s) := by
  cases items with
  | nil => simp [keys?]
  | cons t rest =>
      rw [keys?]
      split <;> simp

/-- Only text is the same key as text. -/
theorem sameKey_str {t : Term} {s : String} : t.sameKey (.str s) = true ↔ t.text? = some s := by
  rw [sameKey_iff]
  simp only [str, key?_text, Option.some.injEq, existsAndEq, and_true]
  cases t with
  | text kind own => simp [text?, eq_comm]
  | tuple _ items | point _ items => simpa [text?, key?] using keys?_ne_text
  | float x => cases x <;> simp [text?, key?, Key.ofBinary64]
  | bool b => simp only [text?, key?, Key.ofBool, Key.ofInt, Option.some.injEq, reduceCtorEq]
  | int n => simp only [text?, key?, Key.ofInt, Option.some.injEq, reduceCtorEq]
  | _ => simp [text?, key?]

end Term

namespace Entries

variable {entries additions : Entries}

theorem Distinct.foldl_update {start : Entries} (distinct : Distinct start) (layers : List Entries) :
    Distinct (layers.foldl Entries.update start) := by
  induction layers generalizing start with
  | nil => exact distinct
  | cons layer rest ih => exact ih (distinct.update layer)

/-- The keys that are text are the text under which something is found. -/
theorem mem_keys_text {s : String} :
    (∃ key ∈ keys entries, key.text? = some s) ↔ has entries (.str s) = true := by
  rw [has_eq_any, List.any_eq_true]
  refine ⟨?_, ?_⟩
  · rintro ⟨key, member, text⟩
    obtain ⟨entry, inside, rfl⟩ := List.mem_map.1 member
    exact ⟨entry, inside, Term.sameKey_str.2 text⟩
  · rintro ⟨entry, inside, same⟩
    exact ⟨entry.1, List.mem_map.2 ⟨entry, inside, rfl⟩, Term.sameKey_str.1 same⟩

end Entries

namespace Environment

/-- Some layer has a name. -/
def Binds (env : Environment Term) (name : Term) : Prop :=
  ∃ layer ∈ env.layers, Entries.has layer name = true

theorem binds_iff {env : Environment Term} {name : Term} : env.binds name = true ↔ env.Binds name := by
  unfold binds lookup? Binds
  rw [List.findSome?_isSome_iff]
  rfl

/-- What the layers have is what they have merged. -/
theorem has_flatten {env : Environment Term} {name : Term} :
    Entries.has env.flatten name = true ↔ env.Binds name := by
  obtain ⟨scopes, overrides⟩ := env
  unfold Binds layers
  cases scopes with
  | nil => simp [flatten]
  | cons outermost inner =>
      simp only [flatten, Entries.has_foldl_update, List.any_append, List.any_cons, List.any_nil]
      simp only [Bool.or_eq_true, List.any_eq_true, List.mem_cons, List.mem_reverse]
      grind

/-- Merged layers are a mapping if each layer is one. -/
theorem distinct_flatten {env : Environment Term}
    (distinct : ∀ layer ∈ env.layers, Entries.Distinct layer) : Entries.Distinct env.flatten := by
  obtain ⟨scopes, overrides⟩ := env
  cases scopes with
  | nil => exact distinct _ List.mem_cons_self
  | cons outermost inner =>
      refine (distinct outermost ?_).foldl_update _
      exact List.mem_cons_of_mem _ (List.mem_reverse.2 List.mem_cons_self)

end Environment

/-! ## Readings -/

section

variable (resolution : Resolution) (resolver : Resolver Term) (env : Environment Term)
  (cache : CacheId) (stamp : Stamp) (world : World)

def Run.MissesKey (ends : Except Failure Term) : Prop :=
  ∃ failure, ends = .error failure ∧ failure.isMissingKey = true

/-- An end is another one, unless that says that a key is missing; then it is a fallback. -/
structure Run.FallsBack (fallback : Term) (ends answer : Except Failure Term) : Prop where
  same : ¬ MissesKey ends → answer = ends
  passed : MissesKey ends → answer = .ok fallback

namespace View

variable {env} {name : Term}

theorem has_iff : has env name = true ↔ ∃ kind s, name = .text kind s ∧ env.Binds name := by
  unfold has
  rw [Bool.and_eq_true, Environment.binds_iff]
  cases name <;> simp [Term.text?]

/-- A view reads a bound name as its lookup ends. -/
theorem outcome_item (bound : has env name = true) :
    outcome (item resolution resolver env cache name world) =
      outcome (lookupName resolution resolver env cache name world) := by
  unfold item
  rw [if_pos bound]
  simp only [bind, EStateM.bind]
  cases lookupName resolution resolver env cache name world <;> rfl

theorem item_of_unbound (unbound : has env name = false) :
    item resolution resolver env cache name world = .error (.missingKey name) world := by
  unfold item
  rw [if_neg (Bool.eq_false_iff.1 unbound)]
  rfl

/-- With a fallback a view reads a name as it does without one, unless a key is missing. -/
theorem fallsBack_itemOr (fallback : Term) :
    FallsBack fallback (outcome (item resolution resolver env cache name world))
      (outcome (itemOr resolution resolver env cache name fallback world)) := by
  unfold itemOr recover
  cases item resolution resolver env cache name world with
  | ok value done => exact ⟨fun _ => rfl, by rintro ⟨_, ⟨⟩, _⟩⟩
  | error failure done =>
      cases missing : failure.isMissingKey with
      | false =>
          refine ⟨fun _ => by simp [missing], ?_⟩
          rintro ⟨_, ⟨⟩, missing'⟩
          cases missing.symm.trans missing'
      | true =>
          refine ⟨fun there => (there ⟨failure, rfl, missing⟩).elim, fun _ => ?_⟩
          simp only [missing, if_true, bind]
          split <;> rfl

theorem itemOr_of_unbound (unbound : has env name = false) (fallback : Term) :
    itemOr resolution resolver env cache name fallback world = .ok fallback world := by
  unfold itemOr recover
  rw [item_of_unbound resolution resolver cache world unbound]
  simp [Failure.isMissingKey, unbound]
  rfl

/-- The members of views whose names are not reserved. -/
def openMembers : List String :=
  ["keys", "items", "values", "get", "_resolver", "_env", "_cache", "_abc_impl"]

def isReserved (name : String) : Bool := "__".toList.isPrefixOf name.toList

/-- A name that is in none of the tables that a list of names sums up. -/
theorem find?_eq_none_of_names {α : Type} {table : List (String × α)} {name : String}
    (free : isReserved name = false) (other : name ∉ openMembers)
    (known : ∀ listed ∈ table.map Prod.fst, isReserved listed = true ∨ listed ∈ openMembers) :
    table.find? (·.1 == name) = none := by
  rw [List.find?_eq_none]
  intro entry member same
  rw [beq_iff_eq] at same
  rcases known entry.1 (List.mem_map.2 ⟨entry, member, rfl⟩) with reserved | among
  · rw [same, free] at reserved
    cases reserved
  · exact other (same ▸ among)

theorem not_contains_of_names {table : List String} {name : String}
    (free : isReserved name = false) (known : ∀ listed ∈ table, isReserved listed = true) :
    table.contains name = false := by
  rw [Bool.eq_false_iff]
  intro among
  rw [known name (List.contains_iff_mem.1 among)] at free
  cases free

/-- A name that is neither reserved nor one of the open members is left to the bindings. -/
theorem member?_eq_none {name shown : String} {own : Stamp} (free : isReserved name = false)
    (other : name ∉ openMembers) : member? name shown own = none := by
  unfold member?
  rw [find?_eq_none_of_names free other (by decide), find?_eq_none_of_names free other (by decide),
    not_contains_of_names free (by decide), not_contains_of_names free (by decide),
    find?_eq_none_of_names free other (by decide), find?_eq_none_of_names free other (by decide)]
  rfl

/-- An open member is answered by the view itself. -/
theorem isSome_member? {name : String} (among : name ∈ openMembers) (shown : String) (own : Stamp) :
    (member? name shown own).isSome = true := by
  revert name
  simp only [openMembers, List.forall_mem_cons]
  exact ⟨rfl, rfl, rfl, rfl, rfl, rfl, rfl, rfl, nofun⟩

/-- A field is read as a name with null to fall back on. -/
theorem field_eq {name : String} (free : isReserved name = false) :
    field resolution resolver env cache name =
      itemOr resolution resolver env cache (.str name) .null := if_neg (Bool.eq_false_iff.1 free)

end View

/-- The lookup of a name on its own is what views resolve a name with. -/
theorem Resolver.cachedResolve_text (kind : TextKind) (s : String) :
    resolver.cachedResolve (.text kind s) env cache stack =
      lookupName (resolveTerm stack.ceiling stack.levels) resolver env cache (.text kind s) := rfl

variable {env} {stamp}

/-- A field that views do not answer by themselves is read as a name; a stamp is taken before. -/
theorem readField_eq {name : String} (free : View.isReserved name = false)
    (other : name ∉ View.openMembers) :
    Reading.field resolution (.view stamp resolver env cache) name world =
      View.itemOr resolution resolver env cache (.str name) .null
        { world with nextStamp := world.nextStamp + 1 } := by
  simp only [Reading.field, takeStamps, bind, EStateM.bind, View.member?_eq_none free other,
    View.field_eq resolution resolver cache free]

theorem readField_of_member {name : String} (among : name ∈ View.openMembers) :
    ∃ member done, Reading.field resolution (.view stamp resolver env cache) name world =
      .ok member done := by
  simp only [Reading.field, takeStamps, bind, EStateM.bind]
  obtain ⟨member, found⟩ := Option.isSome_iff_exists.1
    (View.isSome_member? among (Term.view stamp resolver env cache).display world.nextStamp)
  rw [found]
  exact ⟨member, _, rfl⟩

end

namespace Resolver

variable {resolver : Resolver Term} {env : Environment Term}

/--
However names are resolved: a bound name is read as its lookup ends, except that whoever gives a
fallback, as those who ask for a field do, gets it for every failure that says that a key is missing;
of the names that are not reserved, a few are fields of the view itself.  Names that no layer has are
not looked up, and membership, iteration and length are about the names that some layer has.
-/
theorem view_answers (distinct : ∀ layer ∈ env.layers, Entries.Distinct layer)
    (resolution : Resolution) (resolver : Resolver Term) (cache : CacheId) (stamp : Stamp)
    (world : World) :
    (∀ kind s, env.Binds (.text kind s) →
      outcome (Reading.item resolution (.view stamp resolver env cache) (.text kind s) world) =
        outcome (lookupName resolution resolver env cache (.text kind s) world) ∧
      ∀ fallback, FallsBack fallback
        (outcome (lookupName resolution resolver env cache (.text kind s) world))
        (outcome (Reading.itemOr resolution (.view stamp resolver env cache) (.text kind s) fallback
          world))) ∧
    (∀ s, env.Binds (.str s) → View.isReserved s = false → s ∉ View.openMembers →
      FallsBack .null
        (outcome (lookupName resolution resolver env cache (.str s)
          { world with nextStamp := world.nextStamp + 1 }))
        (outcome (Reading.field resolution (.view stamp resolver env cache) s world))) ∧
    (∀ s ∈ View.openMembers, ∃ member done,
      Reading.field resolution (.view stamp resolver env cache) s world = .ok member done) ∧
    (∀ kind s, ¬ env.Binds (.text kind s) →
      Reading.item resolution (.view stamp resolver env cache) (.text kind s) world =
        .error (.missingKey (.text kind s)) world ∧
      ∀ fallback, Reading.itemOr resolution (.view stamp resolver env cache) (.text kind s) fallback
        world = .ok fallback world) ∧
    (∀ s, ¬ env.Binds (.str s) → View.isReserved s = false → s ∉ View.openMembers →
      Reading.field resolution (.view stamp resolver env cache) s world =
        .ok .null { world with nextStamp := world.nextStamp + 1 }) ∧
    (∀ name, ∃ there, Reading.has (.view stamp resolver env cache) name world = .ok there world ∧
      (there = true ↔ ∃ kind s, name = .text kind s ∧ env.Binds name)) ∧
    ∃ names, Reading.names (.view stamp resolver env cache) world = .ok names world ∧
      Reading.size (.view stamp resolver env cache) world = .ok (.int names.length) world ∧
      names.Pairwise (fun name other => name.sameKey other = false) ∧
      ∀ s, (∃ name ∈ names, name.text? = some s) ↔ env.Binds (.str s) := by
  have bound : ∀ {kind s}, env.Binds (.text kind s) → View.has env (.text kind s) = true :=
    fun binds => View.has_iff.2 ⟨_, _, rfl, binds⟩
  have unbound : ∀ {kind s}, ¬ env.Binds (.text kind s) → View.has env (.text kind s) = false :=
    fun missing => Bool.eq_false_iff.2 fun there => by
      obtain ⟨_, _, _, binds⟩ := View.has_iff.1 there
      exact missing binds
  refine ⟨fun kind s binds => ⟨?_, fun fallback => ?_⟩, fun s binds free other => ?_,
    fun s among => readField_of_member resolution resolver cache world among,
    fun kind s missing => ⟨?_, fun fallback => ?_⟩, fun s missing free other => ?_,
    fun name => ⟨_, rfl, View.has_iff⟩, env.names, rfl, ?_, ?_, fun s => ?_⟩
  · exact View.outcome_item resolution resolver cache world (bound binds)
  · have ends := View.outcome_item resolution resolver cache world (bound binds)
    exact ends ▸ View.fallsBack_itemOr resolution resolver cache world fallback
  · rw [readField_eq resolution resolver cache world free other]
    have ends := View.outcome_item resolution resolver cache
      { world with nextStamp := world.nextStamp + 1 } (bound binds)
    exact ends ▸ View.fallsBack_itemOr resolution resolver cache _ .null
  · exact View.item_of_unbound resolution resolver cache world (unbound missing)
  · exact View.itemOr_of_unbound resolution resolver cache world (unbound missing) fallback
  · rw [readField_eq resolution resolver cache world free other]
    exact View.itemOr_of_unbound resolution resolver cache _ (unbound missing) .null
  · unfold Environment.names Entries.keys
    rw [List.length_map]
    rfl
  · exact List.pairwise_map.2 (Environment.distinct_flatten distinct)
  · exact Entries.mem_keys_text.trans Environment.has_flatten

/-- A scope with a function that raises an error, and with a number. -/
def raising (name kind : String) : Environment Term :=
  ⟨[[(.str name, .function 0 "g" [] none (.callable .procedure 1 "g" "g" (.raise kind "boom"))),
    (.str "get", .int 5)]], []⟩

/-- A world with one table, and with the stamps in use of these bindings. -/
def tabled : World := { World.empty with caches := [.empty], nextStamp := 3 }

/-- An error that does not stand for a missing key is shown by a view, however it is asked. -/
theorem raised_shown :
    outcome (Reading.item (resolveTerm 20000 4) (.view 2 standard (raising "A" "ValueError") 0) (.str "A")
      tabled) = .error (.raised "ValueError" "boom") ∧
    outcome (Reading.itemOr (resolveTerm 20000 4) (.view 2 standard (raising "A" "ValueError") 0) (.str "A")
      (.int 7) tabled) = .error (.raised "ValueError" "boom") ∧
    outcome (Reading.field (resolveTerm 20000 4) (.view 2 standard (raising "A" "ValueError") 0) "A"
      tabled) = .error (.raised "ValueError" "boom") ∧
    Reading.itemOr (resolveTerm 20000 4) (.view 2 standard (raising "A" "ValueError") 0) (.str "B")
      (.int 7) tabled = .ok (.int 7) tabled := by
  have distinct : ∀ layer ∈ (raising "A" "ValueError").layers, Entries.Distinct layer :=
    List.forall_mem_cons.2 ⟨.nil, List.forall_mem_singleton.2
      (List.pairwise_cons.2 ⟨List.forall_mem_singleton.2 rfl, List.pairwise_singleton _ _⟩)⟩
  have binds : (raising "A" "ValueError").Binds (.str "A") := Environment.binds_iff.1 rfl
  have missing : ¬ (raising "A" "ValueError").Binds (.str "B") :=
    fun binds => absurd (Environment.binds_iff.2 binds) (by decide)
  have other : ¬ MissesKey (.error (.raised "ValueError" "boom")) := by
    rintro ⟨_, ⟨⟩, missing⟩
    cases missing
  obtain ⟨bound, fields, -, unbound, -⟩ := view_answers distinct (resolveTerm 20000 4) standard 0 2 tabled
  exact ⟨(bound .plain "A" binds).1, ((bound .plain "A" binds).2 (.int 7)).same other,
    (fields "A" binds rfl (by decide)).same other, (unbound .plain "B" missing).2 (.int 7)⟩

/--
A bound name whose function raises the error that stands for a missing key: alone its lookup shows the
error, but not through a view with something to fall back on.  A name that is also a field of views is
not looked up.
-/
theorem raised_hidden :
    outcome (standard.cachedResolve (.str "A") (raising "A" "KeyError") 0 .usual tabled) =
      .error (.raised "KeyError" "boom") ∧
    outcome (Reading.itemOr (resolveTerm Stack.usual.ceiling Stack.usual.levels) (.view 2 standard (raising "A" "KeyError") 0)
      (.str "A") (.int 7) tabled) = .ok (.int 7) ∧
    outcome (Reading.field (resolveTerm Stack.usual.ceiling Stack.usual.levels) (.view 2 standard (raising "A" "KeyError") 0) "A"
      tabled) = .ok .null ∧
    outcome (standard.cachedResolve (.str "get") (raising "A" "KeyError") 0 .usual tabled) = .ok (.int 5) ∧
    ∃ member, outcome (Reading.field (resolveTerm Stack.usual.ceiling Stack.usual.levels)
      (.view 2 standard (raising "A" "KeyError") 0) "get" tabled) = .ok member ∧
        member.typeName = "method" :=
  ⟨rfl, rfl, rfl, rfl, _, rfl, rfl⟩

end Resolver

end ScopedTemplate
