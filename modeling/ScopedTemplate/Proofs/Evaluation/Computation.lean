import ScopedTemplate.Proofs.Evaluation.Domain

/-!
# Computations of values

A run with a memo table computes values if it keeps the table sane: what is stored under a name is
the value of that name.  A run that fails without meeting a limit fails since there is no value, at
least not one that could be found before the names in flight have theirs.
-/

namespace ScopedTemplate

open Run

abbrev Flight := List (String × Environment Term)

namespace Domain

variable (domain : Domain) (cache : CacheId)

def nameValue (depth : Nat) (env : Environment Term) (name : String) : Option Term :=
  Meaning.nameValue (domain.meaning.evaluate depth) (env.bindings domain.sorts) name

def Undecided (flight : Flight) (depth : Nat) : Prop :=
  ∀ entry ∈ flight, ∀ below < depth, domain.nameValue below entry.2 entry.1 = none

/-- A table in use holds values of names. -/
structure Sane (stage : domain.Stage) (flight : Flight) (world : World) : Prop where
  inside : cache < world.caches.length
  isOpen : (world.cache cache).closed = false
  isTable : (world.cache cache).standIn = none
  reached : domain.reached stage world.nextStamp
  pending : (world.cache cache).pending =
    flight.map fun entry => CacheKey.of (.ref entry.1) entry.2
  flying : ∀ entry ∈ flight, Arises (world.cache cache).events entry.2
  arisen : ∀ env, Arises (world.cache cache).events env → domain.admits stage env
  stored : ∀ entry ∈ (world.cache cache).entries, domain.Holds stage entry.2
  right : domain.trusts (world.cache cache).events → ∀ entry ∈ (world.cache cache).entries,
    ∃ name env depth, Arises (world.cache cache).events env ∧
      entry.1 = CacheKey.of (.ref name) env ∧
      domain.nameValue depth env name = some (entry.2.outline domain.sorts)

/-- A run went on from one world to another. -/
structure Onward (stage : domain.Stage) (flight : Flight) (world : World) (stage' : domain.Stage)
    (world' : World) : Prop where
  later : domain.Later stage stage'
  sane : domain.Sane cache stage' flight world'
  grown : (world.cache cache).events <:+ (world'.cache cache).events
  active : world'.active = world.active

/--
What a run gives is safe, and right if its events are trusted; if it fails, that is wrong under the
same condition.
-/
def Computes {α : Type} (stage : domain.Stage) (flight : Flight) (run : Run α)
    (safe : domain.Stage → α → Prop) (right : α → Prop) (wrong : Failure → Prop) : Prop :=
  ∀ world, domain.Sane cache stage flight world → After run world
    (fun value world' => ∃ stage', domain.Onward cache stage flight world stage' world' ∧
      safe stage' value ∧ (domain.trusts (world'.cache cache).events → right value))
    (fun failure world' => ∃ stage', domain.Onward cache stage flight world stage' world' ∧
      (domain.trusts (world'.cache cache).events → wrong failure))

variable {domain} {cache}

theorem Undecided.mono {flight : Flight} {depth depth' : Nat} (le : depth ≤ depth')
    (undecided : domain.Undecided flight depth') : domain.Undecided flight depth :=
  fun entry member below lt => undecided entry member below (Nat.lt_of_lt_of_le lt le)

section

variable {stage stage' : domain.Stage} {flight : Flight} {world world' : World}

theorem Sane.of_same (sane : domain.Sane cache stage flight world)
    (same : World.SameStamps world world') : domain.Sane cache stage flight world' := by
  have table := same.cache_eq cache
  refine ⟨?_, ?_, ?_, ?_, ?_, ?_, ?_, ?_, ?_⟩
  · rw [same.caches]
    exact sane.inside
  · rw [table]
    exact sane.isOpen
  · rw [table]
    exact sane.isTable
  · rw [same.nextStamp]
    exact sane.reached
  all_goals rw [table]
  · exact sane.pending
  · exact sane.flying
  · exact sane.arisen
  · exact sane.stored
  · exact sane.right

/-- At a later stage the table is sane if the next stamp is that of the stage. -/
theorem Sane.later (lawful : domain.Lawful) (sane : domain.Sane cache stage flight world)
    (later : domain.Later stage stage') (grows : world.Grows world')
    (reached : domain.reached stage' world'.nextStamp) :
    domain.Sane cache stage' flight world' := by
  have table := grows.cache sane.inside
  refine ⟨?_, ?_, ?_, reached, ?_, ?_, ?_, ?_, ?_⟩
  · exact Nat.lt_of_lt_of_le sane.inside grows.caches.length_le
  · rw [table]
    exact sane.isOpen
  · rw [table]
    exact sane.isTable
  all_goals rw [table]
  · exact sane.pending
  · exact sane.flying
  · exact fun env arises => lawful.admits_later later (sane.arisen env arises)
  · exact fun entry member => lawful.holds_later later (sane.stored entry member)
  · exact sane.right

/-- What a run did to the table can be noted if it is noted in an environment of the domain. -/
theorem Sane.note (sane : domain.Sane cache stage flight world) (lawful : domain.Lawful)
    {change : Cache → Cache} {event : Event} {flight' : Flight}
    (noted : (change (world.cache cache)).events = event :: (world.cache cache).events)
    (admits : ∀ env, event.scope? = some env → domain.admits stage env)
    (isOpen : (change (world.cache cache)).closed = (world.cache cache).closed)
    (isTable : (change (world.cache cache)).standIn = (world.cache cache).standIn)
    (entries : (change (world.cache cache)).entries = (world.cache cache).entries)
    (pending : (change (world.cache cache)).pending =
      flight'.map fun entry => CacheKey.of (.ref entry.1) entry.2)
    (flying : ∀ entry ∈ flight', entry ∈ flight ∨ event.scope? = some entry.2) :
    domain.Sane cache stage flight' (world.change cache change) := by
  have table := world.cache_change sane.inside change
  have suffix : (world.cache cache).events <:+ (change (world.cache cache)).events := by
    rw [noted]
    exact List.suffix_cons _ _
  refine ⟨?_, ?_, ?_, sane.reached, ?_, ?_, ?_, ?_, ?_⟩
  · rw [World.length_change]
    exact sane.inside
  all_goals rw [table]
  · rw [isOpen]
    exact sane.isOpen
  · rw [isTable]
    exact sane.isTable
  · exact pending
  · intro entry member
    rcases flying entry member with before | here
    · exact (sane.flying entry before).suffix suffix
    · refine ⟨event, ?_, here⟩
      rw [noted]
      exact List.mem_cons_self
  · rintro env ⟨other, member, here⟩
    rw [noted] at member
    rcases List.mem_cons.1 member with rfl | before
    · exact admits env here
    · exact sane.arisen env ⟨other, before, here⟩
  · rw [entries]
    exact sane.stored
  · rw [entries]
    intro trusted entry member
    obtain ⟨name, env, depth, arises, key, value⟩ :=
      sane.right (lawful.trusts_suffix suffix trusted) entry member
    exact ⟨name, env, depth, arises.suffix suffix, key, value⟩

theorem Onward.refl (lawful : domain.Lawful) (sane : domain.Sane cache stage flight world) :
    domain.Onward cache stage flight world stage world :=
  ⟨lawful.refl stage, sane, List.suffix_refl _, rfl⟩

theorem Onward.trans (lawful : domain.Lawful) {stage'' : domain.Stage} {world'' : World}
    (first : domain.Onward cache stage flight world stage' world')
    (second : domain.Onward cache stage' flight world' stage'' world'') :
    domain.Onward cache stage flight world stage'' world'' :=
  ⟨lawful.trans first.later second.later, second.sane, first.grown.trans second.grown,
    second.active.trans first.active⟩

theorem Onward.of_same (lawful : domain.Lawful) (sane : domain.Sane cache stage flight world)
    (same : World.SameStamps world world') :
    domain.Onward cache stage flight world stage world' := by
  refine ⟨lawful.refl stage, sane.of_same same, ?_, same.active⟩
  rewrite [same.cache_eq]
  exact List.suffix_refl _

/-- A run that leaves the tables goes on to a later stage. -/
theorem Onward.grows (lawful : domain.Lawful) (sane : domain.Sane cache stage flight world)
    (later : domain.Later stage stage') (grows : world.Grows world')
    (reached : domain.reached stage' world'.nextStamp) :
    domain.Onward cache stage flight world stage' world' := by
  refine ⟨later, sane.later lawful later grows reached, ?_, grows.active⟩
  rewrite [grows.cache sane.inside]
  exact List.suffix_refl _

end

namespace Computes

variable {α β : Type} {stage : domain.Stage} {flight : Flight} {run : Run α}
  {safe : domain.Stage → α → Prop} {right : α → Prop} {wrong : Failure → Prop}

theorem mono {safe' : domain.Stage → α → Prop} {right' : α → Prop} {wrong' : Failure → Prop}
    (computes : domain.Computes cache stage flight run safe right wrong)
    (safe_imp : ∀ stage value, safe stage value → safe' stage value)
    (right_imp : ∀ value, right value → right' value)
    (wrong_imp : ∀ failure, wrong failure → wrong' failure) :
    domain.Computes cache stage flight run safe' right' wrong' := by
  intro world sane
  refine (computes world sane).mono ?_ ?_
  · rintro value world' ⟨stage', onward, holds, valued⟩
    exact ⟨stage', onward, safe_imp _ _ holds, fun trusted => right_imp _ (valued trusted)⟩
  · rintro failure world' ⟨stage', onward, fails⟩
    exact ⟨stage', onward, fun trusted => wrong_imp _ (fails trusted)⟩

/-- What is safe of a value at some stage may be used to say that it is right. -/
theorem safely (computes : domain.Computes cache stage flight run safe right wrong) :
    domain.Computes cache stage flight run safe
      (fun value => right value ∧ ∃ stage, safe stage value) wrong := by
  intro world sane
  refine (computes world sane).mono ?_ fun _ _ ends => ends
  rintro value world' ⟨stage', onward, holds, valued⟩
  exact ⟨stage', onward, holds, fun trusted => ⟨valued trusted, stage', holds⟩⟩

theorem pure (lawful : domain.Lawful) {value : α} (holds : safe stage value) (valued : right value) :
    domain.Computes cache stage flight (pure value) safe right wrong :=
  fun _ sane => after_pure.2 ⟨stage, .refl lawful sane, holds, fun _ => valued⟩

theorem throw (lawful : domain.Lawful) {failure : Failure} (fails : wrong failure) :
    domain.Computes cache stage flight (throw failure : Run α) safe right wrong :=
  fun _ sane => after_throw.2 ⟨stage, .refl lawful sane, fun _ => fails⟩

/-- What the second run is about may use that the value of the first one is right. -/
theorem bind (lawful : domain.Lawful) {next : α → Run β} {safe' : domain.Stage → β → Prop}
    {right' : β → Prop} (computes : domain.Computes cache stage flight run safe right wrong)
    (then_computes : ∀ stage' value, domain.Later stage stage' → safe stage' value →
      domain.Computes cache stage' flight (next value) safe' (fun result => right value → right' result)
        (fun failure => right value → wrong failure)) :
    domain.Computes cache stage flight (run >>= next) safe' right' wrong := by
  intro world sane
  refine after_bind.2 ((computes world sane).mono ?_ ?_)
  · rintro value world' ⟨stage', onward, holds, valued⟩
    refine (then_computes stage' value onward.later holds world' onward.sane).mono ?_ ?_
    · rintro result world'' ⟨stage'', onward', holds', valued'⟩
      refine ⟨stage'', onward.trans lawful onward', holds', fun trusted => ?_⟩
      exact valued' trusted (valued (lawful.trusts_suffix onward'.grown trusted))
    · rintro failure world'' ⟨stage'', onward', fails⟩
      refine ⟨stage'', onward.trans lawful onward', fun trusted => ?_⟩
      exact fails trusted (valued (lawful.trusts_suffix onward'.grown trusted))
  · rintro failure world' ⟨stage', onward, fails⟩
    exact ⟨stage', onward, fails⟩

/-- The same for a first run whose value is right in any case. -/
theorem seq (lawful : domain.Lawful) {next : α → Run β} {safe' : domain.Stage → β → Prop}
    {right' : β → Prop}
    (computes : domain.Computes cache stage flight run safe (fun _ => True) wrong)
    (then_computes : ∀ stage' value, domain.Later stage stage' → safe stage' value →
      domain.Computes cache stage' flight (next value) safe' right' wrong) :
    domain.Computes cache stage flight (run >>= next) safe' right' wrong :=
  computes.bind lawful fun stage' value later holds =>
    (then_computes stage' value later holds).mono (fun _ _ holds => holds)
      (fun _ valued _ => valued) fun _ fails _ => fails

theorem ofResult (lawful : domain.Lawful) {result : Except Failure α}
    (holds : ∀ value, result = .ok value → safe stage value ∧ right value)
    (fails : ∀ failure, result = .error failure → wrong failure) :
    domain.Computes cache stage flight (ofResult result) safe right wrong := by
  cases result with
  | ok value => exact pure lawful (holds value rfl).1 (holds value rfl).2
  | error failure => exact throw lawful (fails failure rfl)

theorem log (lawful : domain.Lawful) (level : Level) (message : String) :
    domain.Computes cache stage flight (log level message) (fun _ _ => True) (fun _ => True)
      wrong :=
  fun _ sane => after_modify.2
    ⟨stage, .of_same lawful sane ⟨⟨rfl, rfl, rfl⟩, rfl⟩, trivial, fun _ => trivial⟩

theorem snapshot (lawful : domain.Lawful) (env : Environment Term)
    (fails : wrong (.value .tooManyDigits)) :
    domain.Computes cache stage flight (snapshot env) (fun _ _ => True) (fun _ => True) wrong := by
  unfold Run.snapshot
  split
  · exact pure lawful trivial trivial
  · exact throw lawful fails

/-- A note about something else than a lookup changes nothing. -/
theorem record (lawful : domain.Lawful) {event : Event} (noLookup : event.scope? = none) :
    domain.Computes cache stage flight (record cache event) (fun _ _ => True) (fun _ => True)
      wrong := by
  intro world sane
  refine after_changeCache.2 ⟨stage, ⟨lawful.refl stage, ?_, ?_, rfl⟩, trivial, fun _ => trivial⟩
  · refine sane.note lawful rfl ?_ rfl rfl rfl sane.pending fun _ => Or.inl
    intro env here
    rw [noLookup] at here
    cases here
  · rw [world.cache_change sane.inside]
    exact List.suffix_cons _ _

theorem chain (lawful : domain.Lawful) :
    domain.Computes cache stage flight (chain cache) (fun _ _ => True) (fun _ => True) wrong := by
  intro world sane
  unfold Run.chain
  refine after_bind.2 (after_cache.2 ?_)
  unfold Run.checkTable
  rw [sane.isTable]
  exact ⟨stage, .refl lawful sane, trivial, fun _ => trivial⟩

/-- A collection that is made has a stamp of its own if it is large enough. -/
theorem made (lawful : domain.Lawful) (size : Nat) (t : Term)
    (holds : domain.Holds stage (t.withStamp none)) :
    domain.Computes cache stage flight
      (do let stamp ← collectionStamp size; return t.withStamp stamp)
      (fun stage value => domain.Holds stage value ∧ ∃ stamp, value = t.withStamp stamp)
      (fun _ => True) wrong := by
  intro world sane
  unfold Run.collectionStamp
  split
  · obtain ⟨stage', later, reached, labelled⟩ := lawful.holds_stamped sane.reached holds
    refine ⟨stage', ?_, ⟨labelled, _, rfl⟩, fun _ => trivial⟩
    exact .grows lawful sane later ⟨List.prefix_refl _, rfl⟩ reached
  · exact ⟨stage, .refl lawful sane, ⟨holds, _, rfl⟩, fun _ => trivial⟩

theorem makeList (lawful : domain.Lawful) {items : List Term}
    (holds : ∀ item ∈ items, domain.Holds stage item) :
    domain.Computes cache stage flight (makeList items)
      (fun stage value => domain.Holds stage value ∧ ∃ stamp, value = .list .plain stamp items)
      (fun _ => True) wrong :=
  made lawful items.length (.list .plain none items)
    (Term.everywhere_list.2 ⟨lawful.list _ _, holds⟩)

theorem makeTuple (lawful : domain.Lawful) {items : List Term}
    (holds : ∀ item ∈ items, domain.Holds stage item) :
    domain.Computes cache stage flight (makeTuple items)
      (fun stage value => domain.Holds stage value ∧ ∃ stamp, value = .tuple stamp items)
      (fun _ => True) wrong :=
  made lawful items.length (.tuple none items)
    (Term.everywhere_tuple.2 ⟨lawful.tuple _ _, holds⟩)

theorem makeMap (lawful : domain.Lawful) {kind : MapKind} {stamp : Option Stamp}
    {original entries : Entries} (fits : domain.fits stage (.map kind stamp original))
    (reduced : Entries.Reduced domain.meaning.resolver.defaultsKey original entries)
    (holds : ∀ entry ∈ entries, domain.Holds stage entry.2) :
    domain.Computes cache stage flight (makeMap entries)
      (fun stage value => domain.Holds stage value ∧ ∃ stamp, value = .map .plain stamp entries)
      (fun _ => True) wrong :=
  made lawful entries.length (.map .plain none entries)
    (Term.everywhere_map.2 ⟨lawful.map fits reduced, holds⟩)

end Computes

end Domain

end ScopedTemplate
