import ScopedTemplate.Proofs.Evaluation.Parts

/-!
# Terms that are changed one by one

A change of terms that keeps what the rules of a resolver look at changes the parts of a term one by
one.  So two templates with a common rendering are stuck at places with a common rendering.
-/

namespace ScopedTemplate

/-! ## Entries and environments -/

namespace Entries

variable (change : Term → Term)

variable {change} in
theorem mapValues_congr {change' : Term → Term} {entries : Entries}
    (same : ∀ entry ∈ entries, change entry.2 = change' entry.2) :
    mapValues change entries = mapValues change' entries :=
  List.map_congr_left fun entry member => Prod.ext rfl (same entry member)

theorem mapValues_insert (entries : Entries) (key value : Term) :
    mapValues change (insert entries key value) =
      insert (mapValues change entries) key (change value) := by
  unfold mapValues
  induction entries with
  | nil => rfl
  | cons entry rest ih =>
      rw [List.map_cons, insert, insert]
      split
      · rfl
      · rw [List.map_cons, ih]

theorem mapValues_update (entries additions : Entries) :
    mapValues change (update entries additions) =
      update (mapValues change entries) (mapValues change additions) := by
  induction additions generalizing entries with
  | nil => rfl
  | cons entry rest ih =>
      rw [update_cons, ih, mapValues_insert]
      rfl

@[simp] theorem values_mapValues (entries : Entries) :
    values (mapValues change entries) = (values entries).map change := by
  simp [values, mapValues, Function.comp_def]

@[simp] theorem isEmpty_mapValues (entries : Entries) :
    (mapValues change entries).isEmpty = entries.isEmpty := by
  cases entries <;> rfl

theorem mapValues_mapValues (change' : Term → Term) (entries : Entries) :
    mapValues change' (mapValues change entries) = mapValues (fun t => change' (change t)) entries := by
  simp [mapValues, Function.comp_def]

end Entries

namespace Environment

variable (change : Term → Term)

def mapValues (env : Environment Term) : Environment Term :=
  ⟨env.scopes.map (Entries.mapValues change), Entries.mapValues change env.overrides⟩

theorem lookup?_mapValues (env : Environment Term) (name : Term) :
    (env.mapValues change).lookup? name = (env.lookup? name).map change := by
  have scopes : ∀ scopes : List Entries, (scopes.map (Entries.mapValues change)).findSome?
      (fun scope => Entries.find? scope name) =
        (scopes.findSome? fun scope => Entries.find? scope name).map change := by
    intro scopes
    induction scopes with
    | nil => rfl
    | cons scope rest ih =>
        rw [List.map_cons, List.findSome?_cons, List.findSome?_cons, Entries.find?_mapValues, ih]
        cases Entries.find? scope name <;> rfl
  rw [lookup?_eq, lookup?_eq]
  unfold mapValues
  rw [Entries.find?_mapValues, ← List.map_reverse, scopes]
  cases Entries.find? env.overrides name <;> rfl

theorem child_mapValues (env : Environment Term) (scope : Entries) :
    (env.child scope).mapValues change =
      (env.mapValues change).child (Entries.mapValues change scope) := by
  unfold child
  rw [Entries.isEmpty_mapValues]
  split
  · rfl
  · simp [mapValues]

theorem flatten_mapValues (env : Environment Term) :
    (env.mapValues change).flatten = Entries.mapValues change env.flatten := by
  have merged : ∀ (layers : List Entries) (outermost : Entries),
      (layers.map (Entries.mapValues change)).foldl Entries.update
          (Entries.mapValues change outermost) =
        Entries.mapValues change (layers.foldl Entries.update outermost) := by
    intro layers
    induction layers with
    | nil => exact fun _ => rfl
    | cons layer rest ih =>
        intro outermost
        rw [List.map_cons, List.foldl_cons, ← Entries.mapValues_update, ih, List.foldl_cons]
  unfold flatten mapValues
  cases env.scopes with
  | nil => rfl
  | cons outermost inner =>
      have layers := merged (inner ++ [env.overrides]) outermost
      rw [List.map_append] at layers
      exact layers

variable {change}

theorem target?_mapValues (text? : ∀ t, (change t).text? = t.text?) (env : Environment Term)
    (kind kind' : TextKind) (s : String) : (env.mapValues change).target? (.text kind' s) =
      (env.target? (.text kind s)).map change := by
  unfold target?
  rw [lookup?_mapValues, lookup?_asRef env kind', lookup?_asRef env kind]
  cases env.lookup? (.ref s) with
  | none => rfl
  | some binding =>
      have self : isSelfBinding (change binding) (.text kind' s) =
          isSelfBinding binding (.text kind s) := by
        unfold isSelfBinding
        rw [text?]
        rfl
      simp only [Option.map_some, Option.filter_some, self]
      split <;> rfl

end Environment

/-! ## Renderings -/

namespace Resolver

/-- A change of terms that keeps what the rules look at. -/
structure Renders (resolver resolver' : Resolver Term) (change : Term → Term) : Prop where
  key : resolver'.defaultsKey = resolver.defaultsKey
  kind : ∀ t, resolver'.classifier.kind (change t) = resolver.classifier.kind t
  text? : ∀ t, (change t).text? = t.text?
  entries? : ∀ t, (change t).entries? = t.entries?.map (Entries.mapValues change)
  inner : ∀ t, (change t).inner = t.inner.map change

variable {resolver resolver' : Resolver Term} {change : Term → Term}

theorem inner_unscoped (t : Term) : (resolver.unscoped t).inner =
    t.entries?.elim t.inner fun entries =>
      Entries.values (Entries.erase entries resolver.defaultsKey) := by
  cases t <;> rfl

namespace Renders

variable (renders : resolver.Renders resolver' change)

include renders

theorem inner_unscoped (t : Term) :
    (resolver'.unscoped (change t)).inner = (resolver.unscoped t).inner.map change := by
  rw [Resolver.inner_unscoped, Resolver.inner_unscoped, renders.entries?, renders.inner, renders.key]
  cases t.entries? with
  | none => rfl
  | some entries =>
      rw [Option.map_some, Option.elim_some, Option.elim_some, Entries.erase_mapValues,
        Entries.values_mapValues]

theorem within? (env : Environment Term) (t : Term) :
    resolver'.within? (env.mapValues change) (change t) =
      (resolver.within? env t).map (Environment.mapValues change) := by
  have found : (change t).entries?.bind (Entries.find? · resolver'.defaultsKey) =
      (t.entries?.bind (Entries.find? · resolver.defaultsKey)).map change := by
    rw [renders.entries?, renders.key]
    cases t.entries? with
    | none => rfl
    | some entries => exact Entries.find?_mapValues change entries _
  unfold Resolver.within?
  rw [found]
  cases t.entries?.bind (Entries.find? · resolver.defaultsKey) with
  | none => rfl
  | some defaults =>
      rw [Option.map_some]
      dsimp only
      rw [renders.entries?, Option.map_map, Option.map_map]
      exact congrArg (Option.map · _) (funext fun scope => (env.child_mapValues change scope).symm)

theorem target? (env : Environment Term) {t : Term} (isRef : resolver.classifier.kind t = .ref) :
    (env.mapValues change).target? (change t) = (env.target? t).map change := by
  obtain ⟨kind, s, rfl⟩ := Classifier.text_of_ref isRef
  have text := renders.text? (.text kind s)
  cases shape : change (.text kind s) with
  | text kind' s' =>
      rw [shape] at text
      cases text
      exact Environment.target?_mapValues renders.text? env kind kind' s
  | _ => rw [shape] at text; cases text

/-- The parts of a rendering are the parts, rendered. -/
theorem parts? (env : Environment Term) (t : Term) :
    resolver'.parts? (env.mapValues change) (change t) =
      (resolver.parts? env t).map fun parts => (parts.1.mapValues change, parts.2.map change) := by
  unfold Resolver.parts?
  rw [renders.kind]
  cases looked : resolver.classifier.kind t with
  | ref =>
      dsimp only
      rw [renders.target? env looked]
      cases env.target? t <;> rfl
  | mapping | sequence =>
      dsimp only
      rw [renders.within?, renders.inner_unscoped, Option.map_map, Option.map_map]
      rfl
  | _ => rfl

omit renders in
theorem trans {resolver'' : Resolver Term} {change' : Term → Term}
    (first : resolver.Renders resolver' change) (second : resolver'.Renders resolver'' change') :
    resolver.Renders resolver'' fun t => change' (change t) where
  key := second.key.trans first.key
  kind t := (second.kind _).trans (first.kind t)
  text? t := (second.text? _).trans (first.text? t)
  entries? t := by
    rw [second.entries?, first.entries?, Option.map_map]
    exact congrArg (Option.map · _) (funext fun entries => Entries.mapValues_mapValues _ _ entries)
  inner t := by
    rw [second.inner, first.inner, List.map_map]
    rfl

end Renders

end Resolver

/-! ## Places of faults -/

namespace Domain

variable {domain domain' : Domain} {common : Resolver Term} {change change' : Term → Term}
  {env env' place : Environment Term} {t t' : Term}

/-- Templates with a common rendering are stuck at places with a common rendering. -/
theorem Stuck.rendered (renders : domain.meaning.resolver.Renders common change)
    (renders' : domain'.meaning.resolver.Renders common change')
    (valued : ∀ {env env' : Environment Term} {t t' : Term},
      env.mapValues change = env'.mapValues change' → change t = change' t' →
        domain.HasValue env t → domain'.HasValue env' t')
    (stuck : domain.Stuck env t place) (envs : env.mapValues change = env'.mapValues change')
    (terms : change t = change' t') : ∃ place', domain'.Stuck env' t' place' ∧
      place.mapValues change = place'.mapValues change' := by
  induction stuck generalizing env' t' with
  | @defaults env t malformed =>
      have parts := renders.parts? env t
      rw [malformed, envs, terms, renders'.parts?] at parts
      exact ⟨env', .defaults (Option.map_eq_none_iff.1 parts), envs⟩
  | @part env inner place t item before after found each _ ih =>
      have parts := renders.parts? env t
      rw [found, envs, terms, renders'.parts?, Option.map_some, Option.map_eq_some_iff] at parts
      obtain ⟨⟨inner', items'⟩, found', same⟩ := parts
      obtain ⟨inners, items⟩ := Prod.mk.inj same
      rw [List.map_append, List.map_cons] at items
      obtain ⟨before', rest', rfl, befores, rest⟩ := List.map_eq_append_iff.1 items
      obtain ⟨item', after', rfl, item, _⟩ := List.map_eq_cons_iff.1 rest
      obtain ⟨place', stuck', places⟩ := ih inners.symm item.symm
      refine ⟨place', .part found' (fun s member => ?_) stuck', places⟩
      have rendered : change' s ∈ before.map change := by
        rw [← befores]
        exact List.mem_map_of_mem member
      obtain ⟨original, inside, terms⟩ := List.mem_map.1 rendered
      exact valued inners.symm terms (each original inside)

end Domain

end ScopedTemplate
