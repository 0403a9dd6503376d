import ScopedTemplate.Proofs.Lockstep.Alike

/-!
# Types, keys and environments of two runs

Terms that are alike are of the same type and the same key, so that entries and environments that
are alike give alike answers.
-/

namespace Option.Rel

variable {α β : Type} {R : α → β → Prop} {first : Option α} {second : Option β}

/-- Both are missing, or both are there and related. -/
theorem cases_eq (rel : Option.Rel R first second) : first = .none ∧ second = .none ∨
    ∃ a b, first = .some a ∧ second = .some b ∧ R a b := by
  cases rel with
  | none => exact .inl ⟨rfl, rfl⟩
  | some holds => exact .inr ⟨_, _, rfl, rfl, holds⟩

theorem isSome_eq (rel : Option.Rel R first second) : first.isSome = second.isSome := by
  cases rel <;> rfl

theorem or {first' : Option α} {second' : Option β} (rel : Option.Rel R first second)
    (other : Option.Rel R first' second') :
    Option.Rel R (first <|> first') (second <|> second') := by
  cases rel with
  | some holds => exact .some holds
  | none => exact other

end Option.Rel

theorem List.Forall₂.map_eq {α β : Type} {f : α → β} {items items' : List α}
    (each : List.Forall₂ (fun a b => f a = f b) items items') : items.map f = items'.map f := by
  induction each with
  | nil => rfl
  | cons first _ ih => rw [List.map_cons, List.map_cons, first, ih]

namespace ScopedTemplate

namespace Pairing

variable {p : Pairing} {t t' : Term}

/-! ## Types -/

namespace Alike

theorem exactType (alike : p.Alike t t') : t.exactType = t'.exactType := by
  cases alike.shape with
  | list kind => cases kind <;> rfl
  | map kind => cases kind <;> rfl
  | _ => rfl

theorem typeName (alike : p.Alike t t') : t.typeName = t'.typeName := by
  unfold Term.typeName
  rw [alike.exactType]

theorem baseType? (alike : p.Alike t t') : t.baseType? = t'.baseType? := by
  cases alike.shape with
  | list kind => cases kind <;> rfl
  | map kind => cases kind <;> rfl
  | _ => rfl

theorem types (alike : p.Alike t t') : t.types = t'.types := by
  have abstract : t.abstractTypes = t'.abstractTypes := by cases alike.shape <;> rfl
  have numbers : t.numberTypes = t'.numberTypes := by cases alike.shape <;> rfl
  have conversions : t.conversionTypes = t'.conversionTypes := by cases alike.shape <;> rfl
  unfold Term.types
  rw [alike.exactType, alike.baseType?, abstract, numbers, conversions]

theorem isInstance (alike : p.Alike t t') : t.isInstance = t'.isInstance := by
  funext among
  unfold Term.isInstance
  rw [alike.types]

theorem isLeaf (alike : p.Alike t t') (classifier : Classifier) :
    classifier.isLeaf t = classifier.isLeaf t' :=
  congrFun alike.isInstance _

theorem isRemoved (alike : p.Alike t t') : t.isRemoved = t'.isRemoved := by
  cases alike.shape <;> rfl

theorem isRef (alike : p.Alike t t') (classifier : Classifier) :
    classifier.isRef t = classifier.isRef t' := by
  cases alike.shape <;> rfl

theorem kind (alike : p.Alike t t') (classifier : Classifier) :
    classifier.kind t = classifier.kind t' := by
  have shape : Classifier.shapeKind t = Classifier.shapeKind t' := by
    cases alike.shape <;> rfl
  unfold Classifier.kind
  rw [alike.isRemoved, alike.isLeaf, alike.isRef, shape]

theorem isCollection (alike : p.Alike t t') (classifier : Classifier) :
    classifier.isCollection t = classifier.isCollection t' := by
  unfold Classifier.isCollection
  rw [alike.kind]

theorem refusalAmong? (alike : p.Alike t t') (types : List ValueType) :
    Classifier.refusalAmong? t types = Classifier.refusalAmong? t' types := by
  induction types with
  | nil => rfl
  | cons first rest ih =>
      unfold Classifier.refusalAmong?
      rw [alike.isInstance, ih]

theorem check (alike : p.Alike t t') (classifier : Classifier) :
    classifier.check t = classifier.check t' := by
  unfold Classifier.check Classifier.refusal?
  rw [alike.refusalAmong?]

theorem classify (alike : p.Alike t t') (classifier : Classifier) :
    classifier.classify t = classifier.classify t' := by
  unfold Classifier.classify
  rw [alike.isRemoved, alike.check, alike.kind]

theorem text? (alike : p.Alike t t') : t.text? = t'.text? := by
  cases alike.shape <;> rfl

theorem size? (alike : p.Alike t t') : t.size? = t'.size? := by
  cases alike.shape with
  | list _ _ size => exact congrArg some size
  | tuple _ size => exact congrArg some size
  | map _ _ size => exact congrArg some size
  | set _ size => exact congrArg some size
  | point _ size => exact congrArg some size
  | _ => rfl

theorem label (alike : p.Alike t t') : t.label = t'.label := by
  cases alike.shape with
  | list kind => cases kind <;> rfl
  | map kind => cases kind <;> rfl
  | _ => rfl

theorem index? (alike : p.Alike t t') : t.index? = t'.index? := by
  cases alike.shape <;> rfl

/-! ## Keys -/

theorem key? (alike : p.Alike t t') : t.key? = t'.key? := by
  have items : ∀ {items items' : List Term},
      List.Forall₂ (fun s s' => p.Alike s s' ∧ s.key? = s'.key?) items items' →
        Term.keys? items = Term.keys? items' := by
    intro items items' each
    induction each with
    | nil => rfl
    | cons first _ ih => rw [Term.keys?, Term.keys?, first.2, ih]
  refine alike.by_shape (motive := fun t t' => t.key? = t'.key?) (fun _ _ => rfl) ?list
    ?tuple ?map ?set ?point ?function ?callable ?view
  case tuple => exact fun _ _ _ each => items each
  case point => exact fun _ _ _ each => items each
  all_goals
    intros
    simp only [Term.key?]

theorem sameKey (alike : p.Alike t t') {u u' : Term} (other : p.Alike u u') :
    t.sameKey u = t'.sameKey u' := by
  unfold Term.sameKey
  rw [alike.key?, other.key?]

theorem unhashable? (alike : p.Alike t t') : t.unhashable? = t'.unhashable? := by
  have items : ∀ {items items' : List Term},
      List.Forall₂ (fun s s' => p.Alike s s' ∧ s.unhashable? = s'.unhashable?) items items' →
        Term.unhashableItem? items = Term.unhashableItem? items' := by
    intro items items' each
    induction each with
    | nil => rfl
    | cons first _ ih => rw [Term.unhashableItem?, Term.unhashableItem?, first.2, ih]
  refine alike.by_shape (motive := fun t t' => t.unhashable? = t'.unhashable?) (fun _ _ => rfl)
    ?list ?tuple ?map ?set ?point ?function ?callable ?view
  case tuple => exact fun _ _ _ each => items each
  case point => exact fun _ _ _ each => items each
  case list => intro kind; cases kind <;> (intros; simp only [Term.unhashable?, Term.typeName, Term.exactType])
  case map => intro kind; cases kind <;> (intros; simp only [Term.unhashable?, Term.typeName, Term.exactType])
  all_goals
    intros
    simp only [Term.unhashable?, Term.typeName, Term.exactType]

theorem checkKey (alike : p.Alike t t') : t.checkKey = t'.checkKey := by
  unfold Term.checkKey
  rw [alike.unhashable?]

end Alike

/-! ## Entries -/

namespace AlikeEntries

variable {entries entries' : Entries}

theorem find? (alike : p.AlikeEntries entries entries') {key key' : Term}
    (keys : p.Alike key key') :
    Option.Rel p.Alike (Entries.find? entries key) (Entries.find? entries' key') := by
  induction alike with
  | nil => exact .none
  | cons first _ ih =>
      rw [Entries.find?_cons, Entries.find?_cons, first.1.sameKey keys]
      split
      · exact .some first.2
      · exact ih

theorem insert (alike : p.AlikeEntries entries entries') {key key' value value' : Term}
    (keys : p.Alike key key') (values : p.Alike value value') :
    p.AlikeEntries (Entries.insert entries key value) (Entries.insert entries' key' value') := by
  induction alike with
  | nil => exact .cons ⟨keys, values⟩ .nil
  | cons first others ih =>
      unfold Entries.insert
      rw [first.1.sameKey keys]
      split
      · exact .cons ⟨first.1, values⟩ others
      · exact .cons first ih

theorem update (alike : p.AlikeEntries entries entries') {additions additions' : Entries}
    (more : p.AlikeEntries additions additions') :
    p.AlikeEntries (Entries.update entries additions) (Entries.update entries' additions') := by
  induction more generalizing entries entries' with
  | nil => exact alike
  | cons first _ ih =>
      rw [Entries.update_cons, Entries.update_cons]
      exact ih (alike.insert first.1 first.2)

theorem ofPairs (alike : p.AlikeEntries entries entries') :
    p.AlikeEntries (Entries.ofPairs entries) (Entries.ofPairs entries') :=
  update .nil alike

theorem has (alike : p.AlikeEntries entries entries') {key key' : Term}
    (keys : p.Alike key key') : Entries.has entries key = Entries.has entries' key' :=
  (alike.find? keys).isSome_eq

theorem erase (alike : p.AlikeEntries entries entries') {key key' : Term}
    (keys : p.Alike key key') :
    p.AlikeEntries (Entries.erase entries key) (Entries.erase entries' key') := by
  induction alike with
  | nil => exact .nil
  | cons first _ ih =>
      unfold Entries.erase
      rw [List.filter_cons, List.filter_cons, first.1.sameKey keys]
      split
      · exact .cons first ih
      · exact ih

theorem filter (alike : p.AlikeEntries entries entries') {keep keep' : Term → Bool}
    (same : ∀ {t t'}, p.Alike t t' → keep t = keep' t') :
    p.AlikeEntries (entries.filter (keep ·.2)) (entries'.filter (keep' ·.2)) := by
  induction alike with
  | nil => exact .nil
  | cons first _ ih =>
      rw [List.filter_cons, List.filter_cons, same first.2]
      split
      · exact .cons first ih
      · exact ih

theorem keys (alike : p.AlikeEntries entries entries') :
    List.Forall₂ p.Alike (Entries.keys entries) (Entries.keys entries') :=
  List.forall₂_map_left_iff.2 (List.forall₂_map_right_iff.2 (alike.imp fun _ _ both => both.1))

theorem values (alike : p.AlikeEntries entries entries') :
    List.Forall₂ p.Alike (Entries.values entries) (Entries.values entries') :=
  List.forall₂_map_left_iff.2 (List.forall₂_map_right_iff.2 (alike.imp fun _ _ both => both.2))

/-- Whether entries can be named arguments depends on their names only. -/
theorem checkNames (alike : p.AlikeEntries entries entries') (function module : String)
    (given positional : List String) :
    Entries.checkNames entries function module given positional =
      Entries.checkNames entries' function module given positional := by
  have names : (entries.findSome? fun entry => entry.1.text?.filter given.contains) =
      (entries'.findSome? fun entry => entry.1.text?.filter given.contains) ∧
        entries.all Entries.isNamed = entries'.all Entries.isNamed := by
    induction alike with
    | nil => exact ⟨rfl, rfl⟩
    | cons first _ ih =>
        rw [List.findSome?_cons, List.findSome?_cons, List.all_cons, List.all_cons, ih.1, ih.2,
          Entries.isNamed, Entries.isNamed, first.1.text?]
        exact ⟨rfl, rfl⟩
  have bound : (positional.find? fun name => Entries.has entries (.str name)) =
      positional.find? fun name => Entries.has entries' (.str name) :=
    congrArg (positional.find? ·) (funext fun name => alike.has (alike_text _ _))
  unfold Entries.checkNames
  rw [names.1, names.2, bound]

theorem isEmpty (alike : p.AlikeEntries entries entries') :
    entries.isEmpty = entries'.isEmpty := by
  cases alike <;> rfl

end AlikeEntries

end Pairing

/-! ## Environments -/

namespace Environment

/-- All scopes merged into one, without the overrides. -/
def merged (env : Environment Term) : Entries :=
  match env.scopes with
  | [] => []
  | outermost :: inner => inner.foldl Entries.update outermost

def bound? (env : Environment Term) (name : Term) : Option Term :=
  env.scopes.reverse.findSome? fun scope => Entries.find? scope name

theorem lookup?_eq_bound? (env : Environment Term) (name : Term) :
    env.lookup? name = (Entries.find? env.overrides name <|> env.bound? name) :=
  env.lookup?_eq name

theorem flatten_eq (env : Environment Term) :
    env.flatten = if env.scopes = [] then env.overrides
      else Entries.update env.merged env.overrides := by
  unfold flatten merged
  cases env.scopes with
  | nil => rfl
  | cons outermost inner => simp [List.foldl_append]

theorem merged_child (env : Environment Term) {defaults : Entries}
    (entered : defaults.isEmpty = false) : (env.child defaults).merged =
      if env.scopes = [] then defaults else Entries.update env.merged defaults := by
  unfold child merged
  rw [entered, if_neg nofun]
  cases env.scopes with
  | nil => rfl
  | cons outermost inner => simp [List.foldl_append]

theorem bound?_child (env : Environment Term) (defaults : Entries) (name : Term) :
    (env.child defaults).bound? name = (Entries.find? defaults name <|> env.bound? name) := by
  unfold child bound?
  cases defaults with
  | nil => rfl
  | cons entry rest =>
      rw [List.isEmpty_cons, if_neg nofun, List.reverse_append, List.reverse_singleton,
        List.singleton_append, List.findSome?_cons]
      cases Entries.find? (entry :: rest) name <;> rfl

end Environment

namespace Pairing

/--
Environments give alike answers: their overrides are alike, and so are their scopes once they are
merged; one by one they are alike if layers matter.
-/
structure AlikeEnv (p : Pairing) (env env' : Environment Term) : Prop where
  overrides : p.AlikeEntries env.overrides env'.overrides
  merged : p.AlikeEntries env.merged env'.merged
  bound : ∀ {name name'}, p.Alike name name' →
    Option.Rel p.Alike (env.bound? name) (env'.bound? name')
  blank : env.scopes = [] ↔ env'.scopes = []
  layers : ¬ p.merges → List.Forall₂ p.AlikeEntries env.layers env'.layers

namespace AlikeEnv

variable {p : Pairing} {env env' : Environment Term}

/-- Environments are alike if their layers are. -/
theorem of_layers (layers : List.Forall₂ p.AlikeEntries env.layers env'.layers) :
    p.AlikeEnv env env' := by
  have each := List.rel_reverse (List.forall₂_cons.1 layers).2
  rw [List.reverse_reverse, List.reverse_reverse] at each
  refine ⟨(List.forall₂_cons.1 layers).1, ?_, ?_, ?_, fun _ => layers⟩
  · unfold Environment.merged
    generalize env.scopes = scopes, env'.scopes = scopes' at each
    cases each with
    | nil => exact .nil
    | cons first others =>
        exact List.rel_foldl (P := p.AlikeEntries) (R := p.AlikeEntries)
          (fun _ _ left _ _ right => AlikeEntries.update left right) first others
  · intro name name' names
    unfold Environment.bound?
    have back := (List.forall₂_cons.1 layers).2
    generalize env.scopes.reverse = scopes, env'.scopes.reverse = scopes' at back
    induction back with
    | nil => exact .none
    | cons first _ ih =>
        rw [List.findSome?_cons, List.findSome?_cons]
        rcases (first.find? names).cases_eq with ⟨missing, missing'⟩ | ⟨_, _, found, found', holds⟩
        · rw [missing, missing']
          exact ih
        · rw [found, found']
          exact .some holds
  · rw [← List.length_eq_zero_iff, ← List.length_eq_zero_iff, each.length_eq]

theorem lookup? (alike : p.AlikeEnv env env') {name name' : Term} (names : p.Alike name name') :
    Option.Rel p.Alike (env.lookup? name) (env'.lookup? name') := by
  rw [Environment.lookup?_eq_bound?, Environment.lookup?_eq_bound?]
  exact (alike.overrides.find? names).or (alike.bound names)

theorem binds (alike : p.AlikeEnv env env') {name name' : Term} (names : p.Alike name name') :
    env.binds name = env'.binds name' :=
  (alike.lookup? names).isSome_eq

theorem target? (alike : p.AlikeEnv env env') {name name' : Term} (names : p.Alike name name') :
    Option.Rel p.Alike (env.target? name) (env'.target? name') := by
  unfold Environment.target?
  rcases (alike.lookup? names).cases_eq with ⟨missing, missing'⟩ | ⟨binding, binding', found, found', holds⟩
  · rw [missing, missing']
    exact .none
  · rw [found, found']
    have same : isSelfBinding binding name = isSelfBinding binding' name' := by
      unfold isSelfBinding
      rw [holds.text?, names.text?]
    rw [Option.filter_some, Option.filter_some, same]
    split
    · exact .some holds
    · exact .none

theorem flatten (alike : p.AlikeEnv env env') : p.AlikeEntries env.flatten env'.flatten := by
  rw [Environment.flatten_eq, Environment.flatten_eq]
  simp only [alike.blank]
  split
  · exact alike.overrides
  · exact alike.merged.update alike.overrides

theorem names (alike : p.AlikeEnv env env') : List.Forall₂ p.Alike env.names env'.names :=
  alike.flatten.keys

theorem size (alike : p.AlikeEnv env env') : env.size = env'.size := alike.flatten.length_eq

theorem child (alike : p.AlikeEnv env env') {defaults defaults' : Entries}
    (more : p.AlikeEntries defaults defaults') :
    p.AlikeEnv (env.child defaults) (env'.child defaults') := by
  have same := more.isEmpty
  cases empty : defaults.isEmpty with
  | true =>
      unfold Environment.child
      rw [← same, empty]
      exact alike
  | false =>
      rw [empty, eq_comm] at same
      refine ⟨?_, ?_, ?_, ?_, ?_⟩
      · unfold Environment.child
        rw [empty, same]
        exact alike.overrides
      · rw [env.merged_child empty, env'.merged_child same]
        simp only [alike.blank]
        split
        · exact more
        · exact alike.merged.update more
      · intro name name' names
        rw [Environment.bound?_child, Environment.bound?_child]
        exact (more.find? names).or (alike.bound names)
      · unfold Environment.child
        rw [empty, same, if_neg nofun, if_neg nofun]
        simp
      · intro kept
        have layers := alike.layers kept
        unfold Environment.layers at layers ⊢
        unfold Environment.child
        rw [empty, same, if_neg nofun, if_neg nofun]
        rw [List.forall₂_cons] at layers
        dsimp only
        rw [List.reverse_append, List.reverse_append]
        exact .cons layers.1 (.cons more layers.2)

theorem withOverrides (alike : p.AlikeEnv env env') {overrides overrides' : Entries}
    (more : p.AlikeEntries overrides overrides') :
    p.AlikeEnv (env.withOverrides overrides) (env'.withOverrides overrides') := by
  refine ⟨alike.overrides.update more, alike.merged, alike.bound, alike.blank, fun kept => ?_⟩
  exact .cons (alike.overrides.update more) (List.forall₂_cons.1 (alike.layers kept)).2

theorem empty : p.AlikeEnv .empty .empty := of_layers (.cons .nil .nil)

theorem ofBindings {bindings bindings' overrides overrides' : Entries}
    (bound : p.AlikeEntries bindings bindings')
    (overridden : p.AlikeEntries overrides overrides') :
    p.AlikeEnv (.ofBindings bindings overrides) (.ofBindings bindings' overrides') := by
  refine of_layers ?_
  unfold Environment.layers Environment.ofBindings
  rw [bound.isEmpty]
  split
  · exact .cons overridden .nil
  · exact .cons overridden (.cons bound .nil)

end AlikeEnv

theorem alike_view_iff {p : Pairing} {stamp : Stamp} {resolver resolver' : Resolver Term}
    {env env' : Environment Term} {cache : CacheId} :
    p.Alike (.view stamp resolver env cache) (.view stamp resolver' env' cache) ↔
      ¬ p.merges ∧ p.Paired cache resolver resolver' ∧ (cache = p.cache → p.admits env env') ∧
        (∀ t ∈ resolver.replacements, p.Alike t t) ∧ p.AlikeEnv env env' := by
  rw [alike_view]
  constructor
  · rintro ⟨kept, paired, admitted, replacements, layers⟩
    exact ⟨kept, paired, admitted, replacements, .of_layers layers⟩
  · rintro ⟨kept, paired, admitted, replacements, alike⟩
    exact ⟨kept, paired, admitted, replacements, alike.layers kept⟩

end Pairing

end ScopedTemplate
