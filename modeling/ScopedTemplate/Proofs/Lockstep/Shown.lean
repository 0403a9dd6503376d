import ScopedTemplate.Proofs.Lockstep.Environment

/-!
# What terms of two runs show

Terms that are alike have the same content and are displayed, written, compared and ordered in the
same way.  So are environments, as long as their layers are alike or nothing shows them.
-/

namespace ScopedTemplate

open Term

namespace Pairing

variable {p : Pairing} {t t' : Term} {env env' : Environment Term}

/-! ## Contents -/

theorem Alike.content (alike : p.Alike t t') : t.content = t'.content := by
  have items : ∀ {items items' : List Term},
      List.Forall₂ (fun s s' => p.Alike s s' ∧ s.content = s'.content) items items' →
        contents items = contents items' := by
    intro items items' each
    rw [contents_eq_map, contents_eq_map]
    exact (each.imp fun _ _ both => both.2).map_eq
  refine alike.by_shape (motive := fun t t' => t.content = t'.content) (fun _ _ => rfl)
    ?list ?tuple ?map ?set ?point ?function ?callable ?view
  case list | tuple =>
    intros
    simp only [Term.content]
    rw [items (by assumption)]
  case map =>
    intro kind stamp entries entries' each
    have fields : entryContents entries = entryContents entries' := by
      induction each with
      | nil => rfl
      | cons first _ ih =>
          simp only [entryContents]
          rw [first.1.1.key?, first.2.2, ih]
    simp only [Term.content]
    rw [fields]
  all_goals
    intros
    simp only [Term.content]

theorem AlikeEntries.scopeContent {entries entries' : Entries}
    (alike : p.AlikeEntries entries entries') : scopeContent entries = scopeContent entries' := by
  have fields : entryContents entries = entryContents entries' := by
    induction alike with
    | nil => rfl
    | cons first _ ih =>
        simp only [entryContents]
        rw [first.1.key?, first.2.content, ih]
  unfold Term.scopeContent
  rw [fields]

theorem AlikeEnv.fingerprint (alike : p.AlikeEnv env env') : env.fingerprint = env'.fingerprint :=
  alike.flatten.scopeContent

/-! ## Written forms -/

theorem Alike.isWritable (alike : p.Alike t t') : t.isWritable = t'.isWritable := by
  have items : ∀ {items items' : List Term},
      List.Forall₂ (fun s s' => p.Alike s s' ∧ s.isWritable = s'.isWritable) items items' →
        areWritable items = areWritable items' := by
    intro items items' each
    induction each with
    | nil => rfl
    | cons first _ ih => simp only [areWritable, first.2, ih]
  refine alike.by_shape (motive := fun t t' => t.isWritable = t'.isWritable) (fun _ _ => rfl)
    ?list ?tuple ?map ?set ?point ?function ?callable ?view
  case list | tuple | set | point =>
    intros
    simp only [Term.isWritable]
    exact items (by assumption)
  case map =>
    intro kind stamp entries entries' each
    simp only [Term.isWritable]
    induction each with
    | nil => rfl
    | cons first _ ih => simp only [areWritableEntries, first.1.2, first.2.2, ih]
  all_goals
    intros
    simp only [Term.isWritable]

theorem AlikeEntries.areWritable {entries entries' : Entries}
    (alike : p.AlikeEntries entries entries') :
    areWritableEntries entries = areWritableEntries entries' := by
  induction alike with
  | nil => rfl
  | cons first _ ih =>
      simp only [areWritableEntries, first.1.isWritable, first.2.isWritable, ih]

/-- Terms are displayed alike if the environments of their views are. -/
theorem Alike.displayWith {showEnv : Environment Term → String} (alike : p.Alike t t')
    (shown : ∀ {env env'}, ¬ p.merges → p.AlikeEnv env env' → showEnv env = showEnv env') :
    t.displayWith showEnv = t'.displayWith showEnv := by
  have items : ∀ {items items' : List Term},
      List.Forall₂ (fun s s' => p.Alike s s' ∧
        s.displayWith showEnv = s'.displayWith showEnv) items items' →
          displaysWith showEnv items = displaysWith showEnv items' := by
    intro items items' each
    induction each with
    | nil => rfl
    | cons first _ ih => exact congrArg₂ List.cons first.2 ih
  -- The display is unfolded by computation, since its equations are slow to derive.
  refine alike.by_shape (motive := fun t t' => t.displayWith showEnv = t'.displayWith showEnv)
    (fun _ _ => rfl) ?list ?tuple ?map ?set ?point ?function ?callable ?view
  case list =>
    intro kind stamp inside inside' each
    exact congrArg (fun parts => "[" ++ commas parts ++ "]") (items each)
  case tuple =>
    intro stamp inside inside' each
    have same := items each
    cases each with
    | nil => rfl
    | cons first others =>
        cases others with
        | nil => exact congrArg (fun part => "(" ++ part ++ ",)") first.2
        | cons second others => exact congrArg (fun parts => "(" ++ commas parts ++ ")") same
  case set =>
    intro stamp inside inside' each
    have same := items each
    cases each with
    | nil => rfl
    | cons first others => exact congrArg (fun parts => "\x7b" ++ commas parts ++ "\x7d") same
  case point =>
    intro stamp inside inside' each
    have fields : ∀ names, displayFieldsWith showEnv names inside =
        displayFieldsWith showEnv names inside' := by
      induction each with
      | nil => exact fun names => rfl
      | cons first _ ih =>
          intro names
          cases names with
          | nil => rfl
          | cons name names =>
              exact congrArg₂ List.cons (congrArg (name ++ "=" ++ ·) first.2) (ih names)
    exact congrArg (fun parts => "Point(" ++ commas parts ++ ")") (fields _)
  case map =>
    intro kind stamp entries entries' each
    have fields : displayEntriesWith showEnv entries = displayEntriesWith showEnv entries' := by
      induction each with
      | nil => rfl
      | cons first _ ih =>
          refine congrArg₂ List.cons ?_ ih
          exact congrArg₂ (fun key value => key ++ ": " ++ value) first.1.2 first.2.2
    exact congrArg (fun parts => "\x7b" ++ commas parts ++ "\x7d") fields
  case view =>
    intro stamp resolver resolver' env env' cache alike
    obtain ⟨kept, _, _, _, same⟩ := alike_view_iff.1 alike
    exact congrArg (fun text => "EnvironmentProxy(" ++ text ++ ")") (shown kept same)
  all_goals
    intros
    rfl

theorem Alike.nameText (alike : p.Alike t t') : t.nameText = t'.nameText := by
  unfold Term.nameText Term.displayName
  rw [alike.text?, alike.displayWith fun _ _ => rfl]

theorem AlikeEnv.display (kept : ¬ p.merges) (alike : p.AlikeEnv env env') :
    env.display = env'.display := by
  have depth : env.depth = env'.depth := by
    have sizes := (List.forall₂_cons.1 (alike.layers kept)).2.length_eq
    rwa [List.length_reverse, List.length_reverse] at sizes
  have names : env.names.map Term.nameText = env'.names.map Term.nameText :=
    (alike.names.imp fun _ _ named => named.nameText).map_eq
  unfold Environment.display
  rw [depth, names]

theorem Alike.display (alike : p.Alike t t') : t.display = t'.display :=
  alike.displayWith fun kept env => env.display kept

theorem Alike.shortDisplay (alike : p.Alike t t') : t.shortDisplay = t'.shortDisplay := by
  unfold Term.shortDisplay
  rw [alike.display]

theorem AlikeEnv.snapshot (alike : p.AlikeEnv env env') : env.snapshot = env'.snapshot := by
  unfold Environment.snapshot
  have flat := alike.flatten
  generalize env.flatten = bindings, env'.flatten = bindings' at flat
  generalize ([] : Snapshot) = start
  induction flat generalizing start with
  | nil => rfl
  | cons first _ ih =>
      rw [List.foldl_cons, List.foldl_cons, first.1.nameText, first.2.shortDisplay, ih]

theorem Alike.tagged (alike : p.Alike t t') : t.tagged = t'.tagged := by
  have items : ∀ {items items' : List Term},
      List.Forall₂ (fun s s' => p.Alike s s' ∧ s.tagged = s'.tagged) items items' →
        taggedItems items = taggedItems items' := by
    intro items items' each
    induction each with
    | nil => rfl
    | cons first _ ih => simp only [taggedItems, first.2, ih]
  refine alike.by_shape (motive := fun t t' => t.tagged = t'.tagged) (fun _ _ => rfl)
    ?list ?tuple ?map ?set ?point ?function ?callable ?view
  case list =>
    intro kind stamp inside inside' each
    cases kind <;> (simp only [Term.tagged]; rw [items each])
  case tuple | set | point =>
    intro stamp inside inside' each
    simp only [Term.tagged]
    rw [items each]
  case map =>
    intro kind stamp entries entries' each
    have fields : taggedEntries entries = taggedEntries entries' := by
      induction each with
      | nil => rfl
      | cons first _ ih => simp only [taggedEntries, first.1.2, first.2.2, ih]
    cases kind <;> (simp only [Term.tagged]; rw [fields])
  case view =>
    intro stamp resolver resolver' env env' cache alike
    obtain ⟨kept, _, _, _, same⟩ := alike_view_iff.1 alike
    simp only [Term.tagged]
    rw [same.display kept]
  case function =>
    intros
    simp only [Term.tagged]
  case callable =>
    intros
    rfl

/-! ## References -/

theorem Alike.references (alike : p.Alike t t') (classifier : Classifier) (defaultsKey : String) :
    t.references classifier defaultsKey = t'.references classifier defaultsKey := by
  have items : ∀ {items items' : List Term},
      List.Forall₂ (fun s s' => p.Alike s s' ∧
        s.references classifier defaultsKey = s'.references classifier defaultsKey) items items' →
          referencesInItems classifier defaultsKey items =
            referencesInItems classifier defaultsKey items' := by
    intro items items' each
    induction each with
    | nil => rfl
    | cons first _ ih => simp only [referencesInItems, first.2, ih]
  refine alike.by_shape (motive := fun t t' =>
    t.references classifier defaultsKey = t'.references classifier defaultsKey) (fun _ _ => rfl)
    ?list ?tuple ?map ?set ?point ?function ?callable ?view
  case list =>
    intro kind stamp inside inside' each
    have whole : p.Alike (.list kind stamp inside) (.list kind stamp inside') :=
      alike_list.2 (each.imp fun _ _ both => both.1)
    simp only [Term.references]
    rw [items each, whole.isLeaf]
  case tuple =>
    intro stamp inside inside' each
    have whole : p.Alike (.tuple stamp inside) (.tuple stamp inside') :=
      alike_tuple.2 (each.imp fun _ _ both => both.1)
    simp only [Term.references]
    rw [items each, whole.isLeaf]
  case map =>
    intro kind stamp entries entries' each
    have whole : p.Alike (.map kind stamp entries) (.map kind stamp entries') :=
      alike_map.2 (each.imp fun _ _ both => ⟨both.1.1, both.2.1⟩)
    have fields : referencesInEntries classifier defaultsKey entries =
        referencesInEntries classifier defaultsKey entries' := by
      clear whole
      induction each with
      | nil => rfl
      | cons first _ ih =>
          simp only [referencesInEntries]
          rw [first.1.1.sameKey (alike_text _ _), first.2.2, ih]
    simp only [Term.references]
    rw [fields, whole.isLeaf]
  all_goals
    intros
    simp only [Term.references]

theorem Alike.referenceNames (alike : p.Alike t t') (classifier : Classifier)
    (defaultsKey : String) :
    t.referenceNames classifier defaultsKey = t'.referenceNames classifier defaultsKey := by
  unfold Term.referenceNames
  rw [alike.references]

theorem Alike.isFalsy (alike : p.Alike t t') : t.isFalsy = t'.isFalsy := by
  have empty : ∀ {items items' : List Term}, items.length = items'.length →
      items.isEmpty = items'.isEmpty := by
    intro items items' size
    cases items <;> cases items' <;> first | rfl | cases size
  cases alike.shape with
  | list _ _ size => exact empty size
  | tuple _ size => exact empty size
  | set _ size => exact empty size
  | point _ size => exact empty size
  | map kind stamp size => exact (alike_map.1 alike).isEmpty
  | view stamp kept paired admitted layers =>
      simp only [Term.isFalsy]
      rw [(alike_view_iff.1 alike).2.2.2.2.size]
  | _ => rfl

end Pairing

end ScopedTemplate
