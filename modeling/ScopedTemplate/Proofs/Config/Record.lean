import ScopedTemplate.Config.Source
import ScopedTemplate.Proofs.Term.Access

/-!
# Records of settings

What it takes to make settings of entries by name, when the conversion of values of near types is left
to others: every name is that of a field, and every value that is given can be converted and is admitted.
-/

namespace ScopedTemplate

theorem Except.map_eq_ok {ε α β : Type} {f : α → β} {x : Except ε α} {result : β} :
    x.map f = .ok result ↔ ∃ value, x = .ok value ∧ f value = result := by
  cases x <;> simp [Except.map]

theorem Except.toOption_eq_some {ε α : Type} {x : Except ε α} {value : α} :
    x.toOption = some value ↔ x = .ok value := by
  cases x <;> simp [Except.toOption]

/-! ## Values of fields -/

/-- How values of near types become what a field holds. -/
structure Conversions where
  integer : Setting → Option Int
  flag : Setting → Option Bool
  text : Setting → Option String
  texts : Setting → Option (List String)

namespace Conversions

variable (conversions : Conversions)

def depth (value : Setting) : Option Int :=
  (conversions.integer value).filter fun n => 1 ≤ n ∧ n ≤ 10000

def name (value : Setting) : Option String := (conversions.text value).filter (· ≠ "")

def start : Setting → Option (Option String)
  | .null => some none
  | value => (conversions.text value).map fun s => if s = "" then none else some s

def paths (value : Setting) : Option (List String) :=
  (conversions.texts value).filter fun paths => paths.all Setting.isDotted

end Conversions

namespace Setting

theorem text?_eq_some {value : Setting} {s : String} : value.text? = some s ↔ value = .text s := by
  cases value <;> simp [text?]

theorem sameKey_text {key : Setting} {s : String} : key.sameKey (.text s) = true ↔ key = .text s := by
  cases key <;> simp [sameKey, number?]

def valueOf (entries : List (Setting × Setting)) (name : String) : Option Setting :=
  (entries.find? (·.1.sameKey (.text name))).map Prod.snd

/-- What is put under a name is the value that is given. -/
theorem valueOf_put (entries : List (Setting × Setting)) (name : String) (value : Setting) :
    valueOf (put entries (.text name) value) name = some value := by
  induction entries with
  | nil => simp [put, valueOf, sameKey]
  | cons entry rest ih =>
      unfold put
      split
      · next same => simp [valueOf, same]
      · next differs =>
          have later : List.find? (·.1.sameKey (.text name)) (entry :: put rest (.text name) value) =
              List.find? (·.1.sameKey (.text name)) (put rest (.text name) value) :=
            List.find?_cons_of_neg differs
          unfold valueOf at ih ⊢
          rw [later, ih]

/-- Text is put among keys of which some may be none. -/
theorem isText_put {entries : List (Setting × Setting)} {name : String} {value : Setting} :
    (put entries (.text name) value).all (·.1.isText) = entries.all (·.1.isText) := by
  induction entries with
  | nil => simp [put, isText]
  | cons entry rest ih =>
      unfold put
      split
      · rfl
      · rw [List.all_cons, List.all_cons, ih]

end Setting

/-- The value of a field: what is given for it as it is read, or the standard value. -/
def Holds {α : Type} (entries : List (Setting × Setting)) (name : String) (standard : α)
    (read : Setting → Option α) (value : α) : Prop :=
  match Setting.valueOf entries name with
  | none => value = standard
  | some given => read given = some value

/-- A field has what its standard value has, and all that can be read. -/
theorem Holds.of {α : Type} {entries : List (Setting × Setting)} {name : String} {standard value : α}
    {read : Setting → Option α} {P : α → Prop} (holds : Holds entries name standard read value)
    (usual : P standard) (reads : ∀ given value, read given = some value → P value) : P value := by
  unfold Holds at holds
  split at holds
  · rwa [holds]
  · exact reads _ _ holds

/-! ## Records -/

namespace Config

/-- Settings within all bounds. -/
structure Valid (config : Config) : Prop where
  positive : 1 ≤ config.maxDepth
  bounded : config.maxDepth ≤ 10000
  start : config.refPrefix ≠ some ""
  key : config.defaultsKey ≠ ""
  paths : ∀ path ∈ config.leafTypes, Setting.isDotted path = true

/-- Settings as entries give them: every name is known, and every value can be converted and is admitted. -/
structure MadeOf (conversions : Conversions) (entries : List (Setting × Setting)) (config : Config) :
    Prop where
  known : ∀ entry ∈ entries, ∃ name ∈ fieldNames, entry.1 = .text name
  maxDepth : Holds entries "max_depth" (100 : Int) conversions.depth config.maxDepth
  detectCycles : Holds entries "detect_cycles" true conversions.flag config.detectCycles
  strict : Holds entries "strict" false conversions.flag config.strict
  strictDependencies :
    Holds entries "strict_dependencies" false conversions.flag config.strictDependencies
  removeEmpty : Holds entries "remove_empty" true conversions.flag config.removeEmpty
  refPrefix : Holds entries "ref_prefix" none conversions.start config.refPrefix
  defaultsKey : Holds entries "defaults_key" standardDefaultsKey conversions.name config.defaultsKey
  leafTypes : Holds entries "leaf_types" [] conversions.paths config.leafTypes

variable {conversions : Conversions} {entries : List (Setting × Setting)} {config : Config}

theorem depth_bounds {depth : Int} (holds : Holds entries "max_depth" 100 conversions.depth depth) :
    1 ≤ depth ∧ depth ≤ 10000 :=
  holds.of (P := fun n => 1 ≤ n ∧ n ≤ 10000) (by decide) fun given n read => by
    simpa using (Option.filter_eq_some_iff.1 read).2

theorem MadeOf.valid (made : config.MadeOf conversions entries) : config.Valid := by
  have depth := depth_bounds made.maxDepth
  refine ⟨by omega, by omega, ?_, ?_, ?_⟩
  · refine made.refPrefix.of (P := (· ≠ some "")) nofun fun given start read => ?_
    unfold Conversions.start at read
    split at read
    · cases read
      exact nofun
    · obtain ⟨s, _, rfl⟩ := Option.map_eq_some_iff.1 read
      split <;> simp_all
  · exact made.defaultsKey.of (P := (· ≠ "")) (by decide) fun given name read => by
      simpa using (Option.filter_eq_some_iff.1 read).2
  · exact made.leafTypes.of (P := fun paths => ∀ path ∈ paths, Setting.isDotted path = true)
      (List.forall_mem_nil _) fun given paths read => by
        simpa using (Option.filter_eq_some_iff.1 read).2

/-- The bound on nesting is the integer that is given for it. -/
theorem MadeOf.depth_eq {n : Int} (made : config.MadeOf conversions entries)
    (integers : conversions.integer (.int n) = some n)
    (given : Setting.valueOf entries "max_depth" = some (.int n)) : (config.maxDepth : Int) = n := by
  have holds := made.maxDepth
  unfold Holds at holds
  rw [given] at holds
  obtain ⟨read, _⟩ := Option.filter_eq_some_iff.1 holds
  exact Option.some.inj (read.symm.trans integers)

end Config

/-- What a loader relies on: settings are made of entries by name exactly if all of them are known and valid. -/
structure Libraries.Sound (libraries : Libraries) (conversions : Conversions) : Prop where
  integers : ∀ n, conversions.integer (.int n) = some n
  exact : ∀ entries config, (∀ entry ∈ entries, entry.1.isText = true) →
    (libraries.validate entries = .ok config ↔ config.MadeOf conversions entries)

/-! ## The conversions in use -/

namespace Setting

theorem toBounded_eq_ok {least greatest n : Int} {value : Setting} :
    value.toBounded least greatest = .ok n ↔
      value.toInteger = .ok n ∧ least ≤ n ∧ n ≤ greatest := by
  unfold toBounded
  rw [Except.bind_eq_ok]
  constructor
  · rintro ⟨m, integer, kept⟩
    split at kept
    · cases kept
    · split at kept
      · cases kept
      · cases kept
        exact ⟨integer, by omega, by omega⟩
  · rintro ⟨integer, above, below⟩
    exact ⟨n, integer, by rw [if_neg (by omega), if_neg (by omega)]⟩

theorem toName_eq_ok {value : Setting} {s : String} :
    value.toName = .ok s ↔ value.toText = .ok s ∧ s ≠ "" := by
  unfold toName
  rw [Except.bind_eq_ok]
  constructor
  · rintro ⟨t, text, kept⟩
    split at kept
    · cases kept
    · next differs =>
        cases kept
        exact ⟨text, differs⟩
  · rintro ⟨text, differs⟩
    exact ⟨s, text, if_neg differs⟩

theorem toPaths_eq_ok {field : String} {value : Setting} {paths : List String} :
    value.toPaths field = .ok paths ↔
      ∃ items, value = .list items ∧ toTexts field 0 items = .ok paths ∧
        ∀ path ∈ paths, isDotted path = true := by
  unfold toPaths
  split
  · next items =>
      rw [Except.bind_eq_ok]
      constructor
      · rintro ⟨texts, read, kept⟩
        split at kept
        · cases kept
        · next all =>
            cases kept
            exact ⟨items, rfl, read, by simpa using all⟩
      · rintro ⟨_, ⟨⟩, read, all⟩
        refine ⟨paths, read, ?_⟩
        have none : paths.find? (!isDotted ·) = none := by simpa using all
        rw [none]
        rfl
  · next other =>
      constructor
      · rintro ⟨⟩
      · rintro ⟨items, same, _⟩
        exact absurd same (other items)

end Setting

theorem Checked.apply_eq_ok {α β : Type} {f : Checked (α → β)} {x : Checked α} {result : β} :
    apply f x = .ok result ↔ ∃ make value, f = .ok make ∧ x = .ok value ∧ make value = result := by
  cases f with
  | error errors => cases x <;> simp [apply]
  | ok make => cases x <;> simp [apply]

theorem Checked.within_eq_ok {α : Type} {field : String} {result : Except FieldFault α} {value : α} :
    within field result = .ok value ↔ result = .ok value := by
  cases result <;> simp [within, fail]

def Setting.texts? : Setting → Option (List String)
  | .list items => (toTexts "leaf_types" 0 items).toOption
  | _ => none

def Conversions.usual : Conversions where
  integer value := value.toInteger.toOption
  flag value := value.toFlag.toOption
  text value := value.toText.toOption
  texts := Setting.texts?

namespace Config

variable {entries : List (Setting × Setting)} {config : Config}

theorem find?_namedFields (entries : List (Setting × Setting)) (name : String) :
    Fields.find? (namedFields entries) name = Setting.valueOf entries name := by
  induction entries with
  | nil => rfl
  | cons entry rest ih =>
      obtain ⟨key, value⟩ := entry
      unfold Fields.find? Setting.valueOf namedFields at ih ⊢
      cases text : key.text? with
      | none =>
          have other : ¬ key.sameKey (.text name) = true := fun same => by
            rw [Setting.sameKey_text.1 same] at text
            cases text
          simpa [text, other] using ih
      | some found =>
          obtain rfl := Setting.text?_eq_some.1 text
          by_cases same : found = name
          · simp [Setting.text?, Setting.sameKey, same]
          · simpa [Setting.text?, Setting.sameKey, same] using ih

theorem readField_eq_ok {α : Type} {name : String} {standard value : α} {read : Setting → Checked α}
    {reading : Setting → Option α} (same : ∀ given value, read given = .ok value ↔ reading given = some value) :
    readField (namedFields entries) name standard read = .ok value ↔
      Holds entries name standard reading value := by
  unfold readField Holds
  rw [find?_namedFields]
  cases Setting.valueOf entries name with
  | none => exact ⟨fun ok => (Except.ok.inj ok).symm, fun same => congrArg _ same.symm⟩
  | some given => exact same given value

theorem readPlain_eq_ok {α : Type} {name : String} {standard value : α}
    {read : Setting → Except FieldFault α} {reading : Setting → Option α}
    (same : ∀ given value, read given = .ok value ↔ reading given = some value) :
    readPlain (namedFields entries) name standard read = .ok value ↔
      Holds entries name standard reading value :=
  readField_eq_ok fun given value => Checked.within_eq_ok.trans (same given value)

theorem checkNames_eq_ok {fields : Fields} :
    checkNames fields = .ok () ↔ ∀ field ∈ fields, field.1 ∈ fieldNames := by
  have none : checkNames fields = .ok () ↔ fields.filter (!fieldNames.contains ·.1) = [] := by
    unfold checkNames
    split
    · next all => exact ⟨fun _ => all, fun _ => rfl⟩
    · next odd => exact ⟨nofun, fun none => absurd none odd⟩
  rw [none, List.filter_eq_nil_iff]
  simp

theorem checkEncodable_eq_ok :
    checkEncodable entries = .ok () ↔ ∀ entry ∈ entries, entry.1.text?.isSome = true := by
  have none : checkEncodable entries = .ok () ↔ entries.filter (·.1.text?.isNone) = [] := by
    unfold checkEncodable
    split
    · next all => exact ⟨fun _ => all, fun _ => rfl⟩
    · next odd => exact ⟨nofun, fun none => absurd none odd⟩
  rw [none, List.filter_eq_nil_iff]
  simp [Option.isSome_iff_ne_none]

/-- Names are accepted exactly if each of them is that of a field. -/
theorem names_known : checkNames (namedFields entries) = .ok () ∧ checkEncodable entries = .ok () ↔
    ∀ entry ∈ entries, ∃ name ∈ fieldNames, entry.1 = .text name := by
  rw [checkNames_eq_ok, checkEncodable_eq_ok]
  constructor
  · rintro ⟨known, texts⟩ entry mem
    obtain ⟨name, text⟩ := Option.isSome_iff_exists.1 (texts entry mem)
    have given : (name, entry.2) ∈ namedFields entries :=
      List.mem_filterMap.2 ⟨entry, mem, by rw [text]; rfl⟩
    exact ⟨name, known _ given, Setting.text?_eq_some.1 text⟩
  · intro known
    refine ⟨fun field given => ?_, fun entry mem => ?_⟩
    · obtain ⟨entry, mem, same⟩ := List.mem_filterMap.1 given
      obtain ⟨name, isField, text⟩ := known entry mem
      rw [text] at same
      cases same
      exact isField
    · obtain ⟨name, _, text⟩ := known entry mem
      rw [text]
      rfl

section Conversions

variable {given : Setting}

theorem usual_depth {depth : Int} : given.toBounded depthBounds.1 depthBounds.2 = .ok depth ↔
    Conversions.usual.depth given = some depth := by
  rw [Setting.toBounded_eq_ok]
  simp [Conversions.depth, Conversions.usual, Option.filter_eq_some_iff, Except.toOption_eq_some,
    depthBounds]

theorem usual_start {start : Option String} : given.toOptionalText = .ok start ↔
    Conversions.usual.start given = some start := by
  by_cases null : given = .null
  · subst null
    simp [Setting.toOptionalText, Conversions.start]
  · have text : given.toOptionalText =
        given.toText.map fun s => if s = "" then none else some s := by
      cases given <;> first | exact absurd rfl null | rfl
    have start : Conversions.usual.start given =
        given.toText.toOption.map fun s => if s = "" then none else some s := by
      cases given <;> first | exact absurd rfl null | rfl
    rw [text, start, Except.map_eq_ok, Option.map_eq_some_iff]
    simp only [Except.toOption_eq_some]

theorem usual_name {name : String} : given.toName = .ok name ↔
    Conversions.usual.name given = some name := by
  rw [Setting.toName_eq_ok]
  simp [Conversions.name, Conversions.usual, Option.filter_eq_some_iff, Except.toOption_eq_some]

theorem usual_paths {paths : List String} : given.toPaths "leaf_types" = .ok paths ↔
    Conversions.usual.paths given = some paths := by
  rw [Setting.toPaths_eq_ok]
  cases given <;>
    simp [Conversions.paths, Conversions.usual, Setting.texts?, Option.filter_eq_some_iff,
      Except.toOption_eq_some]

end Conversions

/-- Settings are made of entries by name exactly if all names are known and all values valid. -/
theorem ofNamed_eq_ok : ofNamed entries = .ok config ↔ config.MadeOf .usual entries := by
  have flags (name : String) (standard value : Bool) :
      readPlain (namedFields entries) name standard Setting.toFlag = .ok value ↔
        Holds entries name standard Conversions.usual.flag value :=
    readPlain_eq_ok fun _ _ => Except.toOption_eq_some.symm
  have depths (depth : Int) : readPlain (namedFields entries) "max_depth" (standard.maxDepth : Int)
      (Setting.toBounded depthBounds.1 depthBounds.2) = .ok depth ↔
        Holds entries "max_depth" 100 Conversions.usual.depth depth :=
    readPlain_eq_ok fun _ _ => usual_depth
  have starts (start : Option String) : readPlain (namedFields entries) "ref_prefix"
      standard.refPrefix Setting.toOptionalText = .ok start ↔
        Holds entries "ref_prefix" none Conversions.usual.start start :=
    readPlain_eq_ok fun _ _ => usual_start
  have keys (key : String) : readPlain (namedFields entries) "defaults_key" standard.defaultsKey
      Setting.toName = .ok key ↔
        Holds entries "defaults_key" standardDefaultsKey Conversions.usual.name key :=
    readPlain_eq_ok fun _ _ => usual_name
  have paths (paths : List String) : readField (namedFields entries) "leaf_types" standard.leafTypes
      (Setting.toPaths "leaf_types") = .ok paths ↔
        Holds entries "leaf_types" [] Conversions.usual.paths paths :=
    readField_eq_ok fun _ _ => usual_paths
  unfold ofNamed ofFields
  simp only [Checked.apply_eq_ok, Except.map_eq_ok, flags, depths, starts, keys, paths]
  constructor
  · rintro ⟨_, ⟨⟩, ⟨_, ⟨_, _, ⟨_, _, ⟨_, _, ⟨_, _, ⟨_, _, ⟨_, _, ⟨_, _, ⟨_, _, ⟨depth, maxDepth, rfl⟩,
      detectCycles, rfl⟩, strict, rfl⟩, dependencies, rfl⟩, removeEmpty, rfl⟩, refPrefix, rfl⟩,
      defaultsKey, rfl⟩, leafTypes, rfl⟩, known, rfl⟩, rfl⟩, encodable, rfl⟩
    have bounds := depth_bounds maxDepth
    refine ⟨names_known.1 ⟨known, encodable⟩, ?_, detectCycles, strict, dependencies, removeEmpty,
      refPrefix, defaultsKey, leafTypes⟩
    rwa [Int.toNat_of_nonneg (by omega)]
  · rintro ⟨known, maxDepth, detectCycles, strict, dependencies, removeEmpty, refPrefix, defaultsKey,
      leafTypes⟩
    obtain ⟨known, encodable⟩ := names_known.2 known
    exact ⟨_, (), ⟨_, ⟨_, (), ⟨_, _, ⟨_, _, ⟨_, _, ⟨_, _, ⟨_, _, ⟨_, _, ⟨_, _, ⟨_, maxDepth, rfl⟩,
      detectCycles, rfl⟩, strict, rfl⟩, dependencies, rfl⟩, removeEmpty, rfl⟩, refPrefix, rfl⟩,
      defaultsKey, rfl⟩, leafTypes, rfl⟩, known, rfl⟩, rfl⟩, encodable, rfl⟩

theorem usual_sound : Libraries.usual.Sound .usual :=
  ⟨fun _ => rfl, fun _ _ _ => ofNamed_eq_ok⟩

end Config

end ScopedTemplate
