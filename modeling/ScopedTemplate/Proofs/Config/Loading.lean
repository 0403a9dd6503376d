import ScopedTemplate.Proofs.Config.Record

/-!
# Loading settings

Settings that are loaded keep all bounds, and the bound on nesting is that of the variable if it is given.
A loader reads anew whenever it is asked until it succeeds, and from then on gives what it read.
-/

namespace ScopedTemplate

theorem Except.mapError_eq_ok {ε ε' α : Type} {f : ε → ε'} {x : Except ε α} {value : α} :
    x.mapError f = .ok value ↔ x = .ok value := by
  cases x with
  | error cause => exact ⟨nofun, nofun⟩
  | ok found =>
      exact ⟨fun same => congrArg _ (Except.ok.inj same), fun same => congrArg _ (Except.ok.inj same)⟩

theorem Except.bind_eq_error {ε α β : Type} {first : Except ε α} {next : α → Except ε β} {failure : ε} :
    first >>= next = .error failure ↔
      first = .error failure ∨ ∃ found, first = .ok found ∧ next found = .error failure := by
  cases first <;> simp [bind, Except.bind]

theorem Except.mapError_eq_error {ε ε' α : Type} {f : ε → ε'} {x : Except ε α} {failure : ε'} :
    x.mapError f = .error failure ↔ ∃ cause, x = .error cause ∧ f cause = failure := by
  cases x with
  | error cause =>
      refine ⟨fun same => ⟨cause, rfl, Except.error.inj same⟩, ?_⟩
      rintro ⟨_, ⟨⟩, rfl⟩
      rfl
  | ok found => exact ⟨nofun, nofun⟩

/-! ## Reading settings once -/

namespace Origin

variable (origin : Origin) (files : Files) (libraries : Libraries)

/-- What is found is a file, and its text is a document or malformed. -/
def Readable : Prop := ∃ found warnings,
  origin.locate files = .ok (found, warnings) ∧ ∀ path entry, found = some (path, entry) →
    ∃ text, entry = .file text ∧ ∀ failure, libraries.parse text ≠ .error (.failure failure)

/-- What is found is a file with a mapping in which a key is no text. -/
def ReadsOddKey : Prop := ∃ path text warnings entries,
  origin.locate files = .ok (some (path, .file text), warnings) ∧
    libraries.parse text = .ok (.mapping entries) ∧ entries.all (·.1.isText) = false

end Origin

namespace Libraries

variable {libraries : Libraries} {conversions : Conversions} {entries entries' : List (Setting × Setting)}
  {depth : Option String} {source : String} {found : Option (Path × FileEntry)} {failure : LoadFailure}
  {config : Config}

/-- Entries that are found come from a mapping in a file. -/
theorem of_entriesAt (ok : libraries.entriesAt found = .ok entries) : entries = [] ∨
    ∃ path text, found = some (path, .file text) ∧ libraries.parse text = .ok (.mapping entries) := by
  unfold entriesAt at ok
  split at ok
  · cases ok
    exact .inl rfl
  · next path text =>
      unfold entriesOf at ok
      split at ok <;> cases ok
      · exact .inl rfl
      · next read => exact .inr ⟨path, text, rfl, read⟩
  · cases ok

/-- What is read well, but has no entries, is refused as a value. -/
theorem name_of_entriesAt (refused : libraries.entriesAt found = .error failure)
    (readable : ∀ path entry, found = some (path, entry) →
      ∃ text, entry = .file text ∧ ∀ failure, libraries.parse text ≠ .error (.failure failure)) :
    failure.name = "ValueError" := by
  unfold entriesAt at refused
  split at refused
  · cases refused
  · next path text =>
      obtain ⟨_, ⟨⟩, fails⟩ := readable path _ rfl
      unfold entriesOf at refused
      split at refused <;> cases refused
      · rfl
      · next other read => exact absurd read (fails other)
      · rfl
  · obtain ⟨_, ⟨⟩, _⟩ := readable _ _ rfl

theorem overrideDepth_eq_ok : overrideDepth entries depth = .ok entries' ↔
    (Origin.given depth = none ∧ entries' = entries) ∨
      ∃ text n, Origin.given depth = some text ∧ Numeral.readInteger 10 text = .ok n ∧
        entries' = Setting.put entries (.text "max_depth") (.int n) := by
  unfold overrideDepth
  cases Origin.given depth with
  | none => simp [eq_comm]
  | some text => cases integer : Numeral.readInteger 10 text <;> simp [integer, eq_comm]

theorem entriesAt_ne_keyNotText : libraries.entriesAt found ≠ .error .keyNotText := by
  unfold entriesAt entriesOf
  repeat' split
  all_goals exact nofun

theorem overrideDepth_ne_keyNotText : overrideDepth entries depth ≠ .error .keyNotText := by
  unfold overrideDepth
  repeat' split
  all_goals exact nofun

theorem overrideDepth_ok (entries : List (Setting × Setting))
    (integers : ∀ text, Origin.given depth = some text → ∃ n, Numeral.readInteger 10 text = .ok n) :
    ∃ entries', overrideDepth entries depth = .ok entries' := by
  cases given : Origin.given depth with
  | none => exact ⟨entries, overrideDepth_eq_ok.2 (.inl ⟨given, rfl⟩)⟩
  | some text =>
      obtain ⟨n, integer⟩ := integers text given
      exact ⟨_, overrideDepth_eq_ok.2 (.inr ⟨text, n, given, integer, rfl⟩)⟩

theorem name_of_overrideDepth (refused : overrideDepth entries depth = .error failure) :
    failure.name = "ValueError" := by
  unfold overrideDepth at refused
  split at refused
  · cases refused
  · split at refused <;> cases refused
    rfl

/-- The bound on nesting from the variable is put under a key that is text. -/
theorem isText_of_overrideDepth (ok : overrideDepth entries depth = .ok entries') :
    entries'.all (·.1.isText) = entries.all (·.1.isText) := by
  rcases overrideDepth_eq_ok.1 ok with ⟨_, rfl⟩ | ⟨text, n, _, _, rfl⟩
  · rfl
  · exact Setting.isText_put

theorem of_configOf (sound : libraries.Sound conversions)
    (ok : libraries.configOf source entries = .ok config) : config.MadeOf conversions entries := by
  unfold configOf at ok
  split at ok
  · next texts =>
      exact (sound.exact entries config (by simpa using texts)).1 (Except.mapError_eq_ok.1 ok)
  · cases ok

/-- Settings are not made of entries if a key is no text, or else if they are invalid. -/
theorem of_configOf_error (refused : libraries.configOf source entries = .error failure) :
    (failure = .keyNotText ∧ entries.all (·.1.isText) = false) ∨
      ∃ errors, failure = .invalid source errors := by
  unfold configOf at refused
  split at refused
  · obtain ⟨errors, _, rfl⟩ := Except.mapError_eq_error.1 refused
    exact .inr ⟨errors, rfl⟩
  · next odd =>
      cases refused
      exact .inl ⟨rfl, by simpa using odd⟩

/-- Settings are refused for the entries, for the variable, or for what both of them make. -/
theorem configAt_eq_error (refused : libraries.configAt found depth = .error failure) :
    libraries.entriesAt found = .error failure ∨ ∃ entries, libraries.entriesAt found = .ok entries ∧
      (overrideDepth entries depth = .error failure ∨
        ∃ entries', overrideDepth entries depth = .ok entries' ∧
          libraries.configOf (found.elim "environment" (·.1.text)) entries' = .error failure) := by
  rcases Except.bind_eq_error.1 refused with refused | ⟨entries, ok, refused⟩
  · exact .inl refused
  · exact .inr ⟨entries, ok, Except.bind_eq_error.1 refused⟩

end Libraries

namespace Loader

variable {origin : Origin} {files : Files} {libraries : Libraries} {conversions : Conversions}
  {failure : LoadFailure} {config : Config}

/-- What a loader reads that keeps no settings yet. -/
def read (libraries : Libraries) (origin : Origin) (files : Files) : Except LoadFailure Config :=
  (load ⟨origin, none⟩ files libraries).1.map Prod.fst

theorem read_eq (origin : Origin) (files : Files) : read libraries origin files =
    (origin.locate files).mapError .access >>= fun search =>
      libraries.configAt search.1 origin.depth := by
  unfold read load
  dsimp only
  cases origin.locate files with
  | error fault => rfl
  | ok search =>
      obtain ⟨found, warnings⟩ := search
      change Except.map Prod.fst (Except.map _ (libraries.configAt found origin.depth)) =
        libraries.configAt found origin.depth
      cases libraries.configAt found origin.depth <;> rfl

/-- A loader keeps what it reads, if it can be read. -/
theorem load_fresh (origin : Origin) (files : Files) : (load ⟨origin, none⟩ files libraries).1 =
    (read libraries origin files).map fun config => (config, ⟨origin, some config⟩) := by
  unfold read load
  dsimp only
  cases origin.locate files with
  | error fault => rfl
  | ok search =>
      obtain ⟨found, warnings⟩ := search
      dsimp only
      cases libraries.configAt found origin.depth <;> rfl

/-- Settings that are read are within all bounds, and the bound on nesting is that of the variable. -/
theorem of_read (sound : libraries.Sound conversions) (ok : read libraries origin files = .ok config) :
    config.Valid ∧ ∀ text, Origin.given origin.depth = some text →
      Numeral.readInteger 10 text = .ok (config.maxDepth : Int) := by
  rw [read_eq] at ok
  obtain ⟨_, _, ok⟩ := Except.bind_eq_ok.1 ok
  obtain ⟨entries, _, ok⟩ := Except.bind_eq_ok.1 ok
  obtain ⟨entries', overridden, ok⟩ := Except.bind_eq_ok.1 ok
  have made := Libraries.of_configOf sound ok
  refine ⟨made.valid, fun text given => ?_⟩
  rcases Libraries.overrideDepth_eq_ok.1 overridden with ⟨none, _⟩ | ⟨_, n, given', integer, rfl⟩
  · rw [given] at none
    cases none
  · obtain rfl := Option.some.inj (given.symm.trans given')
    rw [made.depth_eq (sound.integers n) (Setting.valueOf_put _ _ _)]
    exact integer

/-- What is readable is refused as a value, or for a key that is no text. -/
theorem of_read_error (refused : read libraries origin files = .error failure)
    (readable : origin.Readable files libraries) :
    failure.name = "ValueError" ∨ failure = .keyNotText := by
  obtain ⟨found, warnings, located, contents⟩ := readable
  rw [read_eq, located] at refused
  change libraries.configAt found origin.depth = .error failure at refused
  rcases Libraries.configAt_eq_error refused with refused | ⟨_, _, refused | ⟨_, _, refused⟩⟩
  · exact .inl (Libraries.name_of_entriesAt refused contents)
  · exact .inl (Libraries.name_of_overrideDepth refused)
  · rcases Libraries.of_configOf_error refused with ⟨rfl, _⟩ | ⟨errors, rfl⟩
    · exact .inr rfl
    · exact .inl rfl

/-- A key that is no text is refused if the bound on nesting from the variable can be read. -/
theorem read_eq_keyNotText : read libraries origin files = .error .keyNotText ↔
    origin.ReadsOddKey files libraries ∧
      ∀ text, Origin.given origin.depth = some text → ∃ n, Numeral.readInteger 10 text = .ok n := by
  rw [read_eq]
  constructor
  · intro refused
    rcases Except.bind_eq_error.1 refused with refused | ⟨⟨found, warnings⟩, located, refused⟩
    · obtain ⟨_, _, ⟨⟩⟩ := Except.mapError_eq_error.1 refused
    · rcases Libraries.configAt_eq_error refused with
        refused | ⟨entries, ok, refused | ⟨_, overridden, refused⟩⟩
      · exact absurd refused Libraries.entriesAt_ne_keyNotText
      · exact absurd refused Libraries.overrideDepth_ne_keyNotText
      · rcases Libraries.of_configOf_error refused with ⟨_, odd⟩ | ⟨_, ⟨⟩⟩
        refine ⟨?_, fun text given => ?_⟩
        · -- the variable adds no key that is no text, so that the file has one
          rw [Libraries.isText_of_overrideDepth overridden] at odd
          rcases Libraries.of_entriesAt ok with rfl | ⟨path, text, rfl, document⟩
          · cases odd
          · exact ⟨path, text, warnings, entries, Except.mapError_eq_ok.1 located, document, odd⟩
        · rcases Libraries.overrideDepth_eq_ok.1 overridden with ⟨none, _⟩ | ⟨_, n, given', integer, _⟩
          · rw [given] at none
            cases none
          · obtain rfl := Option.some.inj (given.symm.trans given')
            exact ⟨n, integer⟩
  · rintro ⟨⟨path, text, warnings, entries, located, document, odd⟩, integers⟩
    obtain ⟨entries', overridden⟩ := Libraries.overrideDepth_ok entries integers
    have found : libraries.entriesAt (some (path, .file text)) = .ok entries := by
      simp [Libraries.entriesAt, Libraries.entriesOf, document]
    have none : entries'.all (·.1.isText) = false :=
      (Libraries.isText_of_overrideDepth overridden).trans odd
    rw [located]
    change libraries.configAt (some (path, .file text)) origin.depth = .error .keyNotText
    simp [Libraries.configAt, found, overridden, Libraries.configOf, none, bind, Except.bind]

/-! ## Loading again and again -/

/-- What a loader answers again and again, each time with the variables and the files at that time. -/
def run (libraries : Libraries) (kept : Option Config) : List (Origin × Files) → List (Except LoadFailure Config)
  | [] => []
  | (origin, files) :: rest =>
    match (load ⟨origin, kept⟩ files libraries).1 with
    | .ok (config, loader) => .ok config :: run libraries loader.loaded rest
    | .error failure => .error failure :: run libraries kept rest

variable {calls : List (Origin × Files)}

/-- Settings that are kept are the answer from then on. -/
theorem run_kept (config : Config) (calls : List (Origin × Files)) :
    run libraries (some config) calls = calls.map fun _ => .ok config := by
  induction calls with
  | nil => rfl
  | cons call rest ih =>
      rw [run, load_of_loaded rfl]
      exact congrArg _ ih

theorem run_of_ok (ok : read libraries origin files = .ok config) :
    run libraries none ((origin, files) :: calls) = .ok config :: run libraries (some config) calls := by
  rw [run, load_fresh, ok]
  rfl

/-- Nothing is kept of what could not be read. -/
theorem run_of_error (refused : read libraries origin files = .error failure) :
    run libraries none ((origin, files) :: calls) = .error failure :: run libraries none calls := by
  rw [run, load_fresh, refused]
  rfl

/-- A loader that keeps nothing answers what is read each time, up to the first settings, and these from then on. -/
theorem run_none (calls : List (Origin × Files)) :
    ((∀ call ∈ calls, ∃ failure, read libraries call.1 call.2 = .error failure) ∧
      run libraries none calls = calls.map fun call => read libraries call.1 call.2) ∨
    ∃ before call after config, calls = before ++ call :: after ∧
      (∀ earlier ∈ before, ∃ failure, read libraries earlier.1 earlier.2 = .error failure) ∧
      read libraries call.1 call.2 = .ok config ∧
      run libraries none calls = (before.map fun call => read libraries call.1 call.2) ++
        .ok config :: after.map fun _ => .ok config := by
  induction calls with
  | nil => exact .inl ⟨List.forall_mem_nil _, rfl⟩
  | cons call rest ih =>
      obtain ⟨origin, files⟩ := call
      cases answer : read libraries origin files with
      | ok config =>
          refine .inr ⟨[], (origin, files), rest, config, rfl, List.forall_mem_nil _, answer, ?_⟩
          rw [run_of_ok answer, run_kept]
          rfl
      | error failure =>
          rw [run_of_error answer]
          rcases ih with ⟨all, same⟩ | ⟨before, call, after, config, rfl, all, found, same⟩
          · refine .inl ⟨List.forall_mem_cons.2 ⟨⟨failure, answer⟩, all⟩, ?_⟩
            rw [same, List.map_cons, answer]
          · refine .inr ⟨(origin, files) :: before, call, after, config, rfl,
              List.forall_mem_cons.2 ⟨⟨failure, answer⟩, all⟩, found, ?_⟩
            rw [same, List.map_cons, answer]
            rfl

/--
Settings that are loaded are within all bounds, with the bound on nesting from the variable if it is given,
and what is readable is refused as a value, unless a key of the mapping is no text.  After a failure the
sources are read again, and after a success the settings stay the same.
-/
theorem run_loads (sound : libraries.Sound conversions) (calls : List (Origin × Files)) :
    (∀ origin files,
      (∀ config, read libraries origin files = .ok config → config.Valid ∧
        ∀ text, Origin.given origin.depth = some text →
          Numeral.readInteger 10 text = .ok (config.maxDepth : Int)) ∧
      (origin.Readable files libraries → ∀ failure, read libraries origin files = .error failure →
        failure.name = "ValueError" ∨ failure = .keyNotText) ∧
      (read libraries origin files = .error .keyNotText ↔ origin.ReadsOddKey files libraries ∧
        ∀ text, Origin.given origin.depth = some text → ∃ n, Numeral.readInteger 10 text = .ok n)) ∧
    (((∀ call ∈ calls, ∃ failure, read libraries call.1 call.2 = .error failure) ∧
      run libraries none calls = calls.map fun call => read libraries call.1 call.2) ∨
    ∃ before call after config, calls = before ++ call :: after ∧
      (∀ earlier ∈ before, ∃ failure, read libraries earlier.1 earlier.2 = .error failure) ∧
      read libraries call.1 call.2 = .ok config ∧
      run libraries none calls = (before.map fun call => read libraries call.1 call.2) ++
        .ok config :: after.map fun _ => .ok config) :=
  ⟨fun _ _ => ⟨fun _ => of_read sound, fun readable _ refused => of_read_error refused readable,
    read_eq_keyNotText⟩, run_none calls⟩

def atPath (depth : Option String) : Origin := ⟨some "/c.yml", none, depth, "/home"⟩

def holding (text : String) : Files := (Files.empty "/").write "/c.yml" text

/-- A list is refused, then a mapping is read, and kept when the file and the variable change. -/
theorem list_then_mapping : ∃ failure config,
    run .usual none [(atPath none, holding "- 1\n"), (atPath (some "7"), holding "strict: true\n"),
      (atPath none, holding "strict: false\n")] =
        [.error failure, .ok config, .ok config] ∧ config.Valid ∧ config.maxDepth = 7 := by
  have first : (read .usual (atPath none) (holding "- 1\n")).toOption.isNone = true := by
    decide +kernel
  have second : (read .usual (atPath (some "7")) (holding "strict: true\n")).toOption.isSome = true := by
    decide +kernel
  have given : Origin.given (atPath (some "7")).depth = some "7" := by decide +kernel
  have seven : (Numeral.readInteger 10 "7").toOption = some 7 := by decide +kernel
  have loads := (run_loads Config.usual_sound []).1
  obtain ⟨failure, refused⟩ :
      ∃ failure, read .usual (atPath none) (holding "- 1\n") = .error failure := by
    generalize read .usual (atPath none) (holding "- 1\n") = answer at first ⊢
    cases answer with
    | ok config => cases first
    | error failure => exact ⟨failure, rfl⟩
  obtain ⟨config, ok⟩ := Option.isSome_iff_exists.1 second
  rw [Except.toOption_eq_some] at ok
  obtain ⟨valid, depth⟩ := (loads _ _).1 config ok
  refine ⟨failure, config, ?_, valid, ?_⟩
  · rw [run_of_error refused, run_of_ok ok, run_kept]
    rfl
  · rw [depth "7" given] at seven
    have same : (config.maxDepth : Int) = 7 := Option.some.inj seven
    exact Int.ofNat.inj same

/-- A key that is a number is refused, but not as a value. -/
theorem number_key_refused : ¬ ∀ (libraries : Libraries) (conversions : Conversions),
    libraries.Sound conversions → ∀ (origin : Origin) (files : Files),
      origin.Readable files libraries → ∀ failure, read libraries origin files = .error failure →
        failure.name = "ValueError" := by
  intro all
  have refused : (match read .usual (atPath none) (holding "1: 2\n") with
      | .error failure => failure.name == "TypeError"
      | .ok _ => false) = true := by
    decide +kernel
  have document : (match Yaml.Document.read "1: 2\n" with
      | .error (.failure _) => false
      | _ => true) = true := by
    decide +kernel
  have located : (atPath none).locate (holding "1: 2\n") =
      .ok (some (.ofText "/c.yml", .file "1: 2\n"), []) := by
    rfl
  have readable : (atPath none).Readable (holding "1: 2\n") .usual := by
    refine ⟨_, _, located, fun path entry found => ?_⟩
    cases found
    refine ⟨_, rfl, fun failure fails => ?_⟩
    change Yaml.Document.read "1: 2\n" = .error (.failure failure) at fails
    rw [fails] at document
    cases document
  have values := all .usual .usual Config.usual_sound (atPath none) (holding "1: 2\n") readable
  generalize read .usual (atPath none) (holding "1: 2\n") = answer at refused values
  cases answer with
  | ok config => cases refused
  | error failure =>
      change (failure.name == "TypeError") = true at refused
      rw [values failure rfl] at refused
      cases refused

end Loader

end ScopedTemplate
