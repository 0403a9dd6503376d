import ScopedTemplate.Proofs.Reuse.Sessions
import ScopedTemplate.Proofs.Sharing.Siblings

/-!
# Resolvers that share a table

A table is known to the names and the fingerprints of environments only, and the settings of a resolver
are no part of its keys.  So resolvers share a table if they take terms in the same way; their limits and
how strict they are may differ.
-/

namespace ScopedTemplate

open Run

namespace Resolver

/-- What is resolved under which environments, where some templates are resolved under one environment. -/
inductive Meets (resolver : Resolver Term) (env : Environment Term) (templates : Term → Prop) :
    Environment Term → Term → Prop where
  | template {t : Term} (given : templates t) : Meets resolver env templates env t
  | reference {inner : Environment Term} {kind : TextKind} {name : String} {binding : Term}
      (meets : Meets resolver env templates inner (.text kind name))
      (looked : resolver.classifier.kind (.text kind name) = .ref)
      (bound : inner.lookup? (.ref name) = some binding) : Meets resolver env templates inner binding
  | dependency {inner : Environment Term} {stamp : Stamp} {name dep : String} {deps : List String}
      {doc : Option String} {callee binding : Term}
      (meets : Meets resolver env templates inner (.function stamp name deps doc callee))
      (looked : resolver.classifier.kind (.function stamp name deps doc callee) = .function)
      (among : dep ∈ deps) (bound : inner.lookup? (.ref dep) = some binding) :
      Meets resolver env templates inner binding
  | returned {inner : Environment Term} {f value : Term} {args : List Term}
      (meets : Meets resolver env templates inner f) (looked : resolver.classifier.kind f = .function)
      (values : ∀ arg ∈ args, resolver.IsValue (fun _ => True) arg) (returned : f.Returns args value) :
      Meets resolver env templates inner value
  /-- A callable may read any name. -/
  | read {inner : Environment Term} {name : String} {c binding : Term}
      (meets : Meets resolver env templates inner c) (looked : resolver.classifier.kind c = .callable)
      (bound : inner.lookup? (.ref name) = some binding) : Meets resolver env templates inner binding
  /-- A callable may give what it has read. -/
  | given {inner : Environment Term} {c value : Term} (meets : Meets resolver env templates inner c)
      (looked : resolver.classifier.kind c = .callable)
      (isValue : resolver.IsValue (fun _ => True) value) : Meets resolver env templates inner value
  | item {inner : Environment Term} {t item : Term} (meets : Meets resolver env templates inner t)
      (looked : resolver.classifier.kind t = .sequence) (inside : item ∈ t.inner) :
      Meets resolver env templates inner item
  | entry {inner : Environment Term} {kind : MapKind} {stamp : Option Stamp} {entries : Entries}
      {entry : Term × Term} (meets : Meets resolver env templates inner (.map kind stamp entries))
      (looked : resolver.classifier.kind (.map kind stamp entries) = .mapping)
      (noDefaults : Entries.has entries resolver.defaultsKey = false) (inside : entry ∈ entries) :
      Meets resolver env templates inner entry.2
  | entered {inner : Environment Term} {kind scopeKind : MapKind} {stamp scopeStamp : Option Stamp}
      {entries scope : Entries} (meets : Meets resolver env templates inner (.map kind stamp entries))
      (looked : resolver.classifier.kind (.map kind stamp entries) = .mapping)
      (found : Entries.find? entries resolver.defaultsKey = some (.map scopeKind scopeStamp scope)) :
      Meets resolver env templates (inner.child scope)
        (.map .plain none (Entries.erase entries resolver.defaultsKey))

variable {resolver : Resolver Term} {env : Environment Term} {templates : Term → Prop}

theorem Meets.overrides {inner : Environment Term} {t : Term}
    (meets : resolver.Meets env templates inner t) : inner.overrides = env.overrides := by
  induction meets with
  | template => rfl
  | entered _ _ _ ih => rw [Environment.overrides_child, ih]
  | _ => assumption

end Resolver

namespace Site

/-- Resolvers that take terms as one does, and what they meet in some templates. -/
def sharing (resolver : Resolver Term) (env : Environment Term) (templates : Term → Prop) : Site where
  resolver := resolver
  serves := resolver.Akin
  visits inner := ∃ t, resolver.Meets env templates inner t
  meets := resolver.Meets env templates

/-- A function is pure, and identity does not matter for the scopes of defaults in what it gives. -/
def Spares (s : Site) (f : Term) : Prop :=
  f.IsPure ∧ ∀ args args' value value', (∀ arg ∈ args, s.Value arg) →
    List.Forall₂ Term.Resembles args args' → f.Returns args value → f.Returns args' value' →
      s.Matches value value'

/-- What is asked of templates and bindings that resolvers share a table for. -/
structure Shares (s : Site) : Prop where
  functions : ∀ {inner f}, s.meets inner f → s.resolver.classifier.kind f = .function → s.Spares f
  /-- Plain callables read names only. -/
  callables : ∀ {inner c}, s.meets inner c → s.resolver.classifier.kind c = .callable → s.Responsive c
  /-- Scopes of defaults bind each name once. -/
  scopes : ∀ {inner kind stamp entries defaults}, s.meets inner (.map kind stamp entries) →
    s.resolver.classifier.kind (.map kind stamp entries) = .mapping →
    Entries.find? entries s.resolver.defaultsKey = some defaults →
      defaults.isView = false ∧ ∀ scope, defaults.entries? = some scope → Entries.Distinct scope
  /-- Environments with the same fingerprint bind the same. -/
  tells : ∀ {inner inner'}, s.visits inner → s.visits inner' → inner.fingerprint = inner'.fingerprint →
    inner.BindsAlike inner'

variable {resolver : Resolver Term} {env : Environment Term} {templates : Term → Prop}

theorem lawful_sharing (distinct : Entries.Distinct env.overrides)
    (shares : (sharing resolver env templates).Shares) :
    (sharing resolver env templates).Lawful where
  akin := id
  overrides := by
    rintro _ _ ⟨_, meets⟩ ⟨_, meets'⟩
    rw [meets.overrides, meets'.overrides]
  tells := shares.tells
  reference meets looked bound := .reference meets looked bound
  dependency meets looked among bound := .dependency meets looked among bound
  read meets looked bound := .read meets looked bound
  pure meets looked := (shares.functions meets looked).1
  returned meets looked values returned := .returned meets looked values returned
  matched meets looked values same returned returned' _ :=
    (shares.functions meets looked).2 _ _ _ _ values same returned returned'
  callable meets looked := shares.callables meets looked
  items meets looked _ inside := .item meets looked inside
  elements meets looked _ inside := .item meets looked inside
  entries meets looked noDefaults _ inside := .entry meets looked noDefaults inside
  noView meets looked found := (shares.scopes meets looked found).1
  scope {_ _ _ _ _ _ scope} meets looked found := by
    have entered := Resolver.Meets.entered meets looked found
    refine ⟨⟨_, entered⟩, fun _ inside => ?_, fun alongside => ?_⟩
    · exact .entry entered (Classifier.kind_plainMap looked) (Domain.has_erase _ _) inside
    · exact Environment.fingerprint_child alongside.overrides (meets.overrides ▸ distinct)
        ((shares.scopes meets looked found).2 scope rfl) alongside.fingerprint

end Site

namespace Resolver

variable {resolver resolver' : Resolver Term} {env : Environment Term} {template template' value : Term}
  {before world fresh done : World} {block : Block} {given : Option CacheId}

/--
In a block, after a resolver has resolved a template or failed, another one that takes terms in the same
way returns what it returns with a new table, whatever the limits and the strictness of both are.
-/
theorem resolve_in_block (stack stack' : Stack) (akin : resolver.Akin resolver') (distinct : Entries.Distinct env.overrides)
    (shares : (Site.sharing resolver env fun t => t = template ∨ t = template').Shares)
    (entered : Block.enter before = .ok block world)
    (new : ∀ id, (given <|> fresh.active) = some id → id < fresh.caches.length ∧ fresh.cache id = .empty)
    (alone : resolver'.resolve template' env given stack fresh = .ok value done) :
    ∃ value' done', resolver'.resolve template' env none stack
        (left (resolver.resolve template env none stack' world)) = .ok value' done' ∧
      value.Resembles value' := by
  have lawful := Site.lawful_sharing distinct shares
  have starts := inside_of_enter entered
  have shared : (none <|> world.active) = some before.caches.length := starts ▸ rfl
  have isNew : world.IsNew before.caches.length := by
    rw [starts]
    exact ⟨by simp, by simp [World.cache]⟩
  have met : resolver.Meets env (fun t => t = template ∨ t = template') env template :=
    .template (.inl rfl)
  have met' : resolver.Meets env (fun t => t = template ∨ t = template') env template' :=
    .template (.inr rfl)
  have first : (Site.sharing resolver env _).Session before.caches.length
      (left (resolver.resolve template env none stack' world)) :=
    .resolved (.start isNew) (Akin.refl akin.rules) ⟨_, met⟩ met shared
  have kept : (none <|> (left (resolver.resolve template env none stack' world)).active) =
      some before.caches.length := by
    have grows : Grows (resolver.resolve template env none stack') := Grows.resolveWith
    exact (congrArg (none <|> ·) (after_left.1 (grows.after world)).active).trans shared
  exact ((first.between lawful).reuses lawful akin ⟨_, met'⟩ met' kept).returns given fresh value done new
    alone

def careful : Resolver Term :=
  { standard with config := { Config.standard with strict := true, maxDepth := 7 } }

def layered : Environment Term :=
  ⟨[[(.str "A", showing "B" (.str "inner")), (.str "B", .str "outer")]], []⟩

def twoNames : Term := .list .plain none [.ref "A", .ref "B"]

/-- The terms that are met in the templates, and those in the scope of defaults. -/
def metOutside : List Term := [.ref "A", twoNames, .ref "B", showing "B" (.str "inner"), .str "outer"]

@[inherit_doc metOutside]
def metInside : List Term := [.map .plain none [(.str "v", .ref "B")], .ref "B", .str "inner"]

theorem kind_met {t : Term} (member : t ∈ metOutside ∨ t ∈ metInside) :
    standard.classifier.kind t ≠ .function ∧ standard.classifier.kind t ≠ .callable := by
  have each : ∀ t ∈ metOutside ++ metInside, standard.classifier.kind t ≠ .function ∧
      standard.classifier.kind t ≠ .callable := by decide
  exact each t (List.mem_append.2 member)

theorem meets_layered {inner : Environment Term} {t : Term}
    (meets : standard.Meets layered (fun t => t = .ref "A" ∨ t = twoNames) inner t) :
    inner = layered ∧ t ∈ metOutside ∨ inner = layered.child [(.str "B", .str "inner")] ∧ t ∈ metInside := by
  induction meets with
  | template given => rcases given with rfl | rfl <;> simp [metOutside]
  | reference _ looked bound ih =>
      rcases ih with ⟨rfl, among⟩ | ⟨rfl, among⟩
      · simp [metOutside, twoNames, showing] at among
        rcases among with ⟨rfl, rfl⟩ | ⟨rfl, rfl⟩ | ⟨rfl, rfl⟩
        · cases bound
          simp [metOutside]
        · cases bound
          simp [metOutside]
        · cases looked
      · simp [metInside] at among
        rcases among with ⟨rfl, rfl⟩ | ⟨rfl, rfl⟩
        · cases bound
          simp [metInside]
        · cases looked
  | dependency _ looked _ _ ih =>
      exact absurd looked (kind_met (ih.imp And.right And.right)).1
  | returned _ looked _ _ ih =>
      exact absurd looked (kind_met (ih.imp And.right And.right)).1
  | read _ looked _ ih =>
      exact absurd looked (kind_met (ih.imp And.right And.right)).2
  | given _ looked _ ih =>
      exact absurd looked (kind_met (ih.imp And.right And.right)).2
  | item _ looked among ih =>
      rcases ih with ⟨rfl, met⟩ | ⟨rfl, met⟩
      · simp [metOutside] at met
        rcases met with rfl | rfl | rfl | rfl | rfl
        · cases looked
        · simp [twoNames, Term.inner] at among
          rcases among with rfl | rfl <;> simp [metOutside]
        all_goals cases looked
      · simp [metInside] at met
        rcases met with rfl | rfl | rfl <;> cases looked
  | entry _ _ noDefaults among ih =>
      rcases ih with ⟨rfl, met⟩ | ⟨rfl, met⟩
      · simp [metOutside, twoNames, showing] at met
        obtain ⟨rfl, rfl, rfl⟩ := met
        cases noDefaults
      · simp [metInside] at met
        obtain ⟨rfl, rfl, rfl⟩ := met
        rw [List.mem_singleton.1 among]
        simp [metInside]
  | entered _ _ found ih =>
      rcases ih with ⟨rfl, met⟩ | ⟨rfl, met⟩
      · simp [metOutside, twoNames, showing] at met
        obtain ⟨rfl, rfl, rfl⟩ := met
        cases found
        exact .inr ⟨rfl, List.mem_cons_self⟩
      · simp [metInside] at met
        obtain ⟨rfl, rfl, rfl⟩ := met
        cases found

/-- A strict resolver with another limit is served what the first one has stored. -/
theorem careful_in_block : ∃ block world value' done', Block.enter .empty = .ok block world ∧
    careful.resolve twoNames layered none .usual (left (standard.resolve (.ref "A") layered none .usual world)) =
        .ok value' done' ∧
      (Term.list .plain none [.map .plain none [(.str "v", .str "inner")], .str "outer"]).Resembles
        value' := by
  have akin : standard.Akin careful := ⟨rfl, rfl, rfl, rfl, rfl⟩
  have apart : layered.fingerprint ≠ (layered.child [(.str "B", .str "inner")]).fingerprint := by decide
  have shares : (Site.sharing standard layered fun t => t = .ref "A" ∨ t = twoNames).Shares := by
    refine ⟨fun meets looked => ?_, fun meets looked => ?_, fun meets looked found => ?_, ?_⟩
    · exact absurd looked (kind_met ((meets_layered meets).imp And.right And.right)).1
    · exact absurd looked (kind_met ((meets_layered meets).imp And.right And.right)).2
    · rcases meets_layered meets with ⟨rfl, met⟩ | ⟨rfl, met⟩
      · simp [metOutside, twoNames, showing] at met
        obtain ⟨rfl, rfl, rfl⟩ := met
        cases found
        exact ⟨rfl, fun _ same => Option.some.inj same ▸ List.pairwise_singleton _ _⟩
      · simp [metInside] at met
        obtain ⟨rfl, rfl, rfl⟩ := met
        cases found
    · rintro inner inner' ⟨_, meets⟩ ⟨_, meets'⟩ same name
      rcases meets_layered meets with ⟨rfl, -⟩ | ⟨rfl, -⟩ <;>
        rcases meets_layered meets' with ⟨rfl, -⟩ | ⟨rfl, -⟩
      · rfl
      · exact absurd same apart
      · exact absurd same.symm apart
      · rfl
  have distinct : Entries.Distinct layered.overrides := .nil
  have entered : Block.enter .empty =
    .ok ⟨none, 0⟩ { World.empty with caches := [.empty], active := some 0 } := rfl
  have new := World.new_of_idle (show World.empty.active = none from rfl)
  obtain ⟨done, alone⟩ : ∃ done, careful.resolve twoNames layered none .usual .empty =
    .ok (.list .plain none [.map .plain none [(.str "v", .str "inner")], .str "outer"]) done := ⟨_, rfl⟩
  obtain ⟨value', done', served, same⟩ := resolve_in_block .usual .usual akin distinct shares entered new alone
  exact ⟨_, _, value', done', entered, served, same⟩

def keeping : Resolver Term :=
  { standard with config := { Config.standard with removeEmpty := false } }

/-- Settings where plain text with a mark is a reference. -/
def marking : Resolver Term := ⟨.standard, ⟨[], some "$"⟩, Rule.standard⟩

def withScopeKey : Resolver Term :=
  { standard with config := { Config.standard with defaultsKey := "::scope" } }

/-- A function that gives the number of its calls. -/
def counting : Term := .function 1 "count" [] none (.callable .procedure 2 "count" "count" .count)

def hollow : Term := .map .plain none [(.str "a", .list .plain none [])]

/-- A callable that resolves a template with other settings than its caller. -/
def resolving : Term :=
  .callable .function 3 "resolve" "resolve" (.resolve (.const (showing "X" hollow)) false)

/-- A template has another value in a block after the one of another resolver than alone. -/
def Confuses (first second : Resolver Term × Term) (env : Environment Term) : Prop :=
  ∃ block world value done value' done', Block.enter .empty = .ok block world ∧
    second.1.resolve second.2 env none .usual .empty = .ok value done ∧
    second.1.resolve second.2 env none .usual (left (first.1.resolve first.2 env none .usual world)) =
      .ok value' done' ∧ ¬ value.Resembles value'

/--
A mapping without its empty list is served although that is to be kept.  The same is so for any setting
that decides what terms are taken for, for functions that are not pure, for callables that do more than
read, and for the order of entries.
-/
theorem settings_confused :
    (∃ block world done done', Block.enter .empty = .ok block world ∧
      keeping.resolve (.ref "X") ⟨[[(.str "X", hollow)]], []⟩ none .usual .empty = .ok hollow done ∧
      keeping.resolve (.ref "X") ⟨[[(.str "X", hollow)]], []⟩ none .usual
          (left (standard.resolve (.ref "X") ⟨[[(.str "X", hollow)]], []⟩ none .usual world)) =
        .ok (.map .plain none []) done') ∧
    Confuses (standard, .ref "X") (marking, .ref "X")
      ⟨[[(.str "X", .str "$B"), (.str "$B", .str "b")]], []⟩ ∧
    Confuses (leafing (.core "list"), .ref "X") (standard, .ref "X")
      ⟨[[(.str "X", .list .plain none [.ref "B"]), (.str "B", .str "b")]], []⟩ ∧
    Confuses (standard, .ref "X") (withScopeKey, .ref "X")
      ⟨[[(.str "X", showing "B" (.str "inner")), (.str "B", .str "outer")]], []⟩ ∧
    Confuses (standard, .list .plain none [counting, showing "K" counting])
      (standard, showing "K" counting) .empty ∧
    Confuses (keeping, resolving) (keeping, showing "X" hollow) .empty ∧
    Confuses (standard, showing "K" (.map .plain none [(.str "a", .str "x"), (.str "b", .str "y")]))
      (standard, showing "K" (.map .plain none [(.str "b", .str "y"), (.str "a", .str "x")])) .empty := by
  refine ⟨⟨_, _, _, _, rfl, rfl, rfl⟩, ?_, ?_, ?_, ?_, ?_, ?_⟩
  · exact ⟨_, _, .str "b", _, .str "$B", _, rfl, rfl, rfl, by simp [Term.Resembles]⟩
  · exact ⟨_, _, .list .plain none [.str "b"], _, .list .plain none [.ref "B"], _, rfl, rfl, rfl,
      by simp [Term.Resembles]⟩
  · exact ⟨_, _, .map .plain none [(.str "::defaults", .map .plain none [(.str "B", .str "inner")]),
      (.str "v", .str "outer")], _, .map .plain none [(.str "v", .str "inner")], _, rfl, rfl, rfl,
      by simp [Term.Resembles, Entries.mapValues, Entries.arrange]⟩
  · exact ⟨_, _, .map .plain none [(.str "v", .int 1)], _, .map .plain none [(.str "v", .int 2)], _,
      rfl, rfl, rfl, by simp [Term.Resembles, Term.outline, Term.outlineEntries, Entries.arrange]⟩
  · exact ⟨_, _, .map .plain none [(.str "v", hollow)], _,
      .map .plain none [(.str "v", .map .plain none [])], _, rfl, rfl, rfl,
      by simp [Term.Resembles, Entries.mapValues, Entries.arrange, hollow]⟩
  · exact ⟨_, _, .map .plain none [(.str "v", .map .plain none [(.str "b", .str "y"), (.str "a", .str "x")])],
      _, .map .plain none [(.str "v", .map .plain none [(.str "a", .str "x"), (.str "b", .str "y")])], _,
      rfl, rfl, rfl, by simp [Term.Resembles, Entries.mapValues, Entries.arrange]⟩

end Resolver

end ScopedTemplate
