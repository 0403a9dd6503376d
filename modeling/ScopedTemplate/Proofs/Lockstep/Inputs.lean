import ScopedTemplate.Proofs.Lockstep.Nodes
import ScopedTemplate.Proofs.Resolver.Fresh

/-!
# Inputs of two runs

A term is alike to itself if its bodies do nothing that tells the two runs apart, and its views do
not look into the table in question.  So two resolutions that begin in one world go in lockstep to
their ends.
-/

namespace ScopedTemplate

variable {ceiling : Int}

open Run

namespace Pairing

variable {p : Pairing} {t : Term}

/-! ## Terms and worlds -/

/-- The views in a term may look into any table but the one whose use is compared. -/
abbrev SparesViews (p : Pairing) (t : Term) : Prop :=
  t.OnlyViews fun _ cache => ¬ p.merges ∧ cache ≠ p.cache

theorem shaped_self (views : p.SparesViews t) (bodies : t.OnlyBodies p.Permits) :
    p.Shaped t t := by
  cases t with
  | list kind stamp items => exact .list kind stamp rfl
  | tuple stamp items => exact .tuple stamp rfl
  | map kind stamp entries => exact .map kind stamp rfl
  | set stamp items => exact .set stamp rfl
  | point stamp items => exact .point stamp rfl
  | function stamp name deps doc callee =>
      refine .function stamp name deps doc ?_
      cases applied : callee.appliedBody? with
      | some body =>
          refine .applied applied (bodies.body ?_)
          simp only [Term.body?, applied, Option.map_some]
      | none => exact .other applied applied
  | callable kind stamp label name body => exact .callable kind stamp label name (bodies.body rfl)
  | view stamp resolver env cache =>
      cases views with
      | view here parts =>
          exact .view stamp here.1 (.refl p _ _) (fun same => absurd same here.2) rfl
      | other noView _ => cases noView
  | _ => exact .atom rfl

theorem alike_self (views : p.SparesViews t) (bodies : t.OnlyBodies p.Permits) : p.Alike t t := by
  induction bodies with
  | @node t here pieces ih =>
      refine alike_iff.2 ⟨shaped_self views (.node here pieces), ?_⟩
      exact List.forall₂_same.2 fun s member => ih s member (views.pieces s member)

/-- Terms that go into both runs. -/
def Admits (p : Pairing) (t : Term) : Prop := p.SparesViews t ∧ t.OnlyBodies p.Permits

theorem Admits.alike (admits : p.Admits t) : p.Alike t t := alike_self admits.1 admits.2

theorem alikeEntries_self {entries : Entries} (each : Entries.Each p.Admits entries) :
    p.AlikeEntries entries entries :=
  List.forall₂_same.2 fun entry member =>
    ⟨(each entry member).1.alike, (each entry member).2.alike⟩

theorem alikeEnv_self {env : Environment Term} (each : env.Each p.Admits) : p.AlikeEnv env env :=
  .of_layers (List.forall₂_same.2 fun layer member => alikeEntries_self (each layer member))

/-- Terms that are alike differ in their views at most. -/
theorem Alike.eq_of_pieces {P : Term → Prop} {t' : Term} (alike : p.Alike t t') (holds : P t)
    (pieces : ∀ s, P s → ∀ u ∈ s.pieces, P u)
    (noView : ∀ s s', p.Alike s s' → s.isView = true → ¬ P s) : t = t' := by
  have items : ∀ {items items' : List Term},
      List.Forall₂ (fun s s' => p.Alike s s' ∧ (P s → s = s')) items items' →
        (∀ s ∈ items, P s) → items = items' := by
    intro items items' each inside
    induction each with
    | nil => rfl
    | cons first _ ih =>
        obtain ⟨here, others⟩ := List.forall_mem_cons.1 inside
        rw [first.2 here, ih others]
  refine alike.by_shape (motive := fun t t' => P t → t = t') (fun _ _ _ => rfl) ?list ?tuple ?map
    ?set ?point ?function (fun _ _ _ _ _ _ _ _ => rfl) ?view holds
  case list =>
    exact fun kind stamp _ _ each here =>
      congrArg (Term.list kind stamp) (items each (pieces _ here))
  case tuple =>
    exact fun stamp _ _ each here => congrArg (Term.tuple stamp) (items each (pieces _ here))
  case set =>
    exact fun stamp _ _ each here => congrArg (Term.set stamp) (items each (pieces _ here))
  case point =>
    exact fun stamp _ _ each here => congrArg (Term.point stamp) (items each (pieces _ here))
  case map =>
    intro kind stamp entries entries' each here
    refine congrArg (Term.map kind stamp) ?_
    have inside : Entries.Each P entries := Entries.each_iff_terms.2 (pieces _ here)
    clear here
    induction each with
    | nil => rfl
    | cons first _ ih =>
        obtain ⟨head, others⟩ := List.forall_mem_cons.1 inside
        rw [ih others, Prod.ext (first.1.2 head.1) (first.2.2 head.2)]
  case function =>
    intro stamp name deps doc callee callee' called each here
    cases called with
    | applied => rfl
    | other other other' =>
        have callees := items each (pieces _ here)
        unfold Term.calleeParts at callees
        rw [other, other'] at callees
        cases callees
        rfl
  case view => exact fun stamp _ _ _ _ _ alike here => absurd here (noView _ _ alike rfl)

/-- Without views, terms that are alike are equal. -/
theorem Alike.eq_of_noViews {t' : Term} (alike : p.Alike t t')
    (noView : t.OnlyViews fun _ _ => False) : t = t' := by
  refine alike.eq_of_pieces noView (fun _ only => only.pieces) ?_
  intro s s' _ isView only
  cases only with
  | view impossible _ => exact impossible
  | other other _ => exact absurd isView (by simp [other])

/-- A world that both runs begin in, with nothing left in the table yet. -/
theorem alikeWorld_self {world : World} (inside : p.cache < world.caches.length)
    (new : (world.cache p.cache).events = [])
    (stored : ∀ table ∈ world.caches, ∀ entry ∈ table.entries, p.Admits entry.2)
    (shared : world.active = some p.cache → p.shared)
    (caught : p.caught ≤ world.caught.length) : p.AlikeWorld world world where
  caches := List.forall₂_same.2 fun table member =>
    ⟨List.forall₂_same.2 fun entry among => ⟨rfl, (stored table member entry among).alike⟩,
      rfl, rfl, rfl, rfl, rfl⟩
  active := rfl
  counts := rfl
  calls := rfl
  nextStamp := rfl
  inside := inside
  left := by
    intro env reference noted
    rw [new] at noted
    exact absurd noted List.not_mem_nil
  shared := shared
  caught := caught

/-! ## Resolutions from the start -/

section Start

variable {resolution resolution' : Resolution} {resolver resolver' : Resolver Term} {t' : Term}
  {env env' : Environment Term} {given : Option CacheId} {world : World}

omit p in
theorem resolveLeniently_given {id : CacheId} (found : (given <|> world.active) = some id) :
    resolveLeniently resolution resolver t env given world =
      resolveIn resolution resolver t env id world := by
  cases given with
  | some own =>
      cases found
      rfl
  | none =>
      change world.active = some id at found
      cases world
      cases found
      rfl

omit p in
theorem resolveLeniently_own (found : (given <|> world.active) = none) :
    resolveLeniently resolution resolver t env given world =
      andThen (resolveIn resolution resolver t env world.caches.length)
        (closeCache world.caches.length) { world with caches := world.caches ++ [.empty] } := by
  cases given with
  | some own => cases found
  | none =>
      change world.active = none at found
      cases world
      cases found
      rfl

/-- Two resolutions with the same table, given or new, go in lockstep if they do with it. -/
theorem ends_resolveLeniently (own : p.cache = world.tableFor given)
    (new : ∀ id, (given <|> world.active) = some id →
      id < world.caches.length ∧ world.cache id = .empty)
    (stored : ∀ table ∈ world.caches, ∀ entry ∈ table.entries, p.Admits entry.2)
    (shared : world.active = some p.cache → p.shared)
    (caught : p.caught ≤ world.caught.length)
    (same : resolution.ceiling = resolution'.ceiling)
    (resolves : p.Lockstep p.Alike (resolution resolver t env p.cache)
      (resolution' resolver' t' env' p.cache)) :
    p.Ends p.Alike (resolveLeniently resolution resolver t env given world)
      (resolveLeniently resolution' resolver' t' env' given world) := by
  have both := resolveIn_lockstep same resolves
  unfold World.tableFor at own
  cases found : given <|> world.active with
  | some id =>
      rw [found, Option.getD_some] at own
      subst own
      obtain ⟨inside, empty⟩ := new _ found
      rw [resolveLeniently_given found, resolveLeniently_given found]
      exact both _ _ (alikeWorld_self inside (congrArg Cache.events empty) stored shared caught)
  | none =>
      rw [found, Option.getD_none] at own
      rw [resolveLeniently_own found, resolveLeniently_own found, ← own]
      refine both.andThen (.closeCache p.cache) (fun world => ⟨_, rfl⟩) _ _ ?_
      refine alikeWorld_self ?_ ?_ ?_ shared caught
      · rw [own, List.length_append]
        exact Nat.lt_succ_self _
      · rw [own]
        simp [World.cache, Cache.empty]
      · intro table member entry among
        rcases List.mem_append.1 member with before | last
        · exact stored table before entry among
        · rw [List.mem_singleton.1 last] at among
          exact absurd among List.not_mem_nil

/-- Two resolutions of one input with a new table go in lockstep if the input tells nothing apart. -/
theorem ends_same_input (levels : Nat) (own : p.cache = world.tableFor given)
    (new : ∀ id, (given <|> world.active) = some id →
      id < world.caches.length ∧ world.cache id = .empty)
    (template : p.Admits t) (bindings : env.Each p.Admits)
    (replacements : ∀ t ∈ resolver.replacements, p.Admits t)
    (stored : ∀ table ∈ world.caches, ∀ entry ∈ table.entries, p.Admits entry.2)
    (shared : world.active = some p.cache → p.shared)
    (caught : p.caught ≤ world.caught.length) (paired : p.Paired p.cache resolver resolver')
    (admitted : p.admits env env) :
    p.Ends p.Alike (resolveLeniently (resolveTerm ceiling levels) resolver t env given world)
      (resolveLeniently (resolveTerm ceiling levels) resolver' t env given world) := by
  refine ends_resolveLeniently own new stored shared caught (by simp) ?_
  refine resolves_resolveTerm p levels ⟨paired, fun _ => admitted, ?_, ?_⟩ template.alike
  · exact fun t member => (replacements t member).alike
  · exact alikeEnv_self bindings

end Start

end Pairing

end ScopedTemplate
