import ScopedTemplate.Proofs.Resolver.Rewriting

/-!
# Rules that rewrite

A rule that replaces a term leaves the node to the other rules.  What they make of it is what they make
of the new term from the start, as long as the children of the node were not resolved: from then on a
node is only pruned, whatever its term becomes.
-/

namespace ScopedTemplate

variable {ceiling : Int}

open Run

/-! ## One rule more -/

namespace Rule

variable {α : Type} {rule : Rule α} {rules : List (Rule α)}

theorem insertByPriority_eq_cons (least : ∀ other ∈ rules, rule.priority ≤ other.priority) :
    insertByPriority rule rules = rule :: rules := by
  cases rules with
  | nil => rfl
  | cons first rest => exact if_pos (least first List.mem_cons_self)

theorem insertByPriority_perm (rule : Rule α) (rules : List (Rule α)) :
    (insertByPriority rule rules).Perm (rule :: rules) := by
  induction rules with
  | nil => exact .refl _
  | cons first rest ih =>
      unfold insertByPriority
      split
      · exact .refl _
      · exact (ih.cons first).trans (.swap _ _ _)

/-- Sorting rules keeps them all. -/
theorem sortByPriority_perm (rules : List (Rule α)) : (sortByPriority rules).Perm rules := by
  induction rules with
  | nil => exact .refl _
  | cons rule rest ih => exact (insertByPriority_perm rule _).trans (ih.cons rule)

theorem insertByPriority_sorted
    (sorted : rules.Pairwise fun first second => first.priority ≤ second.priority) (rule : Rule α) :
    (insertByPriority rule rules).Pairwise fun first second => first.priority ≤ second.priority := by
  induction rules with
  | nil => exact List.pairwise_singleton _ _
  | cons first rest ih =>
      obtain ⟨least, others⟩ := List.pairwise_cons.1 sorted
      unfold insertByPriority
      split
      · next lower =>
        refine List.pairwise_cons.2 ⟨List.forall_mem_cons.2 ⟨lower, fun other member => ?_⟩, sorted⟩
        exact Int.le_trans lower (least other member)
      · next higher =>
        refine List.pairwise_cons.2 ⟨fun other member => ?_, ih others⟩
        rcases List.mem_cons.1 ((insertByPriority_perm rule rest).mem_iff.1 member) with rfl | inside
        · exact Int.le_of_lt (Int.not_le.1 higher)
        · exact least other inside

theorem sortByPriority_sorted (rules : List (Rule α)) :
    (sortByPriority rules).Pairwise fun first second => first.priority ≤ second.priority := by
  induction rules with
  | nil => exact .nil
  | cons rule rest ih => exact insertByPriority_sorted ih rule

/-- A rule that is added to sorted ones stands after those of its priority. -/
theorem sortByPriority_append
    (sorted : rules.Pairwise fun first second => first.priority ≤ second.priority) (added : Rule α) :
    sortByPriority (rules ++ [added]) =
      rules.filter (·.priority ≤ added.priority) ++
        added :: rules.filter (added.priority < ·.priority) := by
  induction rules with
  | nil => rfl
  | cons rule rest ih =>
      obtain ⟨least, others⟩ := List.pairwise_cons.1 sorted
      rw [List.cons_append, sortByPriority, ih others, List.filter_cons, List.filter_cons]
      by_cases before : rule.priority ≤ added.priority
      · rw [if_pos (decide_eq_true before), if_neg (by simpa using before)]
        refine insertByPriority_eq_cons fun other member => ?_
        rcases List.mem_append.1 member with lower | higher
        · exact least other (List.mem_filter.1 lower).1
        · rcases List.mem_cons.1 higher with rfl | higher
          · exact before
          · exact least other (List.mem_filter.1 higher).1
      · have none : rest.filter (·.priority ≤ added.priority) = [] := by
          refine List.filter_eq_nil_iff.2 fun other member lower => before ?_
          exact Int.le_trans (least other member) (of_decide_eq_true lower)
        rw [if_neg (by simpa using before), if_pos (by simpa using before), none, List.nil_append,
          List.nil_append, insertByPriority, if_neg before, insertByPriority_eq_cons]
        exact fun other member => least other (List.mem_filter.1 member).1

theorem standard_sorted :
    (standard : List (Rule α)).Pairwise fun first second => first.priority ≤ second.priority := by
  simp [standard, priority]

end Rule

section

variable {node : Node}

def Test.isBlind : Test → Bool
  | .collected => false
  | .no test => test.isBlind
  | .both first second => first.isBlind && second.isBlind
  | _ => true

theorem Test.passes_collected {test : Test} (blind : test.isBlind = true) (collected : Bool) :
    test.passes { node with collected := collected } = test.passes node := by
  induction test with
  | collected => cases blind
  | no test ih => simp only [passes, ih blind]
  | both first second first_ih second_ih =>
      obtain ⟨left, right⟩ := Bool.and_eq_true_iff.1 blind
      simp only [passes, first_ih left, second_ih right]
  | _ => rfl

theorem Test.fails_collected {test : Test} (blind : test.isBlind = true) (collected : Bool) :
    test.fails { node with collected := collected } = test.fails node := by
  induction test with
  | collected => cases blind
  | no test ih => exact ih blind
  | both first second first_ih second_ih =>
      obtain ⟨left, right⟩ := Bool.and_eq_true_iff.1 blind
      simp only [fails, first_ih left, second_ih right, passes_collected left]
  | _ => rfl

def Rule.isBlind : Rule Term → Bool
  | .collection | .removal => false
  | .custom rule => rule.test.isBlind
  | _ => true

theorem Rule.fails_collected {rule : Rule Term} (blind : rule.isBlind = true) (collected : Bool) :
    rule.fails { node with collected := collected } = rule.fails node := by
  cases rule with
  | custom rule => exact Test.fails_collected blind collected
  | _ => rfl

theorem Resolver.applies_collected {resolver : Resolver Term} {rule : Rule Term}
    (blind : rule.isBlind = true) (collected : Bool) :
    resolver.applies { node with collected := collected } rule = resolver.applies node rule := by
  cases rule with
  | collection | removal => cases blind
  | custom rule => exact Test.passes_collected blind collected
  | _ => rfl

end

def Step.withCollected (collected : Bool) : Step → Step
  | .finish value => .finish value
  | .again term env _ => .again term env collected

namespace Resolver

variable (resolver : Resolver Term) (resolution : Resolution) (cache : CacheId)

/-! ## Steps -/

/-- A node with one more step, and the world this leaves; nothing if the step is the last one. -/
def advance (state : Node × World) : Option (Node × World) :=
  match resolver.select state.1 resolver.rules with
  | .ok (some rule) =>
    match resolver.transform resolution cache state.1 rule state.2 with
    | .ok (.again term env collected) world =>
      match resolver.classifier.classify term with
      | .ok kind => some (⟨term, kind, env, collected⟩, world)
      | .error _ => none
    | _ => none
  | _ => none

def advances : Nat → Node × World → Option (Node × World)
  | 0, state => some state
  | steps + 1, state => (advance resolver resolution cache state).bind (advances steps)

/-- The resolution of a term is stopped by the limit of steps. -/
def IsStopped (term : Term) (env : Environment Term) (world : World) : Prop :=
  ∃ kind, resolver.classifier.classify term = .ok kind ∧
    (resolver.advances resolution cache resolver.config.maxDepth
      (⟨term, kind, env, false⟩, world)).isSome = true

variable {resolver resolution cache} {state state' : Node × World} {steps steps' : Nat}

theorem reduce_of_select {node : Node} {rule : Rule Term}
    (selected : resolver.select node resolver.rules = .ok (some rule)) (steps : Nat) :
    resolver.reduce resolution cache (steps + 1) node =
      resolver.transform resolution cache node rule >>= resolver.follow resolution cache steps := by
  rw [reduce, selected]
  rfl

/-- What a node is reduced to after a step is what it is reduced to. -/
theorem reduce_of_advance
    (next : resolver.advance resolution cache state = some state') (steps : Nat) :
    resolver.reduce resolution cache (steps + 1) state.1 state.2 =
      resolver.reduce resolution cache steps state'.1 state'.2 := by
  unfold advance at next
  split at next
  next rule selected =>
    split at next
    next term env collected world transformed =>
      split at next
      next kind classified =>
        cases next
        rw [reduce_of_select selected]
        simp only [bind, EStateM.bind, transformed, follow, classified]
        rfl
      next => cases next
    next => cases next
  next => cases next

/-- Without a next step the number of steps that are left does not matter. -/
theorem reduce_of_last (last : resolver.advance resolution cache state = none) (steps steps' : Nat) :
    resolver.reduce resolution cache (steps + 1) state.1 state.2 =
      resolver.reduce resolution cache (steps' + 1) state.1 state.2 := by
  unfold advance at last
  cases selected : resolver.select state.1 resolver.rules with
  | error failure =>
      rw [reduce, reduce, selected]
      rfl
  | ok found =>
      cases found with
      | none =>
          rw [reduce, reduce, selected]
          rfl
      | some rule =>
          rw [reduce_of_select selected, reduce_of_select selected]
          simp only [selected] at last
          simp only [bind, EStateM.bind]
          cases transformed : resolver.transform resolution cache state.1 rule state.2 with
          | error failure world => rfl
          | ok step world =>
              cases step with
              | finish value => rfl
              | again term env collected =>
                  simp only [transformed] at last
                  cases classified : resolver.classifier.classify term with
                  | ok kind => simp [classified] at last
                  | error failure =>
                      simp only [follow, classified]
                      rfl

theorem advances_add (steps more : Nat) (state : Node × World) :
    resolver.advances resolution cache (steps + more) state =
      (resolver.advances resolution cache steps state).bind
        (resolver.advances resolution cache more) := by
  induction steps generalizing state with
  | zero => rw [Nat.zero_add]; rfl
  | succ steps ih =>
      rw [Nat.succ_add, advances, advances, Option.bind_assoc]
      exact congrArg _ (funext ih)

/-- After some steps a node is reduced to what it would be reduced to with more of them. -/
theorem reduce_of_advances (reached : resolver.advances resolution cache steps state = some state')
    (more : Nat) : resolver.reduce resolution cache (steps + more) state.1 state.2 =
      resolver.reduce resolution cache more state'.1 state'.2 := by
  induction steps generalizing state with
  | zero =>
      cases reached
      rw [Nat.zero_add]
  | succ steps ih =>
      obtain ⟨next, first, rest⟩ := Option.bind_eq_some_iff.1 reached
      rw [Nat.succ_add, reduce_of_advance first, ih rest]

/-- Steps that suffice to reduce a node are as good as others that do. -/
theorem reduce_eq_of_ends (ends : resolver.advances resolution cache steps state = none)
    (ends' : resolver.advances resolution cache steps' state = none) :
    resolver.reduce resolution cache steps state.1 state.2 =
      resolver.reduce resolution cache steps' state.1 state.2 := by
  induction steps generalizing state steps' with
  | zero => cases ends
  | succ steps ih =>
      cases steps' with
      | zero => cases ends'
      | succ steps' =>
          cases next : resolver.advance resolution cache state with
          | none => exact reduce_of_last next _ _
          | some state' =>
              rw [advances, next] at ends ends'
              rw [reduce_of_advance next, reduce_of_advance next]
              exact ih ends ends'

/-! ## Rules that are tried -/

variable (resolver) in
/-- Rules after others are tried if none of those applies. -/
theorem select_append (node : Node) (rules more : List (Rule Term)) :
    resolver.select node (rules ++ more) =
      match resolver.select node rules with
      | .ok none => resolver.select node more
      | found => found := by
  induction rules with
  | nil => rfl
  | cons rule rest ih =>
      rw [List.cons_append, select, select, ih]
      split
      · rfl
      · split <;> rfl

/-- What is selected is the first rule that applies; if they are sorted, none that applies is before it. -/
theorem select_least {node : Node} {rules : List (Rule Term)} {rule : Rule Term}
    (sorted : rules.Pairwise fun first second => first.priority ≤ second.priority)
    (selected : resolver.select node rules = .ok (some rule)) :
    rule ∈ rules ∧ resolver.applies node rule = true ∧
      ∀ other ∈ rules, resolver.applies node other = true → rule.priority ≤ other.priority := by
  induction rules with
  | nil => cases selected
  | cons first rest ih =>
      obtain ⟨least, others⟩ := List.pairwise_cons.1 sorted
      unfold select at selected
      split at selected
      · cases selected
      · split at selected
        · next applied =>
          cases selected
          exact ⟨List.mem_cons_self, applied,
            List.forall_mem_cons.2 ⟨fun _ => Int.le_refl _, fun other member _ => least other member⟩⟩
        · next passed =>
          obtain ⟨inside, applied, before⟩ := ih others selected
          exact ⟨List.mem_cons_of_mem _ inside, applied,
            List.forall_mem_cons.2 ⟨fun applied => (passed applied).elim, before⟩⟩

/-- Where children were resolved other rules are tried as before, but for those about children. -/
theorem select_collected {node : Node} {rules : List (Rule Term)}
    (blind : ∀ rule ∈ rules, rule = .collection ∨ rule.isBlind = true)
    (other : resolver.select node rules ≠ .ok (some .collection)) :
    resolver.select { node with collected := true } rules = resolver.select node rules := by
  induction rules with
  | nil => rfl
  | cons rule rest ih =>
      obtain ⟨first, others⟩ := List.forall_mem_cons.1 blind
      unfold select at other ⊢
      rcases first with rfl | first
      · rw [if_neg (show ¬ Rule.fails node .collection = true from Bool.false_ne_true)] at other ⊢
        rw [if_neg (show ¬ Rule.fails { node with collected := true } .collection = true from
          Bool.false_ne_true), if_neg (by simp [applies])]
        split at other
        · exact (other rfl).elim
        · next unfit => rw [if_neg unfit, ih others other]
      · rw [Rule.fails_collected first, applies_collected first]
        split
        · rfl
        · next known =>
          rw [if_neg known] at other
          split
          · rfl
          · next unfit => exact ih others (by rwa [if_neg unfit] at other)

/-! ## Children that were resolved -/

theorem transform_collected {node : Node} {rule : Rule Term} (other : rule ≠ .collection)
    (collected : Bool) :
    resolver.transform resolution cache { node with collected := collected } rule =
      Step.withCollected collected <$> resolver.transform resolution cache node rule := by
  obtain ⟨term, kind, env, own⟩ := node
  cases rule with
  | collection => exact (other rfl).elim
  | lookup => simp [transform, Step.withCollected]
  | fixpoint => simp [transform, Step.withCollected]
  | application =>
      simp only [transform, applyFunction]
      cases term <;> simp [Step.withCollected]
  | callable =>
      simp only [transform, applyCallable]
      cases term <;> simp [Step.withCollected]
  | nestedDefaults =>
      simp only [transform, enterDefaults]
      cases term with
      | map =>
          dsimp only
          split
          · rw [map_bind]
            rfl
          · simp [Step.withCollected]
      | _ => simp [Step.withCollected]
  | removal =>
      simp only [transform, prune]
      split
      · simp [Step.withCollected]
      · simp [Step.withCollected]
      · simp [Step.withCollected]
      · split
        · simp [Step.withCollected]
        · rfl
  | passThrough => simp [transform, Step.withCollected]
  | custom rule =>
      have same : act resolver resolution cache ⟨term, kind, env, collected⟩ rule.action =
          act resolver resolution cache ⟨term, kind, env, own⟩ rule.action := by
        cases rule.action <;> rfl
      cases finishes : rule.finishes <;> simp [transform, same, finishes, Step.withCollected]

variable {node next : Node} {world world' : World}

variable (resolver resolution cache) in
/-- No rule resolves the children of a node, or passes it through, while the node is rewritten. -/
def NeverCollects (state : Node × World) : Prop :=
  ∀ steps next, resolver.advances resolution cache steps state = some next →
    ∀ rule, resolver.select next.1 resolver.rules = .ok (some rule) →
      rule ≠ .collection ∧ rule ≠ .passThrough

theorem NeverCollects.advance (never : resolver.NeverCollects resolution cache state)
    (next : resolver.advance resolution cache state = some state') :
    resolver.NeverCollects resolution cache state' := by
  intro steps last reached
  refine never (steps + 1) last ?_
  rw [advances, next]
  exact reached

theorem collected_of_transform {rule : Rule Term} {term : Term} {env : Environment Term}
    {collected : Bool} (other : rule ≠ .collection)
    (transformed : resolver.transform resolution cache node rule world =
      .ok (.again term env collected) world') : collected = node.collected := by
  have same : resolver.transform resolution cache node rule world =
      (Step.withCollected node.collected <$> resolver.transform resolution cache node rule) world :=
    congrFun (transform_collected other node.collected) world
  simp only [Functor.map, EStateM.map, transformed, Step.withCollected] at same
  cases same
  rfl

theorem advance_eq {rule : Rule Term} {kind : Kind} {term : Term} {env : Environment Term}
    {collected : Bool} (selected : resolver.select node resolver.rules = .ok (some rule))
    (transformed : resolver.transform resolution cache node rule world =
      .ok (.again term env collected) world') (classified : resolver.classifier.classify term = .ok kind) :
    resolver.advance resolution cache (node, world) = some (⟨term, kind, env, collected⟩, world') := by
  simp [advance, selected, transformed, classified]

/-- A node that is never about its children is reduced as if they were resolved. -/
theorem NeverCollects.reduce_eq (passesOver : ∀ node, node.collected = false →
      resolver.select node resolver.rules ≠ .ok (some .collection) →
      resolver.select node resolver.rules ≠ .ok (some .passThrough) →
      resolver.select { node with collected := true } resolver.rules =
        resolver.select node resolver.rules)
    (never : resolver.NeverCollects resolution cache (node, world)) (fresh : node.collected = false)
    (steps : Nat) : resolver.reduce resolution cache steps { node with collected := true } world =
      resolver.reduce resolution cache steps node world := by
  induction steps generalizing node world with
  | zero => rfl
  | succ steps ih =>
      have here := never 0 (node, world) rfl
      have same := passesOver node fresh (fun selected => (here _ selected).1 rfl)
        fun selected => (here _ selected).2 rfl
      cases selected : resolver.select node resolver.rules with
      | error failure =>
          rw [reduce, reduce, same, selected]
          rfl
      | ok found =>
          cases found with
          | none =>
              rw [reduce, reduce, same, selected]
              rfl
          | some rule =>
              have other := (here rule selected).1
              rw [reduce_of_select (same.trans selected), reduce_of_select selected,
                transform_collected other]
              simp only [bind, EStateM.bind, Functor.map, EStateM.map]
              cases transformed : resolver.transform resolution cache node rule world with
              | error failure world' => rfl
              | ok step world' =>
                  cases step with
                  | finish value => rfl
                  | again term env collected =>
                      obtain rfl := collected_of_transform other transformed
                      unfold follow Step.withCollected
                      dsimp only
                      cases classified : resolver.classifier.classify term with
                      | error failure => rfl
                      | ok kind =>
                          have next := advance_eq selected transformed classified
                          exact @ih ⟨term, kind, env, node.collected⟩ world' (never.advance next) fresh

/-! ## One rewriting rule beside the built-in ones -/

theorem fails_standard {rule : Rule Term} (builtIn : rule ∈ Rule.standard) :
    rule.fails node = false := by
  simp only [Rule.standard, List.mem_cons, List.not_mem_nil, or_false] at builtIn
  rcases builtIn with rfl | rfl | rfl | rfl | rfl | rfl | rfl | rfl <;> rfl

theorem custom_notMem_standard {custom : CustomRule Term} : .custom custom ∉ Rule.standard := by
  simp [Rule.standard]

variable {priority : Int} {target : String} {replacement : Term}

/-- A rewriting rule puts its term in the place of another, and leaves the node to the other rules. -/
theorem transform_replace :
    resolver.transform resolution cache node (.replace priority target replacement false) =
      pure (.again replacement node.env node.collected) := by
  simp [transform, Rule.replace, act]

/-- A rule that is tried after the removal rule is not tried where the children were resolved. -/
theorem fresh_of_late (rules : resolver.rules =
      Rule.sortByPriority (Rule.standard ++ [.replace priority target replacement false]))
    (late : 60 ≤ priority) (fires : resolver.select node resolver.rules =
      .ok (some (.replace priority target replacement false))) : node.collected = false := by
  have split : resolver.rules = Rule.standard.filter (·.priority ≤ priority) ++
      .replace priority target replacement false ::
        Rule.standard.filter (priority < ·.priority) :=
    rules.trans (Rule.sortByPriority_append Rule.standard_sorted _)
  rw [Bool.eq_false_iff]
  intro collected
  have removal : .removal ∈ Rule.standard.filter fun rule : Rule Term => rule.priority ≤ priority :=
    List.mem_filter.2 ⟨by simp [Rule.standard], decide_eq_true late⟩
  have applied : resolver.applies node .removal = true := collected
  obtain ⟨first, found⟩ := Option.isSome_iff_exists.1 (List.find?_isSome.2 ⟨_, removal, applied⟩)
  rw [split, select_append, select_eq_find? fun rule member =>
    fails_standard (List.mem_filter.1 member).1, found] at fires
  cases fires
  exact custom_notMem_standard (List.mem_filter.1 (List.mem_of_find?_eq_some found)).1

/-- A rule that comes before the removal rule leaves the end of the rules as it is. -/
theorem rules_early (rules : resolver.rules =
      Rule.sortByPriority (Rule.standard ++ [.replace priority target replacement false]))
    (early : priority < 60) :
    ∃ tried, resolver.rules = tried ++ [.removal, .passThrough] ∧
      ∀ rule ∈ tried, rule = .collection ∨ rule.isBlind = true := by
  let first : List (Rule Term) :=
    [.lookup, .fixpoint, .application, .callable, .nestedDefaults, .collection]
  have parts : (Rule.standard : List (Rule Term)) = first ++ [.removal, .passThrough] := rfl
  have later : ∀ rule ∈ ([.removal, .passThrough] : List (Rule Term)), priority < rule.priority :=
    List.forall_mem_cons.2 ⟨early, List.forall_mem_singleton.2 (show priority < 90 by omega)⟩
  have none : ([.removal, .passThrough] : List (Rule Term)).filter (·.priority ≤ priority) = [] :=
    List.filter_eq_nil_iff.2 fun rule member => by simpa using later rule member
  have both : ([.removal, .passThrough] : List (Rule Term)).filter (priority < ·.priority) =
      [.removal, .passThrough] :=
    List.filter_eq_self.2 fun rule member => decide_eq_true (later rule member)
  have known : ∀ rule ∈ first, rule = .collection ∨ rule.isBlind = true := by
    simp [first, Rule.isBlind]
  refine ⟨first.filter (·.priority ≤ priority) ++
    .replace priority target replacement false :: first.filter (priority < ·.priority), ?_, ?_⟩
  · refine (rules.trans (Rule.sortByPriority_append Rule.standard_sorted _)).trans ?_
    change (Rule.standard.filter fun rule : Rule Term => rule.priority ≤ priority) ++
      _ :: (Rule.standard.filter fun rule : Rule Term => priority < rule.priority) = _
    rw [parts, List.filter_append, List.filter_append, none, both, List.append_nil,
      List.append_assoc, List.cons_append]
  · intro rule member
    rcases List.mem_append.1 member with before | after
    · exact known rule (List.mem_filter.1 before).1
    · rcases List.mem_cons.1 after with rfl | after
      · exact .inr rfl
      · exact known rule (List.mem_filter.1 after).1

/-- Where children were resolved, a rule that comes before the removal rule is tried as elsewhere. -/
theorem select_early (rules : resolver.rules =
      Rule.sortByPriority (Rule.standard ++ [.replace priority target replacement false]))
    (early : priority < 60) (fresh : node.collected = false)
    (noCollection : resolver.select node resolver.rules ≠ .ok (some .collection))
    (noPass : resolver.select node resolver.rules ≠ .ok (some .passThrough)) :
    resolver.select { node with collected := true } resolver.rules =
      resolver.select node resolver.rules := by
  obtain ⟨tried, split, blind⟩ := rules_early rules early
  rw [split, select_append] at noCollection noPass ⊢
  rw [select_append, select_collected blind]
  · cases selected : resolver.select node tried with
    | error failure => rfl
    | ok found =>
        cases found with
        | some rule => rfl
        | none =>
            rw [selected] at noPass
            simp [select, Rule.fails, applies, fresh] at noPass
  · intro selected
    rw [selected] at noCollection
    exact noCollection rfl

/-- A reference that the rule does not replace is resolved at once, and not about children. -/
theorem neverCollects_of_ref (rules : resolver.rules =
      Rule.sortByPriority (Rule.standard ++ [.replace priority target replacement false]))
    {t : Term} {env : Environment Term} (other : t.tagged ≠ target) :
    resolver.NeverCollects resolution cache (⟨t, .ref, env, false⟩, world) := by
  have least : ∀ {rule}, resolver.select ⟨t, .ref, env, false⟩ resolver.rules = .ok (some rule) →
      rule = .lookup ∨ rule = .fixpoint := by
    intro rule selected
    rw [rules] at selected
    obtain ⟨member, applied, first⟩ := select_least (Rule.sortByPriority_sorted _) selected
    have known := (Rule.sortByPriority_perm _).mem_iff.1 member
    have low : rule.priority ≤ 20 := first .fixpoint
      ((Rule.sortByPriority_perm _).mem_iff.2 (by simp [Rule.standard])) rfl
    simp only [Rule.standard, List.cons_append, List.nil_append, List.mem_cons, List.not_mem_nil,
      or_false] at known
    rcases known with rfl | rfl | rfl | rfl | rfl | rfl | rfl | rfl | rfl
    · exact .inl rfl
    · exact .inr rfl
    all_goals first | exact absurd low (by decide) | exact (other (beq_iff_eq.1 applied)).elim
  have last : resolver.advance resolution cache (⟨t, .ref, env, false⟩, world) = none := by
    unfold advance
    split
    next rule selected =>
      split
      next term env collected world' transformed =>
        exfalso
        rcases least selected with rfl | rfl
        · simp only [transform, bind, EStateM.bind] at transformed
          split at transformed <;> cases transformed
        · cases transformed
      next => rfl
    next => rfl
  intro steps next reached rule selected
  cases steps with
  | succ steps =>
      rw [advances, last] at reached
      cases reached
  | zero =>
      cases reached
      rcases least selected with rfl | rfl
      · simp
      · simp

/--
A rule is added to the built-in ones, of any priority, that replaces a term and leaves the node to the
other rules.  When it replaces the term of a node, whatever the resolution of a term made of the node
before, the resolution ends like one of the new term that begins then and there, with the same table
and in the environment of the node, unless one of them is stopped by the limit of steps.  But if the
children of the node were resolved before, which only a rule that comes before the removal rule can
see, this needs the new term to be rewritten until it is a reference, or a rule fails.
-/
theorem resolve_replaced (rules : resolver.rules =
      Rule.sortByPriority (Rule.standard ++ [.replace priority target replacement false]))
    {levels : Nat} {term : Term} {kind : Kind} {env : Environment Term}
    (classified : resolver.classifier.classify term = .ok kind)
    (reached : resolver.advances (resolveTerm ceiling levels) cache steps (⟨term, kind, env, false⟩, world) =
      some (node, world'))
    (fires : resolver.select node resolver.rules =
      .ok (some (.replace priority target replacement false)))
    (early : priority < 60 → node.collected = true →
      ∀ kind, resolver.classifier.classify replacement = .ok kind →
        resolver.NeverCollects (resolveTerm ceiling levels) cache (⟨replacement, kind, node.env, false⟩, world'))
    (ends : ¬ resolver.IsStopped (resolveTerm ceiling levels) cache term env world)
    (ends' : ¬ resolver.IsStopped (resolveTerm ceiling levels) cache replacement node.env world') :
    resolveTerm ceiling (levels + 1) resolver term env cache world =
      resolveTerm ceiling (levels + 1) resolver replacement node.env cache world' := by
  have ended : resolver.advances (resolveTerm ceiling levels) cache resolver.config.maxDepth
      (⟨term, kind, env, false⟩, world) = none :=
    Option.not_isSome_iff_eq_none.1 fun stopped => ends ⟨kind, classified, stopped⟩
  -- The limit lies beyond the step at which the rule fires.
  obtain ⟨more, limit⟩ : ∃ more, resolver.config.maxDepth = steps + (more + 1) := by
    rcases Nat.lt_or_ge steps resolver.config.maxDepth with below | above
    · exact ⟨resolver.config.maxDepth - (steps + 1), by omega⟩
    · obtain ⟨past, rfl⟩ := Nat.exists_eq_add_of_le above
      rw [advances_add, ended] at reached
      cases reached
  have run : resolveTerm ceiling (levels + 1) resolver term env cache world =
      resolver.reduce (resolveTerm ceiling levels) cache (more + 1) node world' := by
    rw [resolveTerm_succ, resolveNode, classified, limit]
    exact reduce_of_advances reached (more + 1)
  rw [limit, advances_add, reached] at ended
  rw [run, reduce_of_select fires, resolveTerm_succ, resolveNode]
  cases again : resolver.classifier.classify replacement with
  | error failure =>
      simp only [transform_replace, pure_bind, follow, again]
      rfl
  | ok kind' =>
      simp only [transform_replace, pure_bind, follow, again, ofResult]
      have next : resolver.advance (resolveTerm ceiling levels) cache (node, world') =
          some (⟨replacement, kind', node.env, node.collected⟩, world') := advance_eq fires rfl again
      have rest : resolver.advances (resolveTerm ceiling levels) cache more
          (⟨replacement, kind', node.env, node.collected⟩, world') = none := by
        have later := ended
        rw [Option.bind_some, advances, next] at later
        exact later
      have anew : resolver.advances (resolveTerm ceiling levels) cache resolver.config.maxDepth
          (⟨replacement, kind', node.env, false⟩, world') = none :=
        Option.not_isSome_iff_eq_none.1 fun stopped => ends' ⟨kind', again, stopped⟩
      show resolver.reduce (resolveTerm ceiling levels) cache more
          ⟨replacement, kind', node.env, node.collected⟩ world' =
        resolver.reduce (resolveTerm ceiling levels) cache resolver.config.maxDepth
          ⟨replacement, kind', node.env, false⟩ world'
      cases collected : node.collected with
      | false =>
          rw [collected] at rest
          exact reduce_eq_of_ends rest anew
      | true =>
          have before : priority < 60 := by
            refine Int.not_le.1 fun late => ?_
            cases collected.symm.trans (fresh_of_late rules late fires)
          have beyond : resolver.advances (resolveTerm ceiling levels) cache resolver.config.maxDepth
              (⟨replacement, kind', node.env, true⟩, world') = none := by
            have split : resolver.config.maxDepth = more + (steps + 1) := by omega
            rw [split, advances_add, ← collected, rest]
            rfl
          rw [collected] at rest
          have never := early before collected kind' again
          calc resolver.reduce (resolveTerm ceiling levels) cache more
                ⟨replacement, kind', node.env, true⟩ world'
            _ = resolver.reduce (resolveTerm ceiling levels) cache resolver.config.maxDepth
                ⟨replacement, kind', node.env, true⟩ world' := reduce_eq_of_ends rest beyond
            _ = resolver.reduce (resolveTerm ceiling levels) cache resolver.config.maxDepth
                ⟨replacement, kind', node.env, false⟩ world' :=
              never.reduce_eq (fun _ => select_early rules before) rfl _

/-- The built-in rules, and one between collection and removal that replaces a list of a text. -/
def rewriting (replacement : Term) : Resolver Term :=
  ⟨.standard, .standard, Rule.sortByPriority (Rule.standard ++
    [.replace 55 (Term.list .plain none [.str "k"]).tagged replacement false])⟩

/-- A list that was resolved and is then replaced by a reference ends as the reference does. -/
theorem replaced_by_reference :
    ∃ node world,
      (rewriting (.ref "X")).advances (resolveTerm 20 2) 0 1
        (⟨.list .plain none [.str "k"], .sequence, ⟨[[(.str "X", .str "v")]], []⟩, false⟩,
          { World.empty with caches := [.empty] }) = some (node, world) ∧
      node.collected = true ∧
      resolveTerm 20 3 (rewriting (.ref "X")) (.list .plain none [.str "k"]) ⟨[[(.str "X", .str "v")]], []⟩ 0
        { World.empty with caches := [.empty] } =
          resolveTerm 20 3 (rewriting (.ref "X")) (.ref "X") node.env 0 world ∧
      ∃ done, resolveTerm 20 3 (rewriting (.ref "X")) (.ref "X") node.env 0 world = .ok (.str "v") done := by
  have notStopped : ∀ {term : Term} {kind : Kind} {env : Environment Term} {world : World},
      (rewriting (.ref "X")).classifier.classify term = .ok kind →
      (rewriting (.ref "X")).advances (resolveTerm 20 2) 0 100 (⟨term, kind, env, false⟩, world) = none →
      ¬ (rewriting (.ref "X")).IsStopped (resolveTerm 20 2) 0 term env world := by
    rintro term kind env world classified ends ⟨kind', classified', stopped⟩
    cases classified.symm.trans classified'
    exact absurd stopped (by
      show ¬ (Option.isSome ((rewriting (.ref "X")).advances (resolveTerm 20 2) 0 100 _)) = true
      rw [ends]
      exact Bool.false_ne_true)
  refine ⟨_, _, rfl, rfl, ?_, _, rfl⟩
  have classified : (rewriting (.ref "X")).classifier.classify (.list .plain none [.str "k"]) =
    .ok .sequence := rfl
  refine resolve_replaced rfl classified
    (show (rewriting (.ref "X")).advances (resolveTerm 20 2) 0 1 _ = _ from rfl) rfl ?_
    (notStopped rfl rfl) (notStopped rfl rfl)
  intro _ _ kind again
  cases again
  exact neverCollects_of_ref rfl (by decide)

/-- A list that was resolved and is then replaced by text ends as the list of its characters. -/
theorem replaced_by_text :
    ∃ node world,
      (rewriting (.str "abc")).advances (resolveTerm 20 2) 0 1
        (⟨.list .plain none [.str "k"], .sequence, .empty, false⟩,
          { World.empty with caches := [.empty] }) = some (node, world) ∧
      (rewriting (.str "abc")).select node (rewriting (.str "abc")).rules =
        .ok (some (.replace 55 (Term.list .plain none [.str "k"]).tagged (.str "abc") false)) ∧
      (rewriting (.str "abc")).advances (resolveTerm 20 2) 0 100
        (⟨.list .plain none [.str "k"], .sequence, .empty, false⟩,
          { World.empty with caches := [.empty] }) = none ∧
      (rewriting (.str "abc")).advances (resolveTerm 20 2) 0 100
        (⟨.str "abc", .scalar, .empty, false⟩, world) = none ∧
      (∃ done, resolveTerm 20 3 (rewriting (.str "abc")) (.list .plain none [.str "k"]) .empty 0
        { World.empty with caches := [.empty] } =
          .ok (.list .plain none [.str "a", .str "b", .str "c"]) done) ∧
      ∃ done, resolveTerm 20 3 (rewriting (.str "abc")) (.str "abc") node.env 0 world =
        .ok (.str "abc") done :=
  ⟨_, _, rfl, rfl, rfl, rfl, ⟨_, rfl⟩, _, rfl⟩

end Resolver

end ScopedTemplate
