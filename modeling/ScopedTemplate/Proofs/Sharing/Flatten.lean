import ScopedTemplate.Proofs.Reuse.Fingerprints

/-!
# Environments that are known by their fingerprints

The one scope that an environment flattens to binds its names as the environment does, and a
fingerprint is the content of that scope.  So environments with one fingerprint bind a name to values
of one content, and to one outline if contents decide about outlines.
-/

namespace ScopedTemplate

namespace Entries

variable {entries : Entries}

/-- Keys that are told apart are distinct if none is there twice. -/
theorem distinct_of_nodup {among : Term → Prop} (apart : Discernible among)
    (keyed : ∀ key ∈ keys entries, among key) (nodup : (keys entries).Nodup) : Distinct entries := by
  refine (List.pairwise_map.1 nodup).imp_of_mem fun {entry other} member member' differ => ?_
  refine Bool.eq_false_iff.2 fun same => differ ?_
  exact apart.same _ _ (keyed _ (List.mem_map_of_mem member)) (keyed _ (List.mem_map_of_mem member')) same

theorem Named.distinct (named : entries.Named) : Distinct entries :=
  distinct_of_nodup discernible_names named.names named.nodup

/-- What is found under a key is the first value that is held there. -/
theorem content_find? {key : Key} {name : Term} (own : name.key? = some key) (entries : Entries) :
    (find? entries name).map Term.content = (held key entries).head?.map Prod.snd := by
  induction entries with
  | nil => simp
  | cons entry rest ih =>
      have same : entry.1.sameKey name = true ↔ entry.1.key? = some key := Term.sameKey_iff_key? own
      rw [find?_cons, held_cons]
      by_cases first : entry.1.key? = some key
      · rw [if_pos first, if_pos (same.2 first)]
        rfl
      · rw [if_neg first, if_neg (mt same.1 first), ih]

end Entries

/-! ## Environments -/

namespace Environment

variable {env env' : Environment Term}

/-- The scope that an environment flattens to binds a name as the environment does. -/
theorem find?_flatten (distinct : ∀ layer ∈ env.layers, Entries.Distinct layer) (key : Term) :
    Entries.find? env.flatten key = env.lookup? key := by
  obtain ⟨scopes, overrides⟩ := env
  have each : ∀ scope ∈ scopes, Entries.Distinct scope := fun scope member =>
    distinct scope (List.mem_cons_of_mem _ (List.mem_reverse.2 member))
  cases scopes with
  | nil =>
      rw [lookup?_eq]
      cases found : Entries.find? overrides key <;> simp [flatten, found]
  | cons outermost inner =>
      have updates : ∀ layer ∈ inner ++ [overrides], Entries.Distinct layer :=
        List.forall_mem_append.2 ⟨(List.forall_mem_cons.1 each).2,
          List.forall_mem_singleton.2 (distinct overrides List.mem_cons_self)⟩
      unfold flatten
      rw [Entries.find?_foldl_update updates, lookup?_eq, List.reverse_append, List.reverse_cons,
        List.findSome?_append]
      cases above : Entries.find? overrides key <;>
        cases inside : inner.reverse.findSome? (fun scope => Entries.find? scope key) <;>
        cases outside : Entries.find? outermost key <;> simp [above, inside, outside]

/-- A fingerprint tells the contents that names are bound to. -/
theorem content_lookup? (distinct : ∀ layer ∈ env.layers, Entries.Distinct layer)
    (distinct' : ∀ layer ∈ env'.layers, Entries.Distinct layer)
    (same : env.fingerprint = env'.fingerprint) (s : String) :
    (env.lookup? (.ref s)).map Term.content = (env'.lookup? (.ref s)).map Term.content := by
  have own : (Term.ref s).key? = some (.text s) := Term.key?_text _ _
  rw [← find?_flatten distinct, ← find?_flatten distinct', Entries.content_find? own,
    Entries.content_find? own, fingerprint_eq_iff.1 same]

/-- So it tells what names are bound to, up to outlines, where contents decide about these. -/
theorem bindings_of_fingerprint {P : Term → Prop}
    (decides : ∀ {t u}, P t → P u → t.content = u.content → t.outline true = u.outline true)
    (distinct : ∀ layer ∈ env.layers, Entries.Distinct layer)
    (distinct' : ∀ layer ∈ env'.layers, Entries.Distinct layer)
    (bound : env.EachBinding P) (bound' : env'.EachBinding P)
    (same : env.fingerprint = env'.fingerprint) : env.bindings true = env'.bindings true := by
  funext name
  have contents := content_lookup? distinct distinct' same name
  unfold bindings
  cases found : env.lookup? (.ref name) with
  | none =>
      cases found' : env'.lookup? (.ref name) with
      | none => rfl
      | some value' =>
          rw [found, found'] at contents
          cases contents
  | some value =>
      cases found' : env'.lookup? (.ref name) with
      | none =>
          rw [found, found'] at contents
          cases contents
      | some value' =>
          rw [found, found'] at contents
          exact congrArg some
            (decides (bound.lookup? found) (bound'.lookup? found') (Option.some.inj contents))

end Environment

end ScopedTemplate
