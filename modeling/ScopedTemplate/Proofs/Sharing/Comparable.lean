import ScopedTemplate.Proofs.Sharing.Answers

/-!
# Data that a table tells apart

Everything but floats, frames, plain callables and views is known by its content, if what has an
identity is labelled, and if keys of mappings that are equal are the same.  So resolutions of such
data give what terms mean.
-/

namespace ScopedTemplate

/-- Keys are among some terms, and none is there twice. -/
structure Entries.Keyed (among : Term → Prop) (entries : Entries) : Prop where
  keyed : ∀ key ∈ Entries.keys entries, among key
  nodup : (Entries.keys entries).Nodup

namespace Entries.Keyed

variable {among : Term → Prop} {entries entries' : Entries}

theorem sublist (keyed : Entries.Keyed among entries')
    (sub : (Entries.keys entries).Sublist (Entries.keys entries')) : Entries.Keyed among entries :=
  ⟨fun key member => keyed.keyed key (sub.subset member), keyed.nodup.sublist sub⟩

theorem perm (keyed : Entries.Keyed among entries) (perm : entries.Perm entries') :
    Entries.Keyed among entries' :=
  ⟨fun key member => keyed.keyed key ((perm.map Prod.fst).mem_iff.2 member),
    (perm.map Prod.fst).nodup_iff.1 keyed.nodup⟩

theorem distinct (keyed : Entries.Keyed among entries) (apart : Discernible among) :
    Entries.Distinct entries :=
  Entries.distinct_of_nodup apart keyed.keyed keyed.nodup

end Entries.Keyed

namespace Term

def IsComparable (functions among : Term → Prop) (labels : List Term) : Term → Prop
  | .null | .bool _ | .int _ | .text _ _ | .bytes _ | .removed | .builtin _ | .type _ => True
  | .list kind stamp items => Labelled labels stamp (.list kind stamp items)
  | .tuple stamp items => Labelled labels stamp (.tuple stamp items)
  | .map kind stamp entries =>
    kind = .plain ∧ Entries.Keyed among entries ∧ Labelled labels stamp (.map kind stamp entries)
  | .set stamp items => Labelled labels (some stamp) (.set stamp items)
  | .point stamp items => Labelled labels (some stamp) (.point stamp items)
  | .callable kind stamp label name body =>
    kind = .object ∧ Labelled labels (some stamp) (.callable kind stamp label name body)
  | .function stamp name deps doc callee =>
    functions (.function stamp name deps doc callee) ∧
      Labelled labels (some stamp) (.function stamp name deps doc callee)
  | .float _ | .nan _ | .internal _ | .view _ _ _ _ => False

variable {functions among : Term → Prop} {labels labels' : List Term} {t : Term}

theorem IsComparable.known (comparable : t.IsComparable functions among labels)
    (isFunction : Classifier.shapeKind t = .function) : functions t := by
  cases t with
  | function _ _ _ _ _ => exact comparable.1
  | callable kind _ _ _ _ => cases kind <;> cases isFunction
  | _ => cases isFunction

theorem IsComparable.form (comparable : t.IsComparable functions among labels) :
    Form among labels t := by
  cases t with
  | null => exact .null
  | bool b => exact .bool b
  | int n => exact .int n
  | text kind s => exact .text kind s
  | bytes bs => exact .bytes bs
  | removed => exact .removed
  | builtin name => exact .builtin name
  | type name => exact .type name
  | list kind stamp items =>
      cases stamp with
      | none => exact .list kind items
      | some own => exact .stamped own (by rw [content]) (comparable own rfl)
  | tuple stamp items =>
      cases stamp with
      | none => exact .tuple items
      | some own => exact .stamped own (by rw [content]) (comparable own rfl)
  | map kind stamp entries =>
      obtain ⟨rfl, keyed, labelled⟩ := comparable
      cases stamp with
      | none => exact .map entries keyed.keyed
      | some own => exact .stamped own (by rw [content]) (labelled own rfl)
  | set stamp items => exact .stamped stamp (by rw [content]) (comparable stamp rfl)
  | point stamp items => exact .stamped stamp (by rw [content]) (comparable stamp rfl)
  | callable kind stamp label name body =>
      exact .stamped stamp (by rw [content]) (comparable.2 stamp rfl)
  | function stamp name deps doc callee =>
      exact .stamped stamp (by rw [content]) (comparable.2 stamp rfl)
  | _ => exact comparable.elim

/-- What is comparable stays comparable when more is labelled. -/
theorem IsComparable.later (comparable : t.IsComparable functions among labels)
    (more : labels <+: labels') : t.IsComparable functions among labels' := by
  cases t with
  | list _ _ _ => exact Domain.labelled_later more comparable
  | tuple _ _ => exact Domain.labelled_later more comparable
  | map _ _ _ =>
      exact ⟨comparable.1, comparable.2.1, Domain.labelled_later more comparable.2.2⟩
  | set _ _ => exact Domain.labelled_later more comparable
  | point _ _ => exact Domain.labelled_later more comparable
  | callable _ _ _ _ _ => exact ⟨comparable.1, Domain.labelled_later more comparable.2⟩
  | function _ _ _ _ _ => exact ⟨comparable.1, Domain.labelled_later more comparable.2⟩
  | _ => exact comparable

/-- What is made is labelled with itself. -/
theorem IsComparable.stamped (comparable : (t.withStamp none).IsComparable functions among labels) :
    (t.withStamp (some labels.length)).IsComparable functions among
      (labels ++ [t.outline true]) := by
  have labelled := Domain.labelled_stamped labels t
  cases t with
  | list _ _ _ => exact labelled
  | tuple _ _ => exact labelled
  | map _ _ _ => exact ⟨comparable.1, comparable.2.1, labelled⟩
  | _ => exact comparable.later (List.prefix_append _ _)

end Term

namespace Domain

variable (functions among : Term → Prop) (meaning : Meaning)

/-- Comparable data, and environments in which the same names are overridden. -/
def comparable : Domain where
  meaning := meaning
  sorts := true
  Stage := List Term
  Later := (· <+: ·)
  reached labels next := labels.length = next
  fits labels t := t.IsComparable functions among labels
  admits labels env := (∀ layer ∈ env.layers, Entries.Distinct layer) ∧
    (env.EachBinding fun t => t.Everywhere (Term.IsComparable functions among labels)) ∧
    env.pinned = meaning.pinned
  trusts _ := True

variable {functions among} {meaning}

theorem comparable_map {labels : List Term} {entries : Entries} (keyed : Entries.Keyed among entries)
    (each : ∀ entry ∈ entries, (comparable functions among meaning).Holds labels entry.2) :
    (comparable functions among meaning).Holds labels (.map .plain none entries) :=
  Term.everywhere_map.2 ⟨⟨rfl, keyed, nofun⟩, each⟩

theorem lawful_comparable (rules : meaning.resolver.rules = Rule.standard)
    (apart : Discernible among) (pure : (comparable functions among meaning).IsPure) :
    (comparable functions among meaning).Lawful where
  rules := rules
  refl labels := List.prefix_refl labels
  trans first second := first.trans second
  fits_later more fits := Term.IsComparable.later fits more
  admits_later more admits := ⟨admits.1,
    admits.2.1.mono fun _ holds => holds.mono fun _ fits => fits.later more, admits.2.2⟩
  declarative := by
    intro labels t fits
    have comparable : t.IsComparable functions among labels := fits
    cases t with
    | callable kind _ _ _ _ =>
        obtain ⟨rfl, _⟩ := comparable
        exact ⟨nofun, rfl⟩
    | view _ _ _ _ => exact comparable.elim
    | _ => exact ⟨nofun, rfl⟩
  name _ _ := trivial
  binding admits found := admits.2.1.lookup? found
  child := by
    intro labels env kind stamp entries kind' stamp' scope admits holds found
    obtain ⟨distinct, bound, pinned⟩ := admits
    have inner := Term.Everywhere.find? (Term.everywhere_map.1 holds).2 found
    have keyed : Entries.Keyed among scope := inner.here.2.1
    refine ⟨⟨?_, bound.child (Term.everywhere_map.1 inner).2, ?_⟩, ?_⟩
    · intro layer member
      rcases Environment.mem_layers_child member with before | rfl
      · exact distinct layer before
      · exact keyed.distinct apart
    · rw [Environment.pinned_child]
      exact pinned
    · rw [Environment.bindings_child]
      exact congrArg (fun pinned => Bindings.enter _ pinned _) pinned
  list _ _ := nofun
  tuple _ _ := nofun
  map := by
    rintro labels kind stamp original entries ⟨_, keyed, _⟩ reduced
    exact ⟨rfl, keyed.sublist reduced.keys, nofun⟩
  stamped := by
    rintro labels next t rfl fits
    refine ⟨List.append labels [t.outline true], List.prefix_append _ _, ?_,
      Term.IsComparable.stamped fits⟩
    exact List.length_append
  applied := pure
  trusts_suffix _ _ := trivial
  agree := by
    intro labels events env env' _ _ _ admits admits' same
    refine Environment.bindings_of_fingerprint (fun known known' contents => ?_) admits.1 admits'.1
      admits.2.1 admits'.2.1 same
    exact Term.outline_of_form apart (known.mono fun _ here => here.form)
      (known'.mono fun _ here => here.form) contents

end Domain

end ScopedTemplate
