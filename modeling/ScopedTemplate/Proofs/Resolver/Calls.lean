import ScopedTemplate.Proofs.Run.Discipline

/-!
# Calls keep a discipline

Whatever a function computes, it reaches tables through resolutions and views only.  So a call keeps
a discipline if the resolutions and the reads of views do that are made for it, and if its body hands on
nothing that is not safe.
-/

namespace ScopedTemplate

open Run Term

namespace Discipline

def Grants (d : Discipline) : Body → Prop
  | .ask config cache .. => d.asks config cache
  | .block _ => d.opens
  | _ => True

def Permits (d : Discipline) (call : Call) : Body → Prop
  | .arg _ => ∀ arg ∈ call.args, d.safe arg
  | .const value | .fresh _ _ value => d.safe value
  | .self => d.safe call.self
  | .ask config cache .. => d.asks config cache
  | .block _ => d.opens
  | .readView => d.safe call.env
  | .readField name => ∀ shown stamp member, View.member? name shown stamp = some member → d.safe member
  | _ => True

/-- What can be called with certain arguments, seen by its body as a certain term. -/
inductive Invocable (d : Discipline) : Term → Term → List Term → Prop where
  /-- What takes an environment reads from it. -/
  | reader {kind : CallableKind} {stamp : Stamp} {label name : String} {body : Body} {self : Term}
      {args : List Term} (reads : kind = .accessor ∨ kind = .method ∨ kind = .function)
      (permitted : ∀ env, args = [env] →
        d.given env ∧ body.Every (d.Permits ⟨.callable kind stamp label name body, stamp, [], env⟩)) :
      Invocable d (.callable kind stamp label name body) self args
  | applied {kind : CallableKind} {stamp : Stamp} {label name : String} {body : Body} {self : Term}
      {args : List Term} (applies : kind = .object ∨ kind = .procedure)
      (permitted : body.Every (d.Permits ⟨self, stamp, args, .null⟩)) :
      Invocable d (.callable kind stamp label name body) self args
  | function {stamp : Stamp} {name : String} {deps : List String} {doc : Option String}
      {callee self : Term} {args : List Term}
      (inner : Invocable d callee (.function stamp name deps doc callee) args) :
      Invocable d (.function stamp name deps doc callee) self args
  | standard {callee self : Term} {args : List Term}
      (noCallable : ∀ kind stamp label name body, callee ≠ .callable kind stamp label name body)
      (noFunction : ∀ stamp name deps doc inner, callee ≠ .function stamp name deps doc inner)
      (safe : ∀ arg ∈ args, d.safe arg) : Invocable d callee self args

/-- What calls are given keeps the discipline: resolutions that are asked for, and the reads of views. -/
structure Serves (d : Discipline) (resolution : Resolution) : Prop where
  asked : ∀ {config cache}, d.asks config cache → ∀ {resolver}, Resolver.MadeWith config resolver →
    ∀ {template env}, d.safe template → env.Each d.safe →
      d.Keeps (resolveWith resolution resolver template env cache) d.safe
  blocks : d.opens → ∀ {body}, d.Keeps body d.safe → d.Keeps (Block.within body) d.safe
  reads : ∀ {stamp resolver env cache} name, d.given (.view stamp resolver env cache) →
    d.Keeps (View.item resolution resolver env cache name) d.safe

variable {d : Discipline} {resolution : Resolution}

/-! ## Views -/

section Views

variable {stamp : Stamp} {resolver : Resolver Term} {env : Environment Term} {cache : CacheId}

theorem Serves.itemOr (serves : d.Serves resolution) (given : d.given (.view stamp resolver env cache))
    (name : Term) {fallback : Term} (safe : d.safe fallback) :
    d.Keeps (View.itemOr resolution resolver env cache name fallback) d.safe := by
  unfold View.itemOr
  cases bound : View.has env name with
  | true =>
      refine (serves.reads name given).recover ?_
      intro failure next handled
      split at handled
      · cases handled
        exact ⟨_, rfl, .pure safe⟩
      · cases handled
  | false =>
      unfold View.item
      rw [bound]
      exact .pure safe

theorem Serves.field (serves : d.Serves resolution) (given : d.given (.view stamp resolver env cache))
    (name : String) : d.Keeps (View.field resolution resolver env cache name) d.safe := by
  unfold View.field
  split
  · exact .throw rfl
  · exact serves.itemOr given _ d.hereditary.null

theorem Serves.itemsOf (serves : d.Serves resolution) (given : d.given (.view stamp resolver env cache))
    {names : List Term} (safe : ∀ name ∈ names, d.safe name) :
    d.Keeps (View.itemsOf resolution resolver env cache names) (Entries.Each d.safe) := by
  induction names with
  | nil => exact .pure Entries.each_nil
  | cons name rest ih =>
      obtain ⟨first, others⟩ := List.forall_mem_cons.1 safe
      refine (serves.reads name given).bind fun value valued => ?_
      refine (ih others).bind fun entries each => ?_
      exact .pure (Entries.each_cons.2 ⟨⟨first, valued⟩, each⟩)

theorem Serves.items (serves : d.Serves resolution) (given : d.given (.view stamp resolver env cache)) :
    d.Keeps (View.items resolution resolver env cache) (Entries.Each d.safe) :=
  serves.itemsOf given (d.bindings given).names

theorem Serves.scopeEntries (serves : d.Serves resolution) {scope : Term} (safe : d.safe scope) :
    d.Keeps (scope.scopeEntries resolution) (Entries.Each d.safe) := by
  unfold Term.scopeEntries
  split
  · exact .pure (d.hereditary.map.1 safe)
  · exact serves.items (d.given_of_safe safe)
  · exact .pure Entries.each_nil

end Views

/-! ## Reads of any source -/

section Readings

variable {source : Term}

theorem Serves.readItem (serves : d.Serves resolution) (given : d.given source) (name : Term) :
    d.Keeps (Reading.item resolution source name) d.safe := by
  unfold Reading.item
  split
  · exact serves.reads name given
  · next noView =>
      have safe := d.safe_of_given given (isView_eq_false noView)
      exact .ofResult (fun value found => d.hereditary.subscript safe found) (subscript_plainly _ _)

theorem Serves.readItemOr (serves : d.Serves resolution) (given : d.given source) (name : Term)
    {fallback : Term} (spare : d.safe fallback) :
    d.Keeps (Reading.itemOr resolution source name fallback) d.safe := by
  unfold Reading.itemOr
  split
  · exact serves.itemOr given name spare
  · next entries =>
      refine .ofResult (fun value found => ?_) (name.checkKey_plainly.bind fun _ => .ok _)
      obtain ⟨_, _, found⟩ := Except.bind_eq_ok.1 found
      cases found
      cases among : Entries.find? entries name with
      | none => exact spare
      | some value => exact (d.hereditary.map.1 (d.safe_of_given given rfl)).find? among
  · exact .throw rfl

theorem Serves.readField (serves : d.Serves resolution) (given : d.given source) {name : String}
    (members : ∀ shown stamp member, View.member? name shown stamp = some member → d.safe member) :
    d.Keeps (Reading.field resolution source name) d.safe := by
  unfold Reading.field
  split
  · refine Keeps.bind (.silent (.takeStamps 1)) fun own _ => ?_
    split
    · next member found => exact .pure (members _ _ _ found)
    · exact serves.field given name
  · exact .throw rfl

theorem readHas_keeps (name : Term) : d.Keeps (Reading.has source name) fun _ => True := by
  unfold Reading.has
  split
  · exact .pure trivial
  · exact .ofResult (fun _ _ => trivial) (contains_plainly _ _)

theorem readNames_keeps (given : d.given source) :
    d.Keeps (Reading.names source) fun names => ∀ name ∈ names, d.safe name := by
  refine .ofResult (fun names found => ?_) (Standard.elements_plainly source)
  cases source with
  | view stamp resolver env cache =>
      cases found
      exact (d.bindings given).names
  | _ => exact d.hereditary.elements (d.safe_of_given given rfl) found

theorem Serves.readItems (serves : d.Serves resolution) (given : d.given source) :
    d.Keeps (Reading.items resolution source) (Entries.Each d.safe) := by
  unfold Reading.items
  split
  · exact serves.items given
  · exact .pure (d.hereditary.map.1 (d.safe_of_given given rfl))
  · exact .throw rfl

theorem readSize_keeps : d.Keeps (Reading.size source) d.safe :=
  .ofResult (fun _ found => d.hereditary.sizeOf found) (Standard.sizeOf_plainly source)

theorem write_keeps (name : String) : d.Keeps (Reading.write source name) d.safe := by
  unfold Reading.write
  split
  · exact .throw rfl
  · exact .throw rfl

theorem Serves.readEnvironment (serves : d.Serves resolution) (given : d.given source) :
    d.Keeps (Reading.environment resolution source) fun env => env.Each d.safe := by
  unfold Reading.environment
  split
  · refine (serves.items given).bind fun entries each => ?_
    exact .pure (Environment.each_ofBindings each Entries.each_nil)
  · next noView =>
      have safe := d.safe_of_given given (isView_eq_false noView)
      split
      · exact .pure Environment.each_empty
      · refine Keeps.bind (.ofResult (fun entries found => d.hereditary.entries ?_ found)
          (Standard.entries_plainly _)) fun entries each =>
            .pure (Environment.each_ofBindings each Entries.each_nil)
        exact List.forall_mem_singleton.2 safe

theorem Serves.resolveFor (serves : d.Serves resolution) {config : Option Config}
    {cache : Option CacheId} (asks : d.asks config cache) {template : Term} (safe : d.safe template)
    (given : d.given source) {overrides : Entries} (each : Entries.Each d.safe overrides) :
    d.Keeps (resolveFor resolution config cache template source overrides) d.safe := by
  have named : FailsPlainly (Resolver.checkOverrides overrides ["cache", "config"]) :=
    Entries.checkNames_plainly _ _ _ _ _
  refine Keeps.bind (.ofResult (fun _ _ => trivial) named) fun _ (_ : True) => ?_
  refine Keeps.bind (.steady (Resolver.ofConfig_steady config)) fun resolver made => ?_
  refine (serves.readEnvironment given).bind fun env bindings => ?_
  exact serves.asked asks made safe (bindings.withOverrides each)

end Readings

/-! ## Bodies -/

section Bodies

variable {call : Call}

/-- What is permitted for the bodies of fields. -/
theorem every_fields {P : Body → Prop} {fields : List (Body × Body)}
    (every : ∀ part ∈ Body.partsOfFields fields, part.Every P) :
    ∀ field ∈ fields, field.1.Every P ∧ field.2.Every P :=
  fun field member => ⟨every _ (Body.mem_partsOfFields.2 ⟨field, member, .inl rfl⟩),
    every _ (Body.mem_partsOfFields.2 ⟨field, member, .inr rfl⟩)⟩

mutual

/-- A body that does nothing else keeps the discipline. -/
theorem Serves.evalBody (serves : d.Serves resolution) (given : d.given call.env) :
    (body : Body) → body.Every (d.Permits call) → d.Keeps (evalBody resolution call body) d.safe
  | .arg index, every => by
      unfold ScopedTemplate.evalBody
      cases found : atIndex? call.args index with
      | none => exact .throw rfl
      | some value => exact .pure (every.here value (mem_of_atIndex? found))
  | .const value, every => by
      unfold ScopedTemplate.evalBody
      exact .pure every.here
  | .fresh first last value, every => by
      unfold ScopedTemplate.evalBody
      refine Keeps.bind (.silent (.takeStamps _)) fun base _ => ?_
      exact .pure (d.hereditary.renew _ every.here)
  | .self, every => by
      unfold ScopedTemplate.evalBody
      exact .pure every.here
  | .count, _ => by
      unfold ScopedTemplate.evalBody
      exact Keeps.bind (.silent .get) fun _ _ => .pure (d.hereditary.int _)
  | .list items, every => by
      unfold ScopedTemplate.evalBody
      refine (Serves.evalBodies serves given items every.parts).bind fun values valued => ?_
      exact .make (.makeList values) fun stamp => d.hereditary.list.2 valued
  | .tuple items, every => by
      unfold ScopedTemplate.evalBody
      refine (Serves.evalBodies serves given items every.parts).bind fun values valued => ?_
      exact .make (.makeTuple values) fun stamp => d.hereditary.tuple.2 valued
  | .map entries, every => by
      unfold ScopedTemplate.evalBody
      refine (Serves.evalFields serves given entries (every_fields every.parts)).bind fun fields each => ?_
      exact .make (.makeMap _) fun stamp => d.hereditary.map.2 each.ofPairs
  | .ref name, every => by
      unfold ScopedTemplate.evalBody
      have inside := every.parts name List.mem_cons_self
      refine (Serves.evalBody serves given name inside).bind fun value _ => ?_
      exact Keeps.bind (.steady (.inlineText value)) fun _ _ => .pure (d.hereditary.text _ _)
  | .concat items, every => by
      unfold ScopedTemplate.evalBody
      refine (Serves.evalTexts serves given items every.parts).bind fun _ _ => ?_
      exact .pure (d.hereditary.text _ _)
  | .add items, every => by
      unfold ScopedTemplate.evalBody
      exact (Serves.evalSum serves given items every.parts 0).bind fun _ _ => .pure (d.hereditary.int _)
  | .mul items, every => by
      unfold ScopedTemplate.evalBody
      refine (Serves.evalBodies serves given items every.parts).bind fun values _ => ?_
      split
      · exact .pure (d.hereditary.int _)
      · exact .throw rfl
  | .size of, every => by
      unfold ScopedTemplate.evalBody
      have inside := every.parts of List.mem_cons_self
      refine (Serves.evalBody serves given of inside).bind fun value _ => ?_
      split
      · exact .pure (d.hereditary.int _)
      · exact .throw rfl
  | .item of key, every => by
      unfold ScopedTemplate.evalBody
      obtain ⟨first, second⟩ := List.forall_mem_cons.1 every.parts
      have keyed := List.forall_mem_singleton.1 second
      refine (Serves.evalBody serves given of first).bind fun collection inside => ?_
      refine (Serves.evalBody serves given key keyed).bind fun key _ => ?_
      exact .ofResult (fun value found => d.hereditary.item inside found) (item_plainly _ _)
  | .choose condition yes no, every => by
      unfold ScopedTemplate.evalBody
      obtain ⟨first, others⟩ := List.forall_mem_cons.1 every.parts
      obtain ⟨second, third⟩ := List.forall_mem_cons.1 others
      refine (Serves.evalBody serves given condition first).bind fun answer _ => ?_
      split
      · exact Serves.evalBody serves given no (List.forall_mem_singleton.1 third)
      · exact Serves.evalBody serves given yes second
  | .same left right, every => by
      unfold ScopedTemplate.evalBody
      obtain ⟨first, second⟩ := List.forall_mem_cons.1 every.parts
      have other := List.forall_mem_singleton.1 second
      refine (Serves.evalBody serves given left first).bind fun value _ => ?_
      refine Keeps.bind (.steady (.written value)) fun _ _ => ?_
      refine (Serves.evalBody serves given right other).bind fun value' _ => ?_
      refine Keeps.bind (.steady (.written value')) fun _ _ => ?_
      exact .pure (d.hereditary.bool _)
  | .typeOf of, every => by
      unfold ScopedTemplate.evalBody
      have inside := every.parts of List.mem_cons_self
      refine (Serves.evalBody serves given of inside).bind fun _ _ => ?_
      exact .pure (d.hereditary.text _ _)
  | .raise kind message, _ => by
      unfold ScopedTemplate.evalBody
      exact .throw rfl
  | .attempt body, every => by
      unfold ScopedTemplate.evalBody
      have inside := every.parts body List.mem_cons_self
      refine (Serves.evalBody serves given body inside).recover ?_
      intro failure next handled
      split at handled
      · cases handled
      · cases handled
        refine ⟨_, rfl, .make (.makeList _) fun stamp => d.hereditary.list.2 ?_⟩
        refine List.forall_mem_cons.2 ⟨d.hereditary.text _ _, List.forall_mem_cons.2
          ⟨d.hereditary.text _ _, List.forall_mem_singleton.2 (d.hereditary.text _ _)⟩⟩
  | .sequence items, every => by
      unfold ScopedTemplate.evalBody
      refine (Serves.evalBodies serves given items every.parts).bind fun values valued => ?_
      refine .pure ?_
      rw [List.getLastD_eq_getLast?]
      cases last : values.getLast? with
      | none => exact d.hereditary.null
      | some value => exact valued value (List.mem_of_getLast? last)
  | .note message, _ => by
      unfold ScopedTemplate.evalBody
      refine Keeps.bind (.silent (.modify fun _ => ⟨rfl, rfl, rfl⟩)) fun _ _ => ?_
      exact .pure d.hereditary.null
  | .edit how of, every => by
      unfold ScopedTemplate.evalBody
      have inside := every.parts of List.mem_cons_self
      refine (Serves.evalBody serves given of inside).bind fun value _ => ?_
      refine Keeps.bind (.steady (.inlineText value)) fun _ _ => ?_
      exact .pure (d.hereditary.text _ _)
  | .ask config cache template inView env overrides, every => by
      unfold ScopedTemplate.evalBody
      obtain ⟨first, others⟩ := List.forall_mem_cons.1 every.parts
      obtain ⟨second, fields⟩ := List.forall_mem_cons.1 others
      have source : d.Keeps
          (if inView then Pure.pure call.env else ScopedTemplate.evalBody resolution call env)
          d.given := by
        split
        · exact .pure given
        · exact (Serves.evalBody serves given env second).mono fun _ => d.given_of_safe
      refine (Serves.evalBody serves given template first).bind fun value valued => ?_
      refine source.bind fun source sourced => ?_
      refine (Serves.evalFields serves given overrides (every_fields fields)).bind fun entries each => ?_
      exact serves.resolveFor every.here valued sourced each.ofPairs
  | .block body, every => by
      unfold ScopedTemplate.evalBody
      exact serves.blocks every.here
        (Serves.evalBody serves given body (every.parts body List.mem_cons_self))
  | .readView, every => by
      unfold ScopedTemplate.evalBody
      exact .pure every.here
  | .readItem name, every => by
      unfold ScopedTemplate.evalBody
      have inside := every.parts name List.mem_cons_self
      refine (Serves.evalBody serves given name inside).bind fun value _ => ?_
      exact serves.readItem given value
  | .readOr name fallback, every => by
      unfold ScopedTemplate.evalBody
      obtain ⟨first, second⟩ := List.forall_mem_cons.1 every.parts
      have other := List.forall_mem_singleton.1 second
      refine (Serves.evalBody serves given name first).bind fun value _ => ?_
      refine (Serves.evalBody serves given fallback other).bind fun spare spared => ?_
      exact serves.readItemOr given value spared
  | .readField name, every => by
      unfold ScopedTemplate.evalBody
      exact serves.readField given every.here
  | .readHas name, every => by
      unfold ScopedTemplate.evalBody
      have inside := every.parts name List.mem_cons_self
      refine (Serves.evalBody serves given name inside).bind fun value _ => ?_
      exact (readHas_keeps value).bind fun _ _ => .pure (d.hereditary.bool _)
  | .readNames, _ => by
      unfold ScopedTemplate.evalBody
      refine (readNames_keeps given).bind fun names named => ?_
      exact .make (.makeList names) fun stamp => d.hereditary.list.2 named
  | .readItems, _ => by
      unfold ScopedTemplate.evalBody
      refine (serves.readItems given).bind fun entries each => ?_
      exact .make (.makeMap entries) fun stamp => d.hereditary.map.2 each
  | .readSize, _ => by
      unfold ScopedTemplate.evalBody
      exact readSize_keeps
  | .readText, _ => by
      unfold ScopedTemplate.evalBody
      exact .pure (d.hereditary.text _ _)
  | .setField name, _ => by
      unfold ScopedTemplate.evalBody
      exact write_keeps name
  | .dropField name, _ => by
      unfold ScopedTemplate.evalBody
      exact write_keeps name

theorem Serves.evalBodies (serves : d.Serves resolution) (given : d.given call.env) :
    (bodies : List Body) → (∀ body ∈ bodies, body.Every (d.Permits call)) →
      d.Keeps (evalBodies resolution call bodies) fun values => ∀ value ∈ values, d.safe value
  | [], _ => by
      unfold ScopedTemplate.evalBodies
      exact .pure fun value member => absurd member List.not_mem_nil
  | body :: rest, every => by
      unfold ScopedTemplate.evalBodies
      obtain ⟨first, others⟩ := List.forall_mem_cons.1 every
      refine (Serves.evalBody serves given body first).bind fun value valued => ?_
      refine (Serves.evalBodies serves given rest others).bind fun values more => ?_
      exact .pure (List.forall_mem_cons.2 ⟨valued, more⟩)

theorem Serves.evalTexts (serves : d.Serves resolution) (given : d.given call.env) :
    (bodies : List Body) → (∀ body ∈ bodies, body.Every (d.Permits call)) →
      d.Keeps (evalTexts resolution call bodies) fun _ => True
  | [], _ => by
      unfold ScopedTemplate.evalTexts
      exact .pure trivial
  | body :: rest, every => by
      unfold ScopedTemplate.evalTexts
      obtain ⟨first, others⟩ := List.forall_mem_cons.1 every
      refine (Serves.evalBody serves given body first).bind fun value _ => ?_
      refine Keeps.bind (.steady (.inlineText value)) fun _ _ => ?_
      exact (Serves.evalTexts serves given rest others).bind fun _ _ => .pure trivial

theorem Serves.evalFields (serves : d.Serves resolution) (given : d.given call.env) :
    (fields : List (Body × Body)) →
      (∀ field ∈ fields, field.1.Every (d.Permits call) ∧ field.2.Every (d.Permits call)) →
        d.Keeps (evalFields resolution call fields) (Entries.Each d.safe)
  | [], _ => by
      unfold ScopedTemplate.evalFields
      exact .pure Entries.each_nil
  | (key, body) :: rest, every => by
      unfold ScopedTemplate.evalFields
      obtain ⟨⟨first, second⟩, others⟩ := List.forall_mem_cons.1 every
      refine (Serves.evalBody serves given key first).bind fun key keyed => ?_
      refine (Serves.evalBody serves given body second).bind fun value valued => ?_
      refine Keeps.bind (.ofResult (fun _ _ => trivial) key.checkKey_plainly) fun _ (_ : True) => ?_
      refine (Serves.evalFields serves given rest others).bind fun entries each => ?_
      exact .pure (Entries.each_cons.2 ⟨⟨keyed, valued⟩, each⟩)

theorem Serves.evalSum (serves : d.Serves resolution) (given : d.given call.env) :
    (bodies : List Body) → (∀ body ∈ bodies, body.Every (d.Permits call)) →
      (total : Int) → d.Keeps (evalSum resolution call bodies total) fun _ => True
  | [], _, total => by
      unfold ScopedTemplate.evalSum
      exact .pure trivial
  | body :: rest, every, total => by
      unfold ScopedTemplate.evalSum
      obtain ⟨first, others⟩ := List.forall_mem_cons.1 every
      refine (Serves.evalBody serves given body first).bind fun value _ => ?_
      split
      · exact Serves.evalSum serves given rest others _
      · exact .throw rfl

end

end Bodies

/-! ## Calls -/

theorem call_keeps {callee : Term} {args : List Term} (safe : ∀ arg ∈ args, d.safe arg) :
    d.Keeps (Standard.call callee args) d.safe := by
  have made : ∀ kind, d.Keeps (do Standard.makeMap kind (← ofResult (Standard.entries args))) d.safe := by
    intro kind
    refine Keeps.bind (.ofResult (fun entries made => d.hereditary.entries safe made)
      (Standard.entries_plainly args)) fun entries each => ?_
    refine Keeps.bind (.silent (.collectionStamp _)) fun stamp _ => ?_
    exact .pure (d.hereditary.map.2 each)
  unfold Standard.call
  split
  · split
    · exact .ofResult (fun _ found => d.hereditary.sizeOf found) (Standard.sizeOf_plainly _)
    · exact .throw rfl
  · exact .ofResult (fun _ found => d.hereditary.leastOf safe found) (Standard.least_plainly args)
  · exact .ofResult (fun _ found => d.hereditary.textOf found) (Standard.text_plainly args)
  · exact made .plain
  · exact made .frame
  · exact .throw rfl

theorem environmentOf_eq_ok {callee : String} {bound : Nat} {args : List Term} {env : Term}
    (found : environmentOf callee bound args = .ok env) : args = [env] := by
  unfold environmentOf at found
  split at found
  · cases found
  · cases found
    rfl
  · cases found

/-- A call keeps the discipline. -/
theorem Serves.invoke (serves : d.Serves resolution) {callee self : Term} {args : List Term}
    (invocable : d.Invocable callee self args) :
    d.Keeps (invoke resolution callee self args) d.safe := by
  induction invocable with
  | @reader kind stamp label name body self args reads permitted =>
      have environment : ∀ called bound, d.Keeps (ofResult (environmentOf called bound args))
          fun env => args = [env] := fun called bound =>
        .ofResult (fun env found => environmentOf_eq_ok found) (environmentOf_plainly _ _ _)
      rcases reads with rfl | rfl | rfl <;> unfold ScopedTemplate.invoke
      · refine (environment _ _).bind fun env alone => ?_
        exact serves.evalBody (permitted env alone).1 _ (permitted env alone).2
      · refine (environment _ _).bind fun env alone => ?_
        refine Keeps.bind (.silent (.recordCall stamp label)) fun _ _ => ?_
        exact serves.evalBody (permitted env alone).1 _ (permitted env alone).2
      · refine (environment _ _).bind fun env alone => ?_
        refine Keeps.bind (.silent (.recordCall stamp label)) fun _ _ => ?_
        exact serves.evalBody (permitted env alone).1 _ (permitted env alone).2
  | @applied kind stamp label name body self args applies permitted =>
      have null : d.given .null := d.given_of_safe d.hereditary.null
      rcases applies with rfl | rfl <;> unfold ScopedTemplate.invoke
      · refine Keeps.bind (.silent (.recordCall stamp label)) fun _ _ => ?_
        exact serves.evalBody null _ permitted
      · refine Keeps.bind (.silent (.recordCall stamp label)) fun _ _ => ?_
        exact serves.evalBody null _ permitted
  | function _ ih =>
      unfold ScopedTemplate.invoke
      exact ih
  | @standard callee self args noCallable noFunction safe =>
      cases callee with
      | callable kind stamp label name body => exact absurd rfl (noCallable kind stamp label name body)
      | function stamp name deps doc inner => exact absurd rfl (noFunction stamp name deps doc inner)
      | _ =>
          unfold ScopedTemplate.invoke
          exact call_keeps safe

/-! ## Functions that may do anything -/

/-- Functions may do anything with what is safe, and what is in them is safe if they are. -/
structure Lax (d : Discipline) : Prop where
  given : ∀ {t}, d.given t → d.safe t
  grants : ∀ {kind stamp label name body}, d.safe (.callable kind stamp label name body) →
    body.Every d.Grants
  constants : ∀ {kind stamp label name body}, d.safe (.callable kind stamp label name body) →
    ∀ t ∈ body.constants, d.safe t
  callee : ∀ {stamp name deps doc callee}, d.safe (.function stamp name deps doc callee) →
    d.safe callee
  members : ∀ {name shown stamp member}, View.member? name shown stamp = some member → d.safe member

/-- A body may do anything with what is safe. -/
theorem Lax.permits (lax : d.Lax) {call : Call} {body : Body} (self : d.safe call.self)
    (args : ∀ arg ∈ call.args, d.safe arg) (env : d.safe call.env) (grants : body.Every d.Grants)
    (constants : ∀ t ∈ body.constants, d.safe t) : body.Every (d.Permits call) := by
  refine (grants.withConstants constants).mono fun body allowed => ?_
  obtain ⟨granted, inside⟩ := allowed
  cases body with
  | arg => exact args
  | const value => exact inside value List.mem_cons_self
  | fresh first last value => exact inside value List.mem_cons_self
  | self => exact self
  | ask => exact granted
  | block => exact granted
  | readView => exact env
  | readField name => exact fun shown stamp member found => lax.members found
  | _ => exact trivial

/-- What is safe may read what it is given. -/
theorem Lax.reads (lax : d.Lax) {kind : CallableKind} {stamp : Stamp} {label name : String}
    {body : Body} (called : d.safe (.callable kind stamp label name body)) {self env : Term}
    (selfSafe : d.safe self) (given : d.given env) : body.Every (d.Permits ⟨self, stamp, [], env⟩) :=
  lax.permits selfSafe (List.forall_mem_nil _) (lax.given given) (lax.grants called)
    (lax.constants called)

/-- What is safe can be called with what is safe. -/
theorem Lax.invocable (lax : d.Lax) {callee self : Term} (called : d.safe callee)
    (selfSafe : d.safe self) {args : List Term} (safe : ∀ arg ∈ args, d.safe arg) :
    d.Invocable callee self args := by
  have reads : ∀ {kind stamp label name body}, d.safe (.callable kind stamp label name body) →
      kind = .accessor ∨ kind = .method ∨ kind = .function →
        ∀ self, d.Invocable (.callable kind stamp label name body) self args := by
    intro kind stamp label name body called reads self
    refine .reader reads fun env alone => ?_
    subst alone
    have given := d.given_of_safe (List.forall_mem_singleton.1 safe)
    exact ⟨given, lax.reads called called given⟩
  induction callee, self using invoke.induct with
  | case1 => exact reads called (.inl rfl) _
  | case2 => exact reads called (.inr (.inl rfl)) _
  | case3 => exact reads called (.inr (.inr rfl)) _
  | case4 self kind stamp label name body noAccessor noMethod noFunction =>
      refine .applied ?_ (lax.permits selfSafe safe d.hereditary.null (lax.grants called)
        (lax.constants called))
      cases kind with
      | accessor => exact absurd rfl noAccessor
      | method => exact absurd rfl noMethod
      | function => exact absurd rfl noFunction
      | object => exact .inl rfl
      | procedure => exact .inr rfl
  | case5 self stamp name deps doc inner ih => exact .function (ih (lax.callee called) called)
  | case6 self callee noAccessor noMethod noFunction noCallable noInner =>
      exact .standard noCallable noInner safe

end Discipline

end ScopedTemplate
