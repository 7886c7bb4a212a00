import Mathlib.Logic.Relation
import Scaffold.Registry.Placeholders
import Scaffold.Registry.Construction

/-!
# Changes of a registry

Whatever is asked of a registry, and however deeply initializers nest, the registry goes through changes of four
kinds: a name is registered, something is noted, an initializer is started, and the innermost running initializer
is over.  Constructions that are running when a request is made keep running until it is answered, and nothing
happens to their entries in the meantime.

## Main Definitions

* `Entry.Fresh` — an entry as it is registered
* `Registry.Change` — a change above constructions that keep running
* `Registry.Changes` — what a request comes down to
* `Registry.Passes` — the registries that a run of an initializer passes through
* `Registry.Operation` — what is done with a registry from outside

## Main Statements

* `Registry.getAny_cases` — a request changes nothing, or runs the initializer of its name
* `Registry.passes_of_run` — a run passes through the registry that it ends in
* `Registry.changes_of_passes`, `Registry.changes_getAny` — initializers and requests come down to changes
* `Registry.changes_registerMissing` — so do placeholders, which are never refused
* `Registry.changes_of_operations` — and so does all that is done from outside
-/

namespace Scaffold

open Relation

variable {ν : Type}

/-- The name whose initializer was started or is over. -/
def Event.constructed? : Event ν → Option String
  | started name => some name
  | built name _ => some name
  | failed name => some name
  | given _ _ => none
  | refused _ _ => none
  | note _ => none

@[simp]
theorem Event.constructed?_ofAnswer (name : String)
    (answer : Except RegistryError (Option (Instance ν))) :
    (Event.ofAnswer name answer).constructed? = none := by
  cases answer <;> rfl

/-- What has happened when the initializer of a name is over. -/
def Event.ended (name : String) : Except RegistryError ν → Event ν
  | .ok value => built name value
  | .error _ => failed name

@[simp]
theorem Event.constructed?_ended (name : String) (result : Except RegistryError ν) :
    (Event.ended name result).constructed? = some name := by
  cases result <;> rfl

/-- The value that an initializer has built. -/
def Slot.built? : Slot ν → Option ν
  | ready _ => none
  | deferred _ _ _ value? => value?
  | unavailable => none

/-- The name of the type of what is kept. -/
def Slot.typeName : Slot ν → TypeName
  | ready held => held.type.name
  | deferred type _ _ _ => type.name
  | unavailable => "unavailable"

/-- An entry as it is registered. -/
structure Entry.Fresh (entry : Entry ν) : Prop where
  /-- It has the name of the type of what is kept. -/
  named : entry.typeName = entry.slot.typeName
  /-- No initializer has built a value yet. -/
  unbuilt : entry.slot.built? = none

theorem Entry.fresh_ofInstance (held : Instance ν) : (ofInstance held).Fresh :=
  ⟨rfl, rfl⟩

theorem Entry.fresh_ofInitializer (type : InstanceType) (initializer : Nat → Program ν) :
    (ofInitializer type initializer).Fresh :=
  ⟨rfl, rfl⟩

theorem Entry.fresh_placeholder : (placeholder : Entry ν).Fresh :=
  ⟨rfl, rfl⟩

namespace Registry

variable {registry after : Registry ν} {name : String}

/-! ### The ends of a construction -/

@[simp]
theorem running_update (registry : Registry ν) (name : String) (change : Slot ν → Slot ν) :
    (registry.update name change).running = registry.running := by
  unfold update
  split <;> rfl

@[simp]
theorem history_update (registry : Registry ν) (name : String) (change : Slot ν → Slot ν) :
    (registry.update name change).history = registry.history := by
  unfold update
  split <;> rfl

@[simp]
theorem running_start (registry : Registry ν) (name : String) :
    (registry.start name).running = name :: registry.running :=
  congrArg (name :: ·) (running_update registry name Slot.started)

@[simp]
theorem history_start (registry : Registry ν) (name : String) :
    (registry.start name).history = .started name :: registry.history :=
  congrArg (Event.started name :: ·) (history_update registry name Slot.started)

theorem find?_start (registry : Registry ν) (name other : String) :
    (registry.start name).find? other =
      if other = name then (registry.find? name).map Slot.started else registry.find? other :=
  find?_update registry name Slot.started other

theorem typeName?_start (registry : Registry ν) (name other : String) :
    (registry.start name).typeName? other = registry.typeName? other :=
  typeName?_update registry name Slot.started other

@[simp]
theorem running_finish (registry : Registry ν) (name : String) (result : Except RegistryError ν) :
    (registry.finish name result).2.running = registry.running.erase name := by
  cases result with
  | error error => rfl
  | ok value => exact congrArg (List.erase · name) (running_update ..)

/-- When the innermost construction is over, those outside it are running. -/
theorem running_finish_innermost {outer : List String} (innermost : registry.running = name :: outer)
    (result : Except RegistryError ν) : (registry.finish name result).2.running = outer := by
  rw [running_finish, innermost, List.erase_cons_head]

@[simp]
theorem history_finish (registry : Registry ν) (name : String) (result : Except RegistryError ν) :
    (registry.finish name result).2.history = .ended name result :: registry.history := by
  cases result with
  | error error => rfl
  | ok value => exact congrArg (Event.built name value :: ·) (history_update ..)

/-- The type that a name is registered with is not changed by the end of a construction. -/
theorem typeName?_finish (registry : Registry ν) (name : String) (result : Except RegistryError ν) (other : String) :
    (registry.finish name result).2.typeName? other = registry.typeName? other := by
  cases result with
  | error error => rfl
  | ok value => exact typeName?_update registry name _ other

section

variable {type : InstanceType} {initializer : Nat → Program ν} {runs : Nat}
  (pending : registry.find? name = some (.deferred type initializer runs none))

include pending

/-- The first value that an initializer returns is kept, and its failure is put down to its name. -/
theorem result_finish (result : Except RegistryError ν) :
    (registry.finish name result).1 = result.mapError (RegistryError.within name) := by
  cases result with
  | error error => rfl
  | ok value =>
    rw [finish, held?, pending]
    rfl

/-- The end of a construction reaches the entry of its name alone, and fills it if there is a value. -/
theorem find?_finish (result : Except RegistryError ν) (other : String) :
    (registry.finish name result).2.find? other =
      if other = name then some (.deferred type initializer runs result.toOption)
      else registry.find? other := by
  cases result with
  | error error =>
    show registry.find? other = _
    split
    · next heq => rw [heq, pending]; rfl
    · rfl
  | ok value =>
    rw [finish, held?, pending]
    show (registry.update name (Slot.filled value)).find? other = _
    rw [find?_update, pending]
    rfl

end

/-! ### Changes -/

/-- A change above constructions that keep running. -/
inductive Change (base : List String) : Registry ν → Registry ν → Prop where
  /-- A name is registered, without a value built yet. -/
  | register {registry after : Registry ν} {name : String} {entry : Entry ν}
      (fresh : entry.Fresh) (registered : registry.register name entry = .ok after) :
      Change base registry after
  /-- Something is noted that is neither the start nor the end of a construction. -/
  | record {registry : Registry ν} {event : Event ν} (aside : event.constructed? = none) :
      Change base registry (registry.record event)
  /-- An initializer is started that has built no value and is not running. -/
  | start {registry : Registry ν} {name : String} {type : InstanceType}
      {initializer : Nat → Program ν} {runs : Nat}
      (pending : registry.find? name = some (.deferred type initializer runs none))
      (idle : name ∉ registry.running) : Change base registry (registry.start name)
  /-- The innermost running initializer is over. -/
  | finish {registry : Registry ν} {name : String} {outer : List String}
      (innermost : registry.running = name :: outer) (above : base <:+ outer)
      (result : Except RegistryError ν) : Change base registry (registry.finish name result).2

theorem Change.mono {base inner : List String} (h : base <:+ inner)
    (change : Change inner registry after) : Change base registry after := by
  cases change with
  | register fresh registered => exact .register fresh registered
  | record aside => exact .record aside
  | start pending idle => exact .start pending idle
  | finish innermost above result => exact .finish innermost (h.trans above) result

/-- What a request comes down to: changes above the running constructions, which are running afterwards
as before. -/
structure Changes (registry after : Registry ν) : Prop where
  /-- The changes. -/
  steps : ReflTransGen (Change registry.running) registry after
  /-- The same constructions are running. -/
  running : after.running = registry.running

theorem Changes.refl (registry : Registry ν) : Changes registry registry :=
  ⟨.refl, rfl⟩

theorem Changes.trans {middle : Registry ν} (h : Changes registry middle)
    (h' : Changes middle after) : Changes registry after where
  steps := h.steps.trans (h.running ▸ h'.steps)
  running := h'.running.trans h.running

theorem Changes.record (registry : Registry ν) {event : Event ν} (aside : event.constructed? = none) :
    Changes registry (registry.record event) where
  steps := .single (.record aside)
  running := rfl

theorem running_of_register {entry : Entry ν} (h : registry.register name entry = .ok after) :
    after.running = registry.running ∧ after.history = registry.history := by
  unfold register at h
  split at h
  · cases h
  · cases h
    exact ⟨rfl, rfl⟩

theorem changes_register {entry : Entry ν} (fresh : entry.Fresh)
    (h : registry.register name entry = .ok after) : Changes registry after where
  steps := .single (.register fresh h)
  running := (running_of_register h).1

theorem changes_tryRegister (registry : Registry ν) (name : String) {entry : Entry ν}
    (fresh : entry.Fresh) : Changes registry (registry.tryRegister name entry).2 := by
  unfold tryRegister
  split
  · next after h => exact changes_register fresh h
  · exact .refl registry

/-- Placeholders are registered one by one, and none is refused. -/
theorem changes_registerPlaceholders (names : List String) (registry : Registry ν) (added : Nat) :
    ∃ after count, registerPlaceholders names registry added = .ok (after, count) ∧
      Changes registry after := by
  induction names generalizing registry added with
  | nil => exact ⟨registry, added, rfl, .refl registry⟩
  | cons name rest ih =>
    cases hregistered : registry.contains name with
    | true =>
      rw [registerPlaceholders_of_registered hregistered]
      exact ih registry added
    | false =>
      obtain ⟨placed, hplaced, hpass⟩ := registerPlaceholders_of_free hregistered rest added
      obtain ⟨after, count, hafter, hchanges⟩ := ih placed (added + 1)
      exact ⟨after, count, hpass.trans hafter, (changes_register Entry.fresh_placeholder hplaced).trans hchanges⟩

/-- Placeholders for what a catalog misses are never refused. -/
theorem changes_registerMissing (registry : Registry ν) (catalog : Catalog) :
    ∃ after count, registry.registerMissing catalog = .ok (after, count) ∧ Changes registry after :=
  changes_registerPlaceholders catalog.missing.toList registry 0

theorem changes_of_registerMissing {catalog : Catalog} {added : Nat}
    (h : registry.registerMissing catalog = .ok (after, added)) : Changes registry after := by
  obtain ⟨placed, count, hplaced, hchanges⟩ := changes_registerMissing registry catalog
  cases h.symm.trans hplaced
  exact hchanges

/-! ### Requests -/

/-- The answer to a request that has neither to be refused nor to run an initializer. -/
def answer? (registry : Registry ν) (name : String) : Option (Option (Instance ν)) :=
  match registry.find? name with
  | some (.ready held) => some (some held)
  | some .unavailable => some none
  | some (.deferred type _ _ (some value)) => some (some ⟨type, value⟩)
  | some (.deferred _ _ _ none) => none
  | none => none

/-- A request that has an answer gets it at once. -/
theorem getAny_of_answer? {held? : Option (Instance ν)} (h : registry.answer? name = some held?)
    (depth : Nat) : getAny depth name registry = some (.ok held?, registry) := by
  unfold answer? at h
  split at h
  · next hready => cases h; rw [getAny, hready]
  · next hunavailable => cases h; rw [getAny, hunavailable]
  · next hbuilt => cases h; rw [getAny, hbuilt]
  · cases h
  · cases h

/-- A request for a name with an initializer that has built nothing runs it. -/
theorem getAny_of_pending {type : InstanceType} {initializer : Nat → Program ν} {runs : Nat}
    (pending : registry.find? name = some (.deferred type initializer runs none))
    (idle : name ∉ registry.running) (depth : Nat) :
    getAny (depth + 1) name registry =
      (run (getAny depth) (initializer (runs + 1)) (registry.start name)).map fun outcome =>
        let ended := outcome.2.finish name outcome.1
        (ended.1.map fun value => some ⟨type, value⟩, ended.2) := by
  rw [getAny, pending]
  dsimp only
  rw [if_neg idle]
  dsimp only [construct]
  cases run (getAny depth) (initializer (runs + 1)) (registry.start name) <;> rfl

/-- It has no outcome where constructions are not followed at all. -/
theorem getAny_zero_of_pending {type : InstanceType} {initializer : Nat → Program ν} {runs : Nat}
    (pending : registry.find? name = some (.deferred type initializer runs none))
    (idle : name ∉ registry.running) : getAny 0 name registry = none := by
  rw [getAny, pending]
  exact if_neg idle

/-- A request leaves the registry as it is, or runs the initializer of its name. -/
theorem getAny_cases {depth : Nat} {answer : Except RegistryError (Option (Instance ν))}
    (h : getAny depth name registry = some (answer, after)) :
    after = registry ∨ ∃ depth' type initializer runs result inside, depth = depth' + 1 ∧
      registry.find? name = some (.deferred type initializer runs none) ∧
      name ∉ registry.running ∧
      run (getAny depth') (initializer (runs + 1)) (registry.start name) = some (result, inside) ∧
      after = (inside.finish name result).2 := by
  have hcases := h
  unfold getAny at hcases
  split at hcases
  · cases hcases
    exact .inl rfl
  · cases hcases
    exact .inl rfl
  · cases hcases
    exact .inl rfl
  · cases hcases
    exact .inl rfl
  · next type initializer runs hpending =>
    split at hcases
    · cases hcases
      exact .inl rfl
    · next hidle =>
      cases depth with
      | zero => cases hcases
      | succ depth' =>
        rw [getAny_of_pending hpending hidle] at h
        obtain ⟨⟨result, inside⟩, hrun, hended⟩ := Option.map_eq_some_iff.1 h
        cases hended
        exact .inr ⟨depth', type, initializer, runs, result, inside, rfl, hpending, hidle, hrun, rfl⟩

/-! ### Runs of initializers -/

section

variable {request : String → Registry ν → Outcome ν (Option (Instance ν))} {program : Program ν}

/-- The registries that a run of an initializer passes through, whether it comes to an end or not. -/
inductive Passes (request : String → Registry ν → Outcome ν (Option (Instance ν))) :
    Program ν → Registry ν → Registry ν → Prop where
  /-- It is where it is. -/
  | here {program : Program ν} {registry : Registry ν} : Passes request program registry registry
  /-- It goes on when a request has been answered or refused. -/
  | request {registry answered later : Registry ν} {name : String}
      {resume : Except RegistryError (Option (Instance ν)) → Program ν}
      {answer : Except RegistryError (Option (Instance ν))}
      (answers : request name registry = some (answer, answered))
      (next : Passes request (resume answer) (answered.record (.ofAnswer name answer)) later) :
      Passes request (.request name resume) registry later
  /-- It has looked at what is registered. -/
  | observe {registry later : Registry ν} {resume : NameMap Outline → Program ν}
      (next : Passes request (resume registry.outlines) registry later) :
      Passes request (.observe resume) registry later
  /-- It has registered an instance, or has been refused. -/
  | registerInstance {registry later : Registry ν} {name : String} {held : Instance ν}
      {resume : Except RegistryError Unit → Program ν}
      (next : Passes request (resume (registry.tryRegister name (.ofInstance held)).1)
        (registry.tryRegister name (.ofInstance held)).2 later) :
      Passes request (.registerInstance name held resume) registry later
  /-- It has registered a name that is unavailable, or has been refused. -/
  | registerUnavailable {registry later : Registry ν} {name : String}
      {resume : Except RegistryError Unit → Program ν}
      (next : Passes request (resume (registry.tryRegister name .placeholder).1)
        (registry.tryRegister name .placeholder).2 later) :
      Passes request (.registerUnavailable name resume) registry later
  /-- It has registered an initializer, or has been refused. -/
  | registerDeferred {registry later : Registry ν} {name : String} {type : InstanceType}
      {initializer : Nat → Program ν} {resume : Except RegistryError Unit → Program ν}
      (next : Passes request (resume (registry.tryRegister name (.ofInitializer type initializer)).1)
        (registry.tryRegister name (.ofInitializer type initializer)).2 later) :
      Passes request (.registerDeferred name type initializer resume) registry later
  /-- It has left a note. -/
  | note {registry later : Registry ν} {text : String} {program : Program ν}
      (next : Passes request program (registry.record (.note text)) later) :
      Passes request (.note text program) registry later

/-- A run that comes to an end passes through the registry that it ends in. -/
theorem passes_of_run {result : Except RegistryError ν} (h : run request program registry = some (result, after)) :
    Passes request program registry after := by
  induction program generalizing registry with
  | done value =>
    cases h
    exact .here
  | fail error =>
    cases h
    exact .here
  | request name resume ih =>
    rw [run] at h
    cases hrequest : request name registry with
    | none =>
      rw [hrequest] at h
      cases h
    | some outcome =>
      rw [hrequest] at h
      exact .request hrequest (ih outcome.1 h)
  | observe resume ih => exact .observe (ih registry.outlines h)
  | registerInstance name held resume ih => exact .registerInstance (ih _ h)
  | registerUnavailable name resume ih => exact .registerUnavailable (ih _ h)
  | registerDeferred name type initializer resume _ ih => exact .registerDeferred (ih _ h)
  | note text next ih => exact .note (ih h)

/-- An initializer comes down to changes as far as it has come, if its requests do. -/
theorem changes_of_passes
    (requests : ∀ name registry answer after,
      request name registry = some (answer, after) → Changes registry after)
    (passes : Passes request program registry after) : Changes registry after := by
  induction passes with
  | here => exact .refl _
  | request answers _ ih =>
    have hasked := requests _ _ _ _ answers
    exact hasked.trans ((Changes.record _ (Event.constructed?_ofAnswer ..)).trans ih)
  | observe _ ih => exact ih
  | registerInstance _ ih => exact (changes_tryRegister _ _ (Entry.fresh_ofInstance _)).trans ih
  | registerUnavailable _ ih => exact (changes_tryRegister _ _ Entry.fresh_placeholder).trans ih
  | registerDeferred _ ih => exact (changes_tryRegister _ _ (Entry.fresh_ofInitializer _ _)).trans ih
  | note _ ih => exact (Changes.record _ rfl).trans ih

/-- A run comes down to changes, if its requests do. -/
theorem changes_run
    (requests : ∀ name registry answer after,
      request name registry = some (answer, after) → Changes registry after)
    {result : Except RegistryError ν} (h : run request program registry = some (result, after)) :
    Changes registry after :=
  changes_of_passes requests (passes_of_run h)

end

/-- Requests come down to changes, however deeply constructions nest. -/
theorem changes_getAny {depth : Nat} {answer : Except RegistryError (Option (Instance ν))}
    (h : getAny depth name registry = some (answer, after)) : Changes registry after := by
  induction depth generalizing name registry answer after with
  | zero =>
    obtain rfl | ⟨depth', _, _, _, _, _, hdepth, -⟩ := getAny_cases h
    · exact .refl _
    · exact absurd hdepth (Nat.succ_ne_zero depth').symm
  | succ depth ih =>
    obtain rfl | ⟨depth', type, initializer, runs, result, inside, hdepth, hpending, hidle, hran, rfl⟩ :=
      getAny_cases h
    · exact .refl _
    · obtain rfl := Nat.succ.inj hdepth
      have hrun := changes_run (fun _ _ _ _ => ih) hran
      have hrunning : inside.running = name :: registry.running := by
        rw [hrun.running, running_start]
      have habove : registry.running <:+ (registry.start name).running := by
        rw [running_start]
        exact List.suffix_cons name registry.running
      constructor
      · refine .head (.start hpending hidle) (.tail ?_ (.finish hrunning List.suffix_rfl result))
        exact ReflTransGen.mono (fun _ _ => Change.mono habove) _ _ hrun.steps
      · exact running_finish_innermost hrunning result

/-- A request for an instance of a type is a request for the instance, whose answer is then looked at. -/
theorem exists_getAny_of_get {depth : Nat} {type : InstanceType} {answer : Except RegistryError (Option ν)}
    (h : get depth name type registry = some (answer, after)) :
    ∃ untyped, getAny depth name registry = some (untyped, after) ∧
      answer = untyped.bind (Program.typedAnswer name type (after.typeName? name)) := by
  rw [get] at h
  cases hany : getAny depth name registry with
  | none =>
    rw [hany] at h
    cases h
  | some outcome =>
    rw [hany] at h
    cases h
    exact ⟨outcome.1, rfl, rfl⟩

theorem changes_get {depth : Nat} {type : InstanceType} {answer : Except RegistryError (Option ν)}
    (h : get depth name type registry = some (answer, after)) : Changes registry after := by
  obtain ⟨untyped, hany, -⟩ := exists_getAny_of_get h
  exact changes_getAny hany

theorem changes_initializeAll {depth : Nat} {names : List String} {result : Except RegistryError Unit}
    (h : initializeAll depth names registry = some (result, after)) : Changes registry after := by
  induction names generalizing registry with
  | nil =>
    cases h
    exact .refl _
  | cons name rest ih =>
    rw [initializeAll] at h
    cases hany : getAny depth name registry with
    | none =>
      rw [hany] at h
      cases h
    | some outcome =>
      obtain ⟨answer, answered⟩ := outcome
      rw [hany] at h
      have hasked := changes_getAny hany
      cases answer with
      | error error =>
        cases h
        exact hasked
      | ok held => exact hasked.trans (ih h)

/-! ### Operations -/

/-- What is done with a registry from outside, when it is over.  A registration that is refused does nothing. -/
inductive Operation : Registry ν → Registry ν → Prop where
  /-- An instance is registered. -/
  | registerInstance {registry after : Registry ν} {name : String} {held : Instance ν}
      (h : registry.registerInstance name held = .ok after) : Operation registry after
  /-- An initializer is registered. -/
  | registerDeferred {registry after : Registry ν} {name : String} {type : InstanceType}
      {initializer : Nat → Program ν} (h : registry.registerDeferred name type initializer = .ok after) :
      Operation registry after
  /-- A name is registered as unavailable. -/
  | registerUnavailable {registry after : Registry ν} {name : String}
      (h : registry.registerUnavailable name = .ok after) : Operation registry after
  /-- Placeholders are registered. -/
  | registerMissing {registry after : Registry ν} {catalog : Catalog} {added : Nat}
      (h : registry.registerMissing catalog = .ok (after, added)) : Operation registry after
  /-- An instance is asked for, and the request is answered or refused. -/
  | getAny {registry after : Registry ν} {depth : Nat} {name : String}
      {answer : Except RegistryError (Option (Instance ν))}
      (h : getAny depth name registry = some (answer, after)) : Operation registry after
  /-- An instance of a type is asked for, and the request is answered or refused. -/
  | get {registry after : Registry ν} {depth : Nat} {name : String} {type : InstanceType}
      {answer : Except RegistryError (Option ν)}
      (h : get depth name type registry = some (answer, after)) : Operation registry after
  /-- Instances are asked for in turn. -/
  | initializeAll {registry after : Registry ν} {depth : Nat} {names : List String}
      {result : Except RegistryError Unit}
      (h : initializeAll depth names registry = some (result, after)) : Operation registry after

/-- What is done with a registry from outside comes down to changes, above the same constructions. -/
theorem Operation.changes (operation : Operation registry after) : Changes registry after := by
  cases operation with
  | registerInstance h => exact changes_register (Entry.fresh_ofInstance _) h
  | registerDeferred h => exact changes_register (Entry.fresh_ofInitializer _ _) h
  | registerUnavailable h => exact changes_register Entry.fresh_placeholder h
  | registerMissing h => exact changes_of_registerMissing h
  | getAny h => exact changes_getAny h
  | get h => exact changes_get h
  | initializeAll h => exact changes_initializeAll h

theorem changes_of_operations (operations : ReflTransGen Operation registry after) :
    Changes registry after := by
  induction operations with
  | refl => exact .refl registry
  | tail _ operation ih => exact ih.trans operation.changes

end Registry

end Scaffold
