import Mathlib.Data.List.Chain
import Scaffold.Proofs.Registry.Termination

/-!
# What an error is put down to

A request that fails is told what went wrong with the name that it asked for, whatever went wrong below.  When the
initializer of the name fails, the error is that of its construction, and the cause is what the initializer says went
wrong: its own cause, if it has already put it down to the name itself, and else the whole wording of an error that is
about something else.

So an error that initializers pass on to each other collects a prefix at each name on its way out, except at the one
where it arose.  The induction is along the initializers, outermost first.  It makes use of two facts about a request:
that it comes to the same end when it is followed more deeply, and that its answer depends on the entries and on the
running constructions alone, so that an initializer may leave notes in the history before it asks for the next name.

## Main Definitions

* `Program.PassesOn` — an initializer that passes on the error it is refused with
* `Registry.Cascade` — initializers of which each asks for the next
* `RegistryError.leads` — what is put in front of a cause on its way out

## Main Statements

* `Registry.getAny_eq_error` — which errors a request fails with
* `Registry.exists_getAny_congr` — the answer to a request does not depend on the history
* `Registry.Cascade.exists_getAny` — what the failure of the innermost initializer becomes
* `Registry.errors_traced` — what an error of a request is about, and where it has come from
-/

namespace Scaffold

variable {ν : Type}

/-- What is put in front of a cause when the construction of a name fails. -/
def RegistryError.lead (name : String) : String :=
  "Failed to construct subsystem '" ++ name ++ "': "

theorem RegistryError.message_construction (name cause : String) :
    (construction name cause).message = lead name ++ cause :=
  rfl

/-- What is put in front of a cause when the constructions of names fail one inside another, outermost first. -/
def RegistryError.leads (names : List String) : String :=
  String.join (names.map lead)

theorem RegistryError.leads_nil : leads [] = "" :=
  rfl

theorem RegistryError.leads_cons (name : String) (names : List String) :
    leads (name :: names) = lead name ++ leads names := by
  rw [leads, leads, List.map_cons, String.join_cons]

@[simp]
theorem RegistryError.causeWithin_construction (name cause : String) :
    (construction name cause).causeWithin name = cause :=
  if_pos rfl

/-- An error that is not of the construction of the name is put down with its whole wording. -/
theorem RegistryError.causeWithin_eq_message {name : String} {error : RegistryError}
    (h : ∀ own, error ≠ construction name own) : error.causeWithin name = error.message := by
  cases error with
  | construction owner cause =>
    refine if_neg ?_
    rintro rfl
    exact h cause rfl
  | notRegistered _ => rfl
  | alreadyRegistered _ => rfl
  | typeMismatch _ _ _ => rfl
  | reentrant _ => rfl

/-- The failed construction of another name is put down as a whole. -/
theorem RegistryError.within_construction_of_ne {name owner : String} (h : owner ≠ name) (cause : String) :
    (construction owner cause).within name = construction name (lead owner ++ cause) := by
  rw [within, causeWithin_eq_message, message_construction]
  rintro own ⟨⟩
  exact h rfl

namespace Program

/-- An answer is refused as one of a type when it is an instance of another type, and then only. -/
theorem typedAnswer_eq_error_iff {name : String} {type : InstanceType} {typeName? : Option TypeName}
    {held? : Option (Instance ν)} {error : RegistryError} :
    typedAnswer name type typeName? held? = .error error ↔
      ∃ held, held? = some held ∧ held.type ≠ type ∧
        error = .typeMismatch name type.name (typeName?.getD "unknown") := by
  cases held? with
  | none => simp [typedAnswer]
  | some held =>
    by_cases htype : held.type = type
    · subst htype
      simp [typedAnswer_self]
    · simp [typedAnswer_of_ne htype, htype, @eq_comm _ error]

/-- An initializer that fails with an error; before that it may leave notes and look at what is registered. -/
inductive FailsWith (error : RegistryError) : Program ν → Prop where
  /-- It fails. -/
  | fail : FailsWith error (.fail error)
  /-- It looks at what is registered. -/
  | observe {resume : NameMap Outline → Program ν} (next : ∀ outlines, FailsWith error (resume outlines)) :
      FailsWith error (.observe resume)
  /-- It leaves a note. -/
  | note {text : String} {program : Program ν} (next : FailsWith error program) :
      FailsWith error (.note text program)

/-- An initializer that first asks for a name, and passes on the error that it is refused with. -/
inductive PassesOn (name : String) : Program ν → Prop where
  /-- It asks for the name. -/
  | request {resume : Except RegistryError (Option (Instance ν)) → Program ν}
      (refused : ∀ error, FailsWith error (resume (.error error))) : PassesOn name (.request name resume)
  /-- It looks at what is registered. -/
  | observe {resume : NameMap Outline → Program ν} (next : ∀ outlines, PassesOn name (resume outlines)) :
      PassesOn name (.observe resume)
  /-- It leaves a note. -/
  | note {text : String} {program : Program ν} (next : PassesOn name program) :
      PassesOn name (.note text program)

end Program

namespace Registry

variable {registry current after : Registry ν} {name : String} {depth : Nat}

/-! ### What an error is about -/

/-- A request fails because its name is not registered, because it is under construction, or because its initializer
has failed. -/
theorem getAny_eq_error {error : RegistryError} (h : getAny depth name registry = some (.error error, after)) :
    (registry.contains name = false ∧ error = .notRegistered name) ∨
      registry.contains name = true ∧ (error = .reentrant name ∨ ∃ cause, error = .construction name cause) := by
  obtain ⟨type, initializer, runs, hpending, hidle⟩ | hbusy := pending_or_not_idle registry name
  · refine .inr ⟨contains_iff.2 ⟨_, hpending⟩, .inr ?_⟩
    cases depth with
    | zero =>
      rw [getAny_zero_of_pending hpending hidle] at h
      cases h
    | succ depth =>
      rw [getAny_of_pending hpending hidle] at h
      obtain ⟨⟨result, inside⟩, -, hended⟩ := Option.map_eq_some_iff.1 h
      have hanswer := congrArg Prod.fst hended
      cases result with
      | ok value => cases hanswer
      | error failure =>
        cases hanswer
        exact ⟨failure.causeWithin name, rfl⟩
  · rw [getAny_of_not_idle hbusy] at h
    have himmediate : registry.immediate name = .error error := congrArg Prod.fst (Option.some.inj h)
    rw [immediate] at himmediate
    split at himmediate
    · next hfind =>
      cases himmediate
      exact .inl ⟨contains_eq_false_iff.2 hfind, rfl⟩
    · cases himmediate
    · cases himmediate
    · cases himmediate
    · next hfind =>
      cases himmediate
      exact .inr ⟨contains_iff.2 ⟨_, hfind⟩, .inl rfl⟩

/-- A request is told that nothing is registered under its name exactly when nothing is. -/
theorem getAny_eq_notRegistered_iff :
    (∃ other after, getAny depth name registry = some (.error (.notRegistered other), after)) ↔
      registry.contains name = false := by
  constructor
  · rintro ⟨other, after, h⟩
    obtain ⟨habsent, -⟩ | ⟨-, hreentrant | ⟨cause, hfailed⟩⟩ := getAny_eq_error h
    · exact habsent
    · cases hreentrant
    · cases hfailed
  · intro habsent
    refine ⟨name, registry, ?_⟩
    rw [getAny, contains_eq_false_iff.1 habsent]

/-- A request for an instance of a type fails as a request for the instance does, or because of the type. -/
theorem get_eq_error {type : InstanceType} {error : RegistryError}
    (h : get depth name type registry = some (.error error, after)) :
    getAny depth name registry = some (.error error, after) ∨
      ∃ held, getAny depth name registry = some (.ok (some held), after) ∧ held.type ≠ type ∧
        error = .typeMismatch name type.name ((after.typeName? name).getD "unknown") := by
  obtain ⟨untyped, hany, hanswer⟩ := exists_getAny_of_get h
  cases untyped with
  | error error' =>
    cases hanswer
    exact .inl hany
  | ok held? =>
    obtain ⟨held, rfl, hmismatch⟩ := Program.typedAnswer_eq_error_iff.1 hanswer.symm
    exact .inr ⟨held, hany, hmismatch⟩

/-! ### History -/

/-- A registry with more history, from before. -/
def onto (registry : Registry ν) (older : List (Event ν)) : Registry ν :=
  { registry with history := registry.history ++ older }

variable (older : List (Event ν))

theorem record_onto (registry : Registry ν) (event : Event ν) :
    (registry.onto older).record event = (registry.record event).onto older :=
  rfl

theorem update_onto (registry : Registry ν) (name : String) (change : Slot ν → Slot ν) :
    (registry.onto older).update name change = (registry.update name change).onto older := by
  have hentry : (registry.onto older).registered? name = registry.registered? name := rfl
  rw [update, update, hentry]
  cases registry.registered? name <;> rfl

theorem start_onto (registry : Registry ν) (name : String) :
    (registry.onto older).start name = (registry.start name).onto older := by
  rw [start, start, update_onto]
  rfl

theorem finish_onto (registry : Registry ν) (name : String) (result : Except RegistryError ν) :
    (registry.onto older).finish name result =
      ((registry.finish name result).1, (registry.finish name result).2.onto older) := by
  cases result with
  | error error => rfl
  | ok value =>
    rw [finish, finish, update_onto]
    rfl

theorem tryRegister_onto (registry : Registry ν) (name : String) (entry : Entry ν) :
    (registry.onto older).tryRegister name entry =
      ((registry.tryRegister name entry).1, (registry.tryRegister name entry).2.onto older) := by
  have hregister : (registry.onto older).register name entry =
      (registry.register name entry).map (onto · older) := by
    unfold register
    rw [apply_ite (Except.map (onto · older))]
    rfl
  rw [tryRegister, tryRegister, hregister]
  cases registry.register name entry <;> rfl

/-- An initializer does the same on top of more history, if its requests do. -/
theorem run_onto {request : String → Registry ν → Outcome ν (Option (Instance ν))}
    (requests : ∀ name registry, request name (registry.onto older) =
      (request name registry).map (Prod.map id (onto · older)))
    (program : Program ν) (registry : Registry ν) :
    run request program (registry.onto older) =
      (run request program registry).map (Prod.map id (onto · older)) := by
  induction program generalizing registry with
  | done value => rfl
  | fail error => rfl
  | request name resume ih =>
    rw [run, run, requests]
    cases request name registry with
    | none => rfl
    | some outcome => exact ih outcome.1 (outcome.2.record (.ofAnswer name outcome.1))
  | observe resume ih => exact ih registry.outlines registry
  | registerInstance name held resume ih =>
    rw [run, run, tryRegister_onto]
    exact ih _ _
  | registerUnavailable name resume ih =>
    rw [run, run, tryRegister_onto]
    exact ih _ _
  | registerDeferred name type initializer resume _ ih =>
    rw [run, run, tryRegister_onto]
    exact ih _ _
  | note text next ih =>
    rw [run, run, record_onto]
    exact ih (registry.record (.note text))

theorem getAny_onto_of_not_idle
    (busy : ∀ type initializer runs,
      registry.find? name = some (.deferred type initializer runs none) → name ∈ registry.running)
    (depth : Nat) :
    getAny depth name (registry.onto older) =
      (getAny depth name registry).map (Prod.map id (onto · older)) := by
  have hbusy : ∀ type initializer runs,
      (registry.onto older).find? name = some (.deferred type initializer runs none) →
        name ∈ (registry.onto older).running := busy
  rw [getAny_of_not_idle busy, getAny_of_not_idle hbusy]
  rfl

/-- A request does the same on top of more history. -/
theorem getAny_onto (depth : Nat) (name : String) (registry : Registry ν) :
    getAny depth name (registry.onto older) =
      (getAny depth name registry).map (Prod.map id (onto · older)) := by
  induction depth generalizing name registry with
  | zero =>
    obtain ⟨type, initializer, runs, hpending, hidle⟩ | hbusy := pending_or_not_idle registry name
    · have hpending' : (registry.onto older).find? name = some (.deferred type initializer runs none) :=
        hpending
      rw [getAny_zero_of_pending hpending hidle, getAny_zero_of_pending hpending' hidle]
      rfl
    · exact getAny_onto_of_not_idle older hbusy 0
  | succ depth ih =>
    obtain ⟨type, initializer, runs, hpending, hidle⟩ | hbusy := pending_or_not_idle registry name
    · have hpending' : (registry.onto older).find? name = some (.deferred type initializer runs none) :=
        hpending
      rw [getAny_of_pending hpending hidle, getAny_of_pending hpending' hidle, start_onto, run_onto older ih]
      cases run (getAny depth) (initializer (runs + 1)) (registry.start name) with
      | none => rfl
      | some outcome =>
        simp only [Option.map_some, Prod.map, id, finish_onto]
    · exact getAny_onto_of_not_idle older hbusy (depth + 1)

/-- The answer to a request depends on the entries and on the running constructions alone. -/
theorem exists_getAny_congr (entries : current.entries = registry.entries)
    (running : current.running = registry.running) {answer : Except RegistryError (Option (Instance ν))}
    (h : getAny depth name registry = some (answer, after)) :
    ∃ after', getAny depth name current = some (answer, after') := by
  have hregistry : ({ registry with history := [] } : Registry ν).onto registry.history = registry := rfl
  have hcurrent : ({ registry with history := [] } : Registry ν).onto current.history = current := by
    rw [onto, ← entries, ← running]
    rfl
  rw [← hregistry, getAny_onto] at h
  obtain ⟨⟨_, bare⟩, hbare, hanswer⟩ := Option.map_eq_some_iff.1 h
  cases hanswer
  rw [← hcurrent, getAny_onto, hbare]
  exact ⟨_, rfl⟩

/-! ### Chains of initializers -/

/-- What the initializer of a name does when it is next run, if it has built nothing. -/
def upcoming? (registry : Registry ν) (name : String) : Option (Program ν) :=
  match registry.find? name with
  | some (.deferred _ initializer runs none) => some (initializer (runs + 1))
  | _ => none

theorem upcoming?_eq_some {program : Program ν} (h : registry.upcoming? name = some program) :
    ∃ type initializer runs, registry.find? name = some (.deferred type initializer runs none) ∧
      initializer (runs + 1) = program := by
  unfold upcoming? at h
  split at h
  · next type initializer runs hpending =>
    exact ⟨type, initializer, runs, hpending, Option.some.inj h⟩
  · cases h

/-- The start of a construction leaves other initializers as they are. -/
theorem upcoming?_start {other : String} (h : other ≠ name) :
    (registry.start name).upcoming? other = registry.upcoming? other := by
  rw [upcoming?, upcoming?, find?_start, if_neg h]

/-- Different names whose initializers have built nothing and are not running, of which each asks for the next one
first, and passes on the error that it is refused with. -/
structure Cascade (registry : Registry ν) (names : List String) : Prop where
  /-- The names are different. -/
  nodup : names.Nodup
  /-- None of them is under construction. -/
  idle : ∀ name ∈ names, name ∉ registry.running
  /-- Each has an initializer, and no instance. -/
  pending : ∀ name ∈ names, (registry.upcoming? name).isSome = true
  /-- Each initializer asks for the next name. -/
  passesOn : names.IsChain fun outer inner =>
    ∀ program, registry.upcoming? outer = some program → program.PassesOn inner

/-- The outermost initializer passes on the error that the next one is refused with. -/
theorem Cascade.exists_outermost {first second : String} {rest : List String}
    (h : registry.Cascade (first :: second :: rest)) :
    ∃ type initializer runs, registry.find? first = some (.deferred type initializer runs none) ∧
      first ∉ registry.running ∧ (initializer (runs + 1)).PassesOn second := by
  obtain ⟨program, hprogram⟩ := Option.isSome_iff_exists.1 (h.pending first List.mem_cons_self)
  have hpasses := (List.isChain_cons_cons.1 h.passesOn).1 program hprogram
  obtain ⟨type, initializer, runs, hpending, rfl⟩ := upcoming?_eq_some hprogram
  exact ⟨type, initializer, runs, hpending, h.idle first List.mem_cons_self, hpasses⟩

/-- When the outermost initializer has been started, the others are left. -/
theorem Cascade.tail {first : String} {rest : List String} (h : registry.Cascade (first :: rest)) :
    (registry.start first).Cascade rest := by
  obtain ⟨hfirst, hrest⟩ := List.nodup_cons.1 h.nodup
  have hupcoming : ∀ name ∈ rest, (registry.start first).upcoming? name = registry.upcoming? name :=
    fun name hmem => upcoming?_start (ne_of_mem_of_not_mem hmem hfirst)
  constructor
  · exact hrest
  · intro name hmem
    rw [running_start, List.mem_cons, not_or]
    exact ⟨ne_of_mem_of_not_mem hmem hfirst, h.idle name (List.mem_cons_of_mem first hmem)⟩
  · intro name hmem
    rw [hupcoming name hmem]
    exact h.pending name (List.mem_cons_of_mem first hmem)
  · refine (List.isChain_cons.1 h.passesOn).2.imp_of_mem_imp fun outer inner hmem _ hpasses => ?_
    rw [hupcoming outer hmem]
    exact hpasses

/-- An initializer that fails. -/
theorem exists_run_of_failsWith {request : String → Registry ν → Outcome ν (Option (Instance ν))}
    {error : RegistryError} {program : Program ν} (fails : program.FailsWith error) :
    ∃ inside, run request program registry = some (.error error, inside) := by
  induction fails generalizing registry with
  | fail => exact ⟨registry, rfl⟩
  | observe _ ih => exact ih registry.outlines
  | note _ ih => exact ih

/-- An initializer fails with the error that it passes on. -/
theorem exists_run_of_passesOn {request : String → Registry ν → Outcome ν (Option (Instance ν))}
    {error : RegistryError} {program : Program ν} (passesOn : program.PassesOn name)
    (refused : ∀ current : Registry ν, current.entries = registry.entries →
      current.running = registry.running → ∃ after, request name current = some (.error error, after)) :
    ∃ inside, run request program registry = some (.error error, inside) := by
  induction passesOn generalizing registry with
  | request fails =>
    obtain ⟨after, hrefused⟩ := refused registry rfl rfl
    rw [run, hrefused]
    exact exists_run_of_failsWith (fails error)
  | observe _ ih => exact ih registry.outlines refused
  | note _ ih => exact ih refused

/-- When the innermost initializer fails, the request for the outermost name is refused with the cause, behind what
each name but the outermost puts in front of it. -/
theorem Cascade.exists_getAny {first last : String} {rest : List String} (h : registry.Cascade (first :: rest))
    (innermost : (first :: rest).getLast? = some last) {program : Program ν}
    (upcoming : registry.upcoming? last = some program) {error : RegistryError} {inside : Registry ν}
    (fails : run (getAny depth) program ((first :: rest).foldl Registry.start registry) =
      some (.error error, inside)) :
    ∃ after, getAny (depth + rest.length + 1) first registry = some
      (.error (.construction first (RegistryError.leads rest ++ error.causeWithin last)), after) := by
  -- Along the names, outermost first: once the first is started, the others are a cascade of the registry inside.
  induction rest generalizing first registry with
  | nil =>
    obtain rfl : first = last := Option.some.inj innermost
    obtain ⟨type, initializer, runs, hpending, rfl⟩ := upcoming?_eq_some upcoming
    have hrun : run (getAny depth) (initializer (runs + 1)) (registry.start first) = some (.error error, inside) :=
      fails
    rw [List.length_nil, Nat.add_zero, getAny_of_pending hpending (h.idle first List.mem_cons_self), hrun,
      RegistryError.leads_nil, String.empty_append]
    exact ⟨_, rfl⟩
  | cons second rest ih =>
    obtain ⟨hfirst, -⟩ := List.nodup_cons.1 h.nodup
    have hinnermost : (second :: rest).getLast? = some last := by
      rw [← innermost, List.getLast?_cons_cons]
    have hlast : last ≠ first := ne_of_mem_of_not_mem (List.mem_of_getLast? hinnermost) hfirst
    obtain ⟨after, hinner⟩ := ih h.tail hinnermost ((upcoming?_start hlast).trans upcoming) fails
    obtain ⟨type, initializer, runs, hpending, hidle, hpasses⟩ := h.exists_outermost
    -- Notes may come before the request, so that it is made with more history than the one above.
    obtain ⟨inside', hrun⟩ := exists_run_of_passesOn hpasses fun current hentries hrunning =>
      exists_getAny_congr hentries hrunning hinner
    have hsecond : second ≠ first := ne_of_mem_of_not_mem List.mem_cons_self hfirst
    rw [List.length_cons, ← Nat.add_assoc, getAny_of_pending hpending hidle, hrun, RegistryError.leads_cons,
      String.append_assoc, ← RegistryError.within_construction_of_ne hsecond]
    exact ⟨_, rfl⟩

/-! ### Initializers that ask for a name of their own chain -/

theorem running_foldl_start (names : List String) (registry : Registry ν) :
    (names.foldl Registry.start registry).running = names.reverse ++ registry.running := by
  induction names generalizing registry with
  | nil => rfl
  | cons first rest ih =>
    rw [List.foldl_cons, ih, running_start, List.reverse_cons, List.append_assoc]
    rfl

/-- A name has no instance while initializers are only started. -/
theorem exists_find?_foldl_start (names : List String)
    (pending : ∃ type initializer runs, registry.find? name = some (.deferred type initializer runs none)) :
    ∃ type initializer runs,
      (names.foldl Registry.start registry).find? name = some (.deferred type initializer runs none) := by
  induction names generalizing registry with
  | nil => exact pending
  | cons first rest ih =>
    apply ih
    obtain ⟨type, initializer, runs, hpending⟩ := pending
    rw [find?_start]
    split
    · next heq =>
      rw [← heq, hpending]
      exact ⟨type, initializer, runs + 1, rfl⟩
    · exact ⟨type, initializer, runs, hpending⟩

/-- Inside all the initializers of a cascade, each of its names is refused as reentrant. -/
theorem Cascade.exists_getAny_reentrant {names : List String} (h : registry.Cascade names) (hmem : name ∈ names)
    (entries : current.entries = (names.foldl Registry.start registry).entries)
    (running : current.running = (names.foldl Registry.start registry).running) (depth : Nat) :
    ∃ after, getAny depth name current = some (.error (.reentrant name), after) := by
  obtain ⟨program, hprogram⟩ := Option.isSome_iff_exists.1 (h.pending name hmem)
  obtain ⟨type, initializer, runs, hfind, -⟩ := upcoming?_eq_some hprogram
  have hpending := exists_find?_foldl_start names ⟨type, initializer, runs, hfind⟩
  have hrunning : name ∈ (names.foldl Registry.start registry).running := by
    rw [running_foldl_start]
    exact List.mem_append_left _ (List.mem_reverse.2 hmem)
  obtain ⟨after, hrefused⟩ := getAny_eq_reentrant_iff.2 ⟨rfl, hrunning, hpending⟩
  exact exists_getAny_congr entries running hrefused

/-- Every error of a request is about the name that was asked for, and it is that nothing is registered under the name
exactly when nothing is.  When each initializer of a cascade passes on the error of the next one, the request for the
outermost name is refused with what each of the others puts in front of a cause, in turn, and then the cause of the
innermost failure: the cause that the innermost initializer gives for its own name, or the whole wording of any other
error, also of the one that it gets when it asks for a name of the cascade. -/
theorem errors_traced (registry : Registry ν) :
    (∀ depth name error after,
      getAny depth name registry = some (.error error, after) → error.name = name) ∧
    (∀ depth name type error after,
      get depth name type registry = some (.error error, after) → error.name = name) ∧
    (∀ depth name,
      (∃ other after, getAny depth name registry = some (.error (.notRegistered other), after)) ↔
        registry.contains name = false) ∧
    (∀ depth name type,
      (∃ other after, get depth name type registry = some (.error (.notRegistered other), after)) ↔
        registry.contains name = false) ∧
    ∀ first rest last program, registry.Cascade (first :: rest) → (first :: rest).getLast? = some last →
      registry.upcoming? last = some program →
      (∀ depth error inside,
        run (getAny depth) program ((first :: rest).foldl Registry.start registry) = some (.error error, inside) →
        ∀ deeper, depth + (first :: rest).length ≤ deeper → ∃ cause after,
          getAny deeper first registry =
            some (.error (.construction first (RegistryError.leads rest ++ cause)), after) ∧
          (∀ own, error = .construction last own → cause = own) ∧
          ((∀ own, error ≠ .construction last own) → cause = error.message)) ∧
      ∀ other ∈ first :: rest, program.PassesOn other →
        ∀ deeper, (first :: rest).length ≤ deeper → ∃ after,
          getAny deeper first registry = some (.error (.construction first
            (RegistryError.leads rest ++ (RegistryError.reentrant other).message)), after) := by
  have hname : ∀ depth name error after,
      getAny depth name registry = some (.error error, after) → error.name = name := by
    intro depth name error after h
    obtain ⟨-, rfl⟩ | ⟨-, rfl | ⟨cause, rfl⟩⟩ := getAny_eq_error h <;> rfl
  refine ⟨hname, ?_, fun depth name => getAny_eq_notRegistered_iff, ?_, ?_⟩
  · intro depth name type error after h
    obtain hany | ⟨held, -, -, rfl⟩ := get_eq_error h
    · exact hname depth name error after hany
    · rfl
  · intro depth name type
    constructor
    · rintro ⟨other, after, h⟩
      obtain hany | ⟨held, -, -, hmismatch⟩ := get_eq_error h
      · exact getAny_eq_notRegistered_iff.1 ⟨other, after, hany⟩
      · cases hmismatch
    · intro habsent
      obtain ⟨other, after, hany⟩ := getAny_eq_notRegistered_iff.2 habsent
      refine ⟨other, after, ?_⟩
      rw [get, hany]
      rfl
  · intro first rest last program cascade innermost upcoming
    refine ⟨?_, ?_⟩
    · intro depth error inside fails deeper le
      obtain ⟨after, hget⟩ := cascade.exists_getAny innermost upcoming fails
      refine ⟨error.causeWithin last, after, getAny_mono le hget, ?_, RegistryError.causeWithin_eq_message⟩
      rintro own rfl
      exact RegistryError.causeWithin_construction last own
    · intro other hmem hpasses deeper le
      obtain ⟨inside, fails⟩ := exists_run_of_passesOn hpasses fun current hentries hrunning =>
        cascade.exists_getAny_reentrant hmem hentries hrunning 0
      obtain ⟨after, hget⟩ := cascade.exists_getAny innermost upcoming fails
      rw [Nat.zero_add] at hget
      exact ⟨after, getAny_mono le hget⟩

/-! ### Three initializers, each of which asks for the next -/

/-- An initializer that asks for a name, and passes on the error that it is refused with. -/
def forwarding (name : String) (_run : Nat) : Program Nat :=
  .note ("asks for " ++ name) (.request name fun
    | .error error => .fail error
    | .ok held? => .done ((held?.map Instance.value).getD 0 + 1))

theorem passesOn_forwarding (name : String) (run : Nat) : (forwarding name run).PassesOn name :=
  .note (.request fun _ => .fail)

/-- An initializer that fails. -/
def broken (_run : Nat) : Program Nat :=
  .fail (.construction "base" "disk full")

/-- A registry of initializers of which the last one is given. -/
def tower (innermost : Nat → Program Nat) : Registry Nat where
  entries := NameMap.ofList
    [("app", .ofInitializer "App" (forwarding "ui")), ("base", .ofInitializer "Base" innermost),
      ("ui", .ofInitializer "Ui" (forwarding "base"))]

theorem upcoming?_tower (innermost : Nat → Program Nat) :
    (tower innermost).upcoming? "app" = some (forwarding "ui" 1) ∧
      (tower innermost).upcoming? "ui" = some (forwarding "base" 1) ∧
      (tower innermost).upcoming? "base" = some (innermost 1) := by
  simp [upcoming?, find?, registered?, tower, Entry.ofInitializer, NameMap.ofList, NameMap.get?_insert]

theorem cascade_tower (innermost : Nat → Program Nat) : (tower innermost).Cascade ["app", "ui", "base"] := by
  obtain ⟨happ, hui, hbase⟩ := upcoming?_tower innermost
  constructor
  · decide
  · exact fun _ _ => List.not_mem_nil
  · simp only [List.forall_mem_cons, happ, hui, hbase, Option.isSome_some, List.not_mem_nil, IsEmpty.forall_iff,
      implies_true, and_self]
  · refine .cons_cons ?_ (.cons_cons ?_ (.singleton _))
    · rintro program hprogram
      cases happ.symm.trans hprogram
      exact passesOn_forwarding "ui" 1
    · rintro program hprogram
      cases hui.symm.trans hprogram
      exact passesOn_forwarding "base" 1

/-- The last one fails for a reason of its own, or because it asks for the first one. -/
theorem errors_traced_tower :
    (∃ after, getAny 3 "app" (tower broken) = some (.error (.construction "app"
      ("Failed to construct subsystem 'ui': " ++ "Failed to construct subsystem 'base': " ++ "disk full")), after)) ∧
    ∃ after, getAny 3 "app" (tower (forwarding "app")) = some (.error (.construction "app"
      ("Failed to construct subsystem 'ui': " ++ "Failed to construct subsystem 'base': " ++
        "Subsystem 'app' was requested while it was being constructed")), after) := by
  obtain ⟨-, -, -, -, hbroken⟩ := errors_traced (tower broken)
  obtain ⟨-, -, -, -, hcircular⟩ := errors_traced (tower (forwarding "app"))
  obtain ⟨-, -, hbase⟩ := upcoming?_tower broken
  obtain ⟨-, -, hbase'⟩ := upcoming?_tower (forwarding "app")
  constructor
  · obtain ⟨hfails, -⟩ := hbroken "app" ["ui", "base"] "base" (broken 1) (cascade_tower broken) rfl hbase
    obtain ⟨cause, after, hget, hown, -⟩ := hfails 0 (.construction "base" "disk full") _ rfl 3 (by decide)
    obtain rfl := hown "disk full" rfl
    exact ⟨after, hget⟩
  · obtain ⟨-, hreentrant⟩ :=
      hcircular "app" ["ui", "base"] "base" (forwarding "app" 1) (cascade_tower _) rfl hbase'
    exact hreentrant "app" List.mem_cons_self (passesOn_forwarding "app" 1) 3 (by decide)

end Registry

end Scaffold
