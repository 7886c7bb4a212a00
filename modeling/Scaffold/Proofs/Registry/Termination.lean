import Scaffold.Proofs.Registry.Nesting

/-!
# Requests that come to an end

Initializers may ask for one another in circles, may be refused and go on, and may ask again for what has failed, so
that no order of the names says why their constructions end.  What falls with every construction inside another is the
number of initializers that are not in the chain.  It is one less inside, and when the construction is over it is what
it was before; as long as initializers register nothing there are no others, and so it bounds how deeply constructions
nest.

## Main Definitions

* `Program.Quiet`, `Registry.Quiet` — initializers that register nothing

## Main Statements

* `Registry.getAny_mono` — an outcome does not depend on how deeply constructions are followed
* `Registry.exists_run` — a quiet initializer comes to an end if its requests do
* `Registry.Consistent.exists_getAny` — requests come to an end
* `Registry.Amid.comes_to_an_end` — chains of initializers, what is refused inside them, and that all requests end
-/

namespace Scaffold

open Relation

variable {ν : Type}

/-- An initializer that registers nothing, whatever it is told.  However it goes on after each answer, it asks for
finitely many names. -/
inductive Program.Quiet : Program ν → Prop where
  /-- It returns a value. -/
  | done {value : ν} : Quiet (.done value)
  /-- It fails. -/
  | fail {error : RegistryError} : Quiet (.fail error)
  /-- It asks for a name, and goes on when it is answered or refused. -/
  | request {name : String} {resume : Except RegistryError (Option (Instance ν)) → Program ν}
      (next : ∀ answer, Quiet (resume answer)) : Quiet (.request name resume)
  /-- It looks at what is registered. -/
  | observe {resume : NameMap Outline → Program ν} (next : ∀ outlines, Quiet (resume outlines)) :
      Quiet (.observe resume)
  /-- It leaves a note. -/
  | note {text : String} {program : Program ν} (next : Quiet program) : Quiet (.note text program)

namespace Registry

variable {registry after : Registry ν} {name : String} {chain : List String} {depth : Nat}

/-- Every initializer registers nothing in any of its runs. -/
def Quiet (registry : Registry ν) : Prop :=
  ∀ name initializer, registry.initializer? name = some initializer → ∀ run, (initializer run).Quiet

theorem Quiet.congr (quiet : registry.Quiet) (h : after.initializer? = registry.initializer?) :
    after.Quiet := by
  intro other initializer hfound
  rw [h] at hfound
  exact quiet other initializer hfound

/-! ### How deeply constructions are followed -/

/-- An initializer has the same outcome when its requests are followed more deeply. -/
theorem run_mono {request request' : String → Registry ν → Outcome ν (Option (Instance ν))}
    (deeper : ∀ name registry outcome,
      request name registry = some outcome → request' name registry = some outcome)
    {program : Program ν} {outcome : Except RegistryError ν × Registry ν}
    (h : run request program registry = some outcome) :
    run request' program registry = some outcome := by
  induction program generalizing registry with
  | done value => exact h
  | fail error => exact h
  | request name resume ih =>
    rw [run] at h ⊢
    cases hrequest : request name registry with
    | none =>
      rw [hrequest] at h
      cases h
    | some answered =>
      rw [hrequest] at h
      rw [deeper name registry answered hrequest]
      exact ih answered.1 h
  | observe resume ih => exact ih registry.outlines h
  | registerInstance name held resume ih => exact ih _ h
  | registerUnavailable name resume ih => exact ih _ h
  | registerDeferred name type initializer resume _ ih => exact ih _ h
  | note text next ih => exact ih h

/-- Whether a request runs an initializer. -/
theorem pending_or_not_idle (registry : Registry ν) (name : String) :
    (∃ type initializer runs, registry.find? name = some (.deferred type initializer runs none) ∧
        name ∉ registry.running) ∨
      ∀ type initializer runs,
        registry.find? name = some (.deferred type initializer runs none) → name ∈ registry.running := by
  by_cases hidle : name ∈ registry.running
  · exact .inr fun _ _ _ _ => hidle
  · by_cases hpending : ∃ type initializer runs,
      registry.find? name = some (.deferred type initializer runs none)
    · obtain ⟨type, initializer, runs, hpending⟩ := hpending
      exact .inl ⟨type, initializer, runs, hpending, hidle⟩
    · exact .inr fun type initializer runs h => absurd ⟨type, initializer, runs, h⟩ hpending

/-- A request has the same outcome when it is followed more deeply. -/
theorem getAny_mono {deeper : Nat} (le : depth ≤ deeper)
    {outcome : Except RegistryError (Option (Instance ν)) × Registry ν}
    (h : getAny depth name registry = some outcome) : getAny deeper name registry = some outcome := by
  induction depth generalizing deeper name registry outcome with
  | zero =>
    obtain ⟨type, initializer, runs, hpending, hidle⟩ | hbusy := pending_or_not_idle registry name
    · rw [getAny_zero_of_pending hpending hidle] at h
      cases h
    · rw [getAny_of_not_idle hbusy] at h ⊢
      exact h
  | succ depth ih =>
    obtain ⟨deeper, rfl⟩ : ∃ deeper', deeper = deeper' + 1 := ⟨deeper - 1, by omega⟩
    obtain ⟨type, initializer, runs, hpending, hidle⟩ | hbusy := pending_or_not_idle registry name
    · rw [getAny_of_pending hpending hidle] at h ⊢
      obtain ⟨ended, hrun, hended⟩ := Option.map_eq_some_iff.1 h
      have hdeeper : run (getAny deeper) (initializer (runs + 1)) (registry.start name) = some ended :=
        run_mono (fun _ _ _ => ih (Nat.le_of_succ_le_succ le)) hrun
      rw [hdeeper, ← hended]
      rfl
    · rw [getAny_of_not_idle hbusy] at h ⊢
      exact h

/-! ### That they end -/

/-- A quiet initializer comes to an end if its requests do, and keeps what they and notes keep. -/
theorem exists_run {request : String → Registry ν → Outcome ν (Option (Instance ν))}
    {kept : Registry ν → Prop}
    (requests : ∀ name registry, kept registry →
      ∃ outcome, request name registry = some outcome ∧ kept outcome.2)
    (records : ∀ registry event, event.constructed? = none → kept registry → kept (registry.record event))
    {program : Program ν} (quiet : program.Quiet) (h : kept registry) :
    ∃ outcome, run request program registry = some outcome ∧ kept outcome.2 := by
  induction quiet generalizing registry with
  | @done value => exact ⟨(.ok value, registry), rfl, h⟩
  | @fail error => exact ⟨(.error error, registry), rfl, h⟩
  | @request name resume _ ih =>
    obtain ⟨⟨answer, answered⟩, hrequest, hanswered⟩ := requests name registry h
    rw [run, hrequest]
    exact ih answer (records answered _ (Event.constructed?_ofAnswer name answer) hanswered)
  | observe _ ih => exact ih registry.outlines h
  | note _ ih => exact ih (records registry _ rfl h)

/-- The registries that are like another one to the requests inside it: consistent, with the same constructions
running and the same initializers. -/
structure Like (registry after : Registry ν) : Prop where
  /-- The history, the running constructions and the entries agree. -/
  consistent : after.Consistent
  /-- The same constructions are running. -/
  running : after.running = registry.running
  /-- Names have the same initializers. -/
  initializers : after.initializer? = registry.initializer?

theorem Like.trans {middle : Registry ν} (h : registry.Like middle) (h' : middle.Like after) :
    registry.Like after where
  consistent := h'.consistent
  running := h'.running.trans h.running
  initializers := h'.initializers.trans h.initializers

theorem Like.record (h : registry.Like after) {event : Event ν} (aside : event.constructed? = none) :
    registry.Like (after.record event) where
  consistent := Change.consistent_record h.consistent aside
  running := h.running
  initializers := h.initializers

theorem Like.deferredNames (h : registry.Like after) : after.deferredNames = registry.deferredNames :=
  deferredNames_congr h.initializers

/-- A request comes to an end when all initializers are quiet and constructions are followed as deeply as there are
initializers outside the chain.  It leaves the chain and the initializers as they were. -/
theorem Consistent.exists_getAny (h : registry.Consistent) (quiet : registry.Quiet)
    (enough : registry.deferredNames.size ≤ depth + registry.running.length) (name : String) :
    ∃ outcome, getAny depth name registry = some outcome ∧ registry.Like outcome.2 := by
  induction depth generalizing registry name with
  | zero =>
    obtain ⟨type, initializer, runs, hpending, hidle⟩ | hbusy := pending_or_not_idle registry name
    · -- All initializers are in the chain, so there is none to be run.
      have hlength := (Change.consistent_start h hpending hidle).length_running_le
      rw [running_start, List.length_cons, deferredNames_congr (initializer?_start registry name)] at hlength
      omega
    · exact ⟨_, getAny_of_not_idle hbusy 0, h, rfl, rfl⟩
  | succ depth ih =>
    obtain ⟨type, initializer, runs, hpending, hidle⟩ | hbusy := pending_or_not_idle registry name
    · have hstarted := Change.consistent_start h hpending hidle
      have hinitializers := initializer?_start registry name
      have hquiet : (initializer (runs + 1)).Quiet := by
        refine quiet name initializer ?_ (runs + 1)
        rw [initializer?, hpending]
        rfl
      have hdepth : (registry.start name).deferredNames.size ≤
          depth + (registry.start name).running.length := by
        rw [deferredNames_congr hinitializers, running_start, List.length_cons]
        omega
      -- Requests inside are made with the same chain and the same initializers, so that the bound holds for each.
      have hrequests : ∀ other current, (registry.start name).Like current →
          ∃ outcome, getAny depth other current = some outcome ∧ (registry.start name).Like outcome.2 := by
        intro other current hlike
        have hbound : current.deferredNames.size ≤ depth + current.running.length := by
          rw [hlike.deferredNames, hlike.running]
          exact hdepth
        obtain ⟨outcome, hget, hafter⟩ :=
          ih hlike.consistent (quiet.congr (hlike.initializers.trans hinitializers)) hbound other
        exact ⟨outcome, hget, hlike.trans hafter⟩
      obtain ⟨⟨result, inside⟩, hrun, hinside⟩ :=
        exists_run hrequests (fun _ _ haside hlike => hlike.record haside) hquiet ⟨hstarted, rfl, rfl⟩
      have hinnermost : inside.running = name :: registry.running :=
        hinside.running.trans (running_start registry name)
      rw [getAny_of_pending hpending hidle, hrun]
      refine ⟨_, rfl, ?_⟩
      show registry.Like (inside.finish name result).2
      constructor
      · exact Change.consistent_finish hinside.consistent hinnermost result
      · exact running_finish_innermost hinnermost result
      · rw [initializer?_finish, hinside.initializers, hinitializers]
    · exact ⟨_, getAny_of_not_idle hbusy (depth + 1), h, rfl, rfl⟩

/-- Requests in turn come to an end when each does. -/
theorem Consistent.exists_initializeAll (h : registry.Consistent) (quiet : registry.Quiet)
    (enough : registry.deferredNames.size ≤ depth + registry.running.length) (names : List String) :
    ∃ outcome, initializeAll depth names registry = some outcome := by
  induction names generalizing registry with
  | nil => exact ⟨_, rfl⟩
  | cons name rest ih =>
    obtain ⟨⟨answer, answered⟩, hget, hlike⟩ := h.exists_getAny quiet enough name
    rw [initializeAll, hget]
    cases answer with
    | error error => exact ⟨_, rfl⟩
    | ok held? =>
      have henough : answered.deferredNames.size ≤ depth + answered.running.length := by
        rw [hlike.deferredNames, hlike.running]
        exact enough
      exact ih hlike.consistent (quiet.congr hlike.initializers) henough

/-- Requests in turn have the same outcome when they are followed more deeply. -/
theorem initializeAll_mono {deeper : Nat} (le : depth ≤ deeper) {names : List String}
    {outcome : Except RegistryError Unit × Registry ν}
    (h : initializeAll depth names registry = some outcome) :
    initializeAll deeper names registry = some outcome := by
  induction names generalizing registry with
  | nil => exact h
  | cons name rest ih =>
    rw [initializeAll] at h ⊢
    cases hget : getAny depth name registry with
    | none =>
      rw [hget] at h
      cases h
    | some answered =>
      obtain ⟨answer, answered⟩ := answered
      rw [hget] at h
      rw [getAny_mono le hget]
      cases answer with
      | error error => exact h
      | ok held? => exact ih h

/-- Inside a chain of initializers the names that are marked as under construction are those of the chain.  They are
different, have initializers and no instance, and so there are no more of them than initializers.  A request is refused
as reentrant when its name is one of them, and then only.  If no initializer registers anything, every request and
every series of requests comes to an end, with an outcome that does not depend on how deeply constructions are followed,
as long as that is as deeply as there are initializers outside the chain. -/
theorem Amid.comes_to_an_end (amid : Amid chain registry) :
    registry.running = chain ∧
    (∀ depth name other,
      (∃ after, getAny depth name registry = some (.error (.reentrant other), after)) ↔
        other = name ∧ name ∈ chain ∧
          ∃ type initializer runs, registry.find? name = some (.deferred type initializer runs none)) ∧
    (chain.Nodup ∧
      (∀ name ∈ chain,
        ∃ type initializer runs, registry.find? name = some (.deferred type initializer runs none)) ∧
      chain.length ≤ registry.deferredNames.size) ∧
    (registry.Quiet →
      (∀ name, ∃ outcome, ∀ depth, registry.deferredNames.size ≤ depth + chain.length →
        getAny depth name registry = some outcome) ∧
      (∀ name type, ∃ outcome, ∀ depth, registry.deferredNames.size ≤ depth + chain.length →
        get depth name type registry = some outcome) ∧
      ∀ names, ∃ outcome, ∀ depth, registry.deferredNames.size ≤ depth + chain.length →
        initializeAll depth names registry = some outcome) := by
  have hconsistent := amid.consistent
  obtain rfl := amid.running_eq
  refine ⟨rfl, fun depth name other => getAny_eq_reentrant_iff,
    ⟨hconsistent.nodup, hconsistent.pending, hconsistent.length_running_le⟩, fun hquiet => ?_⟩
  -- The outcome is the one at the least depth that is enough.
  have hleast : registry.deferredNames.size ≤
      (registry.deferredNames.size - registry.running.length) + registry.running.length := by omega
  have hany : ∀ name, ∃ outcome, ∀ depth,
      registry.deferredNames.size ≤ depth + registry.running.length →
        getAny depth name registry = some outcome := by
    intro name
    obtain ⟨outcome, hget, -⟩ := hconsistent.exists_getAny hquiet hleast name
    exact ⟨outcome, fun depth henough => getAny_mono (by omega) hget⟩
  refine ⟨hany, fun name type => ?_, fun names => ?_⟩
  · obtain ⟨⟨answer, answered⟩, hget⟩ := hany name
    refine ⟨(answer.bind (Program.typedAnswer name type (answered.typeName? name)), answered),
      fun depth henough => ?_⟩
    rw [get, hget depth henough]
  · obtain ⟨outcome, hall⟩ := hconsistent.exists_initializeAll hquiet hleast names
    exact ⟨outcome, fun depth henough => initializeAll_mono (by omega) hall⟩

/-! ### Two initializers that ask for each other -/

/-- An initializer that asks for a name, and does without it if it is refused. -/
def wary (name : String) (_run : Nat) : Program Nat :=
  .request name fun
    | .error _ => .done 0
    | .ok held? => .done ((held?.map Instance.value).getD 0 + 1)

theorem quiet_wary (name : String) (run : Nat) : (wary name run).Quiet := by
  refine .request fun answer => ?_
  cases answer with
  | error error => exact .done
  | ok held? => exact .done

/-- A registry of two initializers that ask for each other. -/
def circular : Registry Nat where
  entries := NameMap.ofList
    [("left", .ofInitializer "Left" (wary "right")), ("right", .ofInitializer "Right" (wary "left"))]

/-- Inside both initializers each name is refused.  From outside either request ends. -/
theorem comes_to_an_end_circular :
    Amid [] circular ∧ Amid ["right", "left"] ((circular.start "left").start "right") ∧
      (∃ after, getAny 0 "left" ((circular.start "left").start "right") =
        some (.error (.reentrant "left"), after)) ∧
      ∃ outcome, ∀ depth, 2 ≤ depth → getAny depth "left" circular = some outcome := by
  have hleft : (∅ : Registry Nat).registerDeferred "left" "Left" (wary "right") =
      .ok { entries := NameMap.ofList [("left", .ofInitializer "Left" (wary "right"))] } := rfl
  have hright : ({ entries := NameMap.ofList [("left", .ofInitializer "Left" (wary "right"))] } :
      Registry Nat).registerDeferred "right" "Right" (wary "left") = .ok circular := rfl
  have houtside : Amid [] circular :=
    .outside (.tail (.single (.registerDeferred hleft)) (.registerDeferred hright))
  have hinside : Amid ["left"] (circular.start "left") :=
    .inside houtside rfl List.not_mem_nil (.here : Passes (getAny 0) (wary "right" 1) _ _)
  have hboth : Amid ["right", "left"] ((circular.start "left").start "right") :=
    .inside hinside rfl (by decide) (.here : Passes (getAny 0) (wary "left" 1) _ _)
  have hquiet : circular.Quiet := by
    intro name initializer hfound run
    have hmem := mem_deferredNames_iff_isSome.2 (Option.isSome_iff_exists.2 ⟨initializer, hfound⟩)
    have hnames : name ∈ ["left", "right"] := hmem
    rcases List.mem_pair.1 hnames with rfl | rfl
    · obtain rfl : wary "right" = initializer := Option.some.inj hfound
      exact quiet_wary "right" run
    · obtain rfl : wary "left" = initializer := Option.some.inj hfound
      exact quiet_wary "left" run
  obtain ⟨-, -, -, hends⟩ := Amid.comes_to_an_end houtside
  obtain ⟨-, hrefused, -⟩ := Amid.comes_to_an_end hboth
  refine ⟨houtside, hboth, ?_, (hends hquiet).1 "left"⟩
  exact (hrefused 0 "left" "left").2 ⟨rfl, by decide, "Left", wary "right", 1, rfl⟩

end Registry

end Scaffold
