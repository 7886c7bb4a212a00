import Scaffold.Proofs.Registry.Nesting

/-!
# Failures, and requests after them

However a request ends, the names under construction are then those that were under construction when it was made.  So
a failure leaves nothing behind that would refuse its name later on: the name has no instance and is not under
construction, and stays so until a request runs its initializer again.  What has been constructed for the sake of the
failed construction stays constructed.

The history of a registry tells when an initializer is started.  The next request for the name after a failure is the
first one that starts its initializer again, so that what lies between the two is a stretch of the history without
such a start.

## Main Definitions

* `Registry.concluded` — what comes of a request when the initializer that it runs is over
* `Registry.Failure` — what the failure of an initializer leaves behind

## Main Statements

* `Registry.idle_of_changes` — a name stays idle until its initializer is started
* `Registry.Consistent.exists_instance` — what has been built stays, and is not built again
* `Registry.claims_released` — requests leave the names under construction as they were, and failures can be made good
-/

namespace Scaffold

open Relation

variable {ν : Type}

namespace Registry

variable {registry after later : Registry ν} {name : String} {base : List String}
  {news : List (Event ν)}

/-! ### Until an initializer is started -/

/-- The history only grows. -/
theorem Change.suffix (change : Change base registry after) : registry.history <:+ after.history := by
  cases change with
  | register fresh registered =>
    obtain ⟨-, hhistory⟩ := running_of_register registered
    exact ⟨[], hhistory.symm⟩
  | record aside => exact List.suffix_cons _ _
  | start pending idle =>
    rw [history_start]
    exact List.suffix_cons _ _
  | finish innermost above result =>
    rw [history_finish]
    exact List.suffix_cons _ _

theorem suffix_of_changes (changes : ReflTransGen (Change base) registry after) :
    registry.history <:+ after.history := by
  induction changes with
  | refl => exact List.suffix_rfl
  | tail _ change ih => exact ih.trans change.suffix

/-- A change leaves the entry of an idle name alone, and the name idle, unless it starts the initializer of the name. -/
theorem Change.idle (h : registry.Consistent) (change : Change base registry after) {slot : Slot ν}
    (hfind : registry.find? name = some slot) (idle : name ∉ registry.running)
    (unstarted : after.history ≠ .started name :: registry.history) :
    after.find? name = some slot ∧ name ∉ after.running := by
  cases change with
  | register fresh registered =>
    rw [(running_of_register registered).1]
    exact ⟨find?_of_register registered hfind, idle⟩
  | record aside => exact ⟨hfind, idle⟩
  | @start other _ _ _ pending _ =>
    have hne : name ≠ other := by
      rintro rfl
      exact unstarted (history_start registry name)
    rw [find?_start, if_neg hne, running_start]
    exact ⟨hfind, List.not_mem_cons_of_ne_of_not_mem hne idle⟩
  | @finish other outer innermost _ result =>
    obtain ⟨-, -, type, initializer, runs, hpending⟩ := h.innermost innermost
    rw [innermost] at idle
    have hne : name ≠ other := List.ne_of_not_mem_cons idle
    rw [find?_finish hpending, if_neg hne, running_finish_innermost innermost]
    exact ⟨hfind, List.not_mem_of_not_mem_cons idle⟩

/-- Changes leave the entry of an idle name alone, and the name idle, as long as they do not start its initializer. -/
theorem idle_of_changes (h : registry.Consistent)
    (changes : ReflTransGen (Change base) registry after) {slot : Slot ν}
    (hfind : registry.find? name = some slot) (idle : name ∉ registry.running)
    (grown : after.history = news ++ registry.history) (unstarted : .started name ∉ news) :
    after.find? name = some slot ∧ name ∉ after.running := by
  induction changes generalizing news with
  | refl => exact ⟨hfind, idle⟩
  | @tail middle after before change ih =>
    obtain ⟨early, hearly⟩ := suffix_of_changes before
    obtain ⟨recent, hrecent⟩ := change.suffix
    have hnews : news = recent ++ early := by
      have hsplit : news ++ registry.history = recent ++ early ++ registry.history := by
        rw [← grown, ← hrecent, ← hearly, List.append_assoc]
      exact List.append_cancel_right hsplit
    rw [hnews, List.mem_append, not_or] at unstarted
    obtain ⟨hfound, hidle⟩ := ih hearly.symm unstarted.2
    apply change.idle (consistent_of_changes h before) hfound hidle
    intro hstart
    rw [← hrecent] at hstart
    have hrecent' : recent = [.started name] := List.append_cancel_right hstart
    exact unstarted.1 (hrecent' ▸ List.mem_cons_self)

/-! ### What has been built -/

/-- A value that an initializer has returned is the instance of its name, is the answer to every request for it, and the
initializer is not started again. -/
theorem Consistent.exists_instance (h : registry.Consistent) {value : ν}
    (built : .built name value ∈ registry.history)
    (changes : ReflTransGen (Change base) registry later) :
    (∃ type, ∀ depth, getAny depth name later = some (.ok (some ⟨type, value⟩), later)) ∧
      ∀ news, later.history = news ++ registry.history → .started name ∉ news := by
  constructor
  · have hmem : value ∈ registry.builtValues name :=
      List.mem_filterMap.2 ⟨_, built, if_pos rfl⟩
    rw [h.built name, Option.mem_toList, Option.bind_eq_some_iff] at hmem
    obtain ⟨slot, hfind, hvalue⟩ := hmem
    cases slot with
    | ready held => cases hvalue
    | unavailable => cases hvalue
    | deferred type initializer runs value? =>
      obtain rfl : value? = some value := hvalue
      have hanswer : registry.answer? name = some (some ⟨type, value⟩) := by rw [answer?, hfind]
      exact ⟨type, getAny_of_answer? (answer?_of_changes h changes hanswer)⟩
  · intro news hnews hstarted
    have hsettled := (consistent_of_changes h changes).settled
    rw [hnews] at hsettled
    exact (List.pairwise_append.1 hsettled).2.2 _ hstarted _ built name value rfl rfl

/-! ### Failures -/

/-- What comes of a request when the initializer that it runs is over. -/
def concluded (name : String) (type : InstanceType) (outcome : Except RegistryError ν × Registry ν) :
    Except RegistryError (Option (Instance ν)) × Registry ν :=
  let ended := outcome.2.finish name outcome.1
  (ended.1.map fun value => some ⟨type, value⟩, ended.2)

/-- What is left in `failed` when the initializer of a name, started in `registry` for the `runs`th time, has
failed. -/
structure Failure (registry : Registry ν) (name : String) (type : InstanceType)
    (initializer : Nat → Program ν) (runs : Nat) (failed : Registry ν) : Prop where
  /-- The name is not under construction, and has no instance. -/
  idle : name ∉ failed.running ∧ failed.isInitialized name = false
  /-- Until its initializer is started again, and so when a request for the name is made the next time, the entry stays
  as it is.  The request is not refused, and runs the initializer. -/
  again : ∀ later, ReflTransGen Use failed later → ∃ news, later.history = news ++ failed.history ∧
    (.started name ∉ news →
      later.find? name = some (.deferred type initializer runs none) ∧
      (∀ depth other after, getAny depth name later ≠ some (.error (.reentrant other), after)) ∧
      ∀ depth, getAny (depth + 1) name later =
        (run (getAny depth) (initializer (runs + 1)) (later.start name)).map (concluded name type))
  /-- What has been built in the attempt stays, and is not built again. -/
  kept : ∀ attempt, failed.history = attempt ++ registry.history →
    ∀ other value, .built other value ∈ attempt → ∀ later, ReflTransGen Use failed later →
      (∃ type, ∀ depth, getAny depth other later = some (.ok (some ⟨type, value⟩), later)) ∧
      ∀ news, later.history = news ++ failed.history → .started other ∉ news

/-- A failure leaves its name idle, and is no obstacle to the next request. -/
theorem Amid.failure {chain : List String} (amid : Amid chain registry) {type : InstanceType}
    {initializer : Nat → Program ν} {runs depth : Nat}
    (pending : registry.find? name = some (.deferred type initializer runs none))
    (idle : name ∉ registry.running) {error : RegistryError} {inside : Registry ν}
    (fails : run (getAny depth) (initializer (runs + 1)) (registry.start name) =
      some (.error error, inside)) :
    registry.Failure name type initializer (runs + 1) (inside.finish name (.error error)).2 := by
  have hget : getAny (depth + 1) name registry =
      some (.error (error.within name), (inside.finish name (.error error)).2) := by
    rw [getAny_of_pending pending idle, fails]
    rfl
  have hinside := amid.of_run pending idle fails
  have hconsistent : (inside.finish name (.error error)).2.Consistent :=
    Change.consistent_finish hinside.consistent hinside.running_eq (.error error)
  have hidle : name ∉ (inside.finish name (.error error)).2.running := by
    rw [running_finish_innermost hinside.running_eq, ← amid.running_eq]
    exact idle
  obtain ⟨result, inside', hrun, -, -, hfind⟩ := amid.consistent.constructs pending idle hget
  obtain ⟨rfl, rfl⟩ : .error error = result ∧ inside = inside' :=
    Prod.ext_iff.1 (Option.some.inj (fails.symm.trans hrun))
  constructor
  case idle =>
    refine ⟨hidle, ?_⟩
    rw [isInitialized, status?, hfind]
    rfl
  case again =>
    intro later uses
    have hlater := changes_of_uses uses
    obtain ⟨news, hnews⟩ := suffix_of_changes hlater
    refine ⟨news, hnews.symm, fun hunstarted => ?_⟩
    obtain ⟨hpending, hoff⟩ := idle_of_changes hconsistent hlater hfind hidle hnews.symm hunstarted
    refine ⟨hpending, fun depth other after hrefused => ?_, fun depth => ?_⟩
    · exact hoff (getAny_eq_reentrant_iff.1 ⟨after, hrefused⟩).2.1
    · exact getAny_of_pending hpending hoff depth
  case kept =>
    intro attempt hattempt other value hbuilt later uses
    have hmem : .built other value ∈ (inside.finish name (.error error)).2.history := by
      rw [hattempt]
      exact List.mem_append_left _ hbuilt
    exact hconsistent.exists_instance hmem (changes_of_uses uses)

/-- Requests of every kind, made in any registry and however they end, leave the names under construction as they were
when the request was made; between operations from outside there are none.  When the initializer of a name fails, at
any depth of nesting, its request fails, the name is left without an instance, the next request for it runs the
initializer again, and what has been built in the attempt stays as it is. -/
theorem claims_released :
    (∀ (registry after : Registry ν) depth name answer,
      getAny depth name registry = some (answer, after) → after.running = registry.running) ∧
    (∀ (registry after : Registry ν) depth name type answer,
      get depth name type registry = some (answer, after) → after.running = registry.running) ∧
    (∀ (registry after : Registry ν) depth names result,
      initializeAll depth names registry = some (result, after) → after.running = registry.running) ∧
    (∀ registry : Registry ν, ReflTransGen Operation ∅ registry → registry.running = []) ∧
    ∀ chain (registry : Registry ν), Amid chain registry → ∀ name type initializer runs,
      registry.find? name = some (.deferred type initializer runs none) → name ∉ registry.running →
      ∀ depth error inside,
        run (getAny depth) (initializer (runs + 1)) (registry.start name) = some (.error error, inside) →
        ∃ failed, getAny (depth + 1) name registry = some (.error (error.within name), failed) ∧
          registry.Failure name type initializer (runs + 1) failed := by
  refine ⟨?_, ?_, ?_, ?_, ?_⟩
  · intro registry after depth name answer h
    exact (changes_getAny h).running
  · intro registry after depth name type answer h
    exact (changes_get h).running
  · intro registry after depth names result h
    exact (changes_initializeAll h).running
  · intro registry operations
    exact (Amid.outside operations).running_eq
  · intro chain registry amid name type initializer runs pending idle depth error inside fails
    refine ⟨(inside.finish name (.error error)).2, ?_, amid.failure pending idle fails⟩
    rw [getAny_of_pending pending idle, fails]
    rfl

/-! ### An initializer that fails after its request -/

/-- An initializer that asks for a name, and fails afterwards when it is first run. -/
def brittle (run : Nat) : Program Nat :=
  .request "base" fun
    | .error error => .fail error
    | .ok held? =>
      if run ≤ 1 then .fail (.construction "ui" "not yet")
      else .done ((held?.map Instance.value).getD 0 + 10)

/-- A registry of this initializer and the one of the name that it asks for. -/
def brittlePair : Registry Nat where
  entries := NameMap.ofList [("base", .ofInitializer "Base" .done), ("ui", .ofInitializer "Ui" brittle)]

/-- What has happened when the initializer has failed. -/
def brittleAttempt : List (Event Nat) :=
  [.failed "ui", .given "base" (some ⟨"Base", 1⟩), .built "base" 1, .started "base", .started "ui"]

/-- What the registry has become then. -/
def brittleFailed : Registry Nat where
  entries := NameMap.ofList
    [("base", ⟨"Base", .deferred "Base" .done 1 (some 1)⟩), ("ui", ⟨"Ui", .deferred "Ui" brittle 1 none⟩)]
  history := brittleAttempt

/-- The request fails the first time.  It can be made again, and then what it has built is there. -/
theorem claims_released_brittle :
    Amid [] brittlePair ∧
      ∃ failed, getAny 2 "ui" brittlePair = some (.error (.construction "ui" "not yet"), failed) ∧
        failed.running = [] ∧ failed.isInitialized "ui" = false ∧
        (∀ depth, getAny depth "base" failed = some (.ok (some ⟨"Base", 1⟩), failed)) ∧
        ∃ after, getAny 2 "ui" failed = some (.ok (some ⟨"Ui", 11⟩), after) := by
  have hbase : (∅ : Registry Nat).registerDeferred "base" "Base" .done =
      .ok { entries := NameMap.ofList [("base", .ofInitializer "Base" .done)] } := rfl
  have hui : ({ entries := NameMap.ofList [("base", .ofInitializer "Base" .done)] } :
      Registry Nat).registerDeferred "ui" "Ui" brittle = .ok brittlePair := rfl
  have hamid : Amid [] brittlePair :=
    .outside (.tail (.single (.registerDeferred hbase)) (.registerDeferred hui))
  obtain ⟨hbalanced, -, -, -, hfails⟩ := claims_released (ν := Nat)
  obtain ⟨failed, hget, hfailure⟩ :=
    hfails [] brittlePair hamid "ui" "Ui" brittle 0 rfl List.not_mem_nil 1 (.construction "ui" "not yet") _ rfl
  obtain rfl : brittleFailed = failed := by
    have hdirect : getAny 2 "ui" brittlePair =
        some (.error (.construction "ui" "not yet"), brittleFailed) := rfl
    exact (Prod.ext_iff.1 (Option.some.inj (hdirect.symm.trans hget))).2
  obtain ⟨news, hnews, hagain⟩ := hfailure.again brittleFailed .refl
  obtain rfl : [] = news := List.append_cancel_right hnews
  obtain ⟨⟨type, hanswer⟩, -⟩ :=
    hfailure.kept brittleAttempt rfl "base" 1 (by decide) brittleFailed .refl
  obtain rfl : ({ name := "Base" } : InstanceType) = type := by
    have hdirect := hanswer 0
    cases hdirect
    rfl
  refine ⟨hamid, brittleFailed, hget, hbalanced _ _ _ _ _ hget, hfailure.idle.2, hanswer, ?_⟩
  rw [(hagain List.not_mem_nil).2.2 1]
  exact ⟨_, rfl⟩

end Registry

end Scaffold
