import Mathlib.Data.List.Perm.Subperm
import Scaffold.Proofs.Registry.Persistence

/-!
# Constructions inside constructions

An initializer that asks for a name has the initializer of that name run inside it, and so on.  At any moment the
initializers that are running form a chain, each asked for by the next one out.  The registry keeps no such chain; it
marks the names that are under construction.  The marks are the chain: a construction marks its name before it runs the
initializer, and takes the mark away when it is over, so that whatever an initializer has asked for in the meantime has
left the marks as they were.

A request is refused as reentrant by the marks alone.  That they are the chain makes this exact: it is refused when its
own name stands in the chain, and then only.

## Main Definitions

* `Registry.Amid` — the registries inside a chain of initializers
* `Registry.deferredNames` — the names with an initializer
* `Registry.immediate` — the answer to a request that runs no initializer

## Main Statements

* `Registry.Amid.running_eq` — the marks are the chain
* `Registry.Amid.of_run` — a run inside the chain ends inside it
* `Registry.getAny_eq_reentrant_iff` — which requests are refused as reentrant
* `Registry.Consistent.length_running_le` — a chain is no longer than there are initializers
-/

namespace Scaffold

open Relation

variable {ν : Type}

/-- The initializer that is kept. -/
def Slot.initializer? : Slot ν → Option (Nat → Program ν)
  | ready _ => none
  | deferred _ initializer _ _ => some initializer
  | unavailable => none

@[simp]
theorem Slot.initializer?_started (slot : Slot ν) : slot.started.initializer? = slot.initializer? := by
  cases slot <;> rfl

@[simp]
theorem Slot.initializer?_filled (value : ν) (slot : Slot ν) :
    (slot.filled value).initializer? = slot.initializer? := by
  cases slot <;> rfl

namespace Registry

variable {registry after : Registry ν} {name : String} {chain : List String}

/-! ### Names with an initializer -/

/-- The initializer that a name is registered with. -/
def initializer? (registry : Registry ν) (name : String) : Option (Nat → Program ν) :=
  (registry.find? name).bind Slot.initializer?

/-- The names that are registered with an initializer. -/
def deferredNames (registry : Registry ν) : NameSet :=
  (registry.entries.filter fun _ entry => entry.slot.initializer?.isSome).names

theorem mem_deferredNames_iff_isSome :
    name ∈ registry.deferredNames ↔ (registry.initializer? name).isSome = true := by
  rw [deferredNames, ← NameMap.contains_iff, NameMap.contains, Option.isSome_iff_exists]
  simp only [NameMap.get?_filter_eq_some_iff]
  rw [initializer?, find?, registered?]
  cases registry.entries.get? name <;> simp

theorem mem_deferredNames :
    name ∈ registry.deferredNames ↔
      ∃ type initializer runs value?, registry.find? name = some (.deferred type initializer runs value?) := by
  rw [mem_deferredNames_iff_isSome, initializer?]
  cases hfind : registry.find? name with
  | none => simp
  | some slot => cases slot <;> simp [Slot.initializer?]

theorem mem_deferredNames_of_find? {type : InstanceType} {initializer : Nat → Program ν} {runs : Nat}
    {value? : Option ν} (h : registry.find? name = some (.deferred type initializer runs value?)) :
    name ∈ registry.deferredNames :=
  mem_deferredNames.2 ⟨type, initializer, runs, value?, h⟩

/-- Registries with the same initializers have the same names with an initializer. -/
theorem deferredNames_congr (h : after.initializer? = registry.initializer?) :
    after.deferredNames = registry.deferredNames := by
  apply NameSet.ext_mem
  intro other
  rw [mem_deferredNames_iff_isSome, mem_deferredNames_iff_isSome, h]

theorem initializer?_update (registry : Registry ν) (name : String) {change : Slot ν → Slot ν}
    (keeps : ∀ slot, (change slot).initializer? = slot.initializer?) :
    (registry.update name change).initializer? = registry.initializer? := by
  funext other
  rw [initializer?, initializer?, find?_update]
  split
  · next heq =>
    rw [heq]
    cases registry.find? name with
    | none => rfl
    | some slot => exact keeps slot
  · rfl

/-- The start of a construction leaves the initializers as they are. -/
@[simp]
theorem initializer?_start (registry : Registry ν) (name : String) :
    (registry.start name).initializer? = registry.initializer? :=
  initializer?_update registry name Slot.initializer?_started

/-- The end of a construction leaves the initializers as they are. -/
@[simp]
theorem initializer?_finish (registry : Registry ν) (name : String) (result : Except RegistryError ν) :
    (registry.finish name result).2.initializer? = registry.initializer? := by
  cases result with
  | error error => rfl
  | ok value => exact initializer?_update registry name (Slot.initializer?_filled _)

/-- There are no more different names with an initializer than that. -/
theorem length_le_size_deferredNames {names : List String} (nodup : names.Nodup)
    (deferred : ∀ name ∈ names, name ∈ registry.deferredNames) :
    names.length ≤ registry.deferredNames.size :=
  (List.subperm_of_subset nodup deferred).length_le

/-- The names under construction are different, and have initializers, so there are no more of them. -/
theorem Consistent.length_running_le (h : registry.Consistent) :
    registry.running.length ≤ registry.deferredNames.size := by
  refine length_le_size_deferredNames h.nodup fun running hmem => ?_
  obtain ⟨type, initializer, runs, hpending⟩ := h.pending running hmem
  exact mem_deferredNames_of_find? hpending

/-! ### Requests that are refused -/

/-- The answer to a request that runs no initializer. -/
def immediate (registry : Registry ν) (name : String) : Except RegistryError (Option (Instance ν)) :=
  match registry.find? name with
  | none => .error (.notRegistered name)
  | some (.ready held) => .ok (some held)
  | some .unavailable => .ok none
  | some (.deferred type _ _ (some value)) => .ok (some ⟨type, value⟩)
  | some (.deferred _ _ _ none) => .error (.reentrant name)

/-- A request that runs no initializer is answered or refused at once, and changes nothing. -/
theorem getAny_of_not_idle
    (busy : ∀ type initializer runs,
      registry.find? name = some (.deferred type initializer runs none) → name ∈ registry.running)
    (depth : Nat) : getAny depth name registry = some (registry.immediate name, registry) := by
  rw [getAny, immediate]
  cases hfind : registry.find? name with
  | none => rfl
  | some slot =>
    cases slot with
    | ready held => rfl
    | unavailable => rfl
    | deferred type initializer runs value? =>
      cases value? with
      | some value => rfl
      | none => exact if_pos (busy type initializer runs hfind)

/-- A request is refused as reentrant when its name has no instance yet and is under construction, and then only. -/
theorem getAny_eq_reentrant_iff {depth : Nat} {other : String} :
    (∃ after, getAny depth name registry = some (.error (.reentrant other), after)) ↔
      other = name ∧ name ∈ registry.running ∧
        ∃ type initializer runs, registry.find? name = some (.deferred type initializer runs none) := by
  constructor
  · rintro ⟨after, h⟩
    have hcases := h
    unfold getAny at hcases
    split at hcases
    · cases hcases
    · cases hcases
    · cases hcases
    · cases hcases
    · next type initializer runs hpending =>
      split at hcases
      · next hrunning =>
        cases hcases
        exact ⟨rfl, hrunning, type, initializer, runs, hpending⟩
      · next hidle =>
        cases depth with
        | zero => cases hcases
        | succ depth =>
          rw [getAny_of_pending hpending hidle] at h
          obtain ⟨⟨result, inside⟩, -, hended⟩ := Option.map_eq_some_iff.1 h
          -- What comes of the construction is a value, or a failure put down to its name.
          have hanswer := congrArg Prod.fst hended
          cases result with
          | ok value => cases hanswer
          | error error => cases hanswer
  · rintro ⟨rfl, hrunning, type, initializer, runs, hpending⟩
    refine ⟨registry, ?_⟩
    rw [getAny, hpending]
    exact if_pos hrunning

/-! ### Chains of initializers -/

/-- The registries inside a chain of initializers, innermost first, each of which runs for a request of the next one
out; outside them all is what operations have made of the registry without entries. -/
inductive Amid : List String → Registry ν → Prop where
  /-- No initializer is running. -/
  | outside {registry : Registry ν} (operations : ReflTransGen Operation ∅ registry) : Amid [] registry
  /-- The initializer of one more name is running, because its name was asked for. -/
  | inside {chain : List String} {registry later : Registry ν} {name : String} {type : InstanceType}
      {initializer : Nat → Program ν} {runs depth : Nat} (amid : Amid chain registry)
      (pending : registry.find? name = some (.deferred type initializer runs none))
      (idle : name ∉ registry.running)
      (passes : Passes (getAny depth) (initializer (runs + 1)) (registry.start name) later) :
      Amid (name :: chain) later

theorem Changes.consistent (changes : Changes registry after) (h : registry.Consistent) :
    after.Consistent :=
  consistent_of_changes h changes.steps

theorem Amid.consistent (amid : Amid chain registry) : registry.Consistent := by
  induction amid with
  | outside operations => exact (changes_of_operations operations).consistent consistent_empty
  | inside _ pending idle passes ih =>
    have hstarted := Change.consistent_start ih pending idle
    exact (changes_of_passes (fun _ _ _ _ => changes_getAny) passes).consistent hstarted

/-- The names that are marked as under construction are those of the chain, in its order. -/
theorem Amid.running_eq (amid : Amid chain registry) : registry.running = chain := by
  induction amid with
  | outside operations => exact (changes_of_operations operations).running
  | inside _ pending idle passes ih =>
    rw [(changes_of_passes (fun _ _ _ _ => changes_getAny) passes).running, running_start, ih]

/-- Inside the initializer that a name was asked for, the registry that it ends in is reached, too. -/
theorem Amid.of_run (amid : Amid chain registry) {type : InstanceType} {initializer : Nat → Program ν}
    {runs depth : Nat} (pending : registry.find? name = some (.deferred type initializer runs none))
    (idle : name ∉ registry.running) {result : Except RegistryError ν}
    (ran : run (getAny depth) (initializer (runs + 1)) (registry.start name) = some (result, after)) :
    Amid (name :: chain) after :=
  .inside amid pending idle (passes_of_run ran)

end Registry

end Scaffold
