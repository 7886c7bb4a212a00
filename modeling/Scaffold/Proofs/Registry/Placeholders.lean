import Mathlib.Data.Set.Card
import Scaffold.Proofs.FeatureSet.Exposure
import Scaffold.Proofs.Registry.Change

/-!
# What placeholders do to a registry

Before a placeholder is registered it is checked that its name is not taken, and the names that a catalog misses
are listed without repetition.  So the refusal of a name that is registered cannot come up, each placeholder counts
once, and a second pass finds every name taken.

Along the list the entries that were there before are carried on: the state after some names is described from
the state before all of them, in `Registry.Fills`.

## Main Definitions

* `Registry.Lacks` — a catalog would use a name, and neither it nor the registry has anything under it
* `Registry.Fills` — placeholders for a list of names, and nothing else
* `Registry.Supplies` — what placeholders for a catalog do, clause by clause

## Main Statements

* `Registry.registerPlaceholders_eq` — a pass over a list fills the gaps and counts them
* `Registry.registerMissing_exact` — placeholders for what a catalog misses: how many, which, and what stays
-/

namespace Scaffold.Registry

variable {ν : Type} {registry placed after : Registry ν} {catalog : Catalog} {first name : String}
  {names rest : List String}

/-- A catalog would use a name, and neither it nor the registry has anything under it. -/
def Lacks (registry : Registry ν) (catalog : Catalog) (name : String) : Prop :=
  catalog.Wants name ∧ catalog.get? name = none ∧ registry.find? name = none

/-- Placeholders for those names of a list that are not registered, and nothing else. -/
structure Fills (names : List String) (registry after : Registry ν) : Prop where
  /-- What is registered stays, and the names of the list are registered otherwise. -/
  registered?_eq : ∀ name, after.registered? name =
    (registry.registered? name).or (if name ∈ names then some .placeholder else none)
  /-- The same constructions are running. -/
  running : after.running = registry.running
  /-- Nothing is said to have happened. -/
  history : after.history = registry.history

namespace Fills

theorem nil (registry : Registry ν) : Fills [] registry registry where
  registered?_eq _ := Option.or_none.symm
  running := rfl
  history := rfl

/-- A name that is registered is passed over. -/
theorem skip (hregistered : registry.contains first = true) (h : Fills rest registry after) :
    Fills (first :: rest) registry after where
  registered?_eq name := by
    rw [h.registered?_eq name]
    by_cases hname : name = first
    · obtain ⟨entry, hentry⟩ := contains_iff_registered?.1 hregistered
      rw [hname, hentry, Option.some_or, Option.some_or]
    · simp only [List.mem_cons, hname, false_or]
  running := h.running
  history := h.history

/-- A name that is not registered gets a placeholder, and no later one. -/
theorem place (habsent : registry.contains first = false)
    (hplaced : registry.registerUnavailable first = .ok placed) (h : Fills rest placed after) :
    Fills (first :: rest) registry after where
  registered?_eq name := by
    rw [h.registered?_eq name, registered?_register hplaced name]
    by_cases hname : name = first
    · rw [if_pos hname, hname, registered?_eq_none_iff.2 habsent, Option.some_or, Option.none_or,
        if_pos List.mem_cons_self]
    · simp only [List.mem_cons, hname, false_or, if_false]
  running := h.running.trans (running_of_register hplaced).1
  history := h.history.trans (running_of_register hplaced).2

theorem registered?_of_registered? {entry : Entry ν} (h : Fills names registry after)
    (hentry : registry.registered? name = some entry) : after.registered? name = some entry := by
  rw [h.registered?_eq name, hentry, Option.some_or]

/-- All names of the list are registered from then on. -/
theorem contains (h : Fills names registry after) (hname : name ∈ names) : after.contains name = true := by
  rw [contains_iff_registered?, h.registered?_eq name, if_pos hname]
  cases hfound : registry.registered? name with
  | none => exact ⟨.placeholder, Option.none_or⟩
  | some entry => exact ⟨entry, Option.some_or⟩

end Fills

/-! ### A pass over a list -/

/-- The registration of a placeholder takes no other name. -/
theorem contains_of_registerUnavailable (hplaced : registry.registerUnavailable first = .ok placed)
    (hne : name ≠ first) : placed.contains name = registry.contains name := by
  show (placed.registered? name).isSome = (registry.registered? name).isSome
  rw [registered?_register hplaced name, if_neg hne]

/-- A pass over a list fills the gaps and counts them; no placeholder is refused. -/
theorem registerPlaceholders_eq (hnodup : names.Nodup) (registry : Registry ν) (added : Nat) :
    ∃ after, registerPlaceholders names registry added =
        .ok (after, added + names.countP fun name => !registry.contains name) ∧
      Fills names registry after := by
  induction names generalizing registry added with
  | nil => exact ⟨registry, rfl, .nil registry⟩
  | cons first rest ih =>
    obtain ⟨hfirst, hrest⟩ := List.nodup_cons.1 hnodup
    cases hregistered : registry.contains first with
    | true =>
      obtain ⟨after, hafter, hfills⟩ := ih hrest registry added
      refine ⟨after, ?_, hfills.skip hregistered⟩
      rw [registerPlaceholders_of_registered hregistered, hafter, List.countP_cons_of_neg]
      simp [hregistered]
    | false =>
      obtain ⟨placed, hplaced, hpass⟩ := registerPlaceholders_of_free hregistered rest added
      obtain ⟨after, hafter, hfills⟩ := ih hrest placed (added + 1)
      refine ⟨after, ?_, hfills.place hregistered hplaced⟩
      -- The name that has just been taken does not come again, so the rest is counted as before.
      have hcount : (rest.countP fun name => !placed.contains name) =
          rest.countP fun name => !registry.contains name := by
        refine List.countP_congr fun name hname => ?_
        rw [contains_of_registerUnavailable hplaced (ne_of_mem_of_not_mem hname hfirst)]
      rw [hpass, hafter, hcount, List.countP_cons_of_pos, Nat.add_assoc, Nat.add_comm 1]
      simp [hregistered]

/-- A pass over names that are all registered changes nothing. -/
theorem registerPlaceholders_of_contains (h : ∀ name ∈ names, registry.contains name = true) (added : Nat) :
    registerPlaceholders names registry added = .ok (registry, added) := by
  induction names with
  | nil => rfl
  | cons first rest ih =>
    obtain ⟨hfirst, hrest⟩ := List.forall_mem_cons.1 h
    rw [registerPlaceholders_of_registered hfirst]
    exact ih hrest

/-! ### What a catalog misses -/

theorem lacks_iff : registry.Lacks catalog name ↔
    name ∈ catalog.missing ∧ registry.contains name = false := by
  rw [Lacks, Catalog.mem_missing_iff, contains_eq_false_iff, and_assoc]

/-- As many names are lacked as a pass over what the catalog misses counts. -/
theorem encard_lacks (registry : Registry ν) (catalog : Catalog) :
    {name | registry.Lacks catalog name}.encard =
      (catalog.missing.toList.countP fun name => !registry.contains name : ℕ) := by
  have hlisted : {name | registry.Lacks catalog name} =
      (catalog.missing.toList.filter fun name => !registry.contains name).toFinset := by
    ext name
    simp [lacks_iff]
  rw [hlisted, Set.encard_coe_eq_coe_finsetCard, List.countP_eq_length_filter,
    List.toFinset_card_of_nodup (catalog.missing.nodup_toList.filter _)]

/-- What placeholders for a catalog do to a registry. -/
structure Supplies (registry : Registry ν) (catalog : Catalog) (after : Registry ν) (added : Nat) : Prop where
  /-- As many placeholders are added as names are lacked. -/
  counted : {name | registry.Lacks catalog name}.encard = added
  /-- What is lacked is unavailable from then on. -/
  unavailable : ∀ name, registry.Lacks catalog name → after.registered? name = some .placeholder
  /-- What is not lacked is as before, be it registered or not. -/
  unchanged : ∀ name, ¬registry.Lacks catalog name → after.registered? name = registry.registered? name
  /-- What is registered stays, with its initializer and the value that it has built. -/
  kept : ∀ name entry, registry.registered? name = some entry → after.registered? name = some entry
  /-- Nothing that some feature set would use is left open: it is in the catalog, or it is registered. -/
  covered : ∀ name, catalog.Wants name → catalog.get? name = none → after.contains name = true
  /-- The same constructions are running. -/
  running : after.running = registry.running
  /-- Nothing is said to have happened. -/
  history : after.history = registry.history

theorem Fills.supplies (h : Fills catalog.missing.toList registry after) :
    registry.Supplies catalog after (catalog.missing.toList.countP fun name => !registry.contains name) where
  counted := encard_lacks registry catalog
  unavailable name hlacks := by
    have hmissing : name ∈ catalog.missing.toList := (lacks_iff.1 hlacks).1
    have hfree := registered?_eq_none_iff.2 (lacks_iff.1 hlacks).2
    rw [h.registered?_eq name, hfree, Option.none_or, if_pos hmissing]
  unchanged name hlacks := by
    cases hentry : registry.registered? name with
    | some entry => exact h.registered?_of_registered? hentry
    | none =>
      have hmissing : name ∉ catalog.missing.toList := fun hmem =>
        hlacks (lacks_iff.2 ⟨hmem, registered?_eq_none_iff.1 hentry⟩)
      rw [h.registered?_eq name, hentry, Option.none_or, if_neg hmissing]
  kept name entry hentry := h.registered?_of_registered? hentry
  covered name hwants hnone := h.contains (Catalog.mem_missing_iff.2 ⟨hwants, hnone⟩)
  running := h.running
  history := h.history

/-- Placeholders for what a catalog misses are never refused.  They are added for the names that are lacked, and nothing
else changes; and the same again adds none and changes nothing. -/
theorem registerMissing_exact (registry : Registry ν) (catalog : Catalog) :
    ∃ after added, registry.registerMissing catalog = .ok (after, added) ∧
      registry.Supplies catalog after added ∧ after.registerMissing catalog = .ok (after, 0) := by
  obtain ⟨after, hpass, hfills⟩ := registerPlaceholders_eq catalog.missing.nodup_toList registry 0
  refine ⟨after, _, hpass, ?_, ?_⟩
  · rw [Nat.zero_add]
    exact hfills.supplies
  · exact registerPlaceholders_of_contains (fun name hname => hfills.contains hname) 0

/-- A feature set that would use one that is there and two that are not. -/
def theaterFeatureSet : FeatureSet where
  name := "theater"
  hasSubsystem := true
  softRequirements := .ofList ["audio", "lights", "vr"]

/-- A feature set without a subsystem, which would use one of those as well. -/
def lightsFeatureSet : FeatureSet where
  name := "lights"
  softRequirements := .ofList ["vr"]

/-- The catalog of the two. -/
def theaterCatalog : Catalog :=
  ⟨NameMap.ofList [("lights", lightsFeatureSet), ("theater", theaterFeatureSet)]⟩

/-- A registry in which one of the names that are not there has been built on request. -/
def theaterRegistry : Registry Nat where
  entries := .ofList [("audio", ⟨"Audio", .deferred "Audio" (fun runs => .done runs) 1 (some 1)⟩)]

/-- One placeholder is added, for the name that two feature sets would use; the one that is built stays, and the one
that is in the catalog is not registered. -/
theorem registerMissing_exact_theater :
    ∃ after, theaterRegistry.registerMissing theaterCatalog = .ok (after, 1) ∧
      {name | theaterRegistry.Lacks theaterCatalog name}.encard = 1 ∧
      after.registered? "vr" = some .placeholder ∧
      after.registered? "audio" = theaterRegistry.registered? "audio" ∧
      after.registered? "lights" = none ∧ after.registerMissing theaterCatalog = .ok (after, 0) := by
  obtain ⟨after, added, hadded, hsupplies, hagain⟩ := registerMissing_exact theaterRegistry theaterCatalog
  have hone : (theaterRegistry.registerMissing theaterCatalog).map Prod.snd = .ok 1 := by rfl
  rw [hadded] at hone
  obtain rfl := Except.ok.inj hone
  have hvr : theaterRegistry.Lacks theaterCatalog "vr" :=
    ⟨⟨"lights", lightsFeatureSet, rfl, by decide +kernel⟩, rfl, rfl⟩
  have hlights : ¬theaterRegistry.Lacks theaterCatalog "lights" := fun hlacks => by cases hlacks.2.1
  exact ⟨after, hadded, hsupplies.counted, hsupplies.unavailable "vr" hvr, hsupplies.kept "audio" _ rfl,
    hsupplies.unchanged "lights" hlights, hagain⟩

end Scaffold.Registry
