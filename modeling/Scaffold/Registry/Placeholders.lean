import Scaffold.FeatureSet.Catalog
import Scaffold.Registry.Basic

/-!
# Placeholders for missing soft requirements

## Main Definitions

* `Registry.registerMissing` — registers the names that a catalog would use and does not have
-/

namespace Scaffold.Registry

variable {ν : Type}

/-- Registers as unavailable those names of a list that are not registered, and counts them. -/
def registerPlaceholders : List String → (registry : Registry ν) → (added : Nat) →
    Except RegistryError (Registry ν × Nat)
  | [], registry, added => .ok (registry, added)
  | name :: rest, registry, added =>
    if registry.contains name then registerPlaceholders rest registry added
    else
      match registry.registerUnavailable name with
      | .error error => .error error
      | .ok registry => registerPlaceholders rest registry (added + 1)

section

variable {registry : Registry ν} {first : String}

/-- A name that is registered is passed over. -/
theorem registerPlaceholders_of_registered (registered : registry.contains first = true) (rest : List String)
    (added : Nat) :
    registerPlaceholders (first :: rest) registry added = registerPlaceholders rest registry added := by
  rw [registerPlaceholders, if_pos registered]

/-- A name that is not registered gets a placeholder, which is not refused. -/
theorem registerPlaceholders_of_free (free : registry.contains first = false) (rest : List String) (added : Nat) :
    ∃ placed, registry.registerUnavailable first = .ok placed ∧
      registerPlaceholders (first :: rest) registry added = registerPlaceholders rest placed (added + 1) := by
  obtain ⟨placed, hplaced⟩ := exists_register free .placeholder
  have hunavailable : registry.registerUnavailable first = .ok placed := hplaced
  refine ⟨placed, hunavailable, ?_⟩
  rw [registerPlaceholders, free, hunavailable]
  rfl

end

/-- Registers as unavailable the missing soft requirements of a catalog, unless they are registered;
with the number of names that were added. -/
def registerMissing (registry : Registry ν) (catalog : Catalog) :
    Except RegistryError (Registry ν × Nat) :=
  registerPlaceholders catalog.missing.toList registry 0

end Scaffold.Registry
