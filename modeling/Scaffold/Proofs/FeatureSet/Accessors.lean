import Mathlib.Data.List.Basic
import Scaffold.FeatureSet.Catalog

/-!
# Accessors and what they are made from

Each name of a catalog, and each missing name, is looked at once for its accessor.  So the accessors can be read
in two ways: those with a subsystem are the subsystems of the catalog, and those that are unavailable are the
missing names, each in ascending order.

## Main Statements

* `Catalog.mem_missing` — which names are missing
* `Catalog.filterMap_subsystem_accessors` — the subsystems of the accessors are those of the catalog
* `Catalog.map_name_filter_accessors` — the unavailable accessors are those of the missing names
-/

namespace Scaffold

namespace Catalog

variable {catalog : Catalog} {name : String}

theorem contains_iff : catalog.contains name = true ↔ name ∈ catalog.names :=
  NameMap.contains_iff

theorem mem_names_iff : name ∈ catalog.names ↔ ∃ featureSet, catalog.get? name = some featureSet :=
  NameMap.mem_names_iff

/-- A missing name is one that some feature set would use and that is not in the catalog. -/
theorem mem_missing :
    name ∈ catalog.missing ↔
      (∃ featureSet ∈ catalog.toList, name ∈ featureSet.softRequirements) ∧ name ∉ catalog.names := by
  rw [missing, NameSet.mem_ofList, List.mem_filter, List.mem_flatMap, Bool.not_eq_true', ← contains_iff,
    Bool.not_eq_true]
  rfl

theorem get?_eq_none_iff : catalog.get? name = none ↔ name ∉ catalog.names :=
  NameMap.get?_eq_none_iff

/-- A name that is not in the catalog has an accessor without a subsystem. -/
theorem accessor?_of_notMem (h : name ∉ catalog.names) :
    catalog.accessor? name = some ⟨name, .unavailable, none⟩ := by
  rw [accessor?, get?_eq_none_iff.2 h]

/-- A name in the catalog has an accessor if its feature set contributes a subsystem. -/
theorem accessor?_of_get? {featureSet : FeatureSet} (h : catalog.get? name = some featureSet) :
    catalog.accessor? name =
      if featureSet.hasSubsystem then
        some ⟨name, if featureSet.allowAsSoftRequirement then .optional else .required,
          some featureSet.subsystem⟩
      else none := by
  rw [accessor?, h]

/-- The names with an accessor that are in the catalog are the names of the catalog. -/
theorem filter_contains_union :
    (catalog.names.union catalog.missing).filter catalog.contains = catalog.names := by
  refine NameSet.ext_mem fun name => ?_
  rw [NameSet.mem_filter, contains_iff, NameSet.mem_union]
  exact ⟨And.right, fun hmem => ⟨.inl hmem, hmem⟩⟩

/-- The others are the missing names. -/
theorem filter_not_contains_union :
    (catalog.names.union catalog.missing).filter (!catalog.contains ·) = catalog.missing := by
  refine NameSet.ext_mem fun name => ?_
  rw [NameSet.mem_filter, Bool.not_eq_true', ← Bool.not_eq_true, contains_iff, NameSet.mem_union]
  constructor
  · rintro ⟨hmem, hnot⟩
    exact hmem.resolve_left hnot
  · intro hmem
    exact ⟨.inr hmem, (mem_missing.1 hmem).2⟩

/-- The subsystems of the accessors, in their order, are the subsystems of the catalog. -/
theorem filterMap_subsystem_accessors :
    catalog.accessors.filterMap Accessor.subsystem = catalog.subsystems := by
  have houtside : ∀ name, (catalog.accessor? name).bind Accessor.subsystem =
      if catalog.contains name = true then (catalog.accessor? name).bind Accessor.subsystem
      else none := by
    intro name
    by_cases hmem : catalog.contains name = true
    · rw [if_pos hmem]
    · rw [if_neg hmem, accessor?_of_notMem (mt contains_iff.2 hmem)]
      rfl
  have hentry : ∀ entry ∈ catalog.featureSets.toList,
      (catalog.accessor? entry.1).bind Accessor.subsystem =
        if entry.2.hasSubsystem = true then some entry.2.subsystem else none := by
    intro entry hmem
    rw [accessor?_of_get? (NameMap.get?_eq_some_iff.2 hmem)]
    cases entry.2.hasSubsystem <;> rfl
  calc catalog.accessors.filterMap Accessor.subsystem
      = (catalog.names.union catalog.missing).toList.filterMap fun name =>
          (catalog.accessor? name).bind Accessor.subsystem := by
        rw [accessors, List.filterMap_filterMap]
    _ = ((catalog.names.union catalog.missing).filter catalog.contains).toList.filterMap fun name =>
          (catalog.accessor? name).bind Accessor.subsystem := by
        rw [NameSet.filter, List.filterMap_filter]
        exact List.filterMap_congr fun name _ => houtside name
    _ = catalog.featureSets.toList.filterMap fun entry =>
          (catalog.accessor? entry.1).bind Accessor.subsystem := by
        rw [filter_contains_union, names, NameMap.names, List.filterMap_map]
        rfl
    _ = catalog.featureSets.toList.filterMap fun entry =>
          if entry.2.hasSubsystem = true then some entry.2.subsystem else none :=
        List.filterMap_congr hentry
    _ = catalog.subsystems := by
        rw [subsystems, contributors, toList, NameMap.values, ← List.filterMap_eq_map,
          List.filterMap_filter, List.filterMap_map]
        rfl

/-- The names of the accessors that are unavailable, in their order, are the missing names. -/
theorem map_name_filter_accessors :
    (catalog.accessors.filter (·.kind = .unavailable)).map Accessor.name = catalog.missing.toList := by
  have hname : ∀ name, ((catalog.accessor? name).filter (·.kind = .unavailable)).map Accessor.name =
      Option.guard (!catalog.contains ·) name := by
    intro name
    cases hfound : catalog.get? name with
    | none =>
      have hmem := get?_eq_none_iff.1 hfound
      have hnot : catalog.contains name = false := by
        rw [← Bool.not_eq_true, contains_iff]
        exact hmem
      rw [accessor?_of_notMem hmem]
      simp [Option.guard, hnot]
    | some featureSet =>
      have hmem : catalog.contains name = true := Option.isSome_iff_exists.2 ⟨featureSet, hfound⟩
      rw [accessor?_of_get? hfound]
      cases featureSet.hasSubsystem <;> cases featureSet.allowAsSoftRequirement <;>
        simp [Option.guard, hmem]
  calc (catalog.accessors.filter (·.kind = .unavailable)).map Accessor.name
      = (catalog.names.union catalog.missing).toList.filterMap (Option.guard (!catalog.contains ·)) := by
        rw [accessors, List.filter_filterMap, List.map_filterMap]
        exact List.filterMap_congr fun name _ => hname name
    _ = ((catalog.names.union catalog.missing).filter (!catalog.contains ·)).toList := by
        rw [List.filterMap_eq_filter, NameSet.filter]
    _ = catalog.missing.toList := by rw [filter_not_contains_union]

end Catalog

end Scaffold
