import Scaffold.FeatureSet.Catalog
import Scaffold.Proofs.Ordering.Locality
import Scaffold.Proofs.Ordering.Outcome

/-!
# The components of a catalog

The dependency map of a catalog is built by declaring its contributors one after the other.  In a catalog that
has been built by insertions each feature set stands under its own name, so that no declaration replaces another,
and the map has for each contributor the dependencies that the feature set names.

## Main Definitions

* `Catalog.Keyed` — each feature set stands under its own name
* `Catalog.Contributes`, `Catalog.Requires` — which names have a subsystem, and which of these need which

## Main Statements

* `Catalog.dependencies?_dependencyMap` — what the dependency map of a catalog declares
* `Catalog.dependsOn_dependencyMap` — its dependencies are those between names with a subsystem
-/

namespace Scaffold

namespace Ordering.DependencyMap

variable {declarations : List (String × List String)} {name : String}

/-- Where no component is declared twice, the map has what is declared. -/
theorem dependencies?_ofList_eq_some_iff (hnodup : (declarations.map Prod.fst).Nodup)
    {declared : NameSet} :
    (ofList declarations).dependencies? name = some declared ↔
      ∃ dependencies, (name, dependencies) ∈ declarations ∧ declared = NameSet.ofList dependencies := by
  rw [dependencies?_ofList, Option.map_eq_some_iff]
  simp only [lastDeclared?_eq_some_iff hnodup, eq_comm]

end Ordering.DependencyMap

namespace Catalog

open Relation

variable {catalog : Catalog} {featureSet : FeatureSet} {name : String}

/-- Each feature set stands under its own name. -/
def Keyed (catalog : Catalog) : Prop :=
  ∀ name featureSet, catalog.get? name = some featureSet → featureSet.name = name

/-- Contributors are found under their names. -/
theorem mem_contributors (h : catalog.Keyed) :
    featureSet ∈ catalog.contributors ↔
      catalog.get? featureSet.name = some featureSet ∧ featureSet.hasSubsystem = true := by
  rw [contributors, List.mem_filter, toList, NameMap.values, List.mem_map, get?,
    NameMap.get?_eq_some_iff]
  refine and_congr_left fun _ => ⟨?_, fun hmem => ⟨_, hmem, rfl⟩⟩
  rintro ⟨⟨name, _⟩, hmem, rfl⟩
  rw [h name _ (NameMap.get?_eq_some_iff.2 hmem)]
  exact hmem

/-- No two contributors have the same name. -/
theorem nodup_map_name_contributors (h : catalog.Keyed) :
    (catalog.contributors.map FeatureSet.name).Nodup := by
  have hnames : catalog.toList.map FeatureSet.name = catalog.names.toList := by
    rw [toList, NameMap.values, List.map_map, names, NameMap.names]
    refine List.map_congr_left fun entry hmem => ?_
    exact h entry.1 entry.2 (NameMap.get?_eq_some_iff.2 hmem)
  have hsublist := (List.filter_sublist (l := catalog.toList) (p := FeatureSet.hasSubsystem)).map
    FeatureSet.name
  rw [hnames] at hsublist
  exact hsublist.nodup catalog.names.nodup_toList

/-- The dependency map of a catalog has the dependencies of each contributor under its name. -/
theorem dependencies?_dependencyMap (h : catalog.Keyed) {declared : NameSet} :
    catalog.dependencyMap.dependencies? name = some declared ↔
      ∃ featureSet, catalog.get? name = some featureSet ∧ featureSet.hasSubsystem = true ∧
        declared = featureSet.dependencies := by
  have hnodup : ((catalog.contributors.map fun featureSet =>
      (featureSet.name, featureSet.dependencies.toList)).map Prod.fst).Nodup := by
    rw [List.map_map]
    exact nodup_map_name_contributors h
  rw [dependencyMap, Ordering.DependencyMap.dependencies?_ofList_eq_some_iff hnodup]
  constructor
  · rintro ⟨dependencies, hmem, rfl⟩
    obtain ⟨featureSet, hcontributor, heq⟩ := List.mem_map.1 hmem
    cases heq
    obtain ⟨hfound, hsubsystem⟩ := (mem_contributors h).1 hcontributor
    exact ⟨featureSet, hfound, hsubsystem, NameSet.ofList_toList _⟩
  · rintro ⟨featureSet, hfound, hsubsystem, rfl⟩
    obtain rfl := h name featureSet hfound
    refine ⟨featureSet.dependencies.toList, ?_, (NameSet.ofList_toList _).symm⟩
    exact List.mem_map.2 ⟨featureSet, (mem_contributors h).2 ⟨hfound, hsubsystem⟩, rfl⟩

/-- A name has a subsystem when it is that of a feature set that contributes one. -/
def Contributes (catalog : Catalog) (name : String) : Prop :=
  ∃ featureSet, catalog.get? name = some featureSet ∧ featureSet.hasSubsystem = true

/-- One name needs another when both have a subsystem, and the feature set of the first depends on the second. -/
def Requires (catalog : Catalog) (dependent dependency : String) : Prop :=
  (∃ featureSet, catalog.get? dependent = some featureSet ∧ featureSet.hasSubsystem = true ∧
    dependency ∈ featureSet.dependencies) ∧ catalog.Contributes dependency

/-- The components of a catalog are the names that have a subsystem. -/
theorem mem_names_dependencyMap (h : catalog.Keyed) :
    name ∈ catalog.dependencyMap.names ↔ catalog.Contributes name := by
  rw [Ordering.DependencyMap.mem_names_iff]
  constructor
  · rintro ⟨declared, hdeclared⟩
    obtain ⟨featureSet, hfound, hsubsystem, -⟩ := (dependencies?_dependencyMap h).1 hdeclared
    exact ⟨featureSet, hfound, hsubsystem⟩
  · rintro ⟨featureSet, hfound, hsubsystem⟩
    exact ⟨_, (dependencies?_dependencyMap h).2 ⟨featureSet, hfound, hsubsystem, rfl⟩⟩

/-- The dependencies between components are those between names that have a subsystem. -/
theorem dependsOn_dependencyMap (h : catalog.Keyed) {dependency : String} :
    catalog.dependencyMap.DependsOn name dependency ↔ catalog.Requires name dependency := by
  rw [Ordering.DependencyMap.DependsOn, Ordering.DependencyMap.mem_present,
    mem_names_dependencyMap h]
  refine and_congr_left fun _ => ?_
  constructor
  · rintro ⟨declared, hdeclared, hmem⟩
    obtain ⟨featureSet, hfound, hsubsystem, rfl⟩ := (dependencies?_dependencyMap h).1 hdeclared
    exact ⟨featureSet, hfound, hsubsystem, hmem⟩
  · rintro ⟨featureSet, hfound, hsubsystem, hmem⟩
    exact ⟨_, (dependencies?_dependencyMap h).2 ⟨featureSet, hfound, hsubsystem, rfl⟩, hmem⟩

/-- There is no order of the subsystems exactly when their dependencies are circular. -/
theorem exists_initOrder_eq_error_iff (h : catalog.Keyed) :
    (∃ cycle, catalog.initOrder = .error cycle) ↔ ∃ name, TransGen catalog.Requires name name := by
  have hrequires : catalog.dependencyMap.DependsOn = catalog.Requires := by
    funext dependent dependency
    exact propext (dependsOn_dependencyMap h)
  rw [← hrequires]
  constructor
  · rintro ⟨cycle, hcycle⟩
    exact ⟨cycle.component, (Ordering.simple_of_resolve_eq_error hcycle).transGen⟩
  · rintro ⟨name, hcyclic⟩
    cases hordered : catalog.initOrder with
    | error cycle => exact ⟨cycle, rfl⟩
    | ok order =>
      exact absurd (Ordering.precedes_of_transGen hordered hcyclic) Ordering.InitOrder.not_precedes_self

/-- The names of the subsystems are those that have one. -/
theorem mem_map_name_subsystems (h : catalog.Keyed) :
    name ∈ catalog.subsystems.map Subsystem.name ↔ catalog.Contributes name := by
  rw [subsystems, List.map_map, List.mem_map]
  constructor
  · rintro ⟨featureSet, hmem, rfl⟩
    exact ⟨featureSet, (mem_contributors h).1 hmem⟩
  · rintro ⟨featureSet, hfound, hsubsystem⟩
    obtain rfl := h name featureSet hfound
    exact ⟨featureSet, (mem_contributors h).2 ⟨hfound, hsubsystem⟩, rfl⟩

/-- An order of the subsystems lists their names. -/
theorem perm_subsystems_of_initOrder (h : catalog.Keyed) {order : Ordering.InitOrder}
    (ordered : catalog.initOrder = .ok order) :
    order.names.Perm (catalog.subsystems.map Subsystem.name) := by
  have hnodup : (catalog.subsystems.map Subsystem.name).Nodup := by
    rw [subsystems, List.map_map]
    exact nodup_map_name_contributors h
  refine (Ordering.perm_names_of_resolve_eq_ok ordered).trans ?_
  rw [List.perm_ext_iff_of_nodup (NameSet.nodup_toList _) hnodup]
  intro name
  rw [NameSet.mem_toList, mem_names_dependencyMap h, mem_map_name_subsystems h]

end Catalog

end Scaffold
