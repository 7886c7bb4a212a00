import Scaffold.Proofs.FeatureSet.Insertion
import Scaffold.Proofs.Ordering.Locality

/-!
# What the order of subsystems depends on

The order of subsystems, or the cycle that is reported in its place, is decided by two things: which names have a
subsystem, and which of these need which.  Everything else in a catalog is without influence: feature sets without a
subsystem, soft requirements, packages, whether others may do without a feature set, and dependencies on names that
have no subsystem.

The skeleton of a catalog is what is left when all of that is taken out.

## Main Definitions

* `Catalog.skeleton` — the feature sets with a subsystem, reduced to what they need of each other

## Main Statements

* `Catalog.initOrder_congr` — catalogs whose names with a subsystem need each other alike have the same order
* `Catalog.initOrder_skeleton` — the order of a catalog is that of its skeleton
* `Catalog.order_local` — what orders depend on, for dependency maps and for catalogs
-/

namespace Scaffold

namespace Catalog

variable {a b catalog : Catalog} {name : String}

/-- Two catalogs have the same order when the same names have a subsystem and need each other alike. -/
theorem initOrder_congr (ha : a.Keyed) (hb : b.Keyed)
    (hcontributes : ∀ name, a.Contributes name ↔ b.Contributes name)
    (hrequires : ∀ dependent dependency, a.Requires dependent dependency ↔ b.Requires dependent dependency) :
    a.initOrder = b.initOrder := by
  unfold initOrder
  refine Ordering.resolve_congr (fun name => ?_) fun dependent dependency => ?_
  · rw [mem_names_dependencyMap ha, mem_names_dependencyMap hb]
    exact hcontributes name
  · rw [dependsOn_dependencyMap ha, dependsOn_dependencyMap hb]
    exact hrequires dependent dependency

/-! ## Skeletons -/

/-- Whether a name is that of a feature set that contributes a subsystem. -/
def contributes (catalog : Catalog) (name : String) : Bool :=
  (catalog.get? name).any FeatureSet.hasSubsystem

theorem contributes_iff : catalog.contributes name = true ↔ catalog.Contributes name := by
  unfold contributes Contributes
  cases catalog.get? name with
  | none => simp
  | some featureSet => simp

/-- The feature sets that contribute a subsystem, with nothing but their names and their dependencies on each
other. -/
def skeleton (catalog : Catalog) : Catalog where
  featureSets := (catalog.featureSets.filter fun _ featureSet => featureSet.hasSubsystem).map fun featureSet => {
    name := featureSet.name
    hasSubsystem := true
    dependencies := featureSet.dependencies.filter catalog.contributes }

theorem get?_skeleton_eq_some_iff {bare : FeatureSet} : catalog.skeleton.get? name = some bare ↔
    ∃ featureSet, catalog.get? name = some featureSet ∧ featureSet.hasSubsystem = true ∧ {
      name := featureSet.name
      hasSubsystem := true
      dependencies := featureSet.dependencies.filter catalog.contributes } = bare := by
  unfold skeleton get?
  rw [NameMap.get?_map, Option.map_eq_some_iff]
  simp only [NameMap.get?_filter_eq_some_iff, and_assoc]

theorem keyed_skeleton (h : catalog.Keyed) : catalog.skeleton.Keyed := by
  intro name bare hbare
  obtain ⟨featureSet, hfound, -, rfl⟩ := get?_skeleton_eq_some_iff.1 hbare
  exact h name featureSet hfound

theorem contributes_skeleton_iff : catalog.skeleton.Contributes name ↔ catalog.Contributes name := by
  constructor
  · rintro ⟨bare, hbare, -⟩
    obtain ⟨featureSet, hfound, hsubsystem, -⟩ := get?_skeleton_eq_some_iff.1 hbare
    exact ⟨featureSet, hfound, hsubsystem⟩
  · rintro ⟨featureSet, hfound, hsubsystem⟩
    exact ⟨_, get?_skeleton_eq_some_iff.2 ⟨featureSet, hfound, hsubsystem, rfl⟩, rfl⟩

theorem requires_skeleton_iff {dependent dependency : String} :
    catalog.skeleton.Requires dependent dependency ↔ catalog.Requires dependent dependency := by
  unfold Requires
  rw [contributes_skeleton_iff]
  refine and_congr_left fun hcontributes => ⟨?_, ?_⟩
  · rintro ⟨bare, hbare, -, hmem⟩
    obtain ⟨featureSet, hfound, hsubsystem, rfl⟩ := get?_skeleton_eq_some_iff.1 hbare
    exact ⟨featureSet, hfound, hsubsystem, (NameSet.mem_filter.1 hmem).1⟩
  · rintro ⟨featureSet, hfound, hsubsystem, hmem⟩
    refine ⟨_, get?_skeleton_eq_some_iff.2 ⟨featureSet, hfound, hsubsystem, rfl⟩, rfl, ?_⟩
    exact NameSet.mem_filter.2 ⟨hmem, contributes_iff.2 hcontributes⟩

/-- What is taken out of a catalog for its skeleton has no influence on the order. -/
theorem initOrder_skeleton (h : catalog.Keyed) : catalog.skeleton.initOrder = catalog.initOrder :=
  initOrder_congr (keyed_skeleton h) h (fun _ => contributes_skeleton_iff) fun _ _ => requires_skeleton_iff

/-- What orders depend on, a reported cycle included.  The order of a dependency map is decided by its components and
the dependencies that they declare on each other, so that of a list of declarations by the last ones of each
component.  The order of a catalog is decided by the names that have a subsystem and their dependencies on each
other, and the skeleton of the catalog has the same. -/
theorem order_local :
    (∀ a b : Ordering.DependencyMap, (∀ name, name ∈ a.names ↔ name ∈ b.names) →
      (∀ dependent ∈ a.names, ∀ dependency ∈ a.names,
        (a.Declares dependent dependency ↔ b.Declares dependent dependency)) →
      Ordering.resolve a = Ordering.resolve b) ∧
    (∀ a b : List (String × List String), (∀ name, name ∈ a.map Prod.fst ↔ name ∈ b.map Prod.fst) →
      (∀ dependent ∈ a.map Prod.fst, ∀ dependency ∈ a.map Prod.fst,
        (dependency ∈ (Ordering.lastDeclared? a dependent).getD [] ↔
          dependency ∈ (Ordering.lastDeclared? b dependent).getD [])) →
      Ordering.resolve (.ofList a) = Ordering.resolve (.ofList b)) ∧
    (∀ a b : Catalog, a.Reachable → b.Reachable → (∀ name, a.Contributes name ↔ b.Contributes name) →
      (∀ dependent dependency, a.Requires dependent dependency ↔ b.Requires dependent dependency) →
      a.initOrder = b.initOrder) ∧
    ∀ catalog : Catalog, catalog.Reachable → catalog.skeleton.initOrder = catalog.initOrder := by
  refine ⟨?_, ?_, ?_, ?_⟩
  · intro a b hnames hdeclares
    exact Ordering.resolve_eq_of_declares_iff hnames hdeclares
  · intro a b hnames hlisted
    apply Ordering.resolve_eq_of_declares_iff
    · simpa only [Ordering.DependencyMap.mem_names_ofList] using hnames
    · simpa only [Ordering.DependencyMap.mem_names_ofList, Ordering.DependencyMap.declares_ofList_iff] using hlisted
  · intro a b ha hb hcontributes hrequires
    exact initOrder_congr ha.keyed hb.keyed hcontributes hrequires
  · intro catalog reachable
    exact initOrder_skeleton reachable.keyed

/-- A ring of two behind a component that needs one of them. -/
def ring : List (String × List String) :=
  [("a", ["c"]), ("b", ["c"]), ("c", ["b"])]

/-- The same, declared in another order, with a declaration that is replaced and names that are no components. -/
def ringRedeclared : List (String × List String) :=
  [("c", ["a", "c"]), ("b", ["ghost", "c", "c"]), ("a", ["c"]), ("c", ["spare", "b"])]

/-- A feature set that needs one with a subsystem, one without and one that is missing. -/
def mapFeatureSet : FeatureSet where
  name := "map"
  hasSubsystem := true
  dependencies := .ofList ["absent", "guide", "tiles"]
  softRequirements := .ofList ["vr"]

/-- The feature set that it needs. -/
def tilesFeatureSet : FeatureSet where
  name := "tiles"
  hasSubsystem := true
  allowAsSoftRequirement := true
  packageName := some "tile_store"

/-- A feature set without a subsystem, which claims to need both. -/
def guideFeatureSet : FeatureSet where
  name := "guide"
  dependencies := .ofList ["map", "tiles"]

/-- The catalog of the three. -/
def mapCatalog : Catalog :=
  ⟨NameMap.ofList [("guide", guideFeatureSet), ("map", mapFeatureSet), ("tiles", tilesFeatureSet)]⟩

/-- The two with a subsystem, without all that has no influence. -/
def bareMapCatalog : Catalog :=
  ⟨NameMap.ofList [
    ("map", { name := "map", hasSubsystem := true, dependencies := .ofList ["tiles"] }),
    ("tiles", { name := "tiles", hasSubsystem := true })]⟩

/-- The ring is found alike, and the catalog has the order of what is left of it. -/
theorem order_local_bare :
    Ordering.resolve (.ofList ring) = .error ⟨"c", ["c", "b", "c"]⟩ ∧
      Ordering.resolve (.ofList ringRedeclared) = .error ⟨"c", ["c", "b", "c"]⟩ ∧
      ofList [mapFeatureSet, tilesFeatureSet, guideFeatureSet] = .ok mapCatalog ∧ mapCatalog.Reachable ∧
      mapCatalog.skeleton = bareMapCatalog ∧
      bareMapCatalog.initOrder = .ok ⟨["tiles", "map"]⟩ ∧ mapCatalog.initOrder = .ok ⟨["tiles", "map"]⟩ := by
  obtain ⟨-, hlists, -, hskeleton⟩ := order_local
  have hring : Ordering.resolve (.ofList ring) = .error ⟨"c", ["c", "b", "c"]⟩ := by cbv
  have hnames : ∀ name, name ∈ ring.map Prod.fst ↔ name ∈ ringRedeclared.map Prod.fst := by
    intro name
    simp only [ring, ringRedeclared, List.map_cons, List.map_nil, List.mem_cons, List.not_mem_nil]
    tauto
  have hsame := hlists ring ringRedeclared hnames (by decide +kernel)
  have hbuilt : ofList [mapFeatureSet, tilesFeatureSet, guideFeatureSet] = .ok mapCatalog := rfl
  have hreachable := reachable_of_ofList hbuilt
  have hbare : mapCatalog.skeleton = bareMapCatalog := by decide +kernel
  have hordered : bareMapCatalog.initOrder = .ok ⟨["tiles", "map"]⟩ := by cbv
  refine ⟨hring, hsame.symm.trans hring, hbuilt, hreachable, hbare, hordered, ?_⟩
  rw [← hskeleton mapCatalog hreachable, hbare]
  exact hordered

end Catalog

end Scaffold
