import Scaffold.Generator.Context
import Scaffold.Proofs.FeatureSet.Insertion
import Scaffold.Proofs.Ordering.Outcome

/-!
# The fields of a context agree

A template may use several fields of its context side by side, so what one of them says must be what the others
say.  The fields are computed by separate passes over the catalog, and the order by a search; this module ties
them together.  The passes over subsystems, accessors and missing names are compared in
`FeatureSet.Accessors`, and the components of the search in `FeatureSet.Contributors`.

## Main Definitions

* `AppContext.Coherent` — a context whose fields agree with each other and with its catalog

## Main Statements

* `AppContext.ofCatalog_coherent` — a context is coherent, and there is one unless dependencies are circular
-/

namespace Scaffold

open Relation

namespace NameMap

variable {α : Type} {value : α}

/-- Entries with one value put that value under their names. -/
theorem get?_foldl_insert_const {names : List String} {map : NameMap α} {name : String} :
    ((names.map (·, value)).foldl (fun map entry => map.insert entry.1 entry.2) map).get? name =
      if name ∈ names then some value else map.get? name := by
  induction names generalizing map with
  | nil => rfl
  | cons first rest ih =>
    rw [List.map_cons, List.foldl_cons, ih, get?_insert]
    by_cases hrest : name ∈ rest
    · simp [hrest]
    · simp [hrest]

/-- A map of entries with one value has that value under their names, and nothing else. -/
theorem get?_ofList_const {names : List String} {name : String} :
    (ofList (names.map (·, value))).get? name = if name ∈ names then some value else none :=
  get?_foldl_insert_const

end NameMap

namespace AppContext

/-- The fields of a context agree with each other and with the catalog that it is the context of. -/
structure Coherent (catalog : Catalog) (context : AppContext) : Prop where
  /-- The subsystems are those that feature sets of the catalog contribute. -/
  subsystems_iff : ∀ subsystem, subsystem ∈ context.subsystems ↔
    ∃ featureSet, catalog.get? subsystem.name = some featureSet ∧ featureSet.hasSubsystem = true ∧
      featureSet.subsystem = subsystem
  /-- The order lists each of them once. -/
  order_perm : context.initOrder.Perm (context.subsystems.map Subsystem.name)
  /-- It lists a subsystem after those that it needs. -/
  order_respects : ∀ dependent dependency, catalog.Requires dependent dependency →
    (⟨context.initOrder⟩ : Ordering.InitOrder).precedes dependency dependent = true
  /-- What the accessors expose are the subsystems, in the same sequence. -/
  accessors_subsystem : context.accessors.filterMap Accessor.subsystem = context.subsystems
  /-- The missing names are those of the accessors that are unavailable, in the same sequence. -/
  missing_eq :
    context.missing = (context.accessors.filter (·.kind = .unavailable)).map Accessor.name
  /-- The feature sets are those of the catalog. -/
  featureSets_iff : ∀ name, name ∈ context.featureSets ↔ catalog.contains name = true
  /-- They are listed in ascending order, and none is listed twice. -/
  featureSets_sorted : context.featureSets.Pairwise (· < ·)
  /-- Exactly they are marked as present. -/
  present_get? : ∀ name, context.present.get? name =
    if name ∈ context.featureSets then some true else none
  /-- None of them is missing. -/
  disjoint : ∀ name ∈ context.featureSets, name ∉ context.missing

variable {catalog : Catalog} {context : AppContext}

/-- A context belongs to an order of the subsystems. -/
theorem exists_initOrder_of_ofCatalog (h : ofCatalog catalog = .ok context) :
    ∃ order, catalog.initOrder = .ok order ∧ context = {
      subsystems := catalog.subsystems
      accessors := catalog.accessors
      initOrder := order.names
      missing := catalog.missing.toList
      featureSets := catalog.names.toList
      present := NameMap.ofList (catalog.names.toList.map (·, true)) } := by
  unfold ofCatalog at h
  cases hordered : catalog.initOrder with
  | error cycle =>
    rw [hordered] at h
    cases h
  | ok order =>
    rw [hordered] at h
    cases h
    exact ⟨order, rfl, rfl⟩

/-- There is no context exactly when there is no order of the subsystems. -/
theorem ofCatalog_eq_error_iff {cycle : Ordering.Cycle} :
    ofCatalog catalog = .error cycle ↔ catalog.initOrder = .error cycle := by
  unfold ofCatalog
  cases catalog.initOrder with
  | error cycle' => exact ⟨fun h => (by cases h; rfl), fun h => (by cases h; rfl)⟩
  | ok order => exact ⟨fun h => (by cases h), fun h => (by cases h)⟩

/-- The context of a catalog is coherent. -/
theorem coherent_of_ofCatalog (keyed : catalog.Keyed) (h : ofCatalog catalog = .ok context) :
    context.Coherent catalog := by
  obtain ⟨order, hordered, rfl⟩ := exists_initOrder_of_ofCatalog h
  exact {
    subsystems_iff := fun subsystem => by
      rw [Catalog.subsystems, List.mem_map]
      constructor
      · rintro ⟨featureSet, hmem, rfl⟩
        obtain ⟨hfound, hsubsystem⟩ := (Catalog.mem_contributors keyed).1 hmem
        exact ⟨featureSet, hfound, hsubsystem, rfl⟩
      · rintro ⟨featureSet, hfound, hsubsystem, rfl⟩
        exact ⟨featureSet, (Catalog.mem_contributors keyed).2 ⟨hfound, hsubsystem⟩, rfl⟩
    order_perm := Catalog.perm_subsystems_of_initOrder keyed hordered
    order_respects := fun dependent dependency hrequires =>
      Ordering.precedes_of_dependsOn hordered ((Catalog.dependsOn_dependencyMap keyed).2 hrequires)
    accessors_subsystem := Catalog.filterMap_subsystem_accessors
    missing_eq := Catalog.map_name_filter_accessors.symm
    featureSets_iff := fun name => Catalog.contains_iff.symm
    featureSets_sorted := catalog.names.sorted
    present_get? := fun name => NameMap.get?_ofList_const
    disjoint := fun name hname hmissing => (Catalog.mem_missing.1 hmissing).2 hname }

/-- A catalog has a context unless the dependencies between its subsystems are circular, and the fields of the
context agree. -/
theorem ofCatalog_coherent {featureSets : List FeatureSet}
    (built : Catalog.ofList featureSets = .ok catalog) :
    ((∃ cycle, ofCatalog catalog = .error cycle) ↔ ∃ name, TransGen catalog.Requires name name) ∧
      ∀ context, ofCatalog catalog = .ok context → context.Coherent catalog := by
  have hkeyed := Catalog.keyed_of_ofList built
  refine ⟨?_, fun context h => coherent_of_ofCatalog hkeyed h⟩
  rw [← Catalog.exists_initOrder_eq_error_iff hkeyed]
  exact exists_congr fun cycle => ofCatalog_eq_error_iff

/-- A feature set that depends on one with a subsystem and on one without, and would use two others. -/
def sceneFeatureSet : FeatureSet where
  name := "scene"
  hasSubsystem := true
  dependencies := .ofList ["assets", "files"]
  softRequirements := .ofList ["assets", "vr"]

/-- A feature set that others may do without. -/
def filesFeatureSet : FeatureSet where
  name := "files"
  hasSubsystem := true
  allowAsSoftRequirement := true

/-- A feature set without a subsystem. -/
def assetsFeatureSet : FeatureSet where
  name := "assets"
  softRequirements := .ofList ["scene", "cloud"]

/-- The catalog of the three. -/
def sceneCatalog : Catalog :=
  ⟨NameMap.ofList [("assets", assetsFeatureSet), ("files", filesFeatureSet), ("scene", sceneFeatureSet)]⟩

/-- The context of the three has two subsystems and two missing names. -/
theorem ofCatalog_coherent_scene :
    Catalog.ofList [sceneFeatureSet, filesFeatureSet, assetsFeatureSet] = .ok sceneCatalog ∧
      ∃ context, ofCatalog sceneCatalog = .ok context ∧ context.initOrder = ["files", "scene"] ∧
        context.missing = ["cloud", "vr"] ∧ context.Coherent sceneCatalog := by
  have hbuilt : Catalog.ofList [sceneFeatureSet, filesFeatureSet, assetsFeatureSet] = .ok sceneCatalog :=
    rfl
  have hordered : sceneCatalog.initOrder = .ok ⟨["files", "scene"]⟩ := by cbv
  have hmissing : sceneCatalog.missing.toList = ["cloud", "vr"] := by cbv
  have hcontext : ∃ context, ofCatalog sceneCatalog = .ok context ∧
      context.initOrder = ["files", "scene"] ∧ context.missing = sceneCatalog.missing.toList := by
    unfold ofCatalog
    rw [hordered]
    exact ⟨_, rfl, rfl, rfl⟩
  obtain ⟨context, hcontext, horder, hlisted⟩ := hcontext
  exact ⟨hbuilt, context, hcontext, horder, hlisted.trans hmissing,
    (ofCatalog_coherent hbuilt).2 context hcontext⟩

end AppContext

end Scaffold
