import Scaffold.Proofs.FeatureSet.Insertion

/-!
# Which names have accessors, and what these tell

The names that may have an accessor come from two sides, the feature sets of a catalog and the names that they would
use.  A name may come from both, from several feature sets, or from a feature set that would use itself; it is looked
up once, and what the catalog has under it decides.

## Main Definitions

* `Catalog.Wants` — some feature set of a catalog would use a name
* `Accessor.Tells` — an accessor tells what a catalog has under its name

## Main Statements

* `Catalog.mem_accessors_iff` — an accessor is listed when it is the one for its name
* `Catalog.exists_mem_accessors_iff` — which names have one
* `Catalog.accessors_exact` — which accessors there are, in which order, and what they tell
-/

namespace Scaffold

namespace Catalog

variable {catalog : Catalog} {name : String} {accessor : Accessor}

/-- Some feature set of the catalog would use a name. -/
def Wants (catalog : Catalog) (name : String) : Prop :=
  ∃ owner featureSet, catalog.get? owner = some featureSet ∧ name ∈ featureSet.softRequirements

/-- The feature sets of a catalog are those that are found in it. -/
theorem mem_toList_iff {featureSet : FeatureSet} :
    featureSet ∈ catalog.toList ↔ ∃ owner, catalog.get? owner = some featureSet := by
  rw [toList, NameMap.values, List.mem_map]
  constructor
  · rintro ⟨⟨owner, _⟩, hmem, rfl⟩
    exact ⟨owner, NameMap.get?_eq_some_iff.2 hmem⟩
  · rintro ⟨owner, hfound⟩
    exact ⟨(owner, featureSet), NameMap.get?_eq_some_iff.1 hfound, rfl⟩

/-- A name is missing when some feature set would use it and there is none of that name. -/
theorem mem_missing_iff : name ∈ catalog.missing ↔ catalog.Wants name ∧ catalog.get? name = none := by
  rw [mem_missing, get?_eq_none_iff]
  refine and_congr_left fun _ => ?_
  constructor
  · rintro ⟨featureSet, hmem, hname⟩
    obtain ⟨owner, hfound⟩ := mem_toList_iff.1 hmem
    exact ⟨owner, featureSet, hfound, hname⟩
  · rintro ⟨owner, featureSet, hfound, hname⟩
    exact ⟨featureSet, mem_toList_iff.2 ⟨owner, hfound⟩, hname⟩

/-! ### The accessor for a name -/

/-- The accessor for a name has that name. -/
theorem name_of_accessor? (h : catalog.accessor? name = some accessor) : accessor.name = name := by
  unfold accessor? at h
  split at h
  · cases h
    rfl
  · split at h
    · cases h
      rfl
    · cases h

/-- The feature set of a name has no accessor unless it contributes a subsystem. -/
theorem hasSubsystem_of_accessor? {featureSet : FeatureSet} (hfound : catalog.get? name = some featureSet)
    (h : catalog.accessor? name = some accessor) : featureSet.hasSubsystem = true := by
  rw [accessor?_of_get? hfound] at h
  split at h
  · assumption
  · cases h

/-- The accessor for a name is listed when the name is in the catalog or missing. -/
theorem mem_accessors_of_accessor? (hname : name ∈ catalog.names ∨ name ∈ catalog.missing)
    (h : catalog.accessor? name = some accessor) : accessor ∈ catalog.accessors :=
  List.mem_filterMap.2 ⟨name, NameSet.mem_union.2 hname, h⟩

/-- No other accessors are listed. -/
theorem mem_accessors_iff : accessor ∈ catalog.accessors ↔
    (accessor.name ∈ catalog.names ∨ accessor.name ∈ catalog.missing) ∧
      catalog.accessor? accessor.name = some accessor := by
  constructor
  · intro hmem
    obtain ⟨name, hname, h⟩ := List.mem_filterMap.1 hmem
    obtain rfl := name_of_accessor? h
    exact ⟨NameSet.mem_union.1 hname, h⟩
  · rintro ⟨hname, h⟩
    exact mem_accessors_of_accessor? hname h

/-- Accessors are listed in ascending order of their names, so that no name has two. -/
theorem pairwise_accessors (catalog : Catalog) : catalog.accessors.Pairwise fun a b => a.name < b.name := by
  rw [accessors, List.pairwise_filterMap]
  refine List.Pairwise.imp ?_ (catalog.names.union catalog.missing).sorted
  intro name other hlt a ha b hb
  rw [name_of_accessor? ha, name_of_accessor? hb]
  exact hlt

/-- A name has an accessor when its feature set contributes a subsystem, or when there is no feature set of that name
and some other would use it. -/
theorem exists_mem_accessors_iff : (∃ accessor ∈ catalog.accessors, accessor.name = name) ↔
    catalog.Contributes name ∨ catalog.get? name = none ∧ catalog.Wants name := by
  constructor
  · rintro ⟨accessor, hmem, rfl⟩
    obtain ⟨hname, h⟩ := mem_accessors_iff.1 hmem
    cases hfound : catalog.get? accessor.name with
    | none =>
      have hmissing := hname.resolve_left (get?_eq_none_iff.1 hfound)
      exact .inr ⟨rfl, (mem_missing_iff.1 hmissing).1⟩
    | some featureSet => exact .inl ⟨featureSet, hfound, hasSubsystem_of_accessor? hfound h⟩
  · rintro (⟨featureSet, hfound, hsubsystem⟩ | ⟨hnone, hwants⟩)
    · have hname : name ∈ catalog.names := mem_names_iff.2 ⟨featureSet, hfound⟩
      have haccessor := accessor?_of_get? hfound
      rw [if_pos hsubsystem] at haccessor
      exact ⟨_, mem_accessors_of_accessor? (.inl hname) haccessor, rfl⟩
    · have hname : name ∈ catalog.missing := mem_missing_iff.2 ⟨hwants, hnone⟩
      have haccessor := accessor?_of_notMem (get?_eq_none_iff.1 hnone)
      exact ⟨_, mem_accessors_of_accessor? (.inr hname) haccessor, rfl⟩

end Catalog

/-- An accessor tells what a catalog has under its name. -/
structure Accessor.Tells (accessor : Accessor) (catalog : Catalog) : Prop where
  /-- It is optional when there is a feature set that others may do without. -/
  optional_iff : accessor.kind = .optional ↔ ∃ featureSet,
    catalog.get? accessor.name = some featureSet ∧ featureSet.allowAsSoftRequirement = true
  /-- It is required when there is one that they may not do without. -/
  required_iff : accessor.kind = .required ↔ ∃ featureSet,
    catalog.get? accessor.name = some featureSet ∧ featureSet.allowAsSoftRequirement = false
  /-- It is unavailable when there is none. -/
  unavailable_iff : accessor.kind = .unavailable ↔ catalog.get? accessor.name = none
  /-- There is no subsystem behind it exactly when it is unavailable. -/
  subsystem_eq_none_iff : accessor.subsystem = none ↔ accessor.kind = .unavailable
  /-- The subsystem behind it has the name of the accessor and the class name that is made from it, the package that is
  given, even if it is empty, and else the name, and the flag of the feature set. -/
  subsystem_eq : ∀ subsystem, accessor.subsystem = some subsystem →
    ∃ featureSet, catalog.get? accessor.name = some featureSet ∧ subsystem = {
      name := accessor.name
      className := Text.pascalCase accessor.name ++ "Subsystem"
      package := featureSet.packageName.getD accessor.name
      allowAsSoftRequirement := featureSet.allowAsSoftRequirement }

namespace Catalog

variable {catalog : Catalog} {name : String} {accessor : Accessor}

/-- The accessor for a name tells what the catalog has under it. -/
theorem tells_of_accessor? (keyed : catalog.Keyed) (h : catalog.accessor? accessor.name = some accessor) :
    accessor.Tells catalog := by
  cases hfound : catalog.get? accessor.name with
  | none =>
    rw [accessor?_of_notMem (get?_eq_none_iff.1 hfound)] at h
    obtain ⟨_, kind, subsystem⟩ := accessor
    cases h
    exact {
      optional_iff := by simp [hfound]
      required_iff := by simp [hfound]
      unavailable_iff := by simp [hfound]
      subsystem_eq_none_iff := by simp
      subsystem_eq := fun subsystem h => by cases h }
  | some featureSet =>
    have hname := keyed _ _ hfound
    have hsubsystem := hasSubsystem_of_accessor? hfound h
    rw [accessor?_of_get? hfound, if_pos hsubsystem] at h
    obtain ⟨_, kind, subsystem⟩ := accessor
    cases h
    exact {
      optional_iff := by simp [hfound]
      required_iff := by simp [hfound]
      unavailable_iff := by
        rw [hfound]
        split <;> simp
      subsystem_eq_none_iff := by
        split <;> simp
      subsystem_eq := fun subsystem h => by
        cases h
        subst hname
        exact ⟨featureSet, hfound, rfl⟩ }

/-- Accessors are exact: they stand in ascending order, one for each name that has a subsystem, and one for each name
that some feature set would use and that is not in the catalog; and each tells what the catalog has under its name.
So a feature set without a subsystem has none, whoever would use it. -/
theorem accessors_exact (reachable : catalog.Reachable) :
    (catalog.accessors.Pairwise fun a b => a.name < b.name) ∧
    (∀ name, (∃ accessor ∈ catalog.accessors, accessor.name = name) ↔
      catalog.Contributes name ∨ catalog.get? name = none ∧ catalog.Wants name) ∧
    (∀ accessor ∈ catalog.accessors, accessor.Tells catalog) ∧
    ∀ name featureSet, catalog.get? name = some featureSet → featureSet.hasSubsystem = false →
      ∀ accessor ∈ catalog.accessors, accessor.name ≠ name := by
  refine ⟨pairwise_accessors catalog, fun name => exists_mem_accessors_iff, ?_, ?_⟩
  · intro accessor hmem
    exact tells_of_accessor? reachable.keyed (mem_accessors_iff.1 hmem).2
  · rintro name featureSet hfound hplain accessor hmem rfl
    have hsubsystem := hasSubsystem_of_accessor? hfound (mem_accessors_iff.1 hmem).2
    rw [hplain] at hsubsystem
    cases hsubsystem

/-- A feature set that others may do without, with a package that is given and empty; it would use itself. -/
def cacheFeatureSet : FeatureSet where
  name := "cache"
  hasSubsystem := true
  softRequirements := .ofList ["cache", "docs"]
  allowAsSoftRequirement := true
  packageName := some ""

/-- A feature set without a subsystem, which another would use. -/
def docsFeatureSet : FeatureSet where
  name := "docs"
  softRequirements := .ofList ["cloud"]

/-- A feature set that would use one that is missing, which another would use as well. -/
def viewFeatureSet : FeatureSet where
  name := "view_v1"
  hasSubsystem := true
  softRequirements := .ofList ["cloud", "docs"]

/-- The catalog of the three. -/
def viewCatalog : Catalog :=
  ⟨NameMap.ofList [("cache", cacheFeatureSet), ("docs", docsFeatureSet), ("view_v1", viewFeatureSet)]⟩

/-- Of the three one is optional and one required, the third has no accessor, and the missing one has one. -/
theorem accessors_exact_view :
    ofList [viewFeatureSet, docsFeatureSet, cacheFeatureSet] = .ok viewCatalog ∧ viewCatalog.Reachable ∧
      viewCatalog.accessors = [
        ⟨"cache", .optional, some ⟨"cache", "CacheSubsystem", "", true⟩⟩,
        ⟨"cloud", .unavailable, none⟩,
        ⟨"view_v1", .required, some ⟨"view_v1", "ViewV1Subsystem", "view_v1", false⟩⟩] ∧
      (⟨"cloud", .unavailable, none⟩ : Accessor).Tells viewCatalog ∧
      ∀ accessor ∈ viewCatalog.accessors, accessor.name ≠ "docs" := by
  have hbuilt : ofList [viewFeatureSet, docsFeatureSet, cacheFeatureSet] = .ok viewCatalog := rfl
  have hreachable := reachable_of_ofList hbuilt
  have haccessors : viewCatalog.accessors = [
      ⟨"cache", .optional, some ⟨"cache", "CacheSubsystem", "", true⟩⟩,
      ⟨"cloud", .unavailable, none⟩,
      ⟨"view_v1", .required, some ⟨"view_v1", "ViewV1Subsystem", "view_v1", false⟩⟩] := by decide +kernel
  obtain ⟨-, -, htells, hplain⟩ := accessors_exact hreachable
  exact ⟨hbuilt, hreachable, haccessors, htells _ (by rw [haccessors]; simp),
    hplain "docs" docsFeatureSet rfl rfl⟩

end Catalog

end Scaffold
