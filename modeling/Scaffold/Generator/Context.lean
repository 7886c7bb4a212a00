import Scaffold.FeatureSet.Catalog

/-!
# The context of templates

## Main Definitions

* `AppContext` — what the template of a section can refer to
* `AppContext.ofCatalog` — the context of a catalog
* `AppContext.toJson` — its JSON form, which templates read
-/

namespace Scaffold

/-- What the template of a section can refer to. -/
structure AppContext where
  /-- The subsystems in ascending order of their names. -/
  subsystems : List Subsystem
  /-- The accessors in ascending order of their names. -/
  accessors : List Accessor
  /-- The names of the subsystems in the order of their creation. -/
  initOrder : List String
  /-- The names that some feature set would use and that are not part of the project. -/
  missing : List String
  /-- The names of all feature sets in ascending order. -/
  featureSets : List String
  /-- For each feature set that it is there. -/
  present : NameMap Bool
  deriving DecidableEq

namespace AppContext

/-- The context of a catalog; none if the dependencies of subsystems are circular. -/
def ofCatalog (catalog : Catalog) : Except Ordering.Cycle AppContext := do
  let order ← catalog.initOrder
  return {
    subsystems := catalog.subsystems
    accessors := catalog.accessors
    initOrder := order.names
    missing := catalog.missing.toList
    featureSets := catalog.names.toList
    present := NameMap.ofList (catalog.names.toList.map (·, true)) }

/-- Encodes a context as an object. -/
def toJson (context : AppContext) : Json :=
  .ofFields
    [("subsystems", .array (context.subsystems.map Subsystem.toJson)),
      ("accessors", .array (context.accessors.map Accessor.toJson)),
      ("init_order", .ofStrings context.initOrder),
      ("missing_soft_requirements", .ofStrings context.missing),
      ("feature_sets", .ofStrings context.featureSets),
      ("present", .ofMap (context.present.map .bool))]

end AppContext

end Scaffold
