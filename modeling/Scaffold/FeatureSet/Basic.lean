import Scaffold.Json.Record
import Scaffold.Text.Words

/-!
# Feature sets

A feature set is a named unit of functionality that may contribute one subsystem to the app.

## Main Definitions

* `FeatureSet` — a name with what it contributes and needs
* `FeatureSet.className`, `FeatureSet.package` — what is derived from it
* `Subsystem` — a subsystem as templates see it
* `Accessor` — how the app exposes a subsystem
* `FeatureSet.ofJson?`, `FeatureSet.toJson` — its JSON form
-/

namespace Scaffold

/-- A named unit of functionality. -/
structure FeatureSet where
  /-- The name, which is also that of the accessor to its subsystem. -/
  name : String
  /-- Whether it contributes a subsystem. -/
  hasSubsystem : Bool := false
  /-- Feature sets whose subsystems have to be created first. -/
  dependencies : NameSet := ∅
  /-- Feature sets that are used when they are present. -/
  softRequirements : NameSet := ∅
  /-- Whether other feature sets may do without this one. -/
  allowAsSoftRequirement : Bool := false
  /-- The package of the subsystem, if it is not the name. -/
  packageName : Option String := none
  deriving DecidableEq, Repr

/-- A subsystem as templates see it. -/
structure Subsystem where
  /-- The name of its feature set. -/
  name : String
  /-- The name of its class. -/
  className : String
  /-- The package that holds it. -/
  package : String
  /-- Whether it may be absent. -/
  allowAsSoftRequirement : Bool
  deriving DecidableEq, Repr

/-- How the app exposes a subsystem. -/
inductive AccessorKind where
  /-- It is there. -/
  | required
  /-- It is there if its package can be loaded. -/
  | optional
  /-- Some feature set would use it, and it is not part of the project. -/
  | unavailable
  deriving DecidableEq, Repr

/-- An accessor of the app. -/
structure Accessor where
  /-- The name of the accessor and of the feature set. -/
  name : String
  /-- Whether the subsystem is there. -/
  kind : AccessorKind
  /-- The subsystem, if it is part of the project. -/
  subsystem : Option Subsystem
  deriving DecidableEq, Repr

namespace FeatureSet

/-- The name in PascalCase. -/
def pascalName (featureSet : FeatureSet) : String :=
  Text.pascalCase featureSet.name

/-- The class name of the subsystem. -/
def className (featureSet : FeatureSet) : String :=
  featureSet.pascalName ++ "Subsystem"

/-- The package of the subsystem: the given one, even if it is empty, or the name. -/
def package (featureSet : FeatureSet) : String :=
  featureSet.packageName.getD featureSet.name

/-- The subsystem as templates see it. -/
def subsystem (featureSet : FeatureSet) : Subsystem :=
  { name := featureSet.name
    className := featureSet.className
    package := featureSet.package
    allowAsSoftRequirement := featureSet.allowAsSoftRequirement }

/-- The field names of the JSON form, in the order of the list form. -/
def fieldNames : List String :=
  ["name", "has_app_subsystem", "subsystem_dependencies", "soft_requirements",
    "allow_as_soft_requirement", "package_name"]

/-- Decodes a feature set; all fields but the name have defaults. -/
def ofJson? (value : Json) : Option FeatureSet := do
  let fields ← value.record? fieldNames
  return {
    name := ← fields.required "name" Json.text?
    hasSubsystem := ← fields.optional "has_app_subsystem" Json.flag? false
    dependencies := ← fields.optional "subsystem_dependencies" Json.nameSet? ∅
    softRequirements := ← fields.optional "soft_requirements" Json.nameSet? ∅
    allowAsSoftRequirement := ← fields.optional "allow_as_soft_requirement" Json.flag? false
    packageName := ← fields.optional "package_name" Json.nullableText? none }

/-- The values of the fields, in the order of `fieldNames`. -/
def fieldValues (featureSet : FeatureSet) : List Json :=
  [.string featureSet.name, .bool featureSet.hasSubsystem,
    .ofStrings featureSet.dependencies.toList, .ofStrings featureSet.softRequirements.toList,
    .bool featureSet.allowAsSoftRequirement, .ofOption featureSet.packageName]

/-- Encodes a feature set as an object. -/
def toJson (featureSet : FeatureSet) : Json :=
  .ofFields (fieldNames.zip featureSet.fieldValues)

end FeatureSet

/-- Encodes a subsystem as an object. -/
def Subsystem.toJson (subsystem : Subsystem) : Json :=
  .ofFields
    [("name", .string subsystem.name), ("class_name", .string subsystem.className),
      ("package", .string subsystem.package),
      ("allow_as_soft_requirement", .bool subsystem.allowAsSoftRequirement)]

/-- The word for a kind of accessor. -/
def AccessorKind.toText : AccessorKind → String
  | required => "required"
  | optional => "optional"
  | unavailable => "unavailable"

/-- Encodes an accessor as an object. -/
def Accessor.toJson (accessor : Accessor) : Json :=
  .ofFields
    [("name", .string accessor.name), ("kind", .string accessor.kind.toText),
      ("subsystem", (accessor.subsystem.map Subsystem.toJson).getD .null)]

end Scaffold
