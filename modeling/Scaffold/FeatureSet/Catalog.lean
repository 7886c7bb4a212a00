import Scaffold.FeatureSet.Basic
import Scaffold.Ordering.Traversal

/-!
# Catalogs of feature sets

The feature sets that a project works with, and what they imply: which subsystems exist, which soft
requirements are missing, how each subsystem is exposed, and in which order subsystems are created.

## Main Definitions

* `Catalog` — feature sets by name
* `Catalog.insert` — adds a feature set, or tells why it cannot
* `Catalog.subsystems`, `Catalog.missing`, `Catalog.accessors` — what the catalog implies
* `Catalog.initOrder` — the order in which subsystems are created
-/

namespace Scaffold

/-- What is wrong with a feature set. -/
inductive FeatureSetProblem where
  /-- A name that it has or refers to is no name of a feature set. -/
  | invalidName (name : String)
  /-- Its name is taken. -/
  | duplicate
  deriving DecidableEq, Repr

/-- The wording of a problem. -/
def FeatureSetProblem.reason : FeatureSetProblem → String
  | invalidName name => "'" ++ name ++ "' is not a valid feature-set name"
  | duplicate => "defined more than once"

/-- A feature set that a catalog refuses. -/
structure InvalidFeatureSet where
  /-- The name of the feature set. -/
  name : String
  /-- What is wrong with it. -/
  problem : FeatureSetProblem
  deriving DecidableEq, Repr

/-- The wording of a refusal. -/
def InvalidFeatureSet.message (invalid : InvalidFeatureSet) : String :=
  "Invalid feature set '" ++ invalid.name ++ "': " ++ invalid.problem.reason

/-- Whether a character may start the name of a feature set. -/
def isNameStart (c : Char) : Bool :=
  c.isLower || c == '_'

/-- Whether a character may stand in the name of a feature set. -/
def isNameChar (c : Char) : Bool :=
  c.isLower || c.isDigit || c == '_'

/-- Whether a text is the name of a feature set: a lower-case letter or an underscore, then such
characters or digits. -/
def isFeatureSetName (name : String) : Bool :=
  match name.toList with
  | [] => false
  | first :: rest => isNameStart first && rest.all isNameChar

namespace FeatureSet

/-- The names in a feature set in the order in which they are looked at: its own, its dependencies, its soft
requirements. -/
def mentionedNames (featureSet : FeatureSet) : List String :=
  featureSet.name :: featureSet.dependencies.toList ++ featureSet.softRequirements.toList

end FeatureSet

/-- The feature sets of a project, by name. -/
@[ext]
structure Catalog where
  /-- Each feature set under its name. -/
  featureSets : NameMap FeatureSet
  deriving DecidableEq, Repr

namespace Catalog

instance : EmptyCollection Catalog := ⟨⟨∅⟩⟩

instance : Inhabited Catalog := ⟨∅⟩

/-- Adds a feature set, unless it mentions an invalid name or its name is taken. -/
def insert (catalog : Catalog) (featureSet : FeatureSet) : Except InvalidFeatureSet Catalog :=
  match featureSet.mentionedNames.find? fun name => !isFeatureSetName name with
  | some name => .error ⟨featureSet.name, .invalidName name⟩
  | none =>
    if catalog.featureSets.contains featureSet.name then .error ⟨featureSet.name, .duplicate⟩
    else .ok ⟨catalog.featureSets.insert featureSet.name featureSet⟩

/-- The catalog of a list of feature sets, added one after the other. -/
def ofList (featureSets : List FeatureSet) : Except InvalidFeatureSet Catalog :=
  featureSets.foldlM insert ∅

/-- The feature set of a name. -/
def get? (catalog : Catalog) (name : String) : Option FeatureSet :=
  catalog.featureSets.get? name

/-- Whether a name is that of a feature set in the catalog. -/
def contains (catalog : Catalog) (name : String) : Bool :=
  catalog.featureSets.contains name

/-- The names of the feature sets. -/
def names (catalog : Catalog) : NameSet :=
  catalog.featureSets.names

/-- The feature sets in ascending order of their names. -/
def toList (catalog : Catalog) : List FeatureSet :=
  catalog.featureSets.values

/-- Number of feature sets. -/
def size (catalog : Catalog) : Nat :=
  catalog.featureSets.size

/-- The feature sets that contribute a subsystem, in ascending order of their names. -/
def contributors (catalog : Catalog) : List FeatureSet :=
  catalog.toList.filter FeatureSet.hasSubsystem

/-- The subsystems in ascending order of their names. -/
def subsystems (catalog : Catalog) : List Subsystem :=
  catalog.contributors.map FeatureSet.subsystem

/-- The names that some feature set would use and that are not in the catalog. -/
def missing (catalog : Catalog) : NameSet :=
  NameSet.ofList <|
    (catalog.toList.flatMap fun featureSet => featureSet.softRequirements.toList).filter
      fun name => !catalog.contains name

/-- The dependencies of the feature sets that contribute a subsystem. -/
def dependencyMap (catalog : Catalog) : Ordering.DependencyMap :=
  .ofList <| catalog.contributors.map fun featureSet =>
    (featureSet.name, featureSet.dependencies.toList)

/-- The accessor for a name, if there is one: a feature set without a subsystem has none. -/
def accessor? (catalog : Catalog) (name : String) : Option Accessor :=
  match catalog.get? name with
  | none => some { name, kind := .unavailable, subsystem := none }
  | some featureSet =>
    if featureSet.hasSubsystem then
      some {
        name
        kind := if featureSet.allowAsSoftRequirement then .optional else .required
        subsystem := some featureSet.subsystem }
    else none

/-- The accessors for the feature sets and for the missing names, in ascending order. -/
def accessors (catalog : Catalog) : List Accessor :=
  (catalog.names.union catalog.missing).toList.filterMap catalog.accessor?

/-- The order in which subsystems are created, or the cycle in their dependencies. -/
def initOrder (catalog : Catalog) : Except Ordering.Cycle Ordering.InitOrder :=
  Ordering.resolve catalog.dependencyMap

end Catalog

end Scaffold
