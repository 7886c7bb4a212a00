import Scaffold.NameMap

/-!
# Dependency maps

What each component needs before it can be initialized. A dependency on a name that is no component
is absent: it is kept in the map and plays no part in the order.

## Main Definitions

* `DependencyMap` — components with their declared dependencies
* `DependencyMap.present` — the dependencies that are components themselves
* `DependencyMap.DependsOn` — the relation between components that an order has to respect
-/

namespace Scaffold.Ordering

/-- Components with the names they depend on. -/
@[ext]
structure DependencyMap where
  /-- The declared dependencies of each component. -/
  components : NameMap NameSet
  deriving DecidableEq, Repr

namespace DependencyMap

instance : EmptyCollection DependencyMap := ⟨⟨∅⟩⟩

instance : Inhabited DependencyMap := ⟨∅⟩

/-- Declares the dependencies of a component, in place of any declared before. -/
def insert (map : DependencyMap) (name : String) (dependencies : List String) : DependencyMap :=
  ⟨map.components.insert name (NameSet.ofList dependencies)⟩

/-- The map of a list of declarations; a later one of a component replaces an earlier one. -/
def ofList (declarations : List (String × List String)) : DependencyMap :=
  declarations.foldl (fun map declaration => map.insert declaration.1 declaration.2) ∅

/-- Whether a name is a component. -/
def contains (map : DependencyMap) (name : String) : Bool :=
  map.components.contains name

/-- The declared dependencies of a component. -/
def dependencies? (map : DependencyMap) (name : String) : Option NameSet :=
  map.components.get? name

/-- The dependencies of a component that are components themselves. -/
def present (map : DependencyMap) (name : String) : NameSet :=
  ((map.dependencies? name).getD ∅).filter map.contains

/-- The components. -/
def names (map : DependencyMap) : NameSet :=
  map.components.names

/-- Number of components. -/
def size (map : DependencyMap) : Nat :=
  map.components.size

/-- The relation that an initialization order respects: `dependent` needs `dependency`, and both are
components. -/
def DependsOn (map : DependencyMap) (dependent dependency : String) : Prop :=
  dependency ∈ map.present dependent

/-- A name is a component when it is among the names. -/
theorem contains_iff {map : DependencyMap} {name : String} :
    map.contains name = true ↔ name ∈ map.names :=
  NameMap.contains_iff

/-- The components are the names that dependencies are declared for. -/
theorem mem_names_iff {map : DependencyMap} {name : String} :
    name ∈ map.names ↔ ∃ declared, map.dependencies? name = some declared :=
  NameMap.mem_names_iff

/-- A present dependency is declared, and is a component. -/
theorem mem_present {map : DependencyMap} {name dependency : String} :
    dependency ∈ map.present name ↔
      (∃ declared, map.dependencies? name = some declared ∧ dependency ∈ declared) ∧
        dependency ∈ map.names := by
  rw [present, NameSet.mem_filter, contains_iff]
  cases map.dependencies? name with
  | none => simp [EmptyCollection.emptyCollection]
  | some declared => simp

/-- A name that is no component has no present dependencies. -/
theorem present_eq_empty {map : DependencyMap} {name : String} (h : name ∉ map.names) :
    map.present name = ∅ := by
  have hnone : map.dependencies? name = none := NameMap.get?_eq_none_iff.2 h
  simp only [present, hnone, Option.getD_none]
  rfl

end DependencyMap

end Scaffold.Ordering
