import Scaffold.Json.Record
import Scaffold.Ordering.DependencyMap
import Scaffold.Ordering.InitOrder

/-!
# The JSON form of orders

A dependency map is an object from components to lists of names; an initialization order is a list of
names.

## Main Definitions

* `DependencyMap.ofJson?`, `DependencyMap.toJson`
* `InitOrder.ofJson?`, `InitOrder.toJson`
-/

namespace Scaffold.Ordering

/-- Decodes the declarations of an object. -/
def declarations? : List (String × Json) → Option (List (String × NameSet))
  | [] => some []
  | (name, value) :: rest => do
    let dependencies ← value.nameSet?
    return (name, dependencies) :: (← declarations? rest)

/-- Decodes a dependency map. -/
def DependencyMap.ofJson? : Json → Option DependencyMap
  | .object fields => do return ⟨NameMap.ofList (← declarations? fields)⟩
  | _ => none

/-- Encodes a dependency map. -/
def DependencyMap.toJson (map : DependencyMap) : Json :=
  .ofMap (map.components.map fun dependencies => .ofStrings dependencies.toList)

/-- Decodes an initialization order; nothing is checked. -/
def InitOrder.ofJson? (value : Json) : Option InitOrder := do
  return ⟨← value.texts?⟩

/-- Encodes an initialization order. -/
def InitOrder.toJson (order : InitOrder) : Json :=
  .ofStrings order.names

end Scaffold.Ordering
