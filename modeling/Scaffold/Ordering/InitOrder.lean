/-!
# Initialization orders

## Main Definitions

* `InitOrder` — names in the order of their initialization
* `InitOrder.position?` — the first place of a name
* `InitOrder.precedes` — whether one name stands before another
* `Cycle` — why no order exists
-/

namespace Scaffold.Ordering

/-- Names in the order of their initialization. -/
@[ext]
structure InitOrder where
  /-- The names, first to be initialized first. -/
  names : List String
  deriving DecidableEq, Repr

namespace InitOrder

/-- The first place of a name, counted from zero. -/
def position? (order : InitOrder) (name : String) : Option Nat :=
  order.names.findIdx? (· == name)

/-- Whether both names are listed, the first one before the second. -/
def precedes (order : InitOrder) (first second : String) : Bool :=
  match order.position? first, order.position? second with
  | some a, some b => a < b
  | _, _ => false

/-- Number of names. -/
def size (order : InitOrder) : Nat :=
  order.names.length

/-- Whether no name is listed. -/
def isEmpty (order : InitOrder) : Bool :=
  order.names.isEmpty

end InitOrder

/-- A circular dependency: a path along dependencies that comes back to its start. -/
structure Cycle where
  /-- The component that the search came back to. -/
  component : String
  /-- The path, from the component to itself. -/
  path : List String
  deriving DecidableEq, Repr

/-- The wording of a circular dependency. -/
def Cycle.message (cycle : Cycle) : String :=
  "Dependency cycle detected (involving component '" ++ cycle.component ++ "'): " ++
    " -> ".intercalate cycle.path

end Scaffold.Ordering
