import Scaffold.Ordering.Traversal

/-!
# The order of initialization, by plain recursion

The rule that the search of `Traversal` follows, said without a stack: to visit a component, do nothing if it
is emitted, fail if it is on the active path, with the part of the path that leads from the component back to
it, and otherwise visit its present dependencies in ascending order and then emit it.

## Main Definitions

* `visitAll` — the visits of a list of components, one after the other
* `resolveByRecursion` — the visits of all components, in ascending order
-/

namespace Scaffold.Ordering

/-- The components that are not on a path. -/
def offPath (map : DependencyMap) (path : List String) : NameSet :=
  map.names.filter fun name => name ∉ path

/-- A component that is not on a path leaves fewer off the path when it is entered. -/
theorem size_offPath_lt {map : DependencyMap} {path : List String} {name : String}
    (hkey : name ∈ map.names) (hpath : name ∉ path) :
    (offPath map (path ++ [name])).size < (offPath map path).size := by
  refine Traversal.size_filter_lt ?_ hkey ?_ ?_
  · intro other _ hother
    simp only [List.mem_append, List.mem_singleton, decide_eq_true_eq] at hother ⊢
    exact fun hmem => hother (.inl hmem)
  · simp
  · simpa using hpath

/-- A longer path leaves no more components off it. -/
theorem size_offPath_le {map : DependencyMap} {path : List String} {name : String} :
    (offPath map (path ++ [name])).size ≤ (offPath map path).size := by
  refine Traversal.size_filter_le fun other _ hother => ?_
  simp only [List.mem_append, List.mem_singleton, decide_eq_true_eq] at hother ⊢
  exact fun hmem => hother (.inl hmem)

/-- Visits components in order, from a path of components under visit. What is threaded through is the
list of the components emitted so far. -/
def visitAll (map : DependencyMap) (path : List String) (emitted : List String) :
    List String → Except Cycle (List String)
  | [] => .ok emitted
  | name :: rest =>
    if name ∈ emitted then visitAll map path emitted rest
    else if name ∈ path then .error ⟨name, path.dropWhile (· != name) ++ [name]⟩
    else
      match visitAll map (path ++ [name]) emitted (map.present name).toList with
      | .error cycle => .error cycle
      | .ok emitted => visitAll map path (emitted ++ [name]) rest
termination_by names => ((offPath map path).size, names.length)
decreasing_by
  · exact Prod.Lex.right _ (by simp)
  · next hpath =>
    by_cases hkey : name ∈ map.names
    · exact Prod.Lex.left _ _ (size_offPath_lt hkey hpath)
    · rw [DependencyMap.present_eq_empty hkey]
      rcases Nat.lt_or_eq_of_le (@size_offPath_le map path name) with hlt | heq
      · exact Prod.Lex.left _ _ hlt
      · rw [heq]
        exact Prod.Lex.right _ (by simp [EmptyCollection.emptyCollection, NameSet.empty])
  · exact Prod.Lex.right _ (by simp)

/-- The order of initialization by the recursive rule. -/
def resolveByRecursion (map : DependencyMap) : Except Cycle InitOrder := do
  let emitted ← visitAll map [] [] map.names.toList
  return ⟨emitted⟩

end Scaffold.Ordering
