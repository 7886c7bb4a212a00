import Scaffold.Ordering.DependencyMap
import Scaffold.Ordering.InitOrder

/-!
# The order of initialization

Components are visited in ascending order of their names, each after its present dependencies. The
search keeps its own stack, so that a chain of dependencies may be of any length, and it ends with the
first cycle it closes.

## Main Definitions

* `Frame` — a component under visit with the dependencies it still has to look at
* `Traversal` — the state of the search
* `Traversal.step` — one turn of the search
* `Traversal.run` — turns until the stack is empty
* `resolve` — the initialization order of a dependency map

## Design Notes

A turn either enters a component that was never entered before, or takes a dependency from a
frame, or takes a frame away. So the pair of the number of components not yet entered and the weight of
the stack decreases with every turn, and `run` needs no bound on the number of turns.
-/

namespace Scaffold.Ordering

/-- A component under visit. -/
structure Frame where
  /-- The component. -/
  name : String
  /-- Its present dependencies that the search has still to look at. -/
  pending : List String
  deriving DecidableEq, Repr

/-- The state of the search. -/
structure Traversal where
  /-- The components visited to the end. -/
  emitted : NameSet := ∅
  /-- The same components, in the order in which their visits ended. -/
  order : List String := []
  /-- The components under visit, outermost first. -/
  path : List String := []
  /-- The same components, as a set. -/
  onPath : NameSet := ∅
  /-- The frames of the components under visit, innermost first. -/
  stack : List Frame := []
  deriving DecidableEq, Repr

/-- The cycle that closes when a component on the path is reached again. -/
def Cycle.close (path : List String) (component : String) : Cycle :=
  let start := (path.findIdx? (· == component)).getD 0
  { component, path := path.drop start ++ [component] }

namespace Traversal

/-- Starts the visit of a component. -/
def enter (map : DependencyMap) (name : String) (search : Traversal) : Traversal :=
  { search with
    path := search.path ++ [name]
    onPath := search.onPath.insert name
    stack := ⟨name, (map.present name).toList⟩ :: search.stack }

/-- Ends the visit of the innermost component. -/
def leave (name : String) (below : List Frame) (search : Traversal) : Traversal :=
  { emitted := search.emitted.insert name
    order := search.order ++ [name]
    path := search.path.dropLast
    onPath := search.onPath.erase name
    stack := below }

/-- One turn: looks at the next dependency of the innermost component, or ends its visit when
there is none. Without a component under visit there is no turn. -/
def step (map : DependencyMap) (search : Traversal) : Except Cycle (Option Traversal) :=
  match search.stack with
  | [] => .ok none
  | ⟨name, []⟩ :: below => .ok (some (search.leave name below))
  | ⟨name, dependency :: pending⟩ :: below =>
    let next := { search with stack := ⟨name, pending⟩ :: below }
    if dependency ∈ search.emitted then .ok (some next)
    else if dependency ∈ search.onPath then .error (Cycle.close search.path dependency)
    else .ok (some (next.enter map dependency))

/-- The components that the search has not entered. -/
def unentered (map : DependencyMap) (search : Traversal) : NameSet :=
  map.names.filter fun name => name ∉ search.emitted ∧ name ∉ search.onPath

/-- What the frames on the stack weigh: two for each pending dependency and one for the frame. -/
def weight (search : Traversal) : Nat :=
  search.stack.foldr (fun frame total => 2 * frame.pending.length + 1 + total) 0

/-- A smaller part of a list, one member fewer at least, is shorter. -/
theorem size_filter_lt {set : NameSet} {p q : String → Bool} {name : String}
    (himp : ∀ other ∈ set, p other = true → q other = true) (hmem : name ∈ set)
    (hp : p name = false) (hq : q name = true) : (set.filter p).size < (set.filter q).size := by
  simp only [NameSet.size, NameSet.filter, ← List.countP_eq_length_filter]
  have hmem' : name ∈ set.toList := hmem
  obtain ⟨before, after, hsplit⟩ := List.append_of_mem hmem'
  have hle : ∀ part : List String, (∀ other ∈ part, other ∈ set.toList) →
      part.countP p ≤ part.countP q := fun part hpart =>
    List.countP_mono_left fun other hother => himp other (hpart other hother)
  have hbefore := hle before fun other h => by rw [hsplit]; simp [h]
  have hafter := hle after fun other h => by rw [hsplit]; simp [h]
  rw [hsplit]
  simp only [List.countP_append, List.countP_cons, hp, hq]
  simp
  omega

/-- A larger part of a set is no smaller. -/
theorem size_filter_le {set : NameSet} {p q : String → Bool}
    (himp : ∀ other ∈ set, p other = true → q other = true) :
    (set.filter p).size ≤ (set.filter q).size := by
  simp only [NameSet.size, NameSet.filter, ← List.countP_eq_length_filter]
  exact List.countP_mono_left fun other hother => himp other hother

/-- Every turn decreases the pair of unentered components and weight of the stack. -/
theorem step_decreases {map : DependencyMap} {search next : Traversal}
    (h : search.step map = .ok (some next)) :
    Prod.Lex (· < ·) (· < ·) ((next.unentered map).size, next.weight)
      ((search.unentered map).size, search.weight) := by
  obtain ⟨emitted, order, path, onPath, stack⟩ := search
  match stack with
  | [] => simp [step] at h
  | ⟨name, []⟩ :: below =>
    simp only [step, Except.ok.injEq, Option.some.injEq] at h
    subst h
    have hle : ((leave name below ⟨emitted, order, path, onPath, ⟨name, []⟩ :: below⟩).unentered
        map).size ≤ ((⟨emitted, order, path, onPath, ⟨name, []⟩ :: below⟩ : Traversal).unentered
        map).size := by
      refine size_filter_le fun other _ hother => ?_
      simp only [leave, NameSet.mem_insert, NameSet.mem_erase, decide_eq_true_eq] at hother ⊢
      exact ⟨fun hmem => hother.1 (.inr hmem), fun hmem => hother.2 ⟨hmem, fun he => hother.1 (.inl he)⟩⟩
    rcases Nat.lt_or_eq_of_le hle with hlt | heq
    · exact Prod.Lex.left _ _ hlt
    · rw [heq]
      exact Prod.Lex.right _ (by simp [weight, leave])
  | ⟨name, dependency :: pending⟩ :: below =>
    simp only [step] at h
    split at h
    · simp only [Except.ok.injEq, Option.some.injEq] at h
      subst h
      exact Prod.Lex.right _ (by simp [weight])
    · split at h
      · simp at h
      · next hemitted hpath =>
        simp only [Except.ok.injEq, Option.some.injEq] at h
        subst h
        by_cases hkey : dependency ∈ map.names
        · refine Prod.Lex.left _ _ (size_filter_lt ?_ hkey ?_ ?_)
          · intro other _ hother
            simp only [enter, NameSet.mem_insert, decide_eq_true_eq] at hother ⊢
            exact ⟨hother.1, fun hmem => hother.2 (.inr hmem)⟩
          · simp [enter]
          · simp [hemitted, hpath]
        · have hle : ((enter map dependency
              ⟨emitted, order, path, onPath, ⟨name, pending⟩ :: below⟩).unentered map).size ≤
              ((⟨emitted, order, path, onPath, ⟨name, dependency :: pending⟩ :: below⟩ :
                Traversal).unentered map).size := by
            refine size_filter_le fun other _ hother => ?_
            simp only [enter, NameSet.mem_insert, decide_eq_true_eq] at hother ⊢
            exact ⟨hother.1, fun hmem => hother.2 (.inr hmem)⟩
          rcases Nat.lt_or_eq_of_le hle with hlt | heq
          · exact Prod.Lex.left _ _ hlt
          · rw [heq]
            refine Prod.Lex.right _ ?_
            have hempty : (map.present dependency).toList = [] := by
              rw [DependencyMap.present_eq_empty hkey]; rfl
            simp [weight, enter, hempty]
            omega

/-- Turns until no component is under visit, or a cycle closes. -/
def run (map : DependencyMap) (search : Traversal) : Except Cycle Traversal :=
  match _ : search.step map with
  | .error cycle => .error cycle
  | .ok none => .ok search
  | .ok (some next) => run map next
termination_by ((search.unentered map).size, search.weight)
decreasing_by exact step_decreases ‹_›

/-- Visits a component with all that it needs, unless it was visited before. -/
def visit (map : DependencyMap) (search : Traversal) (root : String) : Except Cycle Traversal :=
  if root ∈ search.emitted then .ok search else (search.enter map root).run map

end Traversal

/-- The order in which the components of a map can be initialized, or the first cycle found. -/
def resolve (map : DependencyMap) : Except Cycle InitOrder := do
  let search ← map.names.toList.foldlM (fun search root => search.visit map root) ({} : Traversal)
  return ⟨search.order⟩

end Scaffold.Ordering
