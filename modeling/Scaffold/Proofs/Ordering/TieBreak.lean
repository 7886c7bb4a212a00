import Mathlib.Order.Bounds.Defs
import Scaffold.Proofs.Ordering.Outcome
import Scaffold.Proofs.Ordering.Recursion

/-!
# Ties are broken by name

The roots of the search are the components in ascending order, and a component is emitted in the visit of the
first root that needs it.  So what decides between two components is the least name among those that need
them, and this can be said without the search.

The proof cuts the order where the visit of a root ends.  What is emitted up to there is needed by that root or
by a smaller one, and it holds all that the root needs.

## Main Definitions

* `DependencyMap.dependents` — a component with all that need it, directly or through others

## Main Statements

* `visitAll_append` — visits of a list can be cut anywhere
* `exists_append_of_visitAll` — visits emit only what one of their roots needs
* `resolve_ties` — of two components, the one with the smaller least dependent comes first
-/

namespace Scaffold.Ordering

open Relation

variable {map : DependencyMap}

/-- A component with all that depend on it, directly or through others. -/
def DependencyMap.dependents (map : DependencyMap) (component : String) : Set String :=
  {dependent | ReflTransGen map.DependsOn dependent component}

/-- What depends on a component is a component. -/
theorem DependencyMap.mem_names_of_mem_dependents {component dependent : String}
    (hcomponent : component ∈ map.names) (h : dependent ∈ map.dependents component) :
    dependent ∈ map.names := by
  rcases ReflTransGen.cases_head h with rfl | ⟨next, hnext, -⟩
  · exact hcomponent
  · exact hnext.component

/-- A component has a least dependent: the first of the components in ascending order that needs it. -/
theorem DependencyMap.exists_isLeast_dependents {component : String}
    (hcomponent : component ∈ map.names) :
    ∃ least, IsLeast (map.dependents component) least := by
  classical
  -- The component itself is among the candidates, so that the search does not fail.
  cases hfind : map.names.toList.find? (· ∈ map.dependents component) with
  | none =>
    have hself : component ∈ map.dependents component := ReflTransGen.refl
    exact absurd (decide_eq_true hself) (List.find?_eq_none.1 hfind component hcomponent)
  | some least =>
    obtain ⟨hleast, before, after, hsplit, hbefore⟩ := List.find?_eq_some_iff_append.1 hfind
    refine ⟨least, of_decide_eq_true hleast, fun other hother => ?_⟩
    have hsorted := map.names.sorted
    have hin : other ∈ map.names.toList := mem_names_of_mem_dependents hcomponent hother
    rw [hsplit] at hsorted hin
    rcases List.mem_append.1 hin with hearlier | hlater
    · exact absurd hother (by simpa using hbefore other hearlier)
    · rcases List.mem_cons.1 hlater with rfl | hlater
      · exact String.le_refl _
      · have hlt := (List.pairwise_cons.1 (List.pairwise_append.1 hsorted).2.1).1 other hlater
        exact String.not_lt.1 (String.lt_asymm hlt)

/-! ## Visits -/

/-- Visits of a list can be cut anywhere: the second part goes on with what the first one has emitted. -/
theorem visitAll_append {path emitted first second : List String} :
    visitAll map path emitted (first ++ second) =
      match visitAll map path emitted first with
      | .error cycle => .error cycle
      | .ok emitted => visitAll map path emitted second := by
  induction first generalizing emitted with
  | nil =>
    rw [List.nil_append, visitAll.eq_1]
  | cons root rest ih =>
    rw [List.cons_append, visitAll.eq_2, visitAll.eq_2]
    by_cases hemitted : root ∈ emitted
    · rw [if_pos hemitted, if_pos hemitted]
      exact ih
    · rw [if_neg hemitted, if_neg hemitted]
      by_cases hpath : root ∈ path
      · rw [if_pos hpath, if_pos hpath]
      · rw [if_neg hpath, if_neg hpath]
        cases visitAll map (path ++ [root]) emitted (map.present root).toList with
        | error cycle => rfl
        | ok emitted => exact ih

/-- Visits emit all their roots, and nothing that none of the roots needs. -/
theorem exists_append_of_visitAll {path emitted roots result : List String}
    (h : visitAll map path emitted roots = .ok result) :
    ∃ new, result = emitted ++ new ∧ (∀ root ∈ roots, root ∈ result) ∧
      ∀ name ∈ new, ∃ root ∈ roots, root ∈ map.dependents name := by
  fun_induction visitAll map path emitted roots generalizing result with
  | case1 path emitted =>
    obtain rfl := Except.ok.inj h
    exact ⟨[], by simp⟩
  | case2 path emitted root rest hmem ih =>
    obtain ⟨new, rfl, hroots, hnew⟩ := ih h
    refine ⟨new, rfl, List.forall_mem_cons.2 ⟨List.mem_append_left _ hmem, hroots⟩, ?_⟩
    intro name hname
    obtain ⟨other, hother, hneeds⟩ := hnew name hname
    exact ⟨other, List.mem_cons_of_mem _ hother, hneeds⟩
  | case3 => cases h
  | case4 => cases h
  | case5 path emitted root rest hemitted hpath emitted' hcall ihCall ihRest =>
    obtain ⟨inner, rfl, -, hinner⟩ := ihCall hcall
    obtain ⟨outer, rfl, hroots, houter⟩ := ihRest h
    refine ⟨inner ++ root :: outer, by simp, List.forall_mem_cons.2 ⟨by simp, hroots⟩, ?_⟩
    intro name hname
    rcases List.mem_append.1 hname with hname | hname
    · -- What a present dependency of the root needs, the root needs.
      obtain ⟨dependency, hdependency, hneeds⟩ := hinner name hname
      exact ⟨root, List.mem_cons_self .., ReflTransGen.head hdependency hneeds⟩
    · rcases List.mem_cons.1 hname with rfl | hname
      · exact ⟨name, List.mem_cons_self .., ReflTransGen.refl⟩
      · obtain ⟨other, hother, hneeds⟩ := houter name hname
        exact ⟨other, List.mem_cons_of_mem _ hother, hneeds⟩

/-- Where no component depends on another, visits emit their roots as they come. -/
theorem visitAll_of_independent (independent : ∀ name, map.present name = ∅)
    {emitted roots : List String} (hnodup : (emitted ++ roots).Nodup) :
    visitAll map [] emitted roots = .ok (emitted ++ roots) := by
  induction roots generalizing emitted with
  | nil => rw [visitAll.eq_1, List.append_nil]
  | cons root rest ih =>
    have hnew : root ∉ emitted := fun hmem =>
      (List.nodup_middle.1 hnodup).notMem (List.mem_append_left _ hmem)
    have hcall : visitAll map ([] ++ [root]) emitted (map.present root).toList = .ok emitted := by
      rw [independent root]
      exact visitAll.eq_1 ..
    have hassoc : emitted ++ [root] ++ rest = emitted ++ root :: rest := by simp
    rw [visitAll.eq_2, if_neg hnew, if_neg List.not_mem_nil, hcall]
    exact (ih (hassoc ▸ hnodup)).trans (congrArg _ hassoc)

/-! ## The order -/

/-- An order is what the visits of all components emit. -/
theorem visitAll_of_resolve_eq_ok {order : InitOrder} (h : resolve map = .ok order) :
    visitAll map [] [] map.names.toList = .ok order.names := by
  have hstart : ({} : Traversal) = .withFrames [] [] := rfl
  rw [resolve, hstart, Traversal.visits_withFrames] at h
  cases hvisits : visitAll map [] [] map.names.toList with
  | error cycle =>
    rw [hvisits] at h
    cases h
  | ok emitted =>
    rw [hvisits] at h
    cases h
    rfl

/-- The front of an order holds what its components need. -/
theorem mem_of_needs {order : InitOrder} (h : resolve map = .ok order) {front back : List String}
    (hsplit : order.names = front ++ back) {name needed : String} (hname : name ∈ front)
    (hneeds : name ∈ map.dependents needed) : needed ∈ front := by
  induction hneeds with
  | refl => exact hname
  | @tail dependent dependency _ hdepends ih =>
    obtain ⟨lead, rest, rfl⟩ := List.append_of_mem ih
    have hlead : order.names = lead ++ dependent :: (rest ++ back) := by rw [hsplit]; simp
    exact List.mem_append_left _ (mem_before_of_dependsOn h hlead hdepends)

/-- The order is cut where the visit of a root ends: the front holds all that the root needs, and nothing but what
the root or a smaller component needs. -/
theorem exists_append_of_root {order : InitOrder} (h : resolve map = .ok order) {root : String}
    (hroot : root ∈ map.names) :
    ∃ front back, order.names = front ++ back ∧
      (∀ name, root ∈ map.dependents name → name ∈ front) ∧
      ∀ name ∈ front, ∃ other ∈ map.dependents name, other ≤ root := by
  obtain ⟨before, after, hsplit⟩ := List.append_of_mem (NameSet.mem_toList.2 hroot)
  have hroots : map.names.toList = (before ++ [root]) ++ after := by simpa using hsplit
  have hle : ∀ other ∈ before ++ [root], other ≤ root := by
    have hsorted := map.names.sorted
    rw [hsplit] at hsorted
    intro other hother
    rcases List.mem_append.1 hother with hearlier | hself
    · have hlt := (List.pairwise_append.1 hsorted).2.2 other hearlier root (List.mem_cons_self ..)
      exact String.not_lt.1 (String.lt_asymm hlt)
    · obtain rfl := List.mem_singleton.1 hself
      exact String.le_refl _
  have hvisits := visitAll_of_resolve_eq_ok h
  rw [hroots, visitAll_append] at hvisits
  cases hfront : visitAll map [] [] (before ++ [root]) with
  | error cycle =>
    rw [hfront] at hvisits
    cases hvisits
  | ok front =>
    rw [hfront] at hvisits
    obtain ⟨back, hnames, -, -⟩ := exists_append_of_visitAll hvisits
    obtain ⟨_, rfl, hemitted, hneeded⟩ := exists_append_of_visitAll hfront
    refine ⟨front, back, hnames, fun name hneeds => ?_, fun name hname => ?_⟩
    · exact mem_of_needs h hnames (hemitted root (by simp)) hneeds
    · obtain ⟨other, hother, hneeds⟩ := hneeded name hname
      exact ⟨other, hneeds, hle other hother⟩

/-- Of two components, the one whose least dependent is the smaller stands first. -/
theorem precedes_of_isLeast_lt {order : InitOrder} (h : resolve map = .ok order)
    {first second least least' : String} (hfirst : first ∈ map.names) (hsecond : second ∈ map.names)
    (hleast : IsLeast (map.dependents first) least)
    (hleast' : IsLeast (map.dependents second) least') (hlt : least < least') : order.precedes first second = true := by
  have hroot := DependencyMap.mem_names_of_mem_dependents hfirst hleast.1
  obtain ⟨front, back, hsplit, hneeded, hsmaller⟩ := exists_append_of_root h hroot
  have hnot : second ∉ front := by
    intro hmem
    obtain ⟨other, hother, hle⟩ := hsmaller second hmem
    exact String.not_le.2 hlt (String.le_trans (hleast'.2 hother) hle)
  have hin : second ∈ front ++ back := by
    rw [← hsplit]
    exact (perm_names_of_resolve_eq_ok h).mem_iff.2 hsecond
  obtain ⟨lead, rest, rfl⟩ := List.append_of_mem ((List.mem_append.1 hin).resolve_left hnot)
  have hnodup := nodup_names_of_resolve_eq_ok h
  have hsplit' : order.names = (front ++ lead) ++ second :: rest := by rw [hsplit]; simp
  rw [hsplit'] at hnodup
  refine InitOrder.precedes_of_split hsplit' (List.mem_append_left _ (hneeded first hleast.1)) ?_
  exact fun hmem => (List.nodup_middle.1 hnodup).notMem (List.mem_append_left _ hmem)

/-- Where dependencies between components are not circular, there is an order, and ties in it are broken by name.
Each component has a least dependent, the least name among the component and all that depend on it; and of two
components the one with the smaller least dependent stands first.  So components that do not depend on each other
at all stand in ascending order. -/
theorem resolve_ties (acyclic : ∀ name, ¬TransGen map.DependsOn name name) :
    ∃ order, resolve map = .ok order ∧
      (∀ component ∈ map.names, ∃ least, IsLeast (map.dependents component) least) ∧
      (∀ first ∈ map.names, ∀ second ∈ map.names, ∀ least least',
        IsLeast (map.dependents first) least → IsLeast (map.dependents second) least' →
        least < least' → order.precedes first second = true) ∧
      ((∀ dependent dependency, ¬map.DependsOn dependent dependency) →
        order.names = map.names.toList) := by
  cases h : resolve map with
  | error cycle =>
    exact absurd (simple_of_resolve_eq_error h).transGen (acyclic cycle.component)
  | ok order =>
    refine ⟨order, rfl, fun _ => DependencyMap.exists_isLeast_dependents, ?_, fun independent => ?_⟩
    · intro first hfirst second hsecond least least' hleast hleast' hlt
      exact precedes_of_isLeast_lt h hfirst hsecond hleast hleast' hlt
    · have hempty : ∀ name, map.present name = ∅ := fun name =>
        NameSet.ext_mem fun other =>
          ⟨fun hmem => absurd hmem (independent name other), fun hmem => absurd hmem List.not_mem_nil⟩
      have hvisits : visitAll map [] [] map.names.toList = .ok map.names.toList :=
        visitAll_of_independent hempty map.names.nodup_toList
      exact Except.ok.inj ((visitAll_of_resolve_eq_ok h).symm.trans hvisits)

/-- A chain in which the first component needs the last one, beside a component in between. -/
def detour : DependencyMap :=
  .ofList [("app", ["net"]), ("base", []), ("core", ["disk"]), ("disk", []), ("net", ["zone", "absent"]),
    ("zone", [])]

/-- What the first component needs comes before the one in between, though it sorts after it. -/
theorem resolve_ties_detour :
    (∀ name, ¬TransGen detour.DependsOn name name) ∧
      resolve detour = .ok ⟨["zone", "net", "app", "base", "disk", "core"]⟩ ∧
      IsLeast (detour.dependents "zone") "app" ∧ IsLeast (detour.dependents "base") "base" ∧
      (⟨["zone", "net", "app", "base", "disk", "core"]⟩ : InitOrder).precedes "zone" "base" = true := by
  have hresolve : resolve detour = .ok ⟨["zone", "net", "app", "base", "disk", "core"]⟩ := by cbv
  have acyclic : ∀ name, ¬TransGen detour.DependsOn name name := fun name hcyclic =>
    InitOrder.not_precedes_self (precedes_of_transGen hresolve hcyclic)
  have hnames : detour.names.toList = ["app", "base", "core", "disk", "net", "zone"] := by cbv
  have hzoneName : "zone" ∈ detour.names := by rw [NameSet.mem_def, hnames]; decide
  have hbaseName : "base" ∈ detour.names := by rw [NameSet.mem_def, hnames]; decide
  have happ : IsLeast (detour.dependents "zone") "app" := by
    have hnet : detour.DependsOn "app" "net" := by
      show "net" ∈ detour.present "app"
      decide +kernel
    have hzone : detour.DependsOn "net" "zone" := by
      show "zone" ∈ detour.present "net"
      decide +kernel
    refine ⟨.head hnet (.single hzone), fun other hother => ?_⟩
    have hmem := DependencyMap.mem_names_of_mem_dependents hzoneName hother
    rw [NameSet.mem_def, hnames] at hmem
    exact (by decide : ∀ name ∈ ["app", "base", "core", "disk", "net", "zone"], "app" ≤ name) other hmem
  have hbase : IsLeast (detour.dependents "base") "base" := by
    refine ⟨.refl, fun other hother => ?_⟩
    rcases ReflTransGen.cases_tail hother with rfl | ⟨dependent, -, hdepends⟩
    · exact String.le_refl _
    · have hmem := NameSet.mem_def.1 hdepends.component
      rw [hnames] at hmem
      have hnone : ∀ name ∈ ["app", "base", "core", "disk", "net", "zone"],
          "base" ∉ detour.present name := by decide +kernel
      exact absurd hdepends (hnone dependent hmem)
  obtain ⟨order, horder, -, hties, -⟩ := resolve_ties acyclic
  obtain rfl := Except.ok.inj (hresolve.symm.trans horder)
  refine ⟨acyclic, hresolve, happ, hbase, ?_⟩
  exact hties "zone" hzoneName "base" hbaseName _ _ happ hbase (by decide)

end Scaffold.Ordering
