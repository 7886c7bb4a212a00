import Mathlib.Data.List.Permutation
import Scaffold.Proofs.FirstMatch
import Scaffold.Proofs.Ordering.SearchInvariant

/-!
# What an initialization order is, and when there is none

An outcome of `resolve` is read off the last state of its search.  An order lists the components of the
map, each one after its present dependencies.  A cycle is cut out of the path: it starts and ends with the
component that was reached again, follows declared dependencies, and visits nothing twice.

An order excludes a cycle in the map, because along a cycle the places of the components in the order
would have to decrease for ever.  So `resolve` fails exactly on the maps that have a cycle.

## Main Definitions

* `Cycle.Simple` — a cycle of a map without a lead-in and without repetition

## Main Statements

* `resolve_topological` — an order is a permutation of the components that respects the dependencies
* `resolve_fails_iff_cyclic` — there is no order exactly when the present dependencies are circular, and
  then a simple cycle is reported
-/

namespace Scaffold.Ordering

open Relation

/-! ## Places in an order -/

namespace InitOrder

variable {order : InitOrder} {first second third : String}

/-- One name stands before another when its place is the smaller one. -/
theorem precedes_iff :
    order.precedes first second = true ↔
      ∃ i j, order.position? first = some i ∧ order.position? second = some j ∧ i < j := by
  unfold precedes
  cases order.position? first <;> cases order.position? second <;> simp

theorem precedes_trans (h₁ : order.precedes first second = true)
    (h₂ : order.precedes second third = true) : order.precedes first third = true := by
  obtain ⟨i, j, hi, hj, hij⟩ := precedes_iff.1 h₁
  obtain ⟨j', k, hj', hk, hjk⟩ := precedes_iff.1 h₂
  obtain rfl : j = j' := Option.some.inj (hj.symm.trans hj')
  exact precedes_iff.2 ⟨i, k, hi, hk, hij.trans hjk⟩

theorem not_precedes_self : order.precedes first first ≠ true := by
  intro h
  obtain ⟨i, j, hi, hj, hij⟩ := precedes_iff.1 h
  obtain rfl : i = j := Option.some.inj (hi.symm.trans hj)
  exact Nat.lt_irrefl i hij

/-- A name that is listed before the first place of another stands before it. -/
theorem precedes_of_split {before after : List String}
    (hsplit : order.names = before ++ second :: after) (hfirst : first ∈ before)
    (hsecond : second ∉ before) : order.precedes first second = true := by
  obtain ⟨i, hi⟩ : ∃ i, before.findIdx? (· == first) = some i := by
    rw [← Option.isSome_iff_exists, List.findIdx?_isSome, List.any_eq_true]
    exact ⟨first, hfirst, beq_self_eq_true first⟩
  obtain ⟨hlt, -⟩ := List.findIdx?_eq_some_iff_getElem.1 hi
  refine precedes_iff.2 ⟨i, before.length, ?_, ?_, hlt⟩
  · rw [position?, hsplit, List.findIdx?_append, hi]
    rfl
  · rw [position?, hsplit, findIdx?_beq_append_cons hsecond]

end InitOrder

/-! ## Orders -/

variable {map : DependencyMap}

/-- An order lists the components of its map. -/
theorem perm_names_of_resolve_eq_ok {order : InitOrder} (h : resolve map = .ok order) :
    order.names.Perm map.names.toList := by
  obtain ⟨last, reached, hemitted, hnames⟩ := exists_reachable_of_resolve_eq_ok h
  have hcoherent := reached.coherent
  rw [hnames, List.perm_ext_iff_of_nodup hcoherent.order_nodup map.names.nodup_toList]
  intro name
  exact ⟨hcoherent.order_components name, fun hmem =>
    (hcoherent.mem_emitted name).1 (hemitted name hmem)⟩

/-- A component with declared dependencies is a component of the map. -/
theorem DependencyMap.DependsOn.component {dependent dependency : String}
    (h : map.DependsOn dependent dependency) : dependent ∈ map.names := by
  obtain ⟨⟨declared, hdeclared, -⟩, -⟩ := DependencyMap.mem_present.1 h
  refine Classical.byContradiction fun hnot => ?_
  have hnone : map.dependencies? dependent = none := NameMap.get?_eq_none_iff.2 hnot
  rw [hnone] at hdeclared
  exact absurd hdeclared (by simp)

/-- An order lists no component twice. -/
theorem nodup_names_of_resolve_eq_ok {order : InitOrder} (h : resolve map = .ok order) :
    order.names.Nodup :=
  (perm_names_of_resolve_eq_ok h).nodup_iff.2 map.names.nodup_toList

/-- Where an order lists a component it has listed its dependencies. -/
theorem mem_before_of_dependsOn {order : InitOrder} (h : resolve map = .ok order)
    {before after : List String} {dependent dependency : String}
    (hsplit : order.names = before ++ dependent :: after)
    (hdepends : map.DependsOn dependent dependency) : dependency ∈ before := by
  obtain ⟨last, reached, -, hnames⟩ := exists_reachable_of_resolve_eq_ok h
  exact reached.coherent.supported before dependent after (hnames ▸ hsplit) dependency hdepends

/-- An order respects the dependencies between components. -/
theorem precedes_of_dependsOn {order : InitOrder} (h : resolve map = .ok order)
    {dependent dependency : String} (hdepends : map.DependsOn dependent dependency) :
    order.precedes dependency dependent = true := by
  have hmem : dependent ∈ order.names := (perm_names_of_resolve_eq_ok h).mem_iff.2 hdepends.component
  obtain ⟨before, after, hsplit⟩ := List.append_of_mem hmem
  refine InitOrder.precedes_of_split hsplit (mem_before_of_dependsOn h hsplit hdepends) ?_
  have hnodup := nodup_names_of_resolve_eq_ok h
  rw [hsplit] at hnodup
  exact fun hin => (List.nodup_middle.1 hnodup).notMem (List.mem_append_left _ hin)

/-- The initialization order is a permutation of the components in which each component stands strictly
after those of its declared dependencies that are components themselves. -/
theorem resolve_topological {order : InitOrder} (h : resolve map = .ok order) :
    order.names.Perm map.names.toList ∧
      ∀ component declared dependency, map.dependencies? component = some declared →
        dependency ∈ declared → dependency ∈ map.names →
        order.precedes dependency component = true := by
  refine ⟨perm_names_of_resolve_eq_ok h, ?_⟩
  intro component declared dependency hdeclared hmem hpresent
  have hdepends : map.DependsOn component dependency :=
    DependencyMap.mem_present.2 ⟨⟨declared, hdeclared, hmem⟩, hpresent⟩
  exact precedes_of_dependsOn h hdepends

/-- Two branches over a shared base, and a dependency that is no component. -/
def diamond : DependencyMap :=
  .ofList [("app", ["left", "right", "absent"]), ("left", ["core"]), ("right", ["core"]),
    ("core", [])]

/-- In the diamond the base comes first, though the top sorts before it. -/
theorem resolve_topological_diamond :
    resolve diamond = .ok ⟨["core", "left", "right", "app"]⟩ ∧
      (⟨["core", "left", "right", "app"]⟩ : InitOrder).precedes "core" "right" = true := by
  have hresolve : resolve diamond = .ok ⟨["core", "left", "right", "app"]⟩ := by cbv
  have hdeclared : diamond.dependencies? "right" = some (.ofList ["core"]) := by cbv
  refine ⟨hresolve, (resolve_topological hresolve).2 "right" _ "core" hdeclared ?_ ?_⟩
  · simp
  · rw [← DependencyMap.contains_iff]
    cbv

/-! ## Cycles -/

/-- A cycle of a map: a path along declared dependencies from a component back to itself that visits
nothing else twice. -/
structure Cycle.Simple (map : DependencyMap) (cycle : Cycle) : Prop where
  /-- There is at least one dependency on the path. -/
  two_le : 2 ≤ cycle.path.length
  /-- The path starts with the component it is reported for. -/
  starts : cycle.path.head? = some cycle.component
  /-- The path ends with the same component. -/
  ends : cycle.path.getLast? = some cycle.component
  /-- Only components are on the path. -/
  components : ∀ name ∈ cycle.path, name ∈ map.names
  /-- Each name after the first is a declared dependency of the one before it. -/
  linked : cycle.path.IsChain fun dependent dependency =>
    ∃ declared, map.dependencies? dependent = some declared ∧ dependency ∈ declared
  /-- But for its end, the path repeats no name. -/
  nodup : cycle.path.dropLast.Nodup

/-- What the path is cut into when a component on it is reached again. -/
theorem Cycle.close_of_split {path lead rest : List String} {component : String}
    (hsplit : path = lead ++ component :: rest) (hlead : component ∉ lead) :
    Cycle.close path component = ⟨component, component :: rest ++ [component]⟩ := by
  have hstart : path.findIdx? (· == component) = some lead.length := by
    rw [hsplit, findIdx?_beq_append_cons hlead]
  simp only [Cycle.close, hstart, Option.getD_some]
  rw [hsplit, List.drop_left]

/-- A state that fails has its cycle on the path: the part from the component that was reached again on,
whose last component depends on the first. -/
theorem Traversal.Coherent.exists_split_of_step_eq_error {search : Traversal} {cycle : Cycle}
    (h : Coherent map none search) (hstep : search.step map = .error cycle) :
    ∃ lead rest component, search.path = lead ++ component :: rest ∧
      (∀ last ∈ (component :: rest).getLast?, map.DependsOn last component) ∧
      cycle = ⟨component, component :: rest ++ [component]⟩ := by
  obtain ⟨name, component, pending, below, hstack, honPath, rfl⟩ :=
    exists_pending_of_step_eq_error hstep
  have hframe := h.accounted
  rw [hstack] at hframe
  have hdepends : map.DependsOn name component := hframe.1.dependsOn (List.mem_cons_self ..)
  obtain ⟨lead, rest, hsplit⟩ := List.append_of_mem ((h.mem_onPath component).1 honPath)
  have hnodup := h.path_nodup
  rw [hsplit] at hnodup
  have hlead : component ∉ lead := fun hin =>
    (List.nodup_middle.1 hnodup).notMem (List.mem_append_left _ hin)
  refine ⟨lead, rest, component, hsplit, ?_, Cycle.close_of_split hsplit hlead⟩
  intro last hlast
  -- The path ends with the innermost component, whose dependency the search was looking at.
  have hgetLast := h.getLast?_path
  rw [hsplit, List.getLast?_append_of_ne_nil _ (List.cons_ne_nil _ _), hstack] at hgetLast
  rw [hgetLast] at hlast
  obtain rfl : name = last := Option.some.inj hlast
  exact hdepends

/-- A reported cycle is a simple cycle of the map. -/
theorem simple_of_resolve_eq_error {cycle : Cycle} (h : resolve map = .error cycle) :
    cycle.Simple map := by
  obtain ⟨search, reached, hstep⟩ := exists_reachable_of_resolve_eq_error h
  have hcoherent := reached.coherent
  obtain ⟨lead, rest, component, hsplit, hlast, rfl⟩ :=
    hcoherent.exists_split_of_step_eq_error hstep
  have hsuffix : component :: rest <:+ search.path := ⟨lead, hsplit.symm⟩
  have hcomponents : ∀ name ∈ component :: rest, name ∈ map.names := fun name hmem =>
    hcoherent.path_components name (hsuffix.subset hmem)
  have hlinked : (component :: rest ++ [component]).IsChain map.DependsOn := by
    refine List.isChain_append.2
      ⟨hcoherent.path_linked.suffix hsuffix, List.isChain_singleton _, ?_⟩
    intro last hmem other hother
    obtain rfl : component = other := by simpa using hother
    exact hlast last hmem
  exact {
    two_le := by simp
    starts := rfl
    ends := List.getLast?_concat
    components := fun name hmem => by
      rcases List.mem_append.1 hmem with hold | hnew
      · exact hcomponents name hold
      · exact List.mem_singleton.1 hnew ▸ hcomponents component (List.mem_cons_self ..)
    linked := hlinked.imp fun _ _ hdepends => (DependencyMap.mem_present.1 hdepends).1
    nodup := by
      rw [List.dropLast_concat]
      exact hcoherent.path_nodup.sublist hsuffix.sublist }

/-- A simple cycle of a map is a cycle of its dependencies between components. -/
theorem Cycle.Simple.transGen {cycle : Cycle} (h : cycle.Simple map) :
    TransGen map.DependsOn cycle.component cycle.component := by
  obtain ⟨component, path⟩ := cycle
  have hlinked : path.IsChain map.DependsOn := by
    refine h.linked.imp_of_mem_imp fun dependent dependency _ hmem hdeclared => ?_
    exact DependencyMap.mem_present.2 ⟨hdeclared, h.components dependency hmem⟩
  match path, h.two_le, h.starts, h.ends with
  | first :: second :: rest, _, hstarts, hends =>
    obtain rfl : first = component := by simpa using hstarts
    obtain ⟨hfirst, hrest⟩ := List.isChain_cons_cons.1 hlinked
    have hlast : (second :: rest).getLast (List.cons_ne_nil _ _) = first := by
      simpa [List.getLast?_eq_getLast_of_ne_nil] using hends
    have hreach := List.relationReflTransGen_of_exists_isChain _ hrest (List.cons_ne_nil _ _)
    rw [hlast] at hreach
    exact TransGen.head' hfirst hreach

/-- Along dependencies the places in an order decrease. -/
theorem precedes_of_transGen {order : InitOrder} (h : resolve map = .ok order)
    {dependent dependency : String} (hdepends : TransGen map.DependsOn dependent dependency) :
    order.precedes dependency dependent = true := by
  induction hdepends with
  | single hstep => exact precedes_of_dependsOn h hstep
  | tail _ hstep ih =>
    exact InitOrder.precedes_trans (precedes_of_dependsOn h hstep) ih

/-- There is no initialization order exactly when the dependencies between components are circular, a
component that depends on itself included; and what is reported then is a simple cycle. -/
theorem resolve_fails_iff_cyclic (map : DependencyMap) :
    ((∃ cycle, resolve map = .error cycle) ↔ ∃ name, TransGen map.DependsOn name name) ∧
      ∀ cycle, resolve map = .error cycle → cycle.Simple map := by
  refine ⟨⟨?_, ?_⟩, fun cycle h => simple_of_resolve_eq_error h⟩
  · rintro ⟨cycle, h⟩
    exact ⟨cycle.component, (simple_of_resolve_eq_error h).transGen⟩
  · rintro ⟨name, hcyclic⟩
    cases h : resolve map with
    | error cycle => exact ⟨cycle, rfl⟩
    | ok order => exact absurd (precedes_of_transGen h hcyclic) InitOrder.not_precedes_self

/-- Two components that need each other, behind one that needs the first of them. -/
def tangle : DependencyMap :=
  .ofList [("entry", ["x"]), ("x", ["done", "y"]), ("y", ["x"]), ("done", [])]

/-- The component that leads to the cycle is not reported. -/
theorem resolve_fails_iff_cyclic_tangle :
    resolve tangle = .error ⟨"x", ["x", "y", "x"]⟩ ∧
      (⟨"x", ["x", "y", "x"]⟩ : Cycle).Simple tangle := by
  have hresolve : resolve tangle = .error ⟨"x", ["x", "y", "x"]⟩ := by cbv
  exact ⟨hresolve, (resolve_fails_iff_cyclic tangle).2 _ hresolve⟩

end Scaffold.Ordering
