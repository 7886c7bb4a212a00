import Mathlib.Data.List.Nodup
import Scaffold.Ordering.Recursive
import Scaffold.Proofs.FirstMatch

/-!
# The search follows the recursive rule

The frames of the search are what a recursion would keep on its call stack: the component of each call under
way and the dependencies that the call has still to visit.  So a call of `visitAll` on the dependencies of a
component is a stretch of the run that begins when these are pending in the innermost frame and ends when they
are used up, with the frames below untouched.

What a search knows besides its order and its frames it can recompute from the two.  `withFrames` is the state in
that normal form, and on it every turn is an equation.

## Main Definitions

* `Traversal.withFrames` — the state of a search with a given order and given frames

## Main Statements

* `Traversal.run_withFrames` — a stretch of the run is a call of `visitAll`
* `resolve_eq_resolveByRecursion` — the search and the recursion have the same outcome
-/

namespace Scaffold.Ordering

/-- The part of a path from a component on, as a search by index finds it. -/
theorem Cycle.close_eq {path : List String} {component : String} (hmem : component ∈ path) :
    Cycle.close path component =
      ⟨component, path.dropWhile (· != component) ++ [component]⟩ := by
  obtain ⟨lead, rest, hsplit, hlead⟩ := List.eq_append_cons_of_mem hmem
  have hstart : path.findIdx? (· == component) = some lead.length := by
    rw [hsplit, findIdx?_beq_append_cons hlead]
  have hdrop : path.dropWhile (· != component) = component :: rest := by
    have hskip : ∀ name ∈ lead, (name != component) = true := by
      intro name hname
      exact bne_iff_ne.2 fun heq => hlead (heq ▸ hname)
    rw [hsplit, List.dropWhile_append_of_pos hskip, List.dropWhile_cons_of_neg (by simp)]
  simp only [Cycle.close, hstart, Option.getD_some]
  rw [hdrop, hsplit, List.drop_left]

namespace Traversal

variable {map : DependencyMap} {order : List String} {below : List Frame}

/-- The components of frames, outermost first. -/
def pathOf (stack : List Frame) : List String :=
  (stack.map Frame.name).reverse

/-- The state of a search that has emitted an order and has the given frames on its stack. -/
def withFrames (order : List String) (stack : List Frame) : Traversal where
  emitted := .ofList order
  order := order
  path := pathOf stack
  onPath := .ofList (pathOf stack)
  stack := stack

@[simp]
theorem pathOf_cons (frame : Frame) (below : List Frame) :
    pathOf (frame :: below) = pathOf below ++ [frame.name] := by
  simp [pathOf]

theorem ofList_concat (names : List String) (name : String) :
    (NameSet.ofList names).insert name = .ofList (names ++ [name]) := by
  refine NameSet.ext_mem fun other => ?_
  simp only [NameSet.mem_insert, NameSet.mem_ofList, List.mem_append, List.mem_singleton]
  exact or_comm

theorem ofList_erase_concat {names : List String} {name : String} (h : name ∉ names) :
    (NameSet.ofList (names ++ [name])).erase name = .ofList names := by
  refine NameSet.ext_mem fun other => ?_
  simp only [NameSet.mem_erase, NameSet.mem_ofList, List.mem_append, List.mem_singleton]
  constructor
  · rintro ⟨hmem, hne⟩
    exact hmem.resolve_right hne
  · intro hmem
    exact ⟨.inl hmem, fun heq => h (heq ▸ hmem)⟩

theorem mem_emitted_withFrames {name : String} {stack : List Frame} :
    name ∈ (withFrames order stack).emitted ↔ name ∈ order :=
  NameSet.mem_ofList

theorem nodup_concat {path : List String} {name : String} (hnodup : path.Nodup)
    (h : name ∉ path) : (path ++ [name]).Nodup := by
  rw [← List.concat_eq_append]
  exact List.Nodup.concat h hnodup

/-! ## Turns -/

theorem enter_withFrames (name : String) (stack : List Frame) :
    (withFrames order stack).enter map name =
      withFrames order (⟨name, (map.present name).toList⟩ :: stack) := by
  simp only [enter, withFrames, ofList_concat, pathOf_cons]

theorem leave_withFrames {name : String} {pending : List String} (h : name ∉ pathOf below) :
    (withFrames order (⟨name, pending⟩ :: below)).leave name below =
      withFrames (order ++ [name]) below := by
  simp only [leave, withFrames, ofList_concat, pathOf_cons, ofList_erase_concat h,
    List.dropLast_concat]

/-- A turn that goes on is the beginning of the run. -/
theorem run_eq_of_step {search next : Traversal} (h : search.step map = .ok (some next)) :
    search.run map = next.run map := by
  rw [run]
  split
  · next hstep => rw [h] at hstep; cases hstep
  · next hstep => rw [h] at hstep; cases hstep
  · next hstep => rw [h] at hstep; cases hstep; rfl

theorem run_idle : (withFrames order []).run map = .ok (withFrames order []) := by
  rw [run]
  rfl

theorem run_leave {name : String} (h : name ∉ pathOf below) :
    (withFrames order (⟨name, []⟩ :: below)).run map =
      (withFrames (order ++ [name]) below).run map := by
  rw [← leave_withFrames h]
  exact run_eq_of_step rfl

theorem run_skip {name dependency : String} {pending : List String} (h : dependency ∈ order) :
    (withFrames order (⟨name, dependency :: pending⟩ :: below)).run map =
      (withFrames order (⟨name, pending⟩ :: below)).run map := by
  refine run_eq_of_step ?_
  simp only [step, withFrames, pathOf_cons, NameSet.mem_ofList, if_pos h]

theorem run_enter {name dependency : String} {pending : List String} (hnew : dependency ∉ order)
    (hpath : dependency ∉ pathOf below ++ [name]) :
    (withFrames order (⟨name, dependency :: pending⟩ :: below)).run map =
      (withFrames order
        (⟨dependency, (map.present dependency).toList⟩ :: ⟨name, pending⟩ :: below)).run map := by
  rw [← enter_withFrames]
  refine run_eq_of_step ?_
  simp only [step, withFrames, pathOf_cons, NameSet.mem_ofList, if_neg hnew, if_neg hpath]

theorem run_close {name dependency : String} {pending : List String} (hnew : dependency ∉ order)
    (hpath : dependency ∈ pathOf below ++ [name]) :
    (withFrames order (⟨name, dependency :: pending⟩ :: below)).run map =
      .error (Cycle.close (pathOf below ++ [name]) dependency) := by
  have hstep : (withFrames order (⟨name, dependency :: pending⟩ :: below)).step map =
      .error (Cycle.close (pathOf below ++ [name]) dependency) := by
    simp only [step, withFrames, pathOf_cons, NameSet.mem_ofList, if_neg hnew, if_pos hpath]
  rw [run]
  split
  · next h => rw [hstep] at h; cases h; rfl
  · next h => rw [hstep] at h; cases h
  · next h => rw [hstep] at h; cases h

/-! ## Stretches of the run -/

/-- While the dependencies that are pending in the innermost frame are used up, the run does what a call of
`visitAll` on them does; then it goes on with the order that the call has built. -/
theorem run_withFrames {path : List String} {name : String} {pending : List String}
    (hpath : pathOf below ++ [name] = path) (hnodup : path.Nodup) :
    (withFrames order (⟨name, pending⟩ :: below)).run map =
      match visitAll map path order pending with
      | .error cycle => .error cycle
      | .ok order => (withFrames order (⟨name, []⟩ :: below)).run map := by
  -- The induction is on the calls; the frames of each call are those of its path.
  fun_induction visitAll map path order pending generalizing name below with
  | case1 path order => rfl
  | case2 path order dependency rest hmem ih =>
    rw [run_skip hmem]
    exact ih hpath hnodup
  | case3 path order dependency rest hnew hmem =>
    subst hpath
    rw [run_close hnew hmem, Cycle.close_eq hmem]
  | case4 path order dependency rest hnew hnot cycle hcall ih =>
    subst hpath
    have hinner : pathOf (⟨name, rest⟩ :: below) ++ [dependency] =
        pathOf below ++ [name] ++ [dependency] := by rw [pathOf_cons]
    rw [run_enter hnew hnot, ih hinner (nodup_concat hnodup hnot), hcall]
  | case5 path order dependency rest hnew hnot order' hcall ihCall ihRest =>
    subst hpath
    have hinner : pathOf (⟨name, rest⟩ :: below) ++ [dependency] =
        pathOf below ++ [name] ++ [dependency] := by rw [pathOf_cons]
    have hleave : dependency ∉ pathOf (⟨name, rest⟩ :: below) := by rwa [pathOf_cons]
    rw [run_enter hnew hnot, ihCall hinner (nodup_concat hnodup hnot), hcall]
    -- The call has returned, so its frame is left, and the calls on the others follow.
    show (withFrames order' (⟨dependency, []⟩ :: ⟨name, rest⟩ :: below)).run map = _
    rw [run_leave hleave]
    exact ihRest rfl hnodup

/-- The visit of a root that is new is a call on its dependencies, from a path that holds the root alone. -/
theorem visit_withFrames {root : String} (hnew : root ∉ order) :
    (withFrames order []).visit map root =
      match visitAll map [root] order (map.present root).toList with
      | .error cycle => .error cycle
      | .ok order => .ok (withFrames (order ++ [root]) []) := by
  have hvisit : (withFrames order []).visit map root =
      (withFrames order [⟨root, (map.present root).toList⟩]).run map := by
    rw [visit, if_neg (mem_emitted_withFrames.not.2 hnew), enter_withFrames]
  have hpath : pathOf [] ++ [root] = [root] := rfl
  rw [hvisit, run_withFrames hpath (List.nodup_singleton root)]
  cases visitAll map [root] order (map.present root).toList with
  | error cycle => rfl
  | ok order' =>
    show (withFrames order' [⟨root, []⟩]).run map = _
    rw [run_leave (by simp [pathOf]), run_idle]

/-- The visits of all roots are the calls on all roots, from the empty path. -/
theorem visits_withFrames (roots : List String) :
    roots.foldlM (fun search root => search.visit map root) (withFrames order []) =
      match visitAll map [] order roots with
      | .error cycle => .error cycle
      | .ok order => .ok (withFrames order []) := by
  induction roots generalizing order with
  | nil =>
    rw [visitAll]
    rfl
  | cons root rest ih =>
    rw [List.foldlM_cons, visitAll]
    by_cases hmem : root ∈ order
    · have hvisit : (withFrames order []).visit map root = .ok (withFrames order []) := by
        rw [visit, if_pos (mem_emitted_withFrames.2 hmem)]
      rw [hvisit, if_pos hmem]
      exact ih
    · rw [visit_withFrames hmem, if_neg hmem, if_neg List.not_mem_nil, List.nil_append]
      cases visitAll map [root] order (map.present root).toList with
      | error cycle => rfl
      | ok order' => exact ih

end Traversal

/-- The search with its own stack and the plain recursion have the same outcome on every map: the same order,
or the same cycle with the same path. -/
theorem resolve_eq_resolveByRecursion (map : DependencyMap) :
    resolve map = resolveByRecursion map := by
  have hstart : ({} : Traversal) = .withFrames [] [] := rfl
  rw [resolve, resolveByRecursion, hstart, Traversal.visits_withFrames]
  cases visitAll map [] [] map.names.toList with
  | error cycle => rfl
  | ok order => rfl

end Scaffold.Ordering
