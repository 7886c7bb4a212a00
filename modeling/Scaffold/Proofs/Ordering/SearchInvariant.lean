import Mathlib.Data.List.Chain
import Mathlib.Data.List.Infix
import Mathlib.Data.List.Nodup
import Mathlib.Logic.Relation
import Scaffold.Ordering.Traversal

/-!
# What the search for an order keeps true

The search holds the components under visit three times over, as frames, as a path and as a set, and the
components it has emitted twice.  This module proves that the copies never drift apart, and what the
frames still have to look at.

The invariant that carries everything is `Coherent`.  It has a parameter for the one moment at which
the books do not balance: a dependency that was taken from the innermost frame and is not yet entered.

## Main Definitions

* `Traversal.Turn` — one turn of the search, as a relation
* `Traversal.Reachable` — the states that a search from the empty state goes through
* `Traversal.Coherent` — the invariant

## Main Statements

* `Traversal.Coherent.turn` — every turn keeps the invariant
* `Traversal.Reachable.coherent` — so every reachable state has it
* `exists_reachable_of_resolve_eq_ok`, `exists_reachable_of_resolve_eq_error` — an outcome of `resolve` is
  the outcome of a reachable state
-/

namespace Scaffold.Ordering

open Relation

/-! ## What the frames have looked at -/

namespace Frame

variable {map : DependencyMap}

/-- What a frame has looked at is emitted, or stands right above it on the stack. -/
def Accounted (map : DependencyMap) (emitted : NameSet) (above : Option String)
    (frame : Frame) : Prop :=
  ∃ seen, (map.present frame.name).toList = seen ++ frame.pending ∧
    ∀ dependency ∈ seen, dependency ∈ emitted ∨ above = some dependency

/-- Every frame of a stack is accounted for; `above` is what stands on top of the stack. -/
def StackAccounted (map : DependencyMap) (emitted : NameSet) : Option String → List Frame → Prop
  | _, [] => True
  | above, frame :: below =>
    frame.Accounted map emitted above ∧ StackAccounted map emitted (some frame.name) below

theorem Accounted.mono {emitted emitted' : NameSet} {above : Option String} {frame : Frame}
    (h : frame.Accounted map emitted above) (hsub : ∀ name ∈ emitted, name ∈ emitted') :
    frame.Accounted map emitted' above := by
  obtain ⟨seen, hsplit, hseen⟩ := h
  exact ⟨seen, hsplit, fun dependency hmem => (hseen dependency hmem).imp (hsub _) id⟩

theorem StackAccounted.mono {emitted emitted' : NameSet} {above : Option String}
    {stack : List Frame} (h : StackAccounted map emitted above stack)
    (hsub : ∀ name ∈ emitted, name ∈ emitted') : StackAccounted map emitted' above stack := by
  induction stack generalizing above with
  | nil => trivial
  | cons frame below ih => exact ⟨h.1.mono hsub, ih h.2⟩

/-- Once the component above is emitted, nothing stands above. -/
theorem StackAccounted.emit {emitted : NameSet} {name : String} {stack : List Frame}
    (h : StackAccounted map emitted (some name) stack) :
    StackAccounted map (emitted.insert name) none stack := by
  have hsub : ∀ other ∈ emitted, other ∈ emitted.insert name := fun other hmem =>
    NameSet.mem_insert.2 (.inr hmem)
  cases stack with
  | nil => trivial
  | cons frame below =>
    obtain ⟨⟨seen, hsplit, hseen⟩, hbelow⟩ := h
    refine ⟨⟨seen, hsplit, fun dependency hmem => ?_⟩, hbelow.mono hsub⟩
    rcases hseen dependency hmem with hemitted | habove
    · exact .inl (hsub _ hemitted)
    · obtain rfl := Option.some.inj habove
      exact .inl (NameSet.mem_insert.2 (.inl rfl))

/-- A pending dependency of a frame is a present dependency of its component. -/
theorem Accounted.dependsOn {emitted : NameSet} {above : Option String} {frame : Frame}
    (h : frame.Accounted map emitted above) {dependency : String}
    (hmem : dependency ∈ frame.pending) : map.DependsOn frame.name dependency := by
  obtain ⟨seen, hsplit, -⟩ := h
  rw [DependencyMap.DependsOn, NameSet.mem_def, hsplit]
  exact List.mem_append_right _ hmem

/-- The next dependency moves from what is pending to what stands above. -/
theorem Accounted.take {emitted : NameSet} {name dependency : String}
    {pending : List String} (h : Accounted map emitted none ⟨name, dependency :: pending⟩) :
    Accounted map emitted (some dependency) ⟨name, pending⟩ := by
  obtain ⟨seen, hsplit, hseen⟩ := h
  refine ⟨seen ++ [dependency], by simpa using hsplit, fun other hmem => ?_⟩
  rcases List.mem_append.1 hmem with hold | hnew
  · exact .inl ((hseen other hold).resolve_right (by simp))
  · rw [List.mem_singleton.1 hnew]
    exact .inr rfl

/-- What stood above counts as seen when it is emitted. -/
theorem Accounted.settle {emitted : NameSet} {dependency : String} {frame : Frame}
    (h : frame.Accounted map emitted (some dependency)) (hmem : dependency ∈ emitted) :
    frame.Accounted map emitted none := by
  obtain ⟨seen, hsplit, hseen⟩ := h
  refine ⟨seen, hsplit, fun other hother => .inl ?_⟩
  rcases hseen other hother with hemitted | habove
  · exact hemitted
  · exact Option.some.inj habove ▸ hmem

end Frame

namespace Traversal

variable {map : DependencyMap}

/-! ## Turns -/

/-- One turn of the search that does not fail: the innermost component is left, or its next
dependency is passed over, or entered. -/
inductive Turn (map : DependencyMap) : Traversal → Traversal → Prop where
  /-- Nothing is pending, so the visit ends. -/
  | leave {search : Traversal} {name : String} {below : List Frame}
      (top : search.stack = ⟨name, []⟩ :: below) : Turn map search (search.leave name below)
  /-- The next dependency is emitted already. -/
  | skip {search : Traversal} {name dependency : String} {pending : List String}
      {below : List Frame} (top : search.stack = ⟨name, dependency :: pending⟩ :: below)
      (emitted : dependency ∈ search.emitted) :
      Turn map search { search with stack := ⟨name, pending⟩ :: below }
  /-- The next dependency is new. -/
  | enter {search : Traversal} {name dependency : String} {pending : List String}
      {below : List Frame} (top : search.stack = ⟨name, dependency :: pending⟩ :: below)
      (notEmitted : dependency ∉ search.emitted) (notOnPath : dependency ∉ search.onPath) :
      Turn map search
        (Traversal.enter map dependency { search with stack := ⟨name, pending⟩ :: below })

/-- A turn is what `step` makes of a state when it goes on. -/
theorem turn_of_step_eq_some {search next : Traversal}
    (h : search.step map = .ok (some next)) : Turn map search next := by
  obtain ⟨emitted, order, path, onPath, stack⟩ := search
  match stack with
  | [] => simp [step] at h
  | ⟨name, []⟩ :: below =>
    simp only [step, Except.ok.injEq, Option.some.injEq] at h
    subst h
    exact Turn.leave rfl
  | ⟨name, dependency :: pending⟩ :: below =>
    simp only [step] at h
    split at h
    · next hemitted =>
      simp only [Except.ok.injEq, Option.some.injEq] at h
      subst h
      exact Turn.skip rfl hemitted
    · next hemitted =>
      split at h
      · simp at h
      · next hpath =>
        simp only [Except.ok.injEq, Option.some.injEq] at h
        subst h
        exact Turn.enter rfl hemitted hpath

/-- The search rests only when nothing is under visit. -/
theorem stack_eq_nil_of_step_eq_none {search : Traversal}
    (h : search.step map = .ok none) : search.stack = [] := by
  unfold step at h
  split at h
  · next hstack => exact hstack
  · simp at h
  · split at h
    · simp at h
    · split at h <;> simp at h

/-- The search fails only on a pending dependency that is itself under visit. -/
theorem exists_pending_of_step_eq_error {search : Traversal} {cycle : Cycle}
    (h : search.step map = .error cycle) :
    ∃ name dependency pending below,
      search.stack = ⟨name, dependency :: pending⟩ :: below ∧
        dependency ∈ search.onPath ∧ cycle = Cycle.close search.path dependency := by
  unfold step at h
  split at h
  · simp at h
  · simp at h
  · next name dependency pending below hstack =>
    split at h
    · simp at h
    · split at h
      · next hpath =>
        simp only [Except.error.injEq] at h
        exact ⟨name, dependency, pending, below, hstack, hpath, h.symm⟩
      · simp at h

/-- The states that a search from the empty state goes through, whatever the order in which it takes
the components as roots. -/
inductive Reachable (map : DependencyMap) : Traversal → Prop where
  /-- Nothing is visited yet. -/
  | start : Reachable map {}
  /-- A visit begins at a component that is not emitted. -/
  | root {search : Traversal} {name : String} (reached : Reachable map search)
      (idle : search.stack = []) (component : name ∈ map.names)
      (notEmitted : name ∉ search.emitted) : Reachable map (search.enter map name)
  /-- The search goes on. -/
  | turn {search next : Traversal} (reached : Reachable map search)
      (turned : Turn map search next) : Reachable map next

/-- A series of turns stays among the reachable states. -/
theorem Reachable.turns {search last : Traversal} (reached : Reachable map search)
    (turns : ReflTransGen (Turn map) search last) : Reachable map last := by
  induction turns with
  | refl => exact reached
  | tail _ turned ih => exact ih.turn turned

/-- A run that ends well is a series of turns up to a state at rest. -/
theorem turns_of_run_eq_ok {search last : Traversal} (h : search.run map = .ok last) :
    ReflTransGen (Turn map) search last ∧ last.stack = [] := by
  fun_induction run map search with
  | case1 search cycle hstep => simp at h
  | case2 search hstep =>
    simp only [Except.ok.injEq] at h
    subst h
    exact ⟨ReflTransGen.refl, stack_eq_nil_of_step_eq_none hstep⟩
  | case3 search next hstep ih =>
    obtain ⟨turns, idle⟩ := ih h
    exact ⟨ReflTransGen.head (turn_of_step_eq_some hstep) turns, idle⟩

/-- A run that fails is a series of turns up to a state that fails. -/
theorem turns_of_run_eq_error {search : Traversal} {cycle : Cycle}
    (h : search.run map = .error cycle) :
    ∃ last, ReflTransGen (Turn map) search last ∧ last.step map = .error cycle := by
  fun_induction run map search with
  | case1 search cycle' hstep =>
    simp only [Except.error.injEq] at h
    subst h
    exact ⟨search, ReflTransGen.refl, hstep⟩
  | case2 search hstep => simp at h
  | case3 search next hstep ih =>
    obtain ⟨last, turns, hlast⟩ := ih h
    exact ⟨last, ReflTransGen.head (turn_of_step_eq_some hstep) turns, hlast⟩

/-! ## The invariant -/

/-- The invariant of the search.  `taken` is a dependency that was taken from the innermost frame and is
neither entered nor passed over yet; between turns there is none. -/
structure Coherent (map : DependencyMap) (taken : Option String) (search : Traversal) : Prop where
  /-- The path names the frames, outermost first. -/
  path_eq : search.path = (search.stack.map Frame.name).reverse
  /-- No component is under visit twice. -/
  path_nodup : search.path.Nodup
  /-- The set of components under visit has the members of the path. -/
  mem_onPath : ∀ name, name ∈ search.onPath ↔ name ∈ search.path
  /-- Only components are under visit. -/
  path_components : ∀ name ∈ search.path, name ∈ map.names
  /-- Each component on the path is a present dependency of the one before it. -/
  path_linked : search.path.IsChain map.DependsOn
  /-- No component is emitted twice. -/
  order_nodup : search.order.Nodup
  /-- The set of emitted components has the members of the order. -/
  mem_emitted : ∀ name, name ∈ search.emitted ↔ name ∈ search.order
  /-- Only components are emitted. -/
  order_components : ∀ name ∈ search.order, name ∈ map.names
  /-- No component is emitted while it is under visit. -/
  apart : ∀ name ∈ search.emitted, name ∉ search.path
  /-- Each emitted component stands after its present dependencies. -/
  supported : ∀ before name after, search.order = before ++ name :: after →
    ∀ dependency, map.DependsOn name dependency → dependency ∈ before
  /-- The frames know what is left to look at. -/
  accounted : Frame.StackAccounted map search.emitted taken search.stack

namespace Coherent

variable {taken : Option String} {search : Traversal}

/-- The empty state has the invariant. -/
theorem start : Coherent map none {} where
  path_eq := rfl
  path_nodup := List.nodup_nil
  mem_onPath := fun name => by simp [EmptyCollection.emptyCollection]
  path_components := by simp
  path_linked := List.IsChain.nil
  order_nodup := List.nodup_nil
  mem_emitted := fun name => by simp [EmptyCollection.emptyCollection]
  order_components := by simp
  apart := by simp
  supported := by simp
  accounted := trivial

/-- Taking the next dependency from the innermost frame keeps the books, but for that dependency. -/
theorem take {name dependency : String} {pending : List String} {below : List Frame}
    (h : Coherent map none search) (top : search.stack = ⟨name, dependency :: pending⟩ :: below) :
    Coherent map (some dependency) { search with stack := ⟨name, pending⟩ :: below } := by
  have haccounted := h.accounted
  rw [top] at haccounted
  have hpath := h.path_eq
  rw [top] at hpath
  exact { h with path_eq := hpath, accounted := ⟨haccounted.1.take, haccounted.2⟩ }

/-- A dependency that is emitted is passed over. -/
theorem settle {dependency : String} (h : Coherent map (some dependency) search)
    (hmem : dependency ∈ search.emitted) : Coherent map none search := by
  have haccounted := h.accounted
  refine { h with accounted := ?_ }
  cases hstack : search.stack with
  | nil => trivial
  | cons frame below =>
    rw [hstack] at haccounted
    exact ⟨haccounted.1.settle hmem, haccounted.2⟩

/-- The last component of the path is the one of the innermost frame. -/
theorem getLast?_path (h : Coherent map taken search) :
    search.path.getLast? = search.stack.head?.map Frame.name := by
  rw [h.path_eq, List.getLast?_reverse, List.head?_map]

/-- Entering a new component keeps the invariant, if the innermost component depends on it. -/
theorem enter {name : String} (h : Coherent map (some name) search) (component : name ∈ map.names)
    (notEmitted : name ∉ search.emitted) (notOnPath : name ∉ search.onPath)
    (linked : ∀ frame ∈ search.stack.head?, map.DependsOn frame.name name) :
    Coherent map none (search.enter map name) where
  path_eq := by simp [Traversal.enter, h.path_eq]
  path_nodup := by
    have hnot : name ∉ search.path := fun hmem => notOnPath ((h.mem_onPath name).2 hmem)
    show (search.path ++ [name]).Nodup
    rw [← List.concat_eq_append]
    exact List.Nodup.concat hnot h.path_nodup
  mem_onPath := fun other => by
    simp only [Traversal.enter, NameSet.mem_insert, h.mem_onPath, List.mem_append,
      List.mem_singleton]
    exact or_comm
  path_components := fun other hmem => by
    rcases List.mem_append.1 hmem with hold | hnew
    · exact h.path_components other hold
    · exact List.mem_singleton.1 hnew ▸ component
  path_linked := by
    refine List.isChain_append.2 ⟨h.path_linked, List.isChain_singleton name, ?_⟩
    intro last hlast other hother
    obtain rfl : name = other := by simpa using hother
    rw [h.getLast?_path] at hlast
    obtain ⟨frame, hframe, rfl⟩ := Option.map_eq_some_iff.1 hlast
    exact linked frame hframe
  order_nodup := h.order_nodup
  mem_emitted := h.mem_emitted
  order_components := h.order_components
  apart := fun other hmem hpath => by
    rcases List.mem_append.1 hpath with hold | hnew
    · exact h.apart other hmem hold
    · exact notEmitted (List.mem_singleton.1 hnew ▸ hmem)
  supported := h.supported
  accounted := ⟨⟨[], rfl, by simp⟩, h.accounted⟩

/-- Leaving a component that has looked at all its dependencies keeps the invariant. -/
theorem leave {name : String} {below : List Frame} (h : Coherent map none search)
    (top : search.stack = ⟨name, []⟩ :: below) : Coherent map none (search.leave name below) := by
  have hpath : search.path = (below.map Frame.name).reverse ++ [name] := by
    rw [h.path_eq, top]
    simp
  have hdrop : search.path.dropLast = (below.map Frame.name).reverse := by
    rw [hpath, List.dropLast_concat]
  have hmem : name ∈ search.path := by simp [hpath]
  have hnotDrop : name ∉ search.path.dropLast := by
    rw [hdrop]
    have hnodup := h.path_nodup
    rw [hpath, ← List.concat_eq_append] at hnodup
    exact ((List.nodup_concat _ _).1 hnodup).1
  have hnotEmitted : name ∉ search.order := fun hin =>
    h.apart name ((h.mem_emitted name).2 hin) hmem
  have haccounted := h.accounted
  rw [top] at haccounted
  -- Nothing is pending, so all that the component depends on is emitted.
  have hdependencies : ∀ dependency, map.DependsOn name dependency → dependency ∈ search.order := by
    intro dependency hdepends
    obtain ⟨seen, hsplit, hseen⟩ := haccounted.1
    rw [List.append_nil] at hsplit
    have hin : dependency ∈ seen := hsplit ▸ hdepends
    exact (h.mem_emitted _).1 ((hseen dependency hin).resolve_right (by simp))
  exact {
    path_eq := hdrop
    path_nodup := h.path_nodup.sublist (List.dropLast_sublist _)
    mem_onPath := fun other => by
      simp only [Traversal.leave, NameSet.mem_erase, h.mem_onPath]
      constructor
      · rintro ⟨hin, hne⟩
        rw [hdrop]
        rw [hpath] at hin
        exact (List.mem_append.1 hin).resolve_right (by simpa using hne)
      · intro hin
        exact ⟨List.mem_of_mem_dropLast hin, fun heq => hnotDrop (heq ▸ hin)⟩
    path_components := fun other hin => h.path_components other (List.mem_of_mem_dropLast hin)
    path_linked := h.path_linked.dropLast
    order_nodup := by
      show (search.order ++ [name]).Nodup
      rw [← List.concat_eq_append]
      exact List.Nodup.concat hnotEmitted h.order_nodup
    mem_emitted := fun other => by
      simp only [Traversal.leave, NameSet.mem_insert, h.mem_emitted, List.mem_append,
        List.mem_singleton]
      exact or_comm
    order_components := fun other hin => by
      rcases List.mem_append.1 hin with hold | hnew
      · exact h.order_components other hold
      · exact List.mem_singleton.1 hnew ▸ h.path_components name hmem
    apart := fun other hin hdropped => by
      rcases NameSet.mem_insert.1 hin with rfl | hold
      · exact hnotDrop hdropped
      · exact h.apart other hold (List.mem_of_mem_dropLast hdropped)
    supported := fun before other after hsplit dependency hdepends => by
      -- Either the component just emitted is looked at, or one that was emitted earlier.
      rcases List.eq_nil_or_concat after with rfl | ⟨after, last, rfl⟩
      · obtain ⟨rfl, hlast⟩ := List.append_inj' hsplit rfl
        obtain rfl : name = other := by simpa using hlast
        exact hdependencies dependency hdepends
      · have hsplit' : search.order ++ [name] = (before ++ other :: after) ++ [last] := by
          simpa [Traversal.leave] using hsplit
        exact h.supported before other after (List.append_inj' hsplit' rfl).1 dependency hdepends
    accounted := haccounted.2.emit }

/-- Every turn keeps the invariant. -/
theorem turn {next : Traversal} (h : Coherent map none search) (turned : Turn map search next) :
    Coherent map none next := by
  cases turned with
  | leave top => exact h.leave top
  | skip top emitted => exact (h.take top).settle emitted
  | enter top notEmitted notOnPath =>
    have hframe := h.accounted
    rw [top] at hframe
    have hdepends := hframe.1.dependsOn (List.mem_cons_self ..)
    refine (h.take top).enter (DependencyMap.mem_present.1 hdepends).2 notEmitted notOnPath ?_
    rintro frame ⟨⟩
    exact hdepends

end Coherent

/-- Every reachable state has the invariant. -/
theorem Reachable.coherent {search : Traversal} (reached : Reachable map search) :
    Coherent map none search := by
  induction reached with
  | start => exact Coherent.start
  | @root search name reached idle component notEmitted ih =>
    have hpath : search.path = [] := by rw [ih.path_eq, idle]; rfl
    -- Without frames there is nothing to account for, so the root may count as taken from one.
    have htaken : Coherent map (some name) search := { ih with accounted := by rw [idle]; trivial }
    refine htaken.enter component notEmitted ?_ (by simp [idle])
    rw [ih.mem_onPath, hpath]
    exact List.not_mem_nil
  | turn reached turned ih => exact ih.turn turned

/-! ## Whole visits -/

/-- A component that was entered stays emitted or under visit. -/
theorem Turn.entered {search next : Traversal} (turned : Turn map search next) {name : String}
    (h : name ∈ search.emitted ∨ name ∈ search.onPath) :
    name ∈ next.emitted ∨ name ∈ next.onPath := by
  cases turned with
  | @leave top below _ =>
    simp only [Traversal.leave, NameSet.mem_insert, NameSet.mem_erase]
    by_cases heq : name = top
    · exact .inl (.inl heq)
    · exact h.imp .inr fun hpath => ⟨hpath, heq⟩
  | skip _ _ => exact h
  | enter _ _ _ =>
    simp only [Traversal.enter, NameSet.mem_insert]
    exact h.imp id .inr

/-- Along a series of turns, too. -/
theorem entered_of_turns {search last : Traversal} (turns : ReflTransGen (Turn map) search last)
    {name : String} (h : name ∈ search.emitted ∨ name ∈ search.onPath) :
    name ∈ last.emitted ∨ name ∈ last.onPath := by
  induction turns with
  | refl => exact h
  | tail _ turned ih => exact turned.entered ih

/-- At rest, what was entered is emitted. -/
theorem Reachable.emitted_of_idle {search : Traversal} (reached : Reachable map search)
    (idle : search.stack = []) {name : String}
    (h : name ∈ search.emitted ∨ name ∈ search.onPath) : name ∈ search.emitted := by
  refine h.resolve_right ?_
  rw [reached.coherent.mem_onPath, reached.coherent.path_eq, idle]
  exact List.not_mem_nil

/-- A visit that ends well has emitted its root, and has taken nothing back. -/
theorem Reachable.visit_eq_ok {search last : Traversal} {root : String}
    (reached : Reachable map search) (idle : search.stack = []) (component : root ∈ map.names)
    (h : search.visit map root = .ok last) :
    Reachable map last ∧ last.stack = [] ∧ root ∈ last.emitted ∧
      ∀ name ∈ search.emitted, name ∈ last.emitted := by
  unfold visit at h
  split at h
  · next hemitted =>
    simp only [Except.ok.injEq] at h
    subst h
    exact ⟨reached, idle, hemitted, fun _ hmem => hmem⟩
  · next hemitted =>
    obtain ⟨turns, hidle⟩ := turns_of_run_eq_ok h
    have hlast : Reachable map last := (reached.root idle component hemitted).turns turns
    refine ⟨hlast, hidle, ?_, fun name hmem => ?_⟩
    · exact hlast.emitted_of_idle hidle (entered_of_turns turns (.inr (by simp [enter])))
    · exact hlast.emitted_of_idle hidle (entered_of_turns turns (.inl hmem))

/-- A visit that fails has come to a state that fails. -/
theorem Reachable.visit_eq_error {search : Traversal} {root : String} {cycle : Cycle}
    (reached : Reachable map search) (idle : search.stack = []) (component : root ∈ map.names)
    (h : search.visit map root = .error cycle) :
    ∃ last, Reachable map last ∧ last.step map = .error cycle := by
  unfold visit at h
  split at h
  · simp at h
  · next hemitted =>
    obtain ⟨last, turns, hlast⟩ := turns_of_run_eq_error h
    exact ⟨last, (reached.root idle component hemitted).turns turns, hlast⟩

/-- Visits that all end well emit every root. -/
theorem Reachable.visits_eq_ok {roots : List String} {search last : Traversal}
    (reached : Reachable map search) (idle : search.stack = [])
    (components : ∀ root ∈ roots, root ∈ map.names)
    (h : roots.foldlM (fun search root => search.visit map root) search = .ok last) :
    Reachable map last ∧ last.stack = [] ∧
      ∀ name, name ∈ search.emitted ∨ name ∈ roots → name ∈ last.emitted := by
  induction roots generalizing search with
  | nil =>
    obtain rfl : search = last := by simpa [pure, Except.pure] using h
    exact ⟨reached, idle, fun name hname => hname.resolve_right List.not_mem_nil⟩
  | cons root rest ih =>
    rw [List.foldlM_cons] at h
    cases hvisit : search.visit map root with
    | error cycle => simp [hvisit, bind, Except.bind] at h
    | ok next =>
      rw [hvisit] at h
      obtain ⟨hnext, hidle, hroot, hmono⟩ :=
        reached.visit_eq_ok idle (components root (List.mem_cons_self ..)) hvisit
      obtain ⟨hlast, hrest, hemitted⟩ :=
        ih hnext hidle (fun other hmem => components other (List.mem_cons_of_mem _ hmem)) h
      refine ⟨hlast, hrest, fun name hname => hemitted name ?_⟩
      rcases hname with hold | hmem
      · exact .inl (hmono name hold)
      · rcases List.mem_cons.1 hmem with rfl | hmem
        · exact .inl hroot
        · exact .inr hmem

/-- Of visits that do not all end well, one comes to a state that fails. -/
theorem Reachable.visits_eq_error {roots : List String} {search : Traversal} {cycle : Cycle}
    (reached : Reachable map search) (idle : search.stack = [])
    (components : ∀ root ∈ roots, root ∈ map.names)
    (h : roots.foldlM (fun search root => search.visit map root) search = .error cycle) :
    ∃ last, Reachable map last ∧ last.step map = .error cycle := by
  induction roots generalizing search with
  | nil => simp [pure, Except.pure] at h
  | cons root rest ih =>
    have hcomponent := components root (List.mem_cons_self ..)
    rw [List.foldlM_cons] at h
    cases hvisit : search.visit map root with
    | error cycle' =>
      obtain rfl : cycle' = cycle := by simpa [hvisit, bind, Except.bind] using h
      exact reached.visit_eq_error idle hcomponent hvisit
    | ok next =>
      rw [hvisit] at h
      obtain ⟨hnext, hidle, -, -⟩ := reached.visit_eq_ok idle hcomponent hvisit
      exact ih hnext hidle (fun other hmem => components other (List.mem_cons_of_mem _ hmem)) h

end Traversal

/-- An order comes from a reachable state at rest that has emitted every component. -/
theorem exists_reachable_of_resolve_eq_ok {map : DependencyMap} {order : InitOrder}
    (h : resolve map = .ok order) :
    ∃ last, Traversal.Reachable map last ∧ (∀ name ∈ map.names, name ∈ last.emitted) ∧
      order.names = last.order := by
  unfold resolve at h
  cases hvisits : map.names.toList.foldlM
      (fun search root => search.visit map root) ({} : Traversal) with
  | error cycle => simp [hvisits, bind, Except.bind] at h
  | ok last =>
    obtain ⟨hlast, -, hemitted⟩ :=
      Traversal.Reachable.start.visits_eq_ok rfl (fun root hmem => hmem) hvisits
    obtain rfl : ⟨last.order⟩ = order := by
      simpa [hvisits, bind, Except.bind, pure, Except.pure] using h
    exact ⟨last, hlast, fun name hmem => hemitted name (.inr hmem), rfl⟩

/-- A cycle comes from a reachable state whose next turn fails. -/
theorem exists_reachable_of_resolve_eq_error {map : DependencyMap} {cycle : Cycle}
    (h : resolve map = .error cycle) :
    ∃ last, Traversal.Reachable map last ∧ last.step map = .error cycle := by
  unfold resolve at h
  cases hvisits : map.names.toList.foldlM
      (fun search root => search.visit map root) ({} : Traversal) with
  | error cycle' =>
    obtain rfl : cycle' = cycle := by simpa [hvisits, bind, Except.bind] using h
    exact Traversal.Reachable.start.visits_eq_error rfl (fun root hmem => hmem) hvisits
  | ok last => simp [hvisits, bind, Except.bind, pure, Except.pure] at h

end Scaffold.Ordering
