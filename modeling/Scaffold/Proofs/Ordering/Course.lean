import Mathlib.Algebra.Order.BigOperators.Group.List
import Mathlib.Algebra.Order.Ring.Nat
import Mathlib.Data.List.Perm.Subperm
import Scaffold.Proofs.Ordering.Outcome

/-!
# The course of a search

A search goes through the components as roots, and for each one that is not emitted yet it takes turns until nothing is
under visit.  `Traversal.Course` is that course step by step, with a count of the turns and a record of what has been
entered.  What holds all along it is put together from two sources.  The state is described by the invariant of
`Scaffold.Proofs.Ordering.SearchInvariant`.  The record is described by the state: what has been entered is emitted or
under visit, and neither of these is entered again.

So the record has no repetition, and with it the turns are bounded.  Entering a component pays for all turns that it
will take: one for each present dependency, and one to leave.

## Main Definitions

* `Traversal.Sound` — what the state of a search is like whenever the search looks at it
* `Traversal.Enters` — what a part of a search has entered, and what that does to the state
* `Traversal.Course` — how far a search has come, and how
* `DependencyMap.effort` — the turns that a component takes

## Main Statements

* `Traversal.Reachable.sound` — what is true of the state all along the search
* `Traversal.Sound.enters_root`, `Traversal.Sound.enters_turn` — a step enters at most one component, and a new one
* `Traversal.Course.enters` — so nothing is entered twice
* `Traversal.Course.turns_le` — and the turns are bounded
* `resolve_course` — all of this, and that `resolve` follows the course to its end
-/

namespace Scaffold.Ordering

variable {map : DependencyMap}

/-! ### What a frame has looked at -/

/-- What a frame on a stack has looked at is emitted, or stands right above it. -/
theorem Frame.StackAccounted.of_append {emitted : NameSet} {above : Option String} {upper lower : List Frame}
    {frame : Frame} (h : StackAccounted map emitted above (upper ++ frame :: lower)) :
    frame.Accounted map emitted ((upper.getLast?.map Frame.name).or above) := by
  induction upper generalizing above with
  | nil => exact h.1
  | cons first rest ih =>
    have hrest := ih h.2
    rcases List.eq_nil_or_concat rest with rfl | ⟨front, last, rfl⟩
    · exact hrest
    · rw [List.concat_eq_append] at hrest ⊢
      rw [List.getLast?_concat] at hrest
      rw [← List.cons_append, List.getLast?_concat]
      exact hrest

/-- The turns that a component takes once it is entered: one for each present dependency, and one to leave. -/
def DependencyMap.effort (map : DependencyMap) (name : String) : Nat :=
  (map.present name).size + 1

namespace Traversal

/-! ### The state -/

/-- What the state of a search is like between turns: its copies of one thing agree, and its frames know what is left to
look at. -/
structure Sound (map : DependencyMap) (search : Traversal) : Prop where
  /-- The path names the frames, outermost first. -/
  path_eq : search.path = (search.stack.map Frame.name).reverse
  /-- The path has no repetition. -/
  path_nodup : search.path.Nodup
  /-- The set of components under visit has the members of the path. -/
  mem_onPath : ∀ name, name ∈ search.onPath ↔ name ∈ search.path
  /-- Each component on the path is a present dependency of the one before it. -/
  linked : search.path.IsChain map.DependsOn
  /-- The order has no repetition. -/
  order_nodup : search.order.Nodup
  /-- The set of emitted components has the members of the order. -/
  mem_emitted : ∀ name, name ∈ search.emitted ↔ name ∈ search.order
  /-- No component is emitted and under visit. -/
  disjoint : ∀ name ∈ search.emitted, name ∉ search.onPath
  /-- What an emitted component depends on is emitted, if it is present. -/
  closed : ∀ name ∈ search.emitted, ∀ dependency ∈ map.present name, dependency ∈ search.emitted
  /-- A frame has looked at a first part of its dependencies.  What is not emitted of it is the component that follows
  on the path. -/
  looked : ∀ frame ∈ search.stack, ∃ seen, (map.present frame.name).toList = seen ++ frame.pending ∧
    ∀ dependency ∈ seen, dependency ∈ search.emitted ∨ [frame.name, dependency] <:+: search.path

/-- What a frame has looked at stands right behind it on the path, if it is not emitted. -/
theorem Coherent.looked {search : Traversal} (h : Coherent map none search) {frame : Frame}
    (hmem : frame ∈ search.stack) : ∃ seen, (map.present frame.name).toList = seen ++ frame.pending ∧
      ∀ dependency ∈ seen, dependency ∈ search.emitted ∨ [frame.name, dependency] <:+: search.path := by
  obtain ⟨upper, lower, hstack⟩ := List.append_of_mem hmem
  have haccounted := h.accounted
  rw [hstack] at haccounted
  obtain ⟨seen, hsplit, hseen⟩ := haccounted.of_append
  refine ⟨seen, hsplit, fun dependency hdependency => (hseen dependency hdependency).imp id fun habove => ?_⟩
  rw [Option.or_none] at habove
  obtain ⟨next, hnext, rfl⟩ := Option.map_eq_some_iff.1 habove
  obtain ⟨front, rfl⟩ := List.getLast?_eq_some_iff.1 hnext
  refine ⟨(lower.map Frame.name).reverse, (front.map Frame.name).reverse, ?_⟩
  rw [h.path_eq, hstack]
  simp

/-- Every reachable state is sound. -/
theorem Reachable.sound {search : Traversal} (reached : Reachable map search) : search.Sound map := by
  have h := reached.coherent
  exact {
    path_eq := h.path_eq
    path_nodup := h.path_nodup
    mem_onPath := h.mem_onPath
    linked := h.path_linked
    order_nodup := h.order_nodup
    mem_emitted := h.mem_emitted
    disjoint := fun name hemitted honPath => h.apart name hemitted ((h.mem_onPath name).1 honPath)
    closed := fun name hemitted dependency hdepends => by
      obtain ⟨before, after, hsplit⟩ := List.append_of_mem ((h.mem_emitted name).1 hemitted)
      have hbefore := h.supported before name after hsplit dependency hdepends
      rw [h.mem_emitted, hsplit]
      exact List.mem_append_left _ hbefore
    looked := fun _ hmem => h.looked hmem }

/-- A search that fails finds the component that it came back to on the path, and reports the path from there on. -/
theorem Reachable.exists_start_of_step_eq_error {search : Traversal} {cycle : Cycle}
    (reached : Reachable map search) (h : search.step map = .error cycle) :
    ∃ start, search.path.findIdx? (· == cycle.component) = some start ∧
      cycle.path = search.path.drop start ++ [cycle.component] := by
  obtain ⟨name, component, pending, below, -, honPath, rfl⟩ := exists_pending_of_step_eq_error h
  have hpath := (reached.sound.mem_onPath component).1 honPath
  obtain ⟨start, hstart⟩ : ∃ start, search.path.findIdx? (· == component) = some start := by
    rw [← Option.isSome_iff_exists, List.findIdx?_isSome, List.any_eq_true]
    exact ⟨component, hpath, beq_self_eq_true component⟩
  refine ⟨start, hstart, ?_⟩
  rw [Cycle.close, hstart]
  rfl

/-! ### What is entered -/

/-- The turns that the frames on the stack have still to take. -/
def outstanding (search : Traversal) : Nat :=
  (search.stack.map fun frame => frame.pending.length + 1).sum

/-- From one state to the next a search has entered some new components, and nothing else, and has taken some turns. -/
structure Enters (map : DependencyMap) (entered : List String) (turns : Nat) (search next : Traversal) : Prop where
  /-- Nothing is entered twice. -/
  nodup : entered.Nodup
  /-- What is entered was neither emitted nor under visit. -/
  fresh : ∀ name ∈ entered, ¬(name ∈ search.emitted ∨ name ∈ search.onPath)
  /-- Now it is, and so is what was. -/
  mem_iff : ∀ name, name ∈ next.emitted ∨ name ∈ next.onPath ↔
    (name ∈ search.emitted ∨ name ∈ search.onPath) ∨ name ∈ entered
  /-- The turns taken are no longer outstanding, and those of the components entered are. -/
  turns_add : turns + next.outstanding = search.outstanding + (entered.map map.effort).sum

theorem Enters.refl (search : Traversal) : Enters map [] 0 search search where
  nodup := List.nodup_nil
  fresh := by simp
  mem_iff := by simp
  turns_add := by simp

/-- What is entered first is not entered again. -/
theorem Enters.trans {first second : List String} {turns turns' : Nat} {search middle next : Traversal}
    (h : Enters map first turns search middle) (h' : Enters map second turns' middle next) :
    Enters map (first ++ second) (turns + turns') search next where
  nodup := by
    refine List.nodup_append.2 ⟨h.nodup, h'.nodup, fun name hfirst other hsecond heq => ?_⟩
    exact h'.fresh other hsecond ((h.mem_iff other).2 (.inr (heq ▸ hfirst)))
  fresh name hmem := by
    rcases List.mem_append.1 hmem with hfirst | hsecond
    · exact h.fresh name hfirst
    · exact fun hold => h'.fresh name hsecond ((h.mem_iff name).2 (.inl hold))
  mem_iff name := by rw [h'.mem_iff, h.mem_iff, List.mem_append, or_assoc]
  turns_add := by
    have hturns := h.turns_add
    have hturns' := h'.turns_add
    rw [List.map_append, List.sum_append]
    omega

section

variable {search next : Traversal} {name : String}

/-- A visit takes no turn to enter its root. -/
theorem Sound.enters_root (h : search.Sound map) (idle : search.stack = []) (notEmitted : name ∉ search.emitted) :
    Enters map [name] 0 search (search.enter map name) where
  nodup := List.nodup_singleton name
  fresh := by
    intro other hother
    obtain rfl := List.mem_singleton.1 hother
    rw [h.mem_onPath, h.path_eq, idle]
    exact not_or.2 ⟨notEmitted, List.not_mem_nil⟩
  mem_iff other := by
    simp only [enter, NameSet.mem_insert, List.mem_singleton]
    tauto
  turns_add := by
    simp [outstanding, enter, DependencyMap.effort, NameSet.size, Nat.add_comm]

/-- A turn enters at most one component.  What it enters is what the path has grown by. -/
theorem Sound.enters_turn (h : search.Sound map) (turned : Turn map search next) :
    Enters map (next.path.drop search.path.length) 1 search next := by
  cases turned with
  | @leave top below htop =>
    have honPath : top ∈ search.onPath := by
      rw [h.mem_onPath, h.path_eq, htop]
      simp
    have hgrown : (search.leave top below).path.drop search.path.length = [] :=
      List.drop_eq_nil_of_le (by rw [leave, List.length_dropLast]; exact Nat.sub_le _ _)
    rw [hgrown]
    refine ⟨List.nodup_nil, by simp, fun other => ?_, ?_⟩
    · simp only [leave, NameSet.mem_insert, NameSet.mem_erase, List.not_mem_nil, or_false]
      by_cases heq : other = top
      · simp [heq, honPath]
      · simp [heq]
    · simp [outstanding, leave, htop]
  | @skip top dependency pending below htop emitted =>
    rw [List.drop_length]
    refine ⟨List.nodup_nil, by simp, fun other => by simp, ?_⟩
    simp [outstanding, htop]
    omega
  | @enter top dependency pending below htop notEmitted notOnPath =>
    rw [enter, List.drop_left]
    refine ⟨List.nodup_singleton dependency, ?_, fun other => ?_, ?_⟩
    · intro other hother
      obtain rfl := List.mem_singleton.1 hother
      exact not_or.2 ⟨notEmitted, notOnPath⟩
    · simp only [NameSet.mem_insert, List.mem_singleton]
      tauto
    · simp [outstanding, htop, DependencyMap.effort, NameSet.size]
      omega

end

/-! ### The course -/

/-- How far a search has come: it has taken a number of turns and entered some components, in the order of the list, it
has some roots left to visit, and is in a state.  Entering a component puts it at the end of the path, and nothing else
makes the path longer. -/
inductive Course (map : DependencyMap) : Nat → List String → List String → Traversal → Prop where
  /-- The search starts with all components as roots. -/
  | start : Course map 0 [] map.names.toList {}
  /-- A root that is emitted already is not visited. -/
  | pass {turns : Nat} {entered roots : List String} {root : String} {search : Traversal}
      (course : Course map turns entered (root :: roots) search) (idle : search.stack = [])
      (emitted : root ∈ search.emitted) : Course map turns entered roots search
  /-- A visit begins by entering its root. -/
  | visit {turns : Nat} {entered roots : List String} {root : String} {search : Traversal}
      (course : Course map turns entered (root :: roots) search) (idle : search.stack = [])
      (notEmitted : root ∉ search.emitted) : Course map turns (entered ++ [root]) roots (search.enter map root)
  /-- The search takes a turn. -/
  | turn {turns : Nat} {entered roots : List String} {search next : Traversal}
      (course : Course map turns entered roots search) (step : search.step map = .ok (some next)) :
      Course map (turns + 1) (entered ++ next.path.drop search.path.length) roots next

namespace Course

variable {turns : Nat} {entered roots : List String} {search last : Traversal}

/-- The roots that are left are components. -/
theorem mem_names (course : Course map turns entered roots search) : ∀ root ∈ roots, root ∈ map.names := by
  induction course with
  | start => exact fun _ hmem => hmem
  | pass _ _ _ ih => exact fun root hmem => ih root (List.mem_cons_of_mem _ hmem)
  | visit _ _ _ ih => exact fun root hmem => ih root (List.mem_cons_of_mem _ hmem)
  | turn _ _ ih => exact ih

/-- A search goes through reachable states. -/
theorem reachable (course : Course map turns entered roots search) : Reachable map search := by
  induction course with
  | start => exact .start
  | pass _ _ _ ih => exact ih
  | visit course idle notEmitted ih =>
    exact ih.root idle (course.mem_names _ List.mem_cons_self) notEmitted
  | turn _ step ih => exact ih.turn (turn_of_step_eq_some step)

/-- All that is entered is entered from the empty state on. -/
theorem enters (course : Course map turns entered roots search) : Enters map entered turns {} search := by
  induction course with
  | start => exact Enters.refl _
  | pass _ _ _ ih => exact ih
  | visit course idle notEmitted ih => exact ih.trans (course.reachable.sound.enters_root idle notEmitted)
  | turn course step ih => exact ih.trans (course.reachable.sound.enters_turn (turn_of_step_eq_some step))

/-- What has been entered is emitted or under visit, and nothing else is. -/
theorem mem_entered_iff (course : Course map turns entered roots search) (name : String) :
    name ∈ entered ↔ name ∈ search.emitted ∨ name ∈ search.onPath := by
  rw [course.enters.mem_iff]
  simp [EmptyCollection.emptyCollection]

/-- Only components are entered. -/
theorem entered_subset (course : Course map turns entered roots search) : entered ⊆ map.names.toList := by
  intro name hmem
  have hcoherent := course.reachable.coherent
  rcases (course.mem_entered_iff name).1 hmem with hemitted | honPath
  · exact hcoherent.order_components name ((hcoherent.mem_emitted name).1 hemitted)
  · exact hcoherent.path_components name ((hcoherent.mem_onPath name).1 honPath)

/-- The turns of a search are bounded by what all components take. -/
theorem turns_le (course : Course map turns entered roots search) :
    turns ≤ (map.names.toList.map map.effort).sum := by
  have hturns : turns + search.outstanding = (entered.map map.effort).sum := by
    simpa [outstanding] using course.enters.turns_add
  obtain ⟨part, hperm, hpart⟩ := course.enters.nodup.subperm course.entered_subset
  have hentered : (part.map map.effort).sum = (entered.map map.effort).sum := (hperm.map map.effort).sum_eq
  have hbound := (hpart.map map.effort).sum_le_sum fun _ _ => Nat.zero_le _
  omega

/-! ### The end of the course -/

/-- A course leads to an outcome: to a state at rest with some roots left, or to a state that fails. -/
def LeadsTo (map : DependencyMap) (roots : List String) : Except Cycle Traversal → Prop
  | .ok last => ∃ turns entered, Course map turns entered roots last ∧ last.stack = []
  | .error cycle => ∃ turns entered roots last, Course map turns entered roots last ∧ last.step map = .error cycle

/-- A run follows the course. -/
theorem leadsTo_run (course : Course map turns entered roots search) : LeadsTo map roots (search.run map) := by
  fun_induction run map search generalizing turns entered with
  | case1 search cycle hstep => exact ⟨turns, entered, roots, search, course, hstep⟩
  | case2 search hstep => exact ⟨turns, entered, course, stack_eq_nil_of_step_eq_none hstep⟩
  | case3 search next hstep ih => exact ih (course.turn hstep)

theorem leadsTo_visit {root : String} (course : Course map turns entered (root :: roots) search)
    (idle : search.stack = []) : LeadsTo map roots (search.visit map root) := by
  unfold Traversal.visit
  split
  · next hemitted => exact ⟨turns, entered, course.pass idle hemitted, idle⟩
  · next hemitted => exact (course.visit idle hemitted).leadsTo_run

/-- Visits to all roots that are left follow the course to its end. -/
theorem leadsTo_visits (course : Course map turns entered roots search) (idle : search.stack = []) :
    LeadsTo map [] (roots.foldlM (fun search root => search.visit map root) search) := by
  induction roots generalizing turns entered search with
  | nil => exact ⟨turns, entered, course, idle⟩
  | cons root rest ih =>
    have hvisit := course.leadsTo_visit idle
    rw [List.foldlM_cons]
    cases houtcome : search.visit map root with
    | error cycle =>
      rw [houtcome] at hvisit
      exact hvisit
    | ok next =>
      rw [houtcome] at hvisit
      obtain ⟨turns', entered', course', idle'⟩ := hvisit
      exact ih course' idle'

end Course

end Traversal

open Traversal

/-- The search for an initialization order follows its course to the end. -/
theorem resolve_of_leadsTo (map : DependencyMap) :
    (∃ last, Course.LeadsTo map [] (.ok last) ∧ resolve map = .ok ⟨last.order⟩) ∨
      ∃ cycle, Course.LeadsTo map [] (.error cycle) ∧ resolve map = .error cycle := by
  have hend : Course.LeadsTo map [] _ := Course.start.leadsTo_visits rfl
  unfold resolve
  cases hvisits : map.names.toList.foldlM (fun search root => search.visit map root) ({} : Traversal) with
  | ok last =>
    rw [hvisits] at hend
    exact .inl ⟨last, hend, rfl⟩
  | error cycle =>
    rw [hvisits] at hend
    exact .inr ⟨cycle, hend, rfl⟩

/-- All along a search its state is sound, nothing is entered twice, the turns are bounded, and a search that fails
finds the component that it came back to on the path; and the search for an initialization order follows its course
to a state at rest after the last root, or to a state that fails. -/
theorem resolve_course (map : DependencyMap) :
    (∀ turns entered roots search, Course map turns entered roots search →
      search.Sound map ∧ entered.Nodup ∧
      (∀ name, name ∈ entered ↔ name ∈ search.emitted ∨ name ∈ search.onPath) ∧
      turns ≤ (map.names.toList.map map.effort).sum ∧
      ∀ cycle, search.step map = .error cycle →
        ∃ start, search.path.findIdx? (· == cycle.component) = some start ∧
          cycle.path = search.path.drop start ++ [cycle.component]) ∧
    (∀ order, resolve map = .ok order →
      ∃ turns entered last, Course map turns entered [] last ∧ last.stack = [] ∧ order.names = last.order) ∧
    ∀ cycle, resolve map = .error cycle →
      ∃ turns entered roots last, Course map turns entered roots last ∧ last.step map = .error cycle := by
  refine ⟨fun turns entered roots search course => ?_, fun order h => ?_, fun cycle h => ?_⟩
  · exact ⟨course.reachable.sound, course.enters.nodup, course.mem_entered_iff, course.turns_le,
      fun cycle hstep => course.reachable.exists_start_of_step_eq_error hstep⟩
  · rcases resolve_of_leadsTo map with ⟨last, ⟨turns, entered, course, idle⟩, hresolve⟩ | ⟨cycle, -, hresolve⟩
    · rw [hresolve] at h
      cases h
      exact ⟨turns, entered, last, course, idle, rfl⟩
    · rw [hresolve] at h
      cases h
  · rcases resolve_of_leadsTo map with ⟨last, -, hresolve⟩ | ⟨cycle', hend, hresolve⟩
    · rw [hresolve] at h
      cases h
    · rw [hresolve] at h
      cases h
      exact hend

/-- A search in a tangle that has visited its first root and is in the visit of the second, with the given frames. -/
def entangled (frames : List Frame) : Traversal where
  emitted := .ofList ["done"]
  order := ["done"]
  path := (frames.map Frame.name).reverse
  onPath := .ofList (frames.map Frame.name)
  stack := frames

/-- In a tangle the search fails after four turns: one has left the first root, one has passed over it, and two have
entered the components that need each other.  It finds what it came back to behind the second root. -/
theorem resolve_course_entangled :
    ∃ search, Course tangle 4 ["done", "entry", "x", "y"] ["x", "y"] search ∧ search.Sound tangle ∧
      search.step tangle = .error ⟨"x", ["x", "y", "x"]⟩ ∧
      ∃ start, search.path.findIdx? (· == "x") = some start ∧ ["x", "y", "x"] = search.path.drop start ++ ["x"] := by
  have hnames : tangle.names.toList = ["done", "entry", "x", "y"] := by cbv
  have hstart : Course tangle 0 [] ["done", "entry", "x", "y"] {} := hnames ▸ Course.start
  have hleft := (hstart.visit rfl (by decide)).turn (show _ = Except.ok (some (entangled [])) by cbv)
  have hentry := hleft.visit rfl (by decide)
  have hx := hentry.turn (show _ = Except.ok (some (entangled [⟨"x", ["done", "y"]⟩, ⟨"entry", []⟩])) by cbv)
  have hpassed := hx.turn (show _ = Except.ok (some (entangled [⟨"x", ["y"]⟩, ⟨"entry", []⟩])) by cbv)
  have hy := hpassed.turn (show _ = Except.ok (some (entangled [⟨"y", ["x"]⟩, ⟨"x", []⟩, ⟨"entry", []⟩])) by cbv)
  have hstep : (entangled [⟨"y", ["x"]⟩, ⟨"x", []⟩, ⟨"entry", []⟩]).step tangle = .error ⟨"x", ["x", "y", "x"]⟩ := by
    cbv
  obtain ⟨hsound, -, -, -, hfound⟩ := (resolve_course tangle).1 _ _ _ _ hy
  exact ⟨_, hy, hsound, hstep, hfound _ hstep⟩

end Scaffold.Ordering
