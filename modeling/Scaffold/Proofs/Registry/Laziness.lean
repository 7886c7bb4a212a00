import Scaffold.Proofs.Registry.Recipes

/-!
# Lazy construction does not depend on the order of requests

Whether an initializer runs inside another one, how deeply, or not at all because its name has been constructed before,
depends on what has been asked for so far.  What comes of it does not.  If initializers follow recipes without circles,
a series of requests constructs the names with initializers that it reaches, and each gets the value that the recipes
give it.

The induction is over the needs of names.  Its invariant describes the registry at any moment, at any depth: some
names have been constructed, some are under construction, and all other entries are as they were.  A request that is
made inside initializers all of which need its name adds to the constructed names, and leaves the chain as it was.  Its
name is not in the chain, because nothing needs itself, so that no request is refused.

## Main Definitions

* `Registry.InTurn` — a list in which each name stands after the names that it needs
* `Registry.Underway` — a registry in which certain names have been constructed
* `Registry.Progress` — what requests for certain names add
* `Registry.Constructed` — what a series of requests has come to

## Main Statements

* `Registry.Underway.enter`, `Registry.Underway.leave` — the two ends of a construction
* `Registry.run_of_gathers` — an initializer that follows its recipe
* `Registry.Lazy.serves` — requests inside initializers that need the name
* `Registry.Lazy.initializeAll_of_perm` — a series of requests, in any order
-/

namespace Scaffold

open Relation

variable {ν : Type}

/-- The name whose initializer has been started. -/
def Event.startedName? : Event ν → Option String
  | started name => some name
  | _ => none

/-- The name whose initializer has returned a value. -/
def Event.builtName? : Event ν → Option String
  | built name _ => some name
  | _ => none

/-- What is neither the start nor the end of a construction. -/
theorem Event.of_aside {event : Event ν} (aside : event.constructed? = none) :
    event.startedName? = none ∧ event.builtName? = none ∧ ∀ name, event ≠ .failed name := by
  cases event with
  | started name => cases aside
  | built name value => cases aside
  | failed name => cases aside
  | given name held? => exact ⟨rfl, rfl, fun name h => nomatch h⟩
  | refused name error => exact ⟨rfl, rfl, fun name h => nomatch h⟩
  | note text => exact ⟨rfl, rfl, fun name h => nomatch h⟩

namespace Registry

variable {registry current after : Registry ν} {recipes : Recipes ν} {values : String → ν}
  {name other : String} {built : List String}

/-! ### Names in turn -/

/-- A list of names in which each stands after those names with an initializer that it needs. -/
def InTurn (registry : Registry ν) (recipes : Recipes ν) (names : List String) : Prop :=
  ∀ before name later, names = before ++ name :: later →
    ∀ other ∈ recipes.needs name, other ∈ registry.deferredNames → other ∈ before

theorem inTurn_nil : registry.InTurn recipes [] := by
  intro before name later h
  exact absurd h.symm (List.append_ne_nil_of_right_ne_nil before (List.cons_ne_nil name later))

/-- A name may stand after what it needs. -/
theorem InTurn.concat (h : registry.InTurn recipes built)
    (needed : ∀ other ∈ recipes.needs name, other ∈ registry.deferredNames → other ∈ built) :
    registry.InTurn recipes (built ++ [name]) := by
  intro before first later hsplit
  rcases List.eq_nil_or_concat later with rfl | ⟨later, last, rfl⟩
  · obtain ⟨rfl, hlast⟩ := List.append_inj' hsplit rfl
    obtain rfl := List.singleton_inj.1 hlast
    exact needed
  · rw [List.concat_eq_append, ← List.cons_append, ← List.append_assoc] at hsplit
    exact h before first later (List.append_inj' hsplit rfl).1

/-- What a name of the list needs is in the list. -/
theorem InTurn.mem_of_needs (h : registry.InTurn recipes built) (hmem : name ∈ built)
    (hother : other ∈ recipes.needs name) (hdeferred : other ∈ registry.deferredNames) :
    other ∈ built := by
  obtain ⟨before, later, rfl⟩ := List.append_of_mem hmem
  exact List.mem_append_left _ (h before name later rfl other hother hdeferred)

/-- A name that is reached from the list is in the list. -/
theorem InTurn.mem_of_reached (h : registry.InTurn recipes built)
    (hmem : name ∈ registry.deferredNames → name ∈ built)
    (reached : ReflTransGen (registry.Needs recipes) name other)
    (hdeferred : other ∈ registry.deferredNames) : other ∈ built := by
  induction reached with
  | refl => exact hmem hdeferred
  | tail _ needs ih => exact h.mem_of_needs (ih needs.1) needs.2 hdeferred

/-! ### The invariant -/

/-- What `registry` has become when the names `built` have been constructed, in this order, with their values, and those
that are marked are under construction. -/
structure Underway (registry : Registry ν) (recipes : Recipes ν) (values : String → ν)
    (built : List String) (current : Registry ν) : Prop where
  /-- Each name is constructed once, and is not under construction then. -/
  nodup : (built ++ current.running).Nodup
  /-- A name that has been constructed has its value; its initializer has been started once more. -/
  filled : ∀ name ∈ built, ∃ type initializer runs,
    registry.find? name = some (.deferred type initializer runs none) ∧
      current.find? name = some (.deferred type initializer (runs + 1) (some (values name)))
  /-- The initializer of a name that is under construction has been started once more. -/
  started : ∀ name ∈ current.running, ∃ type initializer runs,
    registry.find? name = some (.deferred type initializer runs none) ∧
      current.find? name = some (.deferred type initializer (runs + 1) none)
  /-- Other entries are as they were. -/
  others : ∀ name, name ∉ built → name ∉ current.running → current.find? name = registry.find? name
  /-- Every name is registered with the type that it was registered with. -/
  typeNames : ∀ name, current.typeName? name = registry.typeName? name
  /-- What a name needs has been constructed before. -/
  inTurn : registry.InTurn recipes built
  /-- The history has grown by one start for each of these names, and by one end for each that has been constructed,
  in the order of their construction; nothing has failed. -/
  history : ∃ news, current.history = news ++ registry.history ∧
    (news.filterMap Event.startedName?).Perm (built ++ current.running) ∧
    news.filterMap Event.builtName? = built.reverse ∧ ∀ name, .failed name ∉ news

namespace Underway

theorem start (idle : registry.running = []) : registry.Underway recipes values [] registry where
  nodup := by
    rw [idle]
    exact List.nodup_nil
  filled := fun _ hmem => absurd hmem List.not_mem_nil
  started := fun _ hmem => absurd (idle ▸ hmem) List.not_mem_nil
  others := fun _ _ _ => rfl
  typeNames := fun _ => rfl
  inTurn := inTurn_nil
  history := by
    rw [idle]
    exact ⟨[], rfl, .nil, rfl, fun _ => List.not_mem_nil⟩

variable (h : registry.Underway recipes values built current)

include h

theorem mem_deferredNames (hmem : name ∈ built ++ current.running) : name ∈ registry.deferredNames := by
  rcases List.mem_append.1 hmem with hbuilt | hrunning
  · obtain ⟨type, initializer, runs, hpending, -⟩ := h.filled name hbuilt
    exact mem_deferredNames_of_find? hpending
  · obtain ⟨type, initializer, runs, hpending, -⟩ := h.started name hrunning
    exact mem_deferredNames_of_find? hpending

/-- Notes and answers add nothing. -/
theorem record {event : Event ν} (aside : event.constructed? = none) :
    registry.Underway recipes values built (current.record event) where
  nodup := h.nodup
  filled := h.filled
  started := h.started
  others := h.others
  typeNames := h.typeNames
  inTurn := h.inTurn
  history := by
    obtain ⟨news, hnews, hstarted, hbuilt, hfailed⟩ := h.history
    obtain ⟨hstart, hend, hfail⟩ := Event.of_aside aside
    refine ⟨event :: news, congrArg (event :: ·) hnews, ?_, ?_, fun name hmem => ?_⟩
    · rw [List.filterMap_cons_none hstart]
      exact hstarted
    · rw [List.filterMap_cons_none hend]
      exact hbuilt
    · rcases List.mem_cons.1 hmem with heq | hmem
      · exact hfail name heq.symm
      · exact hfailed name hmem

/-- One more name is under construction when its initializer is started. -/
theorem enter {type : InstanceType} {initializer : Nat → Program ν} {runs : Nat}
    (pending : registry.find? name = some (.deferred type initializer runs none))
    (fresh : name ∉ built) (idle : name ∉ current.running) :
    registry.Underway recipes values built (current.start name) := by
  have hfind : current.find? name = some (.deferred type initializer runs none) := by
    rw [h.others name fresh idle, pending]
  constructor
  · rw [running_start]
    refine List.nodup_middle.2 (List.nodup_cons.2 ⟨?_, h.nodup⟩)
    rw [List.mem_append, not_or]
    exact ⟨fresh, idle⟩
  · intro other hmem
    obtain ⟨type, initializer, runs, hpending, hfilled⟩ := h.filled other hmem
    refine ⟨type, initializer, runs, hpending, ?_⟩
    rw [find?_start, if_neg (ne_of_mem_of_not_mem hmem fresh), hfilled]
  · intro other hmem
    rw [find?_start]
    by_cases heq : other = name
    · rw [if_pos heq, heq, hfind]
      exact ⟨type, initializer, runs, pending, rfl⟩
    · rw [if_neg heq]
      rw [running_start] at hmem
      exact h.started other ((List.mem_cons.1 hmem).resolve_left heq)
  · intro other hbuilt hrunning
    rw [running_start, List.mem_cons, not_or] at hrunning
    rw [find?_start, if_neg hrunning.1]
    exact h.others other hbuilt hrunning.2
  · exact fun other => (typeName?_start current name other).trans (h.typeNames other)
  · exact h.inTurn
  · obtain ⟨news, hnews, hstarted, hbuilt, hfailed⟩ := h.history
    refine ⟨.started name :: news, ?_, ?_, hbuilt, fun failed hmem => ?_⟩
    · rw [history_start, hnews]
      rfl
    · rw [running_start]
      exact (List.Perm.cons name hstarted).trans List.perm_middle.symm
    · exact hfailed failed ((List.mem_cons.1 hmem).resolve_left fun heq => nomatch heq)

/-- The innermost name has been constructed when its initializer returns its value, if what it needs has been
constructed before. -/
theorem leave {outer : List String} (innermost : current.running = name :: outer)
    (needed : ∀ other ∈ recipes.needs name, other ∈ registry.deferredNames → other ∈ built) :
    registry.Underway recipes values (built ++ [name]) (current.finish name (.ok (values name))).2 := by
  obtain ⟨type, initializer, runs, hpending, hstarted⟩ :=
    h.started name (innermost ▸ List.mem_cons_self)
  have hfind := find?_finish hstarted (.ok (values name))
  have hrunning := running_finish_innermost innermost (.ok (values name))
  have hnodup : (built ++ name :: outer).Nodup := innermost ▸ h.nodup
  have hnames : built ++ [name] ++ outer = built ++ name :: outer := by
    rw [List.append_assoc]
    rfl
  obtain ⟨hfresh, hidle⟩ : name ∉ built ∧ name ∉ outer := by
    rw [← not_or, ← List.mem_append]
    exact (List.nodup_middle.1 hnodup).notMem
  constructor
  · rw [hrunning, hnames]
    exact hnodup
  · intro other hmem
    rw [hfind]
    rcases List.mem_append.1 hmem with hbuilt | hlast
    · rw [if_neg (ne_of_mem_of_not_mem hbuilt hfresh)]
      exact h.filled other hbuilt
    · rw [if_pos (List.mem_singleton.1 hlast), List.mem_singleton.1 hlast]
      exact ⟨type, initializer, runs, hpending, rfl⟩
  · intro other hmem
    rw [hrunning] at hmem
    rw [hfind, if_neg (ne_of_mem_of_not_mem hmem hidle)]
    exact h.started other (innermost ▸ List.mem_cons_of_mem name hmem)
  · intro other hbuilt hoff
    rw [List.mem_append, List.mem_singleton, not_or] at hbuilt
    rw [hrunning] at hoff
    rw [hfind, if_neg hbuilt.2]
    apply h.others other hbuilt.1
    rw [innermost, List.mem_cons, not_or]
    exact ⟨hbuilt.2, hoff⟩
  · exact fun other => (typeName?_finish current name _ other).trans (h.typeNames other)
  · exact h.inTurn.concat needed
  · obtain ⟨news, hnews, hstarts, hends, hfailed⟩ := h.history
    refine ⟨.built name (values name) :: news, ?_, ?_, ?_, fun failed hmem => ?_⟩
    · rw [history_finish, hnews]
      rfl
    · rw [hrunning, hnames, ← innermost]
      exact hstarts
    · rw [List.reverse_append]
      exact congrArg (name :: ·) hends
    · exact hfailed failed ((List.mem_cons.1 hmem).resolve_left fun heq => nomatch heq)

/-- The chain and one more name that it does not hold are no more than there are initializers. -/
theorem length_running_lt (hmem : name ∈ registry.deferredNames) (idle : name ∉ current.running) :
    current.running.length < registry.deferredNames.size := by
  have hnodup : (name :: current.running).Nodup :=
    List.nodup_cons.2 ⟨idle, (List.nodup_append.1 h.nodup).2.1⟩
  refine length_le_size_deferredNames hnodup fun other hother => ?_
  rcases List.mem_cons.1 hother with rfl | hrunning
  · exact hmem
  · exact h.mem_deferredNames (List.mem_append_right built hrunning)

/-- A registered name that is not under construction, and has been constructed if it has an initializer, has the
instance that the values give it. -/
theorem answer?_eq (known : registry.contains name = true) (idle : name ∉ current.running)
    (constructed : name ∈ registry.deferredNames → name ∈ built) :
    current.answer? name = some (registry.eventual values name) := by
  by_cases hdeferred : name ∈ registry.deferredNames
  · obtain ⟨type, initializer, runs, hpending, hfilled⟩ := h.filled name (constructed hdeferred)
    rw [answer?, hfilled, eventual, hpending]
  · have hfind : current.find? name = registry.find? name := by
      refine h.others name (fun hbuilt => hdeferred ?_) idle
      exact h.mem_deferredNames (List.mem_append_left _ hbuilt)
    rw [answer?, hfind, eventual]
    obtain ⟨slot, hslot⟩ := contains_iff.1 known
    rw [hslot]
    cases slot with
    | ready held => rfl
    | unavailable => rfl
    | deferred type initializer runs value? =>
      exact absurd (mem_deferredNames_of_find? hslot) hdeferred

end Underway

/-! ### Requests -/

/-- What requests for certain names add: more names have been constructed, all of them reached from those names, among
them those names themselves as far as they have initializers; the chain is the same. -/
structure Progress (registry : Registry ν) (recipes : Recipes ν) (values : String → ν)
    (names built : List String) (current : Registry ν) (built' : List String) (after : Registry ν) :
    Prop where
  /-- The invariant holds afterwards. -/
  underway : registry.Underway recipes values built' after
  /-- The same names are under construction. -/
  running : after.running = current.running
  /-- What had been constructed before still is. -/
  kept : built ⊆ built'
  /-- What has been constructed is reached from the names. -/
  reached : ∀ other ∈ built', other ∈ built ∨ ∃ name ∈ names, ReflTransGen (registry.Needs recipes) name other
  /-- The names have been constructed, if they have initializers. -/
  covers : ∀ name ∈ names, name ∈ registry.deferredNames → name ∈ built'

theorem Progress.refl (h : registry.Underway recipes values built current) :
    registry.Progress recipes values [] built current built current where
  underway := h
  running := rfl
  kept := List.Subset.refl built
  reached := fun _ hmem => .inl hmem
  covers := fun _ hmem => absurd hmem List.not_mem_nil

theorem Progress.cons {names built₁ built₂ : List String} {middle : Registry ν}
    (first : registry.Progress recipes values [name] built current built₁ middle)
    (rest : registry.Progress recipes values names built₁ middle built₂ after) :
    registry.Progress recipes values (name :: names) built current built₂ after where
  underway := rest.underway
  running := rest.running.trans first.running
  kept := List.Subset.trans first.kept rest.kept
  reached := by
    intro other hmem
    rcases rest.reached other hmem with hmiddle | ⟨start, hstart, hreached⟩
    · rcases first.reached other hmiddle with hbefore | ⟨start, hstart, hreached⟩
      · exact .inl hbefore
      · obtain rfl := List.mem_singleton.1 hstart
        exact .inr ⟨start, List.mem_cons_self, hreached⟩
    · exact .inr ⟨start, List.mem_cons_of_mem name hstart, hreached⟩
  covers := by
    intro other hmem hdeferred
    rcases List.mem_cons.1 hmem with rfl | hmem
    · exact rest.kept (first.covers other (List.mem_singleton.2 rfl) hdeferred)
    · exact rest.covers other hmem hdeferred

/-- A note after it adds nothing. -/
theorem Progress.record {names built' : List String} {event : Event ν}
    (h : registry.Progress recipes values names built current built' after)
    (aside : event.constructed? = none) :
    registry.Progress recipes values names built current built' (after.record event) where
  underway := h.underway.record aside
  running := h.running
  kept := h.kept
  reached := h.reached
  covers := h.covers

/-- Inside a chain of initializers, requests for a name are answered with the instance that the values give it. -/
def Serves (registry : Registry ν) (recipes : Recipes ν) (values : String → ν) (chain : List String)
    (name : String) : Prop :=
  ∀ built current, registry.Underway recipes values built current → current.running = chain →
    ∃ built' after, registry.Progress recipes values [name] built current built' after ∧
      ∀ depth, registry.deferredNames.size ≤ depth + chain.length →
        getAny depth name current = some (.ok (registry.eventual values name), after)

section

variable {chain : List String}

/-- An initializer that follows its recipe combines the instances that the values give to the names that it needs. -/
theorem run_of_gathers {program : Program ν} {names : List String}
    {combine : List (Option (Instance ν)) → ν} (gathers : program.Gathers names combine)
    (serves : ∀ name ∈ names, registry.Serves recipes values chain name)
    (h : registry.Underway recipes values built current) (running : current.running = chain) :
    ∃ built' after, registry.Progress recipes values names built current built' after ∧
      ∀ depth, registry.deferredNames.size ≤ depth + chain.length →
        run (getAny depth) program current =
          some (.ok (combine (names.map (registry.eventual values))), after) := by
  induction gathers generalizing built current with
  | done => exact ⟨built, current, .refl h, fun depth _ => rfl⟩
  | @request name names combine resume _ ih =>
    obtain ⟨built₁, middle, hfirst, hget⟩ := serves name List.mem_cons_self built current h running
    have hanswered := hfirst.record (Event.constructed?_ofAnswer name (.ok (registry.eventual values name)))
    obtain ⟨built₂, after, hrest, hrun⟩ := ih (registry.eventual values name)
      (fun other hmem => serves other (List.mem_cons_of_mem name hmem)) hanswered.underway
      (hanswered.running.trans running)
    refine ⟨built₂, after, hanswered.cons hrest, fun depth enough => ?_⟩
    rw [run, hget depth enough]
    exact hrun depth enough
  | observe _ ih => exact ih current.outlines serves h running
  | @note names combine text program _ ih =>
    have hnoted : registry.Underway recipes values built (current.record (.note text)) := h.record rfl
    obtain ⟨built', after, hprogress, hrun⟩ := ih serves hnoted running
    exact ⟨built', after, ⟨hprogress.underway, hprogress.running, hprogress.kept, hprogress.reached,
      hprogress.covers⟩, hrun⟩

/-- A series of requests outside all initializers is answered throughout. -/
theorem initializeAll_of_serves {names : List String}
    (serves : ∀ name ∈ names, registry.Serves recipes values [] name)
    (h : registry.Underway recipes values built current) (running : current.running = []) :
    ∃ built' after, registry.Progress recipes values names built current built' after ∧
      ∀ depth, registry.deferredNames.size ≤ depth →
        initializeAll depth names current = some (.ok (), after) := by
  induction names generalizing built current with
  | nil => exact ⟨built, current, .refl h, fun depth _ => rfl⟩
  | cons name rest ih =>
    obtain ⟨built₁, middle, hfirst, hget⟩ := serves name List.mem_cons_self built current h running
    obtain ⟨built₂, after, hrest, hall⟩ := ih
      (fun other hmem => serves other (List.mem_cons_of_mem name hmem)) hfirst.underway
      (hfirst.running.trans running)
    refine ⟨built₂, after, hfirst.cons hrest, fun depth enough => ?_⟩
    rw [initializeAll, hget depth enough]
    exact hall depth enough

/-- A request for a name that is not in the chain, and has been constructed if it has an initializer, adds nothing. -/
theorem Underway.serve_of_constructed (h : registry.Underway recipes values built current)
    (running : current.running = chain) (known : registry.contains name = true) (idle : name ∉ chain)
    (constructed : name ∈ registry.deferredNames → name ∈ built) :
    ∃ built' after, registry.Progress recipes values [name] built current built' after ∧
      ∀ depth, registry.deferredNames.size ≤ depth + chain.length →
        getAny depth name current = some (.ok (registry.eventual values name), after) := by
  have hanswer := h.answer?_eq known (running ▸ idle) constructed
  refine ⟨built, current, ?_, fun depth _ => getAny_of_answer? hanswer depth⟩
  constructor
  · exact h
  · rfl
  · exact List.Subset.refl built
  · exact fun other hmem => .inl hmem
  · intro other hmem hdeferred
    obtain rfl := List.mem_singleton.1 hmem
    exact constructed hdeferred

/-- A request for a name that has not been constructed runs its initializer, which follows its recipe. -/
theorem Underway.serve_of_pending (h : registry.Underway recipes values built current)
    (running : current.running = chain)
    (solution : values name =
      recipes.combine name ((recipes.needs name).map (registry.eventual values)))
    {type : InstanceType} {initializer : Nat → Program ν} {runs : Nat}
    (pending : registry.find? name = some (.deferred type initializer runs none))
    (gathers : (initializer (runs + 1)).Gathers (recipes.needs name) (recipes.combine name))
    (idle : name ∉ chain) (fresh : name ∉ built)
    (serves : ∀ other ∈ recipes.needs name, registry.Serves recipes values (name :: chain) other) :
    ∃ built' after, registry.Progress recipes values [name] built current built' after ∧
      ∀ depth, registry.deferredNames.size ≤ depth + chain.length →
        getAny depth name current = some (.ok (registry.eventual values name), after) := by
  subst running
  have hdeferred : name ∈ registry.deferredNames := mem_deferredNames_of_find? pending
  have hfind : current.find? name = some (.deferred type initializer runs none) := by
    rw [h.others name fresh idle, pending]
  have hentered := h.enter pending fresh idle
  obtain ⟨built', inside, hprogress, hrun⟩ :=
    run_of_gathers gathers serves hentered (running_start current name)
  have hinnermost : inside.running = name :: current.running :=
    hprogress.running.trans (running_start current name)
  have hleft := hprogress.underway.leave hinnermost hprogress.covers
  refine ⟨built' ++ [name], (inside.finish name (.ok (values name))).2, ?_, fun depth enough => ?_⟩
  · constructor
    · exact hleft
    · exact running_finish_innermost hinnermost _
    · exact fun other hmem => List.mem_append_left _ (hprogress.kept hmem)
    · intro other hmem
      rcases List.mem_append.1 hmem with hmem | hlast
      · rcases hprogress.reached other hmem with hbefore | ⟨start, hstart, hreached⟩
        · exact .inl hbefore
        · exact .inr ⟨name, List.mem_singleton.2 rfl, .head ⟨hdeferred, hstart⟩ hreached⟩
      · obtain rfl := List.mem_singleton.1 hlast
        exact .inr ⟨other, List.mem_singleton.2 rfl, .refl⟩
    · intro other hmem _
      exact List.mem_append_right built' hmem
  · -- The chain leaves room for one more initializer, so the construction is followed.
    have hroom := h.length_running_lt hdeferred idle
    obtain ⟨depth, rfl⟩ : ∃ depth', depth = depth' + 1 := ⟨depth - 1, by omega⟩
    have henough : registry.deferredNames.size ≤ depth + (name :: current.running).length := by
      rw [List.length_cons]
      omega
    obtain ⟨_, _, _, hpending', hstarted⟩ :=
      hprogress.underway.started name (hinnermost ▸ List.mem_cons_self)
    rw [getAny_of_pending hfind idle, hrun depth henough, ← solution]
    show some (((inside.finish name (.ok (values name))).1).map _, _) = _
    rw [result_finish hstarted, eventual, pending]
    rfl

end

/-- Inside initializers all of which need a name, directly or through others, requests for it are answered. -/
theorem Lazy.serves (lazy : registry.Lazy recipes)
    (solution : ∀ name ∈ registry.deferredNames,
      values name = recipes.combine name ((recipes.needs name).map (registry.eventual values)))
    (known : registry.contains name = true) {chain : List String}
    (needed : ∀ outer ∈ chain, TransGen (registry.Needs recipes) outer name) :
    registry.Serves recipes values chain name := by
  induction name using lazy.wellFounded.induction generalizing chain with
  | _ name ih =>
    intro built current h running
    have hidle : name ∉ chain := fun hmem => lazy.acyclic name (needed name hmem)
    by_cases hconstructed : name ∈ registry.deferredNames → name ∈ built
    · exact h.serve_of_constructed running known hidle hconstructed
    · rw [Classical.not_imp] at hconstructed
      obtain ⟨hdeferred, hfresh⟩ := hconstructed
      obtain ⟨type, initializer, runs, hpending, hgathers⟩ := lazy.pending hdeferred
      refine h.serve_of_pending running (solution name hdeferred) hpending hgathers hidle hfresh ?_
      intro other hother
      have hneeds : registry.Needs recipes name other := ⟨hdeferred, hother⟩
      apply ih other hneeds (lazy.known name other hneeds)
      intro outer hmem
      rcases List.mem_cons.1 hmem with rfl | hmem
      · exact .single hneeds
      · exact (needed outer hmem).tail hneeds

/-! ### A series of requests -/

theorem held?_of_answer? {held? : Option (Instance ν)} (h : registry.answer? name = some held?) :
    registry.held? name = held? := by
  unfold answer? at h
  rw [Registry.held?]
  split at h
  · next hready => cases h; rw [hready]; rfl
  · next hunavailable => cases h; rw [hunavailable]; rfl
  · next hbuilt => cases h; rw [hbuilt]; rfl
  · cases h
  · cases h

/-- What a series of requests has come to, when the initializers of the names `order` have been over in this order. -/
structure Constructed (registry : Registry ν) (recipes : Recipes ν) (values : String → ν)
    (names order : List String) (after : Registry ν) : Prop where
  /-- No construction is running. -/
  idle : after.running = []
  /-- Those names have been constructed that have initializers and are reached from the requests. -/
  reached : ∀ name, name ∈ order ↔ name ∈ registry.deferredNames ∧
    ∃ first ∈ names, ReflTransGen (registry.Needs recipes) first name
  /-- Each of them has its value, which its recipe makes of the instances of the names that it needs; its initializer
  has been started once more. -/
  filled : ∀ name ∈ order, ∃ type initializer runs,
    registry.find? name = some (.deferred type initializer runs none) ∧
      after.find? name = some (.deferred type initializer (runs + 1) (some (values name))) ∧
      values name = recipes.combine name ((recipes.needs name).map after.held?)
  /-- Other entries are as they were. -/
  others : ∀ name, name ∉ order → after.find? name = registry.find? name
  /-- Every name is registered with the type that it was registered with. -/
  typeNames : ∀ name, after.typeName? name = registry.typeName? name
  /-- What a name needs has been constructed before. -/
  inTurn : registry.InTurn recipes order
  /-- Each of the initializers has been started once, and has returned a value once; no other one has been started, and
  none has failed. -/
  history : order.Nodup ∧ ∃ news, after.history = news ++ registry.history ∧
    (news.filterMap Event.startedName?).Perm order ∧
    news.filterMap Event.builtName? = order.reverse ∧ ∀ name, .failed name ∉ news

/-- Entries are told by what is kept under each name and by the type that it is registered with. -/
theorem entries_ext (slots : ∀ name, after.find? name = registry.find? name)
    (typeNames : ∀ name, after.typeName? name = registry.typeName? name) : after.entries = registry.entries := by
  apply NameMap.ext_get?
  intro name
  have hslot := slots name
  have htypeName := typeNames name
  unfold find? at hslot
  unfold typeName? at htypeName
  show after.registered? name = registry.registered? name
  cases hafter : after.registered? name with
  | none =>
    rw [hafter] at hslot
    exact (Option.map_eq_none_iff.1 hslot.symm).symm
  | some entry =>
    rw [hafter] at hslot htypeName
    obtain ⟨entry', hentry', hslot'⟩ := Option.map_eq_some_iff.1 hslot.symm
    rw [hentry'] at htypeName ⊢
    have htypeName' : entry.typeName = entry'.typeName := Option.some.inj htypeName
    cases entry
    cases entry'
    cases hslot'
    cases htypeName'
    rfl

/-- Series of requests for the same names come to the same entries. -/
theorem Constructed.entries_eq {names names' order order' : List String} {after' : Registry ν}
    (h : registry.Constructed recipes values names order after)
    (h' : registry.Constructed recipes values names' order' after')
    (same : ∀ name, name ∈ names' ↔ name ∈ names) : after'.entries = after.entries := by
  refine entries_ext (fun name => ?_) fun name => (h'.typeNames name).trans (h.typeNames name).symm
  have horder : name ∈ order' ↔ name ∈ order := by
    rw [h.reached, h'.reached]
    simp only [same]
  by_cases hmem : name ∈ order
  · obtain ⟨type, initializer, runs, hpending, hfilled, -⟩ := h.filled name hmem
    obtain ⟨type', initializer', runs', hpending', hfilled', -⟩ := h'.filled name (horder.2 hmem)
    cases hpending.symm.trans hpending'
    rw [hfilled, hfilled']
  · rw [h.others name hmem, h'.others name (fun hmem' => hmem (horder.1 hmem'))]

namespace Lazy

variable (lazy : registry.Lazy recipes)
  (solution : ∀ name ∈ registry.deferredNames,
    values name = recipes.combine name ((recipes.needs name).map (registry.eventual values)))

include lazy solution

/-- What the requests have added to a registry in which nothing had been built. -/
theorem constructed {names order : List String}
    (h : registry.Progress recipes values names [] registry order after) :
    registry.Constructed recipes values names order after := by
  have hidle : after.running = [] := h.running.trans lazy.idle
  have hnil : order ++ after.running = order := by
    rw [hidle, List.append_nil]
  have hdeferred : ∀ name ∈ order, name ∈ registry.deferredNames := fun name hmem =>
    h.underway.mem_deferredNames (List.mem_append_left _ hmem)
  constructor
  · exact hidle
  · intro name
    constructor
    · intro hmem
      exact ⟨hdeferred name hmem, (h.reached name hmem).resolve_left List.not_mem_nil⟩
    · rintro ⟨hname, first, hfirst, hreached⟩
      exact h.underway.inTurn.mem_of_reached (h.covers first hfirst) hreached hname
  · intro name hmem
    obtain ⟨type, initializer, runs, hpending, hfilled⟩ := h.underway.filled name hmem
    refine ⟨type, initializer, runs, hpending, hfilled, ?_⟩
    rw [solution name (hdeferred name hmem)]
    refine congrArg (recipes.combine name) (List.map_congr_left fun other hother => ?_)
    have hneeds : registry.Needs recipes name other := ⟨hdeferred name hmem, hother⟩
    have hoff : other ∉ after.running := hidle ▸ List.not_mem_nil
    exact (held?_of_answer? (h.underway.answer?_eq (lazy.known name other hneeds) hoff fun hother' =>
      h.underway.inTurn.mem_of_needs hmem hother hother')).symm
  · intro name hmem
    exact h.underway.others name hmem (hidle ▸ List.not_mem_nil)
  · exact h.underway.typeNames
  · exact h.underway.inTurn
  · obtain ⟨news, hnews, hstarted, hbuilt, hfailed⟩ := h.underway.history
    exact ⟨hnil ▸ h.underway.nodup, news, hnews, hnil ▸ hstarted, hbuilt, hfailed⟩

/-- A series of requests for registered names constructs what they reach. -/
theorem exists_initializeAll {names : List String}
    (known : ∀ name ∈ names, registry.contains name = true) :
    ∃ order after, registry.Constructed recipes values names order after ∧
      ∀ depth, registry.deferredNames.size ≤ depth →
        initializeAll depth names registry = some (.ok (), after) := by
  have hserves : ∀ name ∈ names, registry.Serves recipes values [] name := fun name hmem =>
    lazy.serves solution (known name hmem) fun _ houter => absurd houter List.not_mem_nil
  obtain ⟨order, after, hprogress, hall⟩ := initializeAll_of_serves hserves (.start lazy.idle) lazy.idle
  exact ⟨order, after, lazy.constructed solution hprogress, hall⟩

end Lazy

/-- In a registry whose initializers follow recipes without circles, and have built nothing, there is one value for each
of them, such that every series of requests for registered names is answered throughout and constructs the names with
initializers that it reaches, each with its value, once, and after the names that it needs.  The same requests in
another order come to the same entries. -/
theorem Lazy.initializeAll_of_perm (lazy : registry.Lazy recipes) :
    ∃ values : String → ν, ∀ names, (∀ name ∈ names, registry.contains name = true) →
      ∃ order after,
        (∀ depth, registry.deferredNames.size ≤ depth →
          initializeAll depth names registry = some (.ok (), after)) ∧
        registry.Constructed recipes values names order after ∧
        ∀ names', names'.Perm names → ∃ order' after',
          (∀ depth, registry.deferredNames.size ≤ depth →
            initializeAll depth names' registry = some (.ok (), after')) ∧
          registry.Constructed recipes values names' order' after' ∧
          after'.entries = after.entries := by
  obtain ⟨values, solution⟩ := lazy.exists_values
  refine ⟨values, fun names known => ?_⟩
  obtain ⟨order, after, hconstructed, hall⟩ := lazy.exists_initializeAll solution known
  refine ⟨order, after, hall, hconstructed, fun names' perm => ?_⟩
  have known' : ∀ name ∈ names', registry.contains name = true := fun name hmem =>
    known name (perm.mem_iff.1 hmem)
  obtain ⟨order', after', hconstructed', hall'⟩ := lazy.exists_initializeAll solution known'
  exact ⟨order', after', hall', hconstructed', hconstructed.entries_eq hconstructed' fun _ => perm.mem_iff⟩

/-! ### Three recipes -/

/-- The sum of the values that have been given. -/
def given : List (Option (Instance Nat)) → Nat
  | [] => 0
  | held? :: rest => (held?.map Instance.value).getD 0 + given rest

/-- One name needs two others, one of which needs the other and a name that is unavailable. -/
def threeRecipes : Recipes Nat where
  needs name := if name = "app" then ["ui", "base"] else if name = "ui" then ["base", "vr"] else []
  combine name answers := name.length + given answers

/-- An initializer that asks for names and adds up what it is given. -/
def adding (total : Nat) : List String → Program Nat
  | [] => .done total
  | name :: rest => .request name fun
    | .error error => .fail error
    | .ok held? => adding (total + (held?.map Instance.value).getD 0) rest

theorem gathers_adding (total : Nat) (names : List String) :
    (adding total names).Gathers names fun answers => total + given answers := by
  induction names generalizing total with
  | nil => exact @Program.Gathers.done Nat fun answers => total + given answers
  | cons name rest ih =>
    refine .request fun held? => ?_
    have hrest := ih (total + (held?.map Instance.value).getD 0)
    simp only [given, ← Nat.add_assoc]
    exact hrest

/-- The initializer that follows the recipe of a name. -/
def summing (name : String) (_run : Nat) : Program Nat :=
  adding name.length (threeRecipes.needs name)

/-- A registry with the three initializers and the name that is unavailable. -/
def threeLazy : Registry Nat where
  entries := NameMap.ofList
    [("app", .ofInitializer "App" (summing "app")), ("base", .ofInitializer "Base" (summing "base")),
      ("ui", .ofInitializer "Ui" (summing "ui")), ("vr", .placeholder)]

/-- In this order of the names, each stands after those that it needs. -/
theorem idxOf_lt_of_needs {name other : String} (needs : threeLazy.Needs threeRecipes name other) :
    ["base", "vr", "ui", "app"].idxOf other < ["base", "vr", "ui", "app"].idxOf name := by
  obtain ⟨hname, hother⟩ := needs
  have hnames : name ∈ ["app", "base", "ui"] := hname
  simp only [List.mem_cons, List.not_mem_nil, or_false] at hnames
  rcases hnames with rfl | rfl | rfl
  · have hneeds : other ∈ ["ui", "base"] := hother
    rcases List.mem_pair.1 hneeds with rfl | rfl <;> decide
  · exact absurd hother List.not_mem_nil
  · have hneeds : other ∈ ["base", "vr"] := hother
    rcases List.mem_pair.1 hneeds with rfl | rfl <;> decide

theorem lazy_threeLazy : threeLazy.Lazy threeRecipes where
  idle := rfl
  gathers := by
    intro name type initializer runs value? hfind
    have hmem := mem_deferredNames_of_find? hfind
    have hnames : name ∈ ["app", "base", "ui"] := hmem
    simp only [List.mem_cons, List.not_mem_nil, or_false] at hnames
    rcases hnames with rfl | rfl | rfl
    all_goals
      cases Option.some.inj hfind
      exact ⟨rfl, gathers_adding _ _⟩
  known := by
    intro name other needs
    have hother := idxOf_lt_of_needs needs
    have hlength : ["base", "vr", "ui", "app"].idxOf name ≤ 4 := List.idxOf_le_length
    have hnames : other ∈ ["base", "vr", "ui", "app"] :=
      List.idxOf_lt_length_iff.1 (Nat.lt_of_lt_of_le hother hlength)
    simp only [List.mem_cons, List.not_mem_nil, or_false] at hnames
    rcases hnames with rfl | rfl | rfl | rfl <;> rfl
  acyclic := by
    intro name circle
    have hdescends : ∀ other, TransGen (threeLazy.Needs threeRecipes) name other →
        ["base", "vr", "ui", "app"].idxOf other < ["base", "vr", "ui", "app"].idxOf name := by
      intro other way
      induction way with
      | single needs => exact idxOf_lt_of_needs needs
      | tail _ needs ih => exact (idxOf_lt_of_needs needs).trans ih
    exact Nat.lt_irrefl _ (hdescends name circle)

/-- A name that is asked for twice is constructed once, after what it needs, whether or not that has been asked for
before. -/
theorem initializeAll_of_perm_three :
    threeLazy.Lazy threeRecipes ∧ ∃ values : String → Nat, ∃ order after order' after',
      initializeAll 3 ["app", "ui", "app"] threeLazy = some (.ok (), after) ∧
        threeLazy.Constructed threeRecipes values ["app", "ui", "app"] order after ∧
        initializeAll 3 ["ui", "app", "app"] threeLazy = some (.ok (), after') ∧
        threeLazy.Constructed threeRecipes values ["ui", "app", "app"] order' after' ∧
        after'.entries = after.entries := by
  refine ⟨lazy_threeLazy, ?_⟩
  obtain ⟨values, hall⟩ := Lazy.initializeAll_of_perm lazy_threeLazy
  have hknown : ∀ name ∈ ["app", "ui", "app"], threeLazy.contains name = true := by decide
  obtain ⟨order, after, hanswered, hconstructed, hperm⟩ := hall ["app", "ui", "app"] hknown
  obtain ⟨order', after', hanswered', hconstructed', hentries⟩ :=
    hperm ["ui", "app", "app"] (List.Perm.swap "app" "ui" ["app"])
  have hsize : threeLazy.deferredNames.size ≤ 3 := by decide
  exact ⟨values, order, after, order', after', hanswered 3 hsize, hconstructed, hanswered' 3 hsize,
    hconstructed', hentries⟩

end Registry

end Scaffold
