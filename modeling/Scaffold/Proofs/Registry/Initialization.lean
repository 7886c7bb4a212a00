import Scaffold.Proofs.FeatureSet.Insertion
import Scaffold.Proofs.Ordering.Outcome
import Scaffold.Proofs.Registry.Change

/-!
# Eager initialization in the order of a catalog

When subsystems are initialized in the order of their catalog, and initializers ask for nothing but what their
feature sets depend on and what is known to be unavailable, no construction nests: whatever an initializer asks
for has been constructed before it is started.

The invariant of the induction over the order says what the history looks like so far.  It is a sequence of
blocks, one for each name in turn, from the start of its initializer to the value that it returns; inside a block
there are only notes and answers, and the answers are instances of earlier blocks.

## Main Definitions

* `Program.Asks` — an initializer that asks for certain names, and returns if it gets certain answers
* `Registry.Flat` — a history of constructions one after the other
* `Registry.Initialized` — what the initialization of some names has come to

## Main Statements

* `Registry.run_of_asks` — an initializer whose requests have answers runs without constructions
* `Registry.initializeAll_of_initialized` — the initialization of names that only ask for earlier ones
* `Catalog.initializeAll_initOrder` — the initialization of all subsystems of a catalog
-/

namespace Scaffold

variable {ν : Type}

/-- An initializer that asks for no other names than `names`, as often as it likes and in any sequence, and returns
one of the values `returns` if each request gets one of the answers `answers`. -/
inductive Program.Asks (names : String → Prop) (answers : String → Option (Instance ν) → Prop)
    (returns : ν → Prop) : Program ν → Prop where
  /-- It returns a value. -/
  | done {value : ν} (h : returns value) : Asks names answers returns (.done value)
  /-- It asks for one of the names, and goes on with any of the answers. -/
  | request {name : String} {resume : Except RegistryError (Option (Instance ν)) → Program ν}
      (known : names name)
      (next : ∀ held?, answers name held? → Asks names answers returns (resume (.ok held?))) :
      Asks names answers returns (.request name resume)
  /-- It looks at what is registered. -/
  | observe {resume : NameMap Outline → Program ν}
      (next : ∀ outlines, Asks names answers returns (resume outlines)) :
      Asks names answers returns (.observe resume)
  /-- It leaves a note. -/
  | note {text : String} {next : Program ν} (h : Asks names answers returns next) :
      Asks names answers returns (.note text next)

/-- An event in an initializer that constructs nothing and is refused nothing: a note, or one of the answers. -/
def Event.Within (answers : String → Option (Instance ν) → Prop) : Event ν → Prop
  | given name held? => answers name held?
  | note _ => True
  | refused _ _ => False
  | started _ => False
  | built _ _ => False
  | failed _ => False

section

variable {names names' : String → Prop} {answers answers' : String → Option (Instance ν) → Prop}
  {returns : ν → Prop}

/-- An initializer may ask for more names, and has to cope with fewer answers. -/
theorem Program.Asks.mono {program : Program ν} (asks : program.Asks names answers returns)
    (wider : ∀ name, names name → names' name)
    (narrower : ∀ name held?, answers' name held? → answers name held?) :
    program.Asks names' answers' returns := by
  induction asks with
  | done h => exact .done h
  | request known _ ih =>
    exact .request (wider _ known) fun held? hanswer => ih held? (narrower _ held? hanswer)
  | observe _ ih => exact .observe ih
  | note _ ih => exact .note ih

/-- A request for an instance of a type is a request, if the answers are of that type. -/
theorem Program.Asks.requestAs {name : String} {type : InstanceType}
    {resume : Except RegistryError (Option ν) → Program ν} (known : names name)
    (next : ∀ held?, answers name held? → ∃ value?,
      (∀ typeName?, typedAnswer name type typeName? held? = .ok value?) ∧
        (resume (.ok value?)).Asks names answers returns) :
    (Program.requestAs name type resume).Asks names answers returns := by
  refine .request known fun held? hanswer => .observe fun outlines => ?_
  obtain ⟨value?, htyped, hnext⟩ := next held? hanswer
  show (resume (typedAnswer name type _ held?)).Asks names answers returns
  rw [htyped]
  exact hnext

namespace Registry

variable {registry current : Registry ν} {name : String}

/-! ### One initializer -/

/-- The registry with more events in its history, latest first. -/
def recorded (registry : Registry ν) (events : List (Event ν)) : Registry ν :=
  { registry with history := events ++ registry.history }

theorem recorded_record (registry : Registry ν) (event : Event ν) (events : List (Event ν)) :
    (registry.record event).recorded events = registry.recorded (events ++ [event]) := by
  unfold recorded record
  rw [List.append_assoc]
  rfl

/-- An initializer runs without constructions when each name that it asks for has an answer. -/
theorem run_of_asks (registry : Registry ν) {program : Program ν}
    (asks : program.Asks names answers returns)
    (known : ∀ name, names name → ∃ held?, registry.answer? name = some held? ∧ answers name held?) :
    ∃ value events, returns value ∧ (∀ event ∈ events, event.Within answers) ∧
      ∀ depth, run (getAny depth) program registry = some (.ok value, registry.recorded events) := by
  induction asks generalizing registry with
  | @done value h =>
    exact ⟨value, [], h, fun event hmem => absurd hmem List.not_mem_nil, fun depth => rfl⟩
  | @request name resume hname _ ih =>
    obtain ⟨held?, hheld, hanswer⟩ := known name hname
    obtain ⟨value, events, hvalue, hevents, hrun⟩ :=
      ih held? hanswer (registry.record (.given name held?)) known
    refine ⟨value, events ++ [.given name held?], hvalue, ?_, fun depth => ?_⟩
    · exact List.forall_mem_append.2 ⟨hevents, List.forall_mem_singleton.2 hanswer⟩
    · rw [run, getAny_of_answer? hheld, ← recorded_record]
      exact hrun depth
  | observe _ ih => exact ih registry.outlines registry known
  | @note text next _ ih =>
    obtain ⟨value, events, hvalue, hevents, hrun⟩ := ih (registry.record (.note text)) known
    refine ⟨value, events ++ [.note text], hvalue, ?_, fun depth => ?_⟩
    · exact List.forall_mem_append.2 ⟨hevents, List.forall_mem_singleton.2 trivial⟩
    · rw [run, ← recorded_record]
      exact hrun depth

/-- A pending name has no answer, and has none after its start either; the start reaches no other name. -/
theorem answer?_start {type : InstanceType} {initializer : Nat → Program ν} {runs : Nat}
    (pending : registry.find? name = some (.deferred type initializer runs none)) (other : String) :
    (registry.start name).answer? other = registry.answer? other := by
  unfold answer?
  rw [find?_start]
  by_cases heq : other = name
  · rw [if_pos heq, heq, pending]
    rfl
  · rw [if_neg heq]

/-- The registry when the initializer of a name has run, with some events, to a value. -/
def constructed (registry : Registry ν) (name : String) (events : List (Event ν)) (value : ν) :
    Registry ν :=
  (((registry.start name).recorded events).finish name (.ok value)).2

section Constructed

variable {type : InstanceType} {initializer : Nat → Program ν} {runs : Nat}
  (pending : registry.find? name = some (.deferred type initializer runs none))

include pending

theorem find?_recorded_start (events : List (Event ν)) :
    ((registry.start name).recorded events).find? name =
      some (.deferred type initializer (runs + 1) none) := by
  show (registry.start name).find? name = _
  rw [find?_start, if_pos rfl, pending]
  rfl

theorem find?_constructed (events : List (Event ν)) (value : ν) (other : String) :
    (registry.constructed name events value).find? other =
      if other = name then some (.deferred type initializer (runs + 1) (some value))
      else registry.find? other := by
  rw [constructed, find?_finish (find?_recorded_start pending events)]
  split
  · rfl
  · next hne =>
    show (registry.start name).find? other = _
    rw [find?_start, if_neg hne]

/-- The first request for a name runs its initializer without further constructions, when each name that the
initializer asks for has an answer. -/
theorem getAny_of_asks (idle : name ∉ registry.running)
    (asks : (initializer (runs + 1)).Asks names answers returns)
    (known : ∀ name, names name → ∃ held?, registry.answer? name = some held? ∧ answers name held?) :
    ∃ value events, returns value ∧ (∀ event ∈ events, event.Within answers) ∧
      ∀ depth, getAny (depth + 1) name registry =
        some (.ok (some ⟨type, value⟩), registry.constructed name events value) := by
  have hknown : ∀ other, names other →
      ∃ held?, (registry.start name).answer? other = some held? ∧ answers other held? := by
    intro other hother
    rw [answer?_start pending]
    exact known other hother
  obtain ⟨value, events, hvalue, hevents, hrun⟩ :=
    run_of_asks (registry.start name) asks hknown
  refine ⟨value, events, hvalue, hevents, fun depth => ?_⟩
  rw [getAny_of_pending pending idle, hrun depth]
  show some (((((registry.start name).recorded events).finish name (.ok value)).1).map _, _) = _
  rw [result_finish (find?_recorded_start pending events)]
  rfl

end Constructed

theorem running_constructed (events : List (Event ν)) (value : ν) :
    (registry.constructed name events value).running = registry.running := by
  have hinnermost : ((registry.start name).recorded events).running = name :: registry.running :=
    running_start registry name
  exact running_finish_innermost hinnermost (.ok value)

theorem history_constructed (events : List (Event ν)) (value : ν) :
    (registry.constructed name events value).history =
      .built name value :: events ++ .started name :: registry.history := by
  rw [constructed, history_finish]
  show _ :: (events ++ (registry.start name).history) = _
  rw [history_start]
  rfl

/-! ### One after the other -/

/-- The answers to a request for a name once initializers have built certain values; a name that is registered as
unavailable has no instance. -/
def Answers (registry : Registry ν) (values : String → ν → Prop) (name : String)
    (held? : Option (Instance ν)) : Prop :=
  (registry.find? name = some .unavailable ∧ held? = none) ∨
    ∃ type initializer runs value, registry.find? name = some (.deferred type initializer runs none) ∧
      values name value ∧ held? = some ⟨type, value⟩

theorem Answers.mono {values values' : String → ν → Prop} {held? : Option (Instance ν)}
    (h : registry.Answers values name held?) (wider : ∀ value, values name value → values' name value) :
    registry.Answers values' name held? := by
  obtain hnone | ⟨type, initializer, runs, value, hpending, hvalue, hheld⟩ := h
  · exact .inl hnone
  · exact .inr ⟨type, initializer, runs, value, hpending, wider value hvalue, hheld⟩

/-- A history, latest first, of constructions one after the other: in each, the initializer is started, leaves
notes and is given instances that have been built before, and returns a value. -/
inductive Flat (registry : Registry ν) : (built : List (String × ν)) → (news : List (Event ν)) → Prop where
  /-- Nothing has been constructed. -/
  | start : Flat registry [] []
  /-- One more name is constructed. -/
  | construct {built : List (String × ν)} {news events : List (Event ν)} (flat : Flat registry built news)
      (served : ∀ event ∈ events, event.Within (registry.Answers fun name value => (name, value) ∈ built))
      (name : String) (value : ν) :
      Flat registry (built ++ [(name, value)]) (.built name value :: events ++ .started name :: news)

/-- What the initialization of some names has come to, in the registry `current`: their initializers have each
run once, one after the other. -/
structure Initialized (registry : Registry ν) (values : String → ν → Prop)
    (built : List (String × ν)) (news : List (Event ν)) (current : Registry ν) : Prop where
  /-- No construction is running. -/
  running : current.running = []
  /-- The history has grown by the news. -/
  history : current.history = news ++ registry.history
  /-- The news tells of constructions one after the other. -/
  flat : registry.Flat built news
  /-- Each name has one of its values. -/
  returned : ∀ name value, (name, value) ∈ built → values name value
  /-- Each initializer has been started once more, and its value is the instance of its name. -/
  filled : ∀ name value, (name, value) ∈ built → ∃ type initializer runs,
    registry.find? name = some (.deferred type initializer runs none) ∧
      current.find? name = some (.deferred type initializer (runs + 1) (some value))
  /-- Other names have the entries that they had. -/
  others : ∀ name, name ∉ built.map Prod.fst → current.find? name = registry.find? name

namespace Initialized

variable {values : String → ν → Prop} {built : List (String × ν)} {news : List (Event ν)}

theorem start (idle : registry.running = []) : registry.Initialized values [] [] registry where
  running := idle
  history := rfl
  flat := .start
  returned := fun _ _ hmem => absurd hmem List.not_mem_nil
  filled := fun _ _ hmem => absurd hmem List.not_mem_nil
  others := fun _ _ => rfl

/-- A name that has been constructed, or is unavailable, has an answer. -/
theorem exists_answer (h : registry.Initialized values built news current)
    (known : name ∈ built.map Prod.fst ∨ registry.find? name = some .unavailable) :
    ∃ held?, current.answer? name = some held? ∧
      registry.Answers (fun name value => (name, value) ∈ built) name held? := by
  by_cases hmem : name ∈ built.map Prod.fst
  · obtain ⟨⟨_, value⟩, hbuilt, rfl⟩ := List.mem_map.1 hmem
    obtain ⟨type, initializer, runs, hpending, hfilled⟩ := h.filled _ value hbuilt
    refine ⟨some ⟨type, value⟩, ?_, .inr ⟨type, initializer, runs, value, hpending, hbuilt, rfl⟩⟩
    rw [answer?, hfilled]
  · have hunavailable := known.resolve_left hmem
    refine ⟨none, ?_, .inl ⟨hunavailable, rfl⟩⟩
    rw [answer?, h.others name hmem, hunavailable]

/-- One more name is initialized without nesting, if its initializer asks only for names that have been
constructed or are unavailable. -/
theorem exists_next (h : registry.Initialized values built news current) {type : InstanceType}
    {initializer : Nat → Program ν} {runs : Nat} (fresh : name ∉ built.map Prod.fst)
    (pending : registry.find? name = some (.deferred type initializer runs none))
    (asks : (initializer (runs + 1)).Asks
      (fun other => other ∈ built.map Prod.fst ∨ registry.find? other = some .unavailable)
      (registry.Answers values) (values name)) :
    ∃ value news' next, registry.Initialized values (built ++ [(name, value)]) news' next ∧
      ∀ depth, current.getAny (depth + 1) name = some (.ok (some ⟨type, value⟩), next) := by
  have hfind : current.find? name = some (.deferred type initializer runs none) := by
    rw [h.others name fresh, pending]
  have hidle : name ∉ current.running := by
    rw [h.running]
    exact List.not_mem_nil
  have hasks : (initializer (runs + 1)).Asks
      (fun other => other ∈ built.map Prod.fst ∨ registry.find? other = some .unavailable)
      (registry.Answers fun name value => (name, value) ∈ built) (values name) :=
    asks.mono (fun _ hknown => hknown) fun other held? hanswer => hanswer.mono (h.returned other)
  obtain ⟨value, events, hvalue, hevents, hget⟩ :=
    getAny_of_asks hfind hidle hasks fun other hknown => h.exists_answer hknown
  refine ⟨value, .built name value :: events ++ .started name :: news,
    current.constructed name events value, ?_, hget⟩
  constructor
  case running => rw [running_constructed, h.running]
  case history =>
    rw [history_constructed, h.history]
    exact (List.append_assoc (.built name value :: events) (.started name :: news) _).symm
  case flat => exact h.flat.construct hevents name value
  case returned =>
    intro other returned hmem
    rcases List.mem_append.1 hmem with hearlier | hlast
    · exact h.returned other returned hearlier
    · cases List.mem_singleton.1 hlast
      exact hvalue
  case filled =>
    intro other returned hmem
    rw [find?_constructed hfind]
    rcases List.mem_append.1 hmem with hearlier | hlast
    · obtain ⟨type', initializer', runs', hpending, hfilled⟩ := h.filled other returned hearlier
      refine ⟨type', initializer', runs', hpending, ?_⟩
      rw [if_neg, hfilled]
      rintro rfl
      exact fresh (List.mem_map.2 ⟨_, hearlier, rfl⟩)
    · cases List.mem_singleton.1 hlast
      exact ⟨type, initializer, runs, pending, if_pos rfl⟩
  case others =>
    intro other hmem
    rw [List.map_append, List.mem_append, not_or] at hmem
    rw [find?_constructed hfind, if_neg (fun heq => hmem.2 (List.mem_singleton.2 heq))]
    exact h.others other hmem.1

/-- Each name that has been initialized has an instance. -/
theorem isInitialized (h : registry.Initialized values built news current)
    (hmem : name ∈ built.map Prod.fst) : current.isInitialized name = true := by
  obtain ⟨⟨_, value⟩, hbuilt, rfl⟩ := List.mem_map.1 hmem
  obtain ⟨type, initializer, runs, -, hfilled⟩ := h.filled _ value hbuilt
  rw [Registry.isInitialized, status?, hfilled]
  rfl

end Initialized

/-- The initialization of names goes on without nesting, if each initializer asks only for names that stand
before its own or are unavailable. -/
theorem initializeAll_of_initialized {values : String → ν → Prop} {built : List (String × ν)}
    {news : List (Event ν)} (h : registry.Initialized values built news current) {rest : List String}
    (nodup : (built.map Prod.fst ++ rest).Nodup)
    (deferred : ∀ before name after, built.map Prod.fst ++ rest = before ++ name :: after → name ∈ rest →
      ∃ type initializer runs, registry.find? name = some (.deferred type initializer runs none) ∧
        (initializer (runs + 1)).Asks
          (fun other => other ∈ before ∨ registry.find? other = some .unavailable)
          (registry.Answers values) (values name)) :
    ∃ built' news' after, built'.map Prod.fst = built.map Prod.fst ++ rest ∧
      registry.Initialized values built' news' after ∧
      ∀ depth, initializeAll (depth + 1) rest current = some (.ok (), after) := by
  induction rest generalizing built news current with
  | nil => exact ⟨built, news, current, (List.append_nil _).symm, h, fun depth => rfl⟩
  | cons name rest ih =>
    obtain ⟨type, initializer, runs, hpending, hasks⟩ :=
      deferred _ name rest rfl List.mem_cons_self
    have hfresh : name ∉ built.map Prod.fst := fun hmem =>
      (List.nodup_middle.1 nodup).notMem (List.mem_append_left _ hmem)
    obtain ⟨value, news', next, hnext, hget⟩ := h.exists_next hfresh hpending hasks
    have hnames : (built ++ [(name, value)]).map Prod.fst ++ rest =
        built.map Prod.fst ++ name :: rest := by
      rw [List.map_append, List.append_assoc]
      rfl
    obtain ⟨built', news'', after, hbuilt, hafter, hrest⟩ := ih hnext (hnames ▸ nodup)
      fun before other after hsplit hmem =>
        deferred before other after (hnames ▸ hsplit) (List.mem_cons_of_mem name hmem)
    refine ⟨built', news'', after, hbuilt.trans hnames, hafter, fun depth => ?_⟩
    rw [initializeAll, hget depth]
    exact hrest depth

end Registry

end

namespace Catalog

variable {catalog : Catalog} {registry : Registry ν}

/-- The order of a catalog lists the names of feature sets. -/
theorem exists_get?_of_initOrder (keyed : catalog.Keyed) {order : Ordering.InitOrder}
    (ordered : catalog.initOrder = .ok order) {name : String} (hlisted : name ∈ order.names) :
    ∃ featureSet, catalog.get? name = some featureSet ∧
      catalog.dependencyMap.dependencies? name = some featureSet.dependencies := by
  have hcomponent : name ∈ catalog.dependencyMap.names :=
    (Ordering.perm_names_of_resolve_eq_ok ordered).mem_iff.1 hlisted
  obtain ⟨declared, hdeclared⟩ := Ordering.DependencyMap.mem_names_iff.1 hcomponent
  obtain ⟨featureSet, hfound, -, rfl⟩ := (dependencies?_dependencyMap keyed).1 hdeclared
  exact ⟨featureSet, hfound, hdeclared⟩

/-- The order of a catalog lists a name after the dependencies of its feature set that it lists at all. -/
theorem mem_before_of_initOrder (keyed : catalog.Keyed) {order : Ordering.InitOrder}
    (ordered : catalog.initOrder = .ok order) {before after : List String} {name dependency : String}
    (hsplit : order.names = before ++ name :: after) {featureSet : FeatureSet}
    (found : catalog.get? name = some featureSet) (hmem : dependency ∈ featureSet.dependencies)
    (hlisted : dependency ∈ order.names) : dependency ∈ before := by
  have hname : name ∈ order.names := hsplit ▸ List.mem_append_right before List.mem_cons_self
  obtain ⟨_, hfound, hdeclared⟩ := exists_get?_of_initOrder keyed ordered hname
  obtain rfl := Option.some.inj (found.symm.trans hfound)
  have hcomponent : dependency ∈ catalog.dependencyMap.names :=
    (Ordering.perm_names_of_resolve_eq_ok ordered).mem_iff.1 hlisted
  exact Ordering.mem_before_of_dependsOn ordered hsplit
    (Ordering.DependencyMap.mem_present.2 ⟨⟨_, hdeclared, hmem⟩, hcomponent⟩)

/-- The subsystems of a catalog are initialized without nesting in the order of the catalog, when each initializer
asks only for dependencies of its feature set and for names that are unavailable, and returns when it is given
what these have built (`values` says what the initializer of each name may return).  Each initializer runs once,
in its turn, is refused nothing, and is given instances that have been constructed before; afterwards each name of
the order has an instance. -/
theorem initializeAll_initOrder {featureSets : List FeatureSet} (built : ofList featureSets = .ok catalog)
    {order : Ordering.InitOrder} (ordered : catalog.initOrder = .ok order)
    (idle : registry.running = []) {values : String → ν → Prop}
    (deferred : ∀ name ∈ order.names, ∀ featureSet, catalog.get? name = some featureSet →
      ∃ type initializer runs, registry.find? name = some (.deferred type initializer runs none) ∧
        (initializer (runs + 1)).Asks
          (fun other => (other ∈ featureSet.dependencies ∧ other ∈ order.names) ∨
            registry.find? other = some .unavailable)
          (registry.Answers values) (values name)) :
    ∃ instances news after,
      (∀ depth, registry.initializeAll (depth + 1) order.names = some (.ok (), after)) ∧
      instances.map Prod.fst = order.names ∧
      registry.Initialized values instances news after ∧
      ∀ name ∈ order.names, after.isInitialized name = true := by
  have hkeyed := keyed_of_ofList built
  -- What an initializer may ask for stands before its own name.
  have hdeferred : ∀ before name later, order.names = before ++ name :: later → name ∈ order.names →
      ∃ type initializer runs, registry.find? name = some (.deferred type initializer runs none) ∧
        (initializer (runs + 1)).Asks
          (fun other => other ∈ before ∨ registry.find? other = some .unavailable)
          (registry.Answers values) (values name) := by
    intro before name later hsplit hmem
    obtain ⟨featureSet, hfound, -⟩ := exists_get?_of_initOrder hkeyed ordered hmem
    obtain ⟨type, initializer, runs, hpending, hasks⟩ := deferred name hmem featureSet hfound
    refine ⟨type, initializer, runs, hpending, hasks.mono (fun other hknown => ?_) fun _ _ h => h⟩
    exact hknown.imp_left fun hdependency =>
      mem_before_of_initOrder hkeyed ordered hsplit hfound hdependency.1 hdependency.2
  obtain ⟨instances, news, after, hnames, hafter, hall⟩ :=
    Registry.initializeAll_of_initialized (.start idle)
      (Ordering.nodup_names_of_resolve_eq_ok ordered) hdeferred
  refine ⟨instances, news, after, hall, hnames, hafter, fun name hmem => ?_⟩
  exact hafter.isInitialized (hnames ▸ hmem)

/-! ### Two subsystems and a missing one -/

/-- A feature set that depends on another one, and would use a third. -/
def uiFeatureSet : FeatureSet where
  name := "ui"
  hasSubsystem := true
  dependencies := .ofList ["base"]
  softRequirements := .ofList ["vr"]

/-- The feature set that it depends on. -/
def baseFeatureSet : FeatureSet where
  name := "base"
  hasSubsystem := true

/-- The catalog of the two. -/
def twoSubsystems : Catalog :=
  ⟨NameMap.ofList [("base", baseFeatureSet), ("ui", uiFeatureSet)]⟩

/-- An initializer that asks for what its feature set needs, and for what it would use. -/
def frugal (_run : Nat) : Program Nat :=
  .requestAs "base" "Base" fun
    | .error error => .fail error
    | .ok base? => .request "vr" fun
      | .error error => .fail error
      | .ok _ => .done (base?.getD 0 + 10)

/-- A registry with initializers for the two and a placeholder for the third. -/
def twoPending : Registry Nat where
  entries := NameMap.ofList
    [("base", .ofInitializer "Base" .done), ("ui", .ofInitializer "Ui" frugal), ("vr", .placeholder)]

/-- What the two initializers return. -/
def twoValues (name : String) (value : Nat) : Prop :=
  (name = "base" ∧ value = 1) ∨ (name = "ui" ∧ value = 11)

/-- The two subsystems are initialized without nesting. -/
theorem initializeAll_initOrder_two :
    ofList [uiFeatureSet, baseFeatureSet] = .ok twoSubsystems ∧
      twoSubsystems.initOrder = .ok ⟨["base", "ui"]⟩ ∧
      ∃ instances news after,
        (∀ depth, twoPending.initializeAll (depth + 1) ["base", "ui"] = some (.ok (), after)) ∧
        instances.map Prod.fst = ["base", "ui"] ∧
        twoPending.Initialized twoValues instances news after ∧
        ∀ name ∈ ["base", "ui"], after.isInitialized name = true := by
  have hbuilt : ofList [uiFeatureSet, baseFeatureSet] = .ok twoSubsystems := rfl
  have hordered : twoSubsystems.initOrder = .ok ⟨["base", "ui"]⟩ := by cbv
  refine ⟨hbuilt, hordered, initializeAll_initOrder hbuilt hordered rfl ?_⟩
  intro name hmem featureSet hfound
  rcases List.mem_pair.1 hmem with rfl | rfl
  · exact ⟨"Base", .done, 0, rfl, .done (.inl ⟨rfl, rfl⟩)⟩
  · obtain rfl : uiFeatureSet = featureSet := Option.some.inj hfound
    refine ⟨"Ui", frugal, 0, rfl, .requestAs (.inl (by decide)) fun base? hbase => ?_⟩
    have hone : base? = some ⟨"Base", 1⟩ := by
      obtain ⟨habsent, -⟩ | ⟨type, initializer, runs, value, hpending, hvalue, rfl⟩ := hbase
      · cases habsent
      · cases hpending
        obtain ⟨-, rfl⟩ | ⟨hname, -⟩ := hvalue
        · rfl
        · exact absurd hname (by decide)
    refine ⟨some 1, fun _ => hone ▸ rfl, ?_⟩
    exact .request (.inr rfl) fun _ _ => .done (.inr ⟨rfl, rfl⟩)

end Catalog

end Scaffold
