import Scaffold.NameMap

/-!
# Claims of concurrent constructions

Several threads may ask one registry for subsystems at once. A thread claims a name before it runs the initializer,
and others that ask for the name wait until the claim is released, unless that would make them wait for themselves.

## Main Definitions

* `Claims` — which thread constructs a name, and which name a thread waits for
* `Claims.wouldDeadlock` — whether waiting for a name would close a cycle of waiting threads
* `Claims.answer` — what becomes of a thread that asks for a name without an instance
* `Protocol` — the claims with what each thread is doing and which instances have been stored
* `Protocol.Step` — what threads may do, one at a time

## Design Notes

A thread that waits holds the claims of the constructions that it is in the middle of, so that a cycle of waiting
threads would never be released. The search follows a chain of owners and of names that they wait for; each
thread waits for one name at most, which bounds its length.

What a thread does under the lock is one step: it looks at the instance and at the claims, and takes one of them or
begins to wait. Storing an instance and releasing the claim are two steps, for the instance is there for others
before the claim is gone. A waiting thread may be woken at any time, whether the claim it waits for is gone or not, and
its entry among the waiting stays until then; by that time another thread may have taken the claim.
-/

namespace Scaffold

/-- The constructions in progress, of all threads. -/
structure Claims (θ : Type) where
  /-- The thread that constructs each name under construction. -/
  owners : NameMap θ := ∅
  /-- The name that each waiting thread waits for. -/
  waiting : List (θ × String) := []

namespace Claims

variable {θ : Type} [DecidableEq θ]

instance : EmptyCollection (Claims θ) := ⟨{}⟩

instance : Inhabited (Claims θ) := ⟨∅⟩

/-- The thread that constructs a name. -/
def owner? (claims : Claims θ) (name : String) : Option θ :=
  claims.owners.get? name

/-- The name that a thread waits for. -/
def awaited? (claims : Claims θ) (thread : θ) : Option String :=
  claims.waiting.lookup thread

/-- Whether a thread is found in a number of steps from the owner of a name to the owner of the name
that this one waits for, and so on. -/
def leadsTo (claims : Claims θ) (thread : θ) : (steps : Nat) → (name : String) → Bool
  | 0, _ => false
  | steps + 1, name =>
    match claims.owner? name with
    | none => false
    | some owner =>
      if owner = thread then true
      else
        match claims.awaited? owner with
        | none => false
        | some next => leadsTo claims thread steps next

/-- Whether a thread that waited for a name would wait for itself. -/
def wouldDeadlock (claims : Claims θ) (thread : θ) (name : String) : Bool :=
  claims.leadsTo thread (claims.waiting.length + 1) name

/-- What becomes of a thread that asks for a name. -/
inductive Answer where
  /-- It claims the name, and runs the initializer. -/
  | claim
  /-- It is refused, for it would wait for itself. -/
  | refuse
  /-- It waits until the claim on the name is released. -/
  | wait
  deriving DecidableEq, Repr

/-- What becomes of a thread that asks for a name without an instance. -/
def answer (claims : Claims θ) (thread : θ) (name : String) : Answer :=
  match claims.owner? name with
  | none => .claim
  | some owner =>
    if owner = thread then .refuse
    else if claims.wouldDeadlock thread name then .refuse
    else .wait

/-- The claims with one more. -/
def claim (claims : Claims θ) (thread : θ) (name : String) : Claims θ :=
  { claims with owners := claims.owners.insert name thread }

/-- The claims without that on a name. -/
def release (claims : Claims θ) (name : String) : Claims θ :=
  { claims with owners := claims.owners.filter fun other _ => other != name }

/-- The claims when a thread waits for a name. -/
def await (claims : Claims θ) (thread : θ) (name : String) : Claims θ :=
  { claims with waiting := (thread, name) :: claims.waiting.filter fun entry => entry.1 != thread }

/-- The claims when a thread no longer waits. -/
def wake (claims : Claims θ) (thread : θ) : Claims θ :=
  { claims with waiting := claims.waiting.filter fun entry => entry.1 != thread }

/-- A name is claimed when nobody constructs it. -/
theorem answer_eq_claim_iff {claims : Claims θ} {thread : θ} {name : String} :
    claims.answer thread name = .claim ↔ claims.owner? name = none := by
  unfold answer
  split
  · next h => simp [h]
  · next owner h =>
    simp only [h, reduceCtorEq, iff_false]
    split
    · simp
    · split <;> simp

/-- A thread waits for a name that another thread constructs, where no cycle of waiting threads
would close. -/
theorem answer_eq_wait_iff {claims : Claims θ} {thread : θ} {name : String} :
    claims.answer thread name = .wait ↔
      ∃ owner, claims.owner? name = some owner ∧ owner ≠ thread ∧
        claims.wouldDeadlock thread name = false := by
  unfold answer
  split
  · next h => simp [h]
  · next owner h =>
    by_cases howner : owner = thread
    · simp [h, howner]
    · by_cases hdead : claims.wouldDeadlock thread name = true
      · simp [h, howner, hdead]
      · simp [h, howner, hdead]

omit [DecidableEq θ] in
/-- A claim is found under its name, and no other is disturbed. -/
@[simp]
theorem owner?_claim (claims : Claims θ) (thread : θ) (name other : String) :
    (claims.claim thread name).owner? other =
      if other = name then some thread else claims.owner? other :=
  NameMap.get?_insert

omit [DecidableEq θ] in
/-- A claim that is released is gone, and no other is disturbed. -/
@[simp]
theorem owner?_release (claims : Claims θ) (name other : String) :
    (claims.release name).owner? other = if other = name then none else claims.owner? other := by
  refine Option.ext fun owner => ?_
  show (claims.owners.filter fun other _ => other != name).get? other = some owner ↔ _
  rw [NameMap.get?_filter_eq_some_iff]
  by_cases h : other = name
  · simp [h]
  · simp [h, owner?]

/-- What is found among entries without those of one key. -/
theorem lookup_filter_ne {entries : List (θ × String)} {thread other : θ} :
    (entries.filter fun entry => entry.1 != thread).lookup other =
      if other = thread then none else entries.lookup other := by
  induction entries with
  | nil => simp
  | cons entry rest ih =>
    by_cases hentry : entry.1 = thread
    · rw [List.filter_cons_of_neg (by simp [hentry]), ih]
      by_cases hother : other = thread
      · rw [if_pos hother, if_pos hother]
      · have hne : (other == entry.1) = false := by simpa [hentry] using hother
        rw [if_neg hother, if_neg hother, List.lookup_cons, hne]
    · rw [List.filter_cons_of_pos (by simp [hentry]), List.lookup_cons, List.lookup_cons, ih]
      by_cases hother : other = thread
      · have hne : (other == entry.1) = false := by simpa [hother] using Ne.symm hentry
        rw [hne, if_pos hother]
      · rw [if_neg hother, if_neg hother]

/-- A thread that no longer waits has no entry, and no other is disturbed. -/
@[simp]
theorem awaited?_wake (claims : Claims θ) (thread other : θ) :
    (claims.wake thread).awaited? other =
      if other = thread then none else claims.awaited? other :=
  lookup_filter_ne

/-- A thread that waits has its entry, and no other is disturbed. -/
@[simp]
theorem awaited?_await (claims : Claims θ) (thread other : θ) (name : String) :
    (claims.await thread name).awaited? other =
      if other = thread then some name else claims.awaited? other := by
  show ((thread, name) :: claims.waiting.filter fun entry => entry.1 != thread).lookup other = _
  rw [List.lookup_cons, lookup_filter_ne]
  by_cases h : other = thread
  · simp [h]
  · have hne : (other == thread) = false := by simpa using h
    rw [hne, if_neg h, if_neg h]
    rfl

end Claims

/-- What a thread is doing. -/
inductive Activity where
  /-- It runs the initializer that it has started last, or what has called the registry. -/
  | running
  /-- It asks for a name that it has found without an instance. -/
  | asking (name : String)
  /-- It has to be woken. -/
  | waiting (name : String)
  /-- The initializer that it has started last has returned or failed, and the claim is still to be released. -/
  | leaving
  deriving DecidableEq, Repr

/-- A thread that uses the registry. -/
structure Worker where
  /-- What it is doing. -/
  activity : Activity := .running
  /-- The names whose initializers it has started and not left yet, innermost first. -/
  constructing : List String := []
  deriving DecidableEq, Repr

/-- The claims of all threads with what the threads are doing and which instances there are. -/
structure Protocol (θ : Type) where
  /-- The constructions in progress. -/
  claims : Claims θ := ∅
  /-- Each thread. -/
  workers : θ → Worker := fun _ => {}
  /-- The names whose instance has been stored, latest first. -/
  stored : List String := []

namespace Protocol

variable {θ : Type} [DecidableEq θ]

instance : EmptyCollection (Protocol θ) := ⟨{}⟩

instance : Inhabited (Protocol θ) := ⟨∅⟩

/-- The state with one thread changed. -/
def withWorker (state : Protocol θ) (thread : θ) (worker : Worker) : Protocol θ :=
  { state with workers := fun other => if other = thread then worker else state.workers other }

/-- The state when a thread turns to something else. -/
def turnTo (state : Protocol θ) (thread : θ) (activity : Activity) : Protocol θ :=
  state.withWorker thread { state.workers thread with activity }

/-- The state when a thread has claimed a name and starts its initializer. -/
def enter (state : Protocol θ) (thread : θ) (name : String) : Protocol θ :=
  { state.withWorker thread ⟨.running, name :: (state.workers thread).constructing⟩ with
    claims := state.claims.claim thread name }

/-- The state when a thread waits for a name. -/
def block (state : Protocol θ) (thread : θ) (name : String) : Protocol θ :=
  { state.turnTo thread (.waiting name) with claims := state.claims.await thread name }

/-- The state when a thread is woken, and asks for the name again. -/
def unblock (state : Protocol θ) (thread : θ) (name : String) : Protocol θ :=
  { state.turnTo thread (.asking name) with claims := state.claims.wake thread }

/-- The state when a thread has stored the instance of a name. -/
def store (state : Protocol θ) (thread : θ) (name : String) : Protocol θ :=
  { state.turnTo thread .leaving with stored := name :: state.stored }

/-- The state when a thread has released the claim on a name; `outer` are the names that it goes on with. -/
def leave (state : Protocol θ) (thread : θ) (name : String) (outer : List String) : Protocol θ :=
  { state.withWorker thread ⟨.running, outer⟩ with claims := state.claims.release name }

/-- What a thread may do. -/
inductive Step : Protocol θ → Protocol θ → Prop where
  /-- A thread asks for a name. -/
  | ask {state : Protocol θ} {thread : θ} {name : String}
      (runs : (state.workers thread).activity = .running) :
      Step state (state.turnTo thread (.asking name))
  /-- There is an instance by now, which the thread is given. -/
  | find {state : Protocol θ} {thread : θ} {name : String}
      (asks : (state.workers thread).activity = .asking name) (present : name ∈ state.stored) :
      Step state (state.turnTo thread .running)
  /-- The thread is refused. -/
  | refuse {state : Protocol θ} {thread : θ} {name : String}
      (asks : (state.workers thread).activity = .asking name) (absent : name ∉ state.stored)
      (refused : state.claims.answer thread name = .refuse) :
      Step state (state.turnTo thread .running)
  /-- The thread claims the name, and starts its initializer. -/
  | claim {state : Protocol θ} {thread : θ} {name : String}
      (asks : (state.workers thread).activity = .asking name) (absent : name ∉ state.stored)
      (free : state.claims.answer thread name = .claim) : Step state (state.enter thread name)
  /-- The thread waits for the name. -/
  | wait {state : Protocol θ} {thread : θ} {name : String}
      (asks : (state.workers thread).activity = .asking name) (absent : name ∉ state.stored)
      (owned : state.claims.answer thread name = .wait) : Step state (state.block thread name)
  /-- The thread is woken. -/
  | wake {state : Protocol θ} {thread : θ} {name : String}
      (waits : (state.workers thread).activity = .waiting name) :
      Step state (state.unblock thread name)
  /-- The initializer that the thread has started last returns, and its instance is stored. -/
  | store {state : Protocol θ} {thread : θ} {name : String} {outer : List String}
      (runs : (state.workers thread).activity = .running)
      (innermost : (state.workers thread).constructing = name :: outer) :
      Step state (state.store thread name)
  /-- The initializer that the thread has started last fails. -/
  | fail {state : Protocol θ} {thread : θ} {name : String} {outer : List String}
      (runs : (state.workers thread).activity = .running)
      (innermost : (state.workers thread).constructing = name :: outer) :
      Step state (state.turnTo thread .leaving)
  /-- The thread releases its claim. -/
  | release {state : Protocol θ} {thread : θ} {name : String} {outer : List String}
      (leaves : (state.workers thread).activity = .leaving)
      (innermost : (state.workers thread).constructing = name :: outer) :
      Step state (state.leave thread name outer)

/-- The states that any number of threads may bring about from the start, in any order of steps. -/
inductive Reachable : Protocol θ → Prop where
  /-- Nothing has happened. -/
  | start : Reachable ∅
  /-- One more step is taken. -/
  | step {before after : Protocol θ} (reachable : Reachable before) (step : Step before after) :
      Reachable after

/-- The thread that changes is as it is set. -/
@[simp]
theorem workers_withWorker (state : Protocol θ) (thread other : θ) (worker : Worker) :
    (state.withWorker thread worker).workers other =
      if other = thread then worker else state.workers other :=
  rfl

@[simp]
theorem claims_enter (state : Protocol θ) (thread : θ) (name : String) :
    (state.enter thread name).claims = state.claims.claim thread name :=
  rfl

@[simp]
theorem claims_block (state : Protocol θ) (thread : θ) (name : String) :
    (state.block thread name).claims = state.claims.await thread name :=
  rfl

@[simp]
theorem claims_unblock (state : Protocol θ) (thread : θ) (name : String) :
    (state.unblock thread name).claims = state.claims.wake thread :=
  rfl

@[simp]
theorem claims_leave (state : Protocol θ) (thread : θ) (name : String) (outer : List String) :
    (state.leave thread name outer).claims = state.claims.release name :=
  rfl

end Protocol

end Scaffold
