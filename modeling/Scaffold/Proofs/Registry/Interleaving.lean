import Scaffold.Proofs.Registry.WaitFor

/-!
# Constructions of any number of threads

Whatever threads do, and in whatever order, what each of them is doing agrees with the claims, which they share.  From
this follows that they keep out of each other's way: a name is under construction by one thread at a time, its instance
is stored once, and no threads wait for each other in a circle.

## Main Definitions

* `Worker.Sound` — one thread agrees with the claims and with the instances that there are
* `Protocol.Sound` — so do all threads, and the claims have no cycle

## Main Statements

* `Sound.turnTo`, `Sound.enter`, `Sound.block`, `Sound.unblock`, `Sound.store`, `Sound.leave` — one step
* `Reachable.sound` — any number of steps
* `Reachable.constructs_once` — what this says of owners, of instances, and of the search for a thread

## Design Notes

Between the storing of an instance and the release of the claim a name has both an instance and an owner.  No other
instance is stored in that interval, for the owner does nothing but leave, and nobody else can claim the name.
-/

namespace Scaffold

open Relation

variable {θ : Type} [DecidableEq θ]

/-! ## One thread -/

/-- A thread agrees with the claims and with the names that have an instance. -/
structure Worker.Sound (worker : Worker) (thread : θ) (claims : Claims θ) (stored : List String) : Prop where
  /-- It has an entry while it waits, from the moment it begins to wait to the moment it is woken. -/
  waits : ∀ name, claims.awaited? thread = some name ↔ worker.activity = .waiting name
  /-- It owns what it constructs. -/
  owns : ∀ name, claims.owner? name = some thread ↔ name ∈ worker.constructing
  /-- It runs no initializer inside of itself. -/
  nodup : worker.constructing.Nodup
  /-- Of what it constructs, only that which it leaves may have an instance. -/
  leaves : ∀ name ∈ worker.constructing, name ∈ stored →
    worker.activity = .leaving ∧ worker.constructing.head? = some name

namespace Worker.Sound

variable {worker : Worker} {thread : θ} {claims : Claims θ} {stored : List String} {name : String}

/-- A thread that does not wait has no entry. -/
theorem awaited?_eq_none (h : worker.Sound thread claims stored) (hawake : ∀ name, worker.activity ≠ .waiting name) :
    claims.awaited? thread = none :=
  Option.eq_none_iff_forall_ne_some.2 fun name hname => hawake name ((h.waits name).1 hname)

/-- A thread that does not leave constructs nothing that has an instance. -/
theorem notMem_stored (h : worker.Sound thread claims stored) (hstays : worker.activity ≠ .leaving)
    (hname : name ∈ worker.constructing) : name ∉ stored :=
  fun hstored => hstays (h.leaves name hname hstored).1

/-- A thread is not concerned by changes of other entries, of other claims, and of instances of names that it does
not construct. -/
theorem of_eq (h : worker.Sound thread claims stored) {claims' : Claims θ} {stored' : List String}
    (hawaited : claims'.awaited? thread = claims.awaited? thread)
    (howner : ∀ name, claims'.owner? name = some thread ↔ claims.owner? name = some thread)
    (hstored : ∀ name ∈ worker.constructing, name ∈ stored' → name ∈ stored) :
    worker.Sound thread claims' stored' where
  waits := fun name => hawaited ▸ h.waits name
  owns := fun name => (howner name).trans (h.owns name)
  nodup := h.nodup
  leaves := fun name hname hnew => h.leaves name hname (hstored name hname hnew)

/-- A thread that does not leave may turn to anything that its entry agrees with. -/
theorem turnTo (h : worker.Sound thread claims stored) (hstays : worker.activity ≠ .leaving) {activity : Activity}
    {claims' : Claims θ} (hwaits : ∀ name, claims'.awaited? thread = some name ↔ activity = .waiting name)
    (howner : ∀ name, claims'.owner? name = claims.owner? name) :
    Worker.Sound { worker with activity } thread claims' stored where
  waits := hwaits
  owns := fun name => howner name ▸ h.owns name
  nodup := h.nodup
  leaves := fun _ hname hstored => absurd hstored (h.notMem_stored hstays hname)

end Worker.Sound

/-! ## One step -/

/-- The threads agree with the claims, which have no cycle, and no instance has been stored twice. -/
structure Protocol.Sound (state : Protocol θ) : Prop where
  workers : ∀ thread, (state.workers thread).Sound thread state.claims state.stored
  /-- No thread has two entries, so that there are as many entries as there are waiting threads. -/
  entries : (state.claims.waiting.map Prod.fst).Nodup
  stored : state.stored.Nodup
  acyclic : state.claims.Acyclic

/-- An entry that is taken out leaves one entry for each other thread. -/
theorem Claims.nodup_waiting_wake {claims : Claims θ} (h : (claims.waiting.map Prod.fst).Nodup) (thread : θ) :
    ((claims.wake thread).waiting.map Prod.fst).Nodup :=
  h.sublist (List.filter_sublist.map Prod.fst)

/-- An entry takes the place of an earlier one. -/
theorem Claims.nodup_waiting_await {claims : Claims θ} (h : (claims.waiting.map Prod.fst).Nodup) (thread : θ)
    (name : String) : ((claims.await thread name).waiting.map Prod.fst).Nodup := by
  refine List.nodup_cons.2 ⟨fun hmem => ?_, nodup_waiting_wake h thread⟩
  obtain ⟨entry, hentry, heq⟩ := List.mem_map.1 hmem
  simp [heq] at hentry

namespace Protocol

variable {state : Protocol θ} {thread : θ} {name : String}

/-- All threads agree after one has changed, if this one does and so do the others. -/
theorem sound_withWorker {worker : Worker} {claims : Claims θ} {stored : List String}
    (hthread : worker.Sound thread claims stored)
    (hothers : ∀ other, other ≠ thread → (state.workers other).Sound other claims stored) (other : θ) :
    ((state.withWorker thread worker).workers other).Sound other claims stored := by
  rw [workers_withWorker]
  by_cases hother : other = thread
  · rw [if_pos hother, hother]
    exact hthread
  · rw [if_neg hother]
    exact hothers other hother

/-- Nobody has done anything. -/
theorem sound_empty : (∅ : Protocol θ).Sound where
  workers := fun thread =>
    { waits := fun name => iff_of_false nofun nofun
      owns := fun name => iff_of_false nofun nofun
      nodup := List.nodup_nil
      leaves := nofun }
  entries := List.nodup_nil
  stored := List.nodup_nil
  acyclic := fun thread hcycle => by
    obtain ⟨_, ⟨name, hname, -⟩, -⟩ := TransGen.head'_iff.1 hcycle
    exact nomatch hname

/-- A thread that neither waits nor leaves turns to something else than to wait. -/
theorem Sound.turnTo (h : state.Sound) {activity : Activity}
    (hawake : ∀ name, (state.workers thread).activity ≠ .waiting name)
    (hstays : (state.workers thread).activity ≠ .leaving) (hactivity : ∀ name, activity ≠ .waiting name) :
    (state.turnTo thread activity).Sound where
  workers := by
    have hnone := (h.workers thread).awaited?_eq_none hawake
    refine sound_withWorker ((h.workers thread).turnTo hstays (fun name => ?_) fun _ => rfl)
      fun other _ => h.workers other
    exact iff_of_false (Option.eq_none_iff_forall_ne_some.1 hnone name) (hactivity name)
  entries := h.entries
  stored := h.stored
  acyclic := h.acyclic

/-- A thread that asks claims a name that has neither an instance nor an owner. -/
theorem Sound.enter (h : state.Sound) (hasks : (state.workers thread).activity = .asking name)
    (habsent : name ∉ state.stored) (hfree : state.claims.owner? name = none) :
    (state.enter thread name).Sound := by
  have hworker := h.workers thread
  have hnone := hworker.awaited?_eq_none fun other => by simp [hasks]
  -- Nobody constructs the name so far.
  have hnobody : ∀ other, name ∉ (state.workers other).constructing := fun other hmem =>
    Option.eq_none_iff_forall_ne_some.1 hfree other (((h.workers other).owns name).2 hmem)
  refine ⟨?_, h.entries, h.stored, h.acyclic.claim hnone⟩
  refine sound_withWorker
    { waits := fun other => iff_of_false (Option.eq_none_iff_forall_ne_some.1 hnone other) (by simp)
      owns := fun other => ?_
      nodup := List.nodup_cons.2 ⟨hnobody thread, hworker.nodup⟩
      leaves := fun other hother hstored => ?_ }
    fun other hother => (h.workers other).of_eq rfl (fun next => ?_) fun _ _ hstored => hstored
  · rw [claims_enter, Claims.owner?_claim, List.mem_cons, ← hworker.owns other]
    by_cases hname : other = name
    · simp [hname]
    · simp [hname]
  · rcases List.mem_cons.1 hother with rfl | hother
    · exact absurd hstored habsent
    · exact absurd hstored (hworker.notMem_stored (by simp [hasks]) hother)
  · rw [claims_enter, Claims.owner?_claim]
    by_cases hname : next = name
    · simp [hname, hfree, Ne.symm hother]
    · simp [hname]

/-- A thread that asks waits for a name, where the search has not found it. -/
theorem Sound.block (h : state.Sound) (hasks : (state.workers thread).activity = .asking name)
    (hsafe : state.claims.wouldDeadlock thread name = false) : (state.block thread name).Sound := by
  refine ⟨?_, Claims.nodup_waiting_await h.entries thread name, h.stored, h.acyclic.await hsafe⟩
  refine sound_withWorker
    ((h.workers thread).turnTo (by simp [hasks]) (fun next => ?_) fun _ => rfl)
    fun other hother => (h.workers other).of_eq ?_ (fun _ => Iff.rfl) fun _ _ hstored => hstored
  · rw [claims_block, Claims.awaited?_await, if_pos rfl, Option.some_inj, Activity.waiting.injEq]
  · rw [claims_block, Claims.awaited?_await, if_neg hother]

/-- A thread that waits is woken. -/
theorem Sound.unblock (h : state.Sound) (hwaits : (state.workers thread).activity = .waiting name) :
    (state.unblock thread name).Sound := by
  refine ⟨?_, Claims.nodup_waiting_wake h.entries thread, h.stored, h.acyclic.wake⟩
  refine sound_withWorker
    ((h.workers thread).turnTo (by simp [hwaits]) (fun next => ?_) fun _ => rfl)
    fun other hother => (h.workers other).of_eq ?_ (fun _ => Iff.rfl) fun _ _ hstored => hstored
  · rw [claims_unblock, Claims.awaited?_wake, if_pos rfl]
    exact iff_of_false (by simp) (by simp)
  · rw [claims_unblock, Claims.awaited?_wake, if_neg hother]

/-- A thread stores the instance of what it has started to construct last. -/
theorem Sound.store (h : state.Sound) {outer : List String} (hruns : (state.workers thread).activity = .running)
    (hinnermost : (state.workers thread).constructing = name :: outer) : (state.store thread name).Sound := by
  have hworker := h.workers thread
  have hnone := hworker.awaited?_eq_none fun other => by simp [hruns]
  have hmem : name ∈ (state.workers thread).constructing := by simp [hinnermost]
  have habsent : ∀ other ∈ (state.workers thread).constructing, other ∉ state.stored :=
    fun other => hworker.notMem_stored (by simp [hruns])
  refine ⟨?_, h.entries, List.nodup_cons.2 ⟨habsent name hmem, h.stored⟩, h.acyclic⟩
  refine sound_withWorker
    { waits := fun other => iff_of_false (Option.eq_none_iff_forall_ne_some.1 hnone other) (by simp)
      owns := hworker.owns
      nodup := hworker.nodup
      leaves := fun other hother hstored => ?_ }
    fun other hother => (h.workers other).of_eq rfl (fun _ => Iff.rfl) fun next hnext hstored => ?_
  · rcases List.mem_cons.1 hstored with rfl | hstored
    · exact ⟨rfl, by simp [hinnermost]⟩
    · exact absurd hstored (habsent other hother)
  · rcases List.mem_cons.1 hstored with rfl | hstored
    · -- The name is that of another thread.
      have hother' := ((h.workers other).owns next).2 hnext
      exact absurd (Option.some.inj (hother'.symm.trans ((hworker.owns next).2 hmem))) hother
    · exact hstored

/-- A thread releases the claim on what it has started to construct last. -/
theorem Sound.leave (h : state.Sound) {outer : List String} (hleaves : (state.workers thread).activity = .leaving)
    (hinnermost : (state.workers thread).constructing = name :: outer) :
    (state.leave thread name outer).Sound := by
  have hworker := h.workers thread
  have hnone := hworker.awaited?_eq_none fun other => by simp [hleaves]
  have hnodup := hworker.nodup
  have howns := hworker.owns
  rw [hinnermost] at hnodup howns
  obtain ⟨hname, houter⟩ := List.nodup_cons.1 hnodup
  refine ⟨?_, h.entries, h.stored, h.acyclic.release⟩
  refine sound_withWorker
    { waits := fun other => iff_of_false (Option.eq_none_iff_forall_ne_some.1 hnone other) (by simp)
      owns := fun other => ?_
      nodup := houter
      leaves := fun other hother hstored => ?_ }
    fun other hother => (h.workers other).of_eq rfl (fun next => ?_) fun _ _ hstored => hstored
  · rw [claims_leave, Claims.owner?_release, Option.ite_none_left_eq_some, howns, List.mem_cons]
    constructor
    · rintro ⟨hne, rfl | hother⟩
      · exact absurd rfl hne
      · exact hother
    · intro hother
      exact ⟨fun heq => hname (heq ▸ hother), .inr hother⟩
  · -- What has an instance is what the thread leaves, and that is not among the others.
    obtain ⟨-, hhead⟩ := hworker.leaves other (by simp [hinnermost, hother]) hstored
    rw [hinnermost, List.head?_cons] at hhead
    exact absurd (Option.some.inj hhead ▸ hother) hname
  · rw [claims_leave, Claims.owner?_release, Option.ite_none_left_eq_some]
    refine and_iff_right_of_imp fun howner heq => ?_
    have hthread := (howns name).2 (List.mem_cons_self ..)
    exact hother (Option.some.inj ((heq ▸ howner).symm.trans hthread))

/-- What a thread may do keeps the threads in agreement. -/
theorem Sound.step {before after : Protocol θ} (h : before.Sound) (hstep : Step before after) : after.Sound := by
  cases hstep with
  | ask runs => exact h.turnTo (by simp [runs]) (by simp [runs]) (by simp)
  | find asks _ => exact h.turnTo (by simp [asks]) (by simp [asks]) (by simp)
  | refuse asks _ _ => exact h.turnTo (by simp [asks]) (by simp [asks]) (by simp)
  | claim asks absent free => exact h.enter asks absent (Claims.answer_eq_claim_iff.1 free)
  | wait asks _ owned =>
    obtain ⟨_, _, _, hsafe⟩ := Claims.answer_eq_wait_iff.1 owned
    exact h.block asks hsafe
  | wake waits => exact h.unblock waits
  | store runs innermost => exact h.store runs innermost
  | fail runs _ => exact h.turnTo (by simp [runs]) (by simp [runs]) (by simp)
  | release leaves innermost => exact h.leave leaves innermost

/-! ## Any number of steps -/

/-- Whatever threads have done, they agree. -/
theorem Reachable.sound (h : Reachable state) : state.Sound := by
  induction h with
  | start => exact sound_empty
  | step _ hstep ih => exact ih.step hstep

/-- Whatever threads have done: the owner of a name, and nobody else, runs its initializer, and does so once at a time;
no instance has been stored twice; the waiting threads have no cycle; and the search for a thread finds it exactly if
owners, and the names that they wait for, lead to it, so that no search is given up too early. -/
theorem Reachable.constructs_once (h : Reachable state) :
    (∀ thread name, state.claims.owner? name = some thread ↔ name ∈ (state.workers thread).constructing) ∧
    (∀ first second name, name ∈ (state.workers first).constructing →
      name ∈ (state.workers second).constructing → first = second) ∧
    (∀ thread, (state.workers thread).constructing.Nodup) ∧
    state.stored.Nodup ∧
    (∀ thread name, state.claims.awaited? thread = some name ↔ (state.workers thread).activity = .waiting name) ∧
    (∀ thread, ¬ TransGen state.claims.WaitsFor thread thread) ∧
    (state.claims.waiting.map Prod.fst).Nodup ∧
    ∀ thread name,
      (state.claims.wouldDeadlock thread name = true ↔ state.claims.Reaches name thread) ∧
      ∀ steps, state.claims.waiting.length < steps →
        state.claims.leadsTo thread steps name = state.claims.wouldDeadlock thread name := by
  have hsound := h.sound
  refine ⟨fun thread => (hsound.workers thread).owns, fun first second name hfirst hsecond => ?_,
    fun thread => (hsound.workers thread).nodup, hsound.stored, fun thread => (hsound.workers thread).waits,
    hsound.acyclic, hsound.entries, fun thread name => ⟨Claims.wouldDeadlock_iff_reaches hsound.acyclic, ?_⟩⟩
  · have hfirst' := ((hsound.workers first).owns name).2 hfirst
    have hsecond' := ((hsound.workers second).owns name).2 hsecond
    exact Option.some.inj (hfirst'.symm.trans hsecond')
  · intro steps hsteps
    rw [Bool.eq_iff_iff, Claims.leadsTo_iff_reaches hsound.acyclic hsteps,
      Claims.wouldDeadlock_iff_reaches hsound.acyclic]

/-- The state when a thread has asked for a name and claimed it. -/
def begin (state : Protocol θ) (thread : θ) (name : String) : Protocol θ :=
  (state.turnTo thread (.asking name)).enter thread name

/-- A thread that runs may begin with a name that has neither an instance nor an owner. -/
theorem Reachable.begin (h : Reachable state) (hruns : (state.workers thread).activity = .running)
    (habsent : name ∉ state.stored) (hfree : state.claims.owner? name = none) :
    Reachable (state.begin thread name) := by
  refine .step (.step h (.ask hruns)) (.claim ?_ habsent (Claims.answer_eq_claim_iff.2 hfree))
  simp [turnTo]

/-- Of two threads, one waits for the name of the other, whose construction fails. Before it is woken, a third thread
has begun with that name, so that it waits for this one. -/
def overtaken : Protocol Nat :=
  let begun := ((∅ : Protocol Nat).begin 0 "left").begin 1 "right"
  let blocked := (begun.turnTo 0 (.asking "right")).block 0 "right"
  ((blocked.turnTo 1 .leaving).leave 1 "right" []).begin 2 "right"

theorem reachable_overtaken : Reachable overtaken := by
  refine .begin (.step (.step (.step (.step (.begin (.begin .start rfl ?_ rfl) rfl ?_ rfl) (.ask rfl))
    (.wait rfl ?_ rfl)) (.fail rfl rfl)) (.release rfl rfl)) rfl ?_ rfl <;> exact List.not_mem_nil

/-- The third thread must not wait for the name of the first. -/
theorem Reachable.constructs_once_overtaken :
    Reachable overtaken ∧ overtaken.claims.WaitsFor 0 2 ∧ overtaken.claims.wouldDeadlock 2 "left" = true ∧
      overtaken.claims.Reaches "left" 2 ∧ ¬ TransGen overtaken.claims.WaitsFor 0 0 := by
  obtain ⟨-, -, -, -, -, hacyclic, -, hsearch⟩ := reachable_overtaken.constructs_once
  have hrefused : overtaken.claims.wouldDeadlock 2 "left" = true := by decide
  exact ⟨reachable_overtaken, ⟨"right", by decide, by decide⟩, hrefused, (hsearch 2 "left").1.1 hrefused,
    hacyclic 0⟩

end Protocol

end Scaffold
