import Mathlib.Data.List.Chain
import Mathlib.Data.List.Perm.Subperm
import Mathlib.Logic.Relation
import Scaffold.Registry.Claims

/-!
# Threads that wait for each other

The claims at one moment make a graph of threads: a thread that waits has an edge to the one that constructs the name
it waits for.  A thread may wait as long as this graph has no cycle, and what keeps it so is a search that follows the
edges and gives up after a number of steps.

## Main Definitions

* `Claims.WaitsFor` — the edges of the graph
* `Claims.Acyclic` — no thread waits for itself, directly or through others
* `Claims.Reaches` — whether owners, and the names that they wait for, lead from a name to a thread

## Main Statements

* `leadsTo_iff_reaches` — without a cycle, the search finds a thread exactly if it is there to be found
* `Acyclic.claim`, `Acyclic.release`, `Acyclic.await`, `Acyclic.wake` — no change of the claims closes a cycle

## Design Notes

A claim adds edges as well: who waited for the name under its last owner, and has not been woken yet, waits for the
new owner from now on.  No cycle can be closed by that, for a thread that claims a name waits for nothing itself.
-/

namespace Scaffold.Claims

open Relation

variable {θ : Type} [DecidableEq θ] {claims : Claims θ} {thread : θ} {name : String}

/-- A thread waits for a name that another constructs. -/
def WaitsFor (claims : Claims θ) (thread owner : θ) : Prop :=
  ∃ name, claims.awaited? thread = some name ∧ claims.owner? name = some owner

/-- No thread waits for itself, directly or through others. -/
def Acyclic (claims : Claims θ) : Prop :=
  ∀ thread, ¬ TransGen claims.WaitsFor thread thread

/-- Owners, and the names that they wait for, lead from a name to a thread. -/
def Reaches (claims : Claims θ) (name : String) (thread : θ) : Prop :=
  ∃ owner, claims.owner? name = some owner ∧ ReflTransGen claims.WaitsFor owner thread

/-- A thread that waits has an entry. -/
theorem WaitsFor.mem_waiting {owner : θ} (h : claims.WaitsFor thread owner) :
    thread ∈ claims.waiting.map Prod.fst := by
  obtain ⟨name, hname, -⟩ := h
  obtain ⟨before, after, hsplit, -⟩ := List.lookup_eq_some_iff.1 hname
  rw [hsplit]
  simp

/-! ## The search -/

/-- A name leads to its owner, and to what the name leads to that the owner waits for. -/
theorem reaches_iff :
    claims.Reaches name thread ↔ ∃ owner, claims.owner? name = some owner ∧
      (owner = thread ∨ ∃ next, claims.awaited? owner = some next ∧ claims.Reaches next thread) := by
  constructor
  · rintro ⟨owner, howner, hpath⟩
    refine ⟨owner, howner, ?_⟩
    rcases hpath.cases_head with rfl | ⟨other, ⟨next, hnext, hother⟩, hrest⟩
    · exact .inl rfl
    · exact .inr ⟨next, hnext, other, hother, hrest⟩
  · rintro ⟨owner, howner, rfl | ⟨next, hnext, other, hother, hrest⟩⟩
    · exact ⟨owner, howner, .refl⟩
    · exact ⟨owner, howner, .head ⟨next, hnext, hother⟩ hrest⟩

/-- One step of the search. -/
theorem leadsTo_succ {steps : Nat} :
    claims.leadsTo thread (steps + 1) name = true ↔ ∃ owner, claims.owner? name = some owner ∧
      (owner = thread ∨ ∃ next, claims.awaited? owner = some next ∧ claims.leadsTo thread steps next = true) := by
  rw [leadsTo]
  split
  · next hnone => simp [hnone]
  · next owner howner =>
    by_cases hthread : owner = thread
    · simp [howner, hthread]
    · rw [if_neg hthread]
      split
      · next hawake => simp [howner, hthread, hawake]
      · next next hnext => simp [howner, hthread, hnext]

/-- The search does not find what is not there. -/
theorem reaches_of_leadsTo {steps : Nat} (h : claims.leadsTo thread steps name = true) :
    claims.Reaches name thread := by
  induction steps generalizing name with
  | zero => exact absurd h Bool.false_ne_true
  | succ steps ih =>
    obtain ⟨owner, howner, hthread | ⟨next, hnext, hrest⟩⟩ := leadsTo_succ.1 h
    · exact reaches_iff.2 ⟨owner, howner, .inl hthread⟩
    · exact reaches_iff.2 ⟨owner, howner, .inr ⟨next, hnext, ih hrest⟩⟩

/-- The search finds the end of a chain of waiting threads, if it may take as many steps as there are threads. -/
theorem leadsTo_of_isChain {owner : θ} {rest : List θ} {steps : Nat}
    (howner : claims.owner? name = some owner) (hchain : (owner :: rest).IsChain claims.WaitsFor)
    (hlast : (owner :: rest).getLast (List.cons_ne_nil _ _) = thread) (hsteps : rest.length < steps) :
    claims.leadsTo thread steps name = true := by
  induction rest generalizing owner name steps with
  | nil =>
    obtain ⟨steps, rfl⟩ := Nat.exists_eq_add_of_lt hsteps
    exact leadsTo_succ.2 ⟨owner, howner, .inl hlast⟩
  | cons other rest ih =>
    obtain ⟨steps, rfl⟩ := Nat.exists_eq_add_of_lt hsteps
    obtain ⟨⟨next, hnext, hother⟩, hrest⟩ := List.isChain_cons_cons.1 hchain
    rw [List.getLast_cons (List.cons_ne_nil _ _)] at hlast
    refine leadsTo_succ.2 ⟨owner, howner, .inr ⟨next, hnext, ih hother hrest hlast ?_⟩⟩
    rw [List.length_cons]
    omega

/-- All but the last of a chain of waiting threads have an entry. -/
theorem mem_waiting_of_isChain {threads : List θ} (h : threads.IsChain claims.WaitsFor) :
    threads.dropLast ⊆ claims.waiting.map Prod.fst := by
  induction h with
  | nil => simp
  | singleton => simp
  | cons_cons hfirst _ ih =>
    rw [List.dropLast_cons_cons]
    exact List.cons_subset.2 ⟨hfirst.mem_waiting, ih⟩

/-- Without a cycle no thread comes twice in a chain. -/
theorem Acyclic.nodup_of_isChain (hacyclic : claims.Acyclic) {threads : List θ}
    (h : threads.IsChain claims.WaitsFor) : threads.Nodup := by
  have hpairwise : threads.Pairwise (TransGen claims.WaitsFor) :=
    List.isChain_iff_pairwise.1 (h.imp fun _ _ => TransGen.single)
  refine hpairwise.imp fun {first second} hpath heq => ?_
  subst heq
  exact hacyclic first hpath

/-- Without a cycle, the search finds a thread exactly if it is there to be found, in any number of steps that
exceeds that of the waiting threads. -/
theorem leadsTo_iff_reaches (hacyclic : claims.Acyclic) {steps : Nat} (hsteps : claims.waiting.length < steps) :
    claims.leadsTo thread steps name = true ↔ claims.Reaches name thread := by
  refine ⟨reaches_of_leadsTo, ?_⟩
  rintro ⟨owner, howner, hpath⟩
  obtain ⟨rest, hchain, hlast⟩ := List.exists_isChain_cons_of_relationReflTransGen hpath
  refine leadsTo_of_isChain howner hchain hlast ?_
  -- The last thread need not wait, all others do, and none of them comes twice.
  have hnodup := (hacyclic.nodup_of_isChain hchain).sublist (List.dropLast_sublist _)
  have hlength := (hnodup.subperm (mem_waiting_of_isChain hchain)).length_le
  rw [List.length_dropLast, List.length_cons, Nat.add_sub_cancel, List.length_map] at hlength
  exact Nat.lt_of_le_of_lt hlength hsteps

theorem wouldDeadlock_iff_reaches (hacyclic : claims.Acyclic) :
    claims.wouldDeadlock thread name = true ↔ claims.Reaches name thread :=
  leadsTo_iff_reaches hacyclic (Nat.lt_succ_self _)

/-! ## Changes of the claims -/

/-- No cycle is closed by new edges from whose end no way leads back to their start. -/
theorem Acyclic.of_new {after : Claims θ} (hacyclic : claims.Acyclic)
    (hnew : ∀ first second, after.WaitsFor first second →
      claims.WaitsFor first second ∨ ¬ ReflTransGen after.WaitsFor second first) : after.Acyclic := by
  -- A path that can be prolonged to a cycle has none of the new edges.
  have hold : ∀ {first second}, TransGen after.WaitsFor first second →
      ReflTransGen after.WaitsFor second first → TransGen claims.WaitsFor first second := by
    intro first second hpath
    induction hpath with
    | single hedge => exact fun hback => .single ((hnew _ _ hedge).resolve_right (not_not_intro hback))
    | tail hpath hedge ih =>
      intro hback
      have hback' := hback.trans hpath.to_reflTransGen
      exact .tail (ih (.head hedge hback)) ((hnew _ _ hedge).resolve_right (not_not_intro hback'))
  exact fun thread hcycle => hacyclic thread (hold hcycle .refl)

/-- A thread that waits for nothing may claim a name, whoever waits for it still. -/
theorem Acyclic.claim (hacyclic : claims.Acyclic) (hawake : claims.awaited? thread = none) :
    (claims.claim thread name).Acyclic := by
  refine hacyclic.of_new ?_
  rintro first second ⟨next, hnext, hsecond⟩
  rw [owner?_claim] at hsecond
  by_cases hname : next = name
  · rw [if_pos hname] at hsecond
    obtain rfl := Option.some.inj hsecond
    refine .inr fun hback => ?_
    -- The new owner has no edge, so that it would have to be the thread that waits for it.
    rcases hback.cases_head with rfl | ⟨_, ⟨other, hother, -⟩, -⟩
    · exact absurd (hawake.symm.trans hnext) (by simp)
    · exact absurd (hawake.symm.trans hother) (by simp)
  · rw [if_neg hname] at hsecond
    exact .inl ⟨next, hnext, hsecond⟩

/-- A claim may be released at any time. -/
theorem Acyclic.release (hacyclic : claims.Acyclic) : (claims.release name).Acyclic := by
  refine hacyclic.of_new ?_
  rintro first second ⟨next, hnext, hsecond⟩
  rw [owner?_release, Option.ite_none_left_eq_some] at hsecond
  exact .inl ⟨next, hnext, hsecond.2⟩

/-- A thread may be woken at any time. -/
theorem Acyclic.wake (hacyclic : claims.Acyclic) : (claims.wake thread).Acyclic := by
  refine hacyclic.of_new ?_
  rintro first second ⟨next, hnext, hsecond⟩
  rw [awaited?_wake, Option.ite_none_left_eq_some] at hnext
  exact .inl ⟨next, hnext.2, hsecond⟩

/-- A thread may wait for a name where the search has not found it. -/
theorem Acyclic.await (hacyclic : claims.Acyclic) (hsafe : claims.wouldDeadlock thread name = false) :
    (claims.await thread name).Acyclic := by
  have hedge : ∀ {first second}, (claims.await thread name).WaitsFor first second →
      claims.WaitsFor first second ∨ first = thread ∧ claims.owner? name = some second := by
    rintro first second ⟨next, hnext, hsecond⟩
    rw [awaited?_await] at hnext
    by_cases hfirst : first = thread
    · rw [if_pos hfirst] at hnext
      obtain rfl := Option.some.inj hnext
      exact .inr ⟨hfirst, hsecond⟩
    · rw [if_neg hfirst] at hnext
      exact .inl ⟨next, hnext, hsecond⟩
  -- The only new edge starts at the thread, and a way to there need not go on from it.
  have hold : ∀ {first}, ReflTransGen (claims.await thread name).WaitsFor first thread →
      ReflTransGen claims.WaitsFor first thread := by
    intro first hpath
    induction hpath using ReflTransGen.head_induction_on with
    | refl => exact .refl
    | head hfirst _ ih =>
      rcases hedge hfirst with hfirst | ⟨rfl, -⟩
      · exact .head hfirst ih
      · exact .refl
  refine hacyclic.of_new fun first second h => ?_
  rcases hedge h with h | ⟨rfl, howner⟩
  · exact .inl h
  · refine .inr fun hback => ?_
    have hreaches : claims.Reaches name first := ⟨second, howner, hold hback⟩
    exact absurd ((wouldDeadlock_iff_reaches hacyclic).2 hreaches) (by simp [hsafe])

end Scaffold.Claims
