/-!
# Traversals that may fail

A list is traversed from its head by a function that may fail.  The traversal succeeds when the function succeeds on
every member, with the results in the same order; it fails at the first member on which the function fails, whatever
comes after.

## Main Statements

* `exists_of_bind_eq_ok` — a success in two steps, taken apart
* `mapM_eq_ok_iff` — when a traversal succeeds, and what it brings
* `mapM_eq_error_iff` — where a traversal fails
-/

namespace Scaffold

universe u v

variable {ε : Type u} {α : Type v} {β : Type u} {f : α → Except ε β} {list : List α}

/-- What succeeds in two steps succeeds in both. -/
theorem exists_of_bind_eq_ok {γ : Type u} {first : Except ε γ} {second : γ → Except ε β} {result : β}
    (h : (do second (← first)) = .ok result) : ∃ value, first = .ok value ∧ second value = .ok result := by
  cases first with
  | error cause => cases h
  | ok value => exact ⟨value, rfl, h⟩

theorem mapM_cons_of_ok {first : α} {result : β} (h : f first = .ok result) (rest : List α) :
    (first :: rest).mapM f = (rest.mapM f).map (result :: ·) := by
  rw [List.mapM_cons, h]
  cases rest.mapM f <;> rfl

theorem mapM_cons_of_error {first : α} {cause : ε} (h : f first = .error cause) (rest : List α) :
    (first :: rest).mapM f = .error cause := by
  rw [List.mapM_cons, h]
  rfl

/-- A traversal succeeds when all members have results, and brings them in order. -/
theorem mapM_eq_ok_iff {results : List β} :
    list.mapM f = .ok results ↔ ∃ pairs : List (α × β),
      pairs.map Prod.fst = list ∧ pairs.map Prod.snd = results ∧ ∀ pair ∈ pairs, f pair.1 = .ok pair.2 := by
  constructor
  · intro h
    induction list generalizing results with
    | nil =>
      obtain rfl : [] = results := Except.ok.inj h
      exact ⟨[], rfl, rfl, fun _ hmem => absurd hmem List.not_mem_nil⟩
    | cons first rest ih =>
      cases hfirst : f first with
      | error cause =>
        rw [mapM_cons_of_error hfirst] at h
        cases h
      | ok result =>
        rw [mapM_cons_of_ok hfirst] at h
        cases hrest : rest.mapM f with
        | error cause =>
          rw [hrest] at h
          cases h
        | ok others =>
          rw [hrest] at h
          obtain rfl : result :: others = results := Except.ok.inj h
          obtain ⟨pairs, hlist, hresults, hpairs⟩ := ih hrest
          refine ⟨(first, result) :: pairs, congrArg (first :: ·) hlist, congrArg (result :: ·) hresults, ?_⟩
          exact List.forall_mem_cons.2 ⟨hfirst, hpairs⟩
  · rintro ⟨pairs, rfl, rfl, hpairs⟩
    induction pairs with
    | nil => rfl
    | cons pair pairs ih =>
      obtain ⟨hfirst, hrest⟩ := List.forall_mem_cons.1 hpairs
      rw [List.map_cons, mapM_cons_of_ok hfirst, ih hrest]
      rfl

/-- A traversal fails at the first member without a result, with the cause that it has there. -/
theorem mapM_eq_error_iff {cause : ε} :
    list.mapM f = .error cause ↔ ∃ before x after, list = before ++ x :: after ∧
      (∀ y ∈ before, ∃ result, f y = .ok result) ∧ f x = .error cause := by
  constructor
  · intro h
    induction list with
    | nil => cases h
    | cons first rest ih =>
      cases hfirst : f first with
      | error cause' =>
        rw [mapM_cons_of_error hfirst] at h
        cases h
        exact ⟨[], first, rest, rfl, fun _ hmem => absurd hmem List.not_mem_nil, hfirst⟩
      | ok result =>
        rw [mapM_cons_of_ok hfirst] at h
        cases hrest : rest.mapM f with
        | ok others =>
          rw [hrest] at h
          cases h
        | error cause' =>
          rw [hrest] at h
          cases h
          obtain ⟨before, x, after, rfl, hbefore, hx⟩ := ih hrest
          exact ⟨first :: before, x, after, rfl, List.forall_mem_cons.2 ⟨⟨result, hfirst⟩, hbefore⟩, hx⟩
  · rintro ⟨before, x, after, rfl, hbefore, hx⟩
    induction before with
    | nil => exact mapM_cons_of_error hx after
    | cons first before ih =>
      obtain ⟨⟨result, hfirst⟩, hrest⟩ := List.forall_mem_cons.1 hbefore
      rw [List.cons_append, mapM_cons_of_ok hfirst, ih hrest]
      rfl

/-- A traversal that succeeds has gone through all members, and has brought nothing else. -/
theorem mem_of_mapM_eq_ok {results : List β} (h : list.mapM f = .ok results) :
    (∀ x ∈ list, ∃ y ∈ results, f x = .ok y) ∧ ∀ y ∈ results, ∃ x ∈ list, f x = .ok y := by
  obtain ⟨pairs, rfl, rfl, hpairs⟩ := mapM_eq_ok_iff.1 h
  simp only [List.forall_mem_map]
  constructor
  · exact fun pair hmem => ⟨pair.2, List.mem_map_of_mem hmem, hpairs pair hmem⟩
  · exact fun pair hmem => ⟨pair.1, List.mem_map_of_mem hmem, hpairs pair hmem⟩

end Scaffold
