import Mathlib.Data.List.Basic
import Mathlib.Data.List.Perm.Basic
import Mathlib.Data.Set.Basic
import Mathlib.Order.Bounds.Defs

/-!
# The first match in a list

A search that returns the first match splits its list: nothing before the match passes the test.  Its place is
the least of the places of members that pass.  When at most one member passes, the order of the list does not
matter.

## Main Definitions

* `placesOf` — the places of the members that pass a test

## Main Statements

* `findIdx?_eq_some_iff_split` — a place found is a split of the list
* `findIdx?_eq_some_iff_isLeast` — and the least of its kind
* `find?_perm` — a search for the only match does not depend on the order
-/

namespace Scaffold

universe u

variable {α : Type u} {test : α → Bool}

/-- A member that is the first to pass the test is found at its place. -/
theorem findIdx?_append_cons {before after : List α} {x : α}
    (hbefore : ∀ y ∈ before, test y = false) (hx : test x = true) :
    (before ++ x :: after).findIdx? test = some before.length := by
  have hnone : before.findIdx? test = none := List.findIdx?_eq_none_iff.2 hbefore
  rw [List.findIdx?_append, hnone, List.findIdx?_cons, if_pos hx]
  simp

/-- A member is found where it first stands. -/
theorem findIdx?_beq_append_cons [BEq α] [LawfulBEq α] {before after : List α} {x : α}
    (h : x ∉ before) : (before ++ x :: after).findIdx? (· == x) = some before.length := by
  refine findIdx?_append_cons (fun y hmem => ?_) (beq_self_eq_true x)
  exact beq_eq_false_iff_ne.2 fun heq => h (heq ▸ hmem)

/-- A search finds a place when the list splits there, at the first member that passes the test. -/
theorem findIdx?_eq_some_iff_split {list : List α} {i : Nat} :
    list.findIdx? test = some i ↔
      ∃ before x after, list = before ++ x :: after ∧ (∀ y ∈ before, test y = false) ∧
        test x = true ∧ before.length = i := by
  constructor
  · intro h
    obtain ⟨hlt, hidx⟩ := List.findIdx?_eq_some_iff_findIdx_eq.1 h
    obtain ⟨_, hx, -⟩ := List.findIdx?_eq_some_iff_getElem.1 h
    refine ⟨list.take i, list[i], list.drop (i + 1), ?_, ?_, hx, ?_⟩
    · rw [List.getElem_cons_drop hlt, List.take_append_drop]
    · intro y hmem
      rw [← hidx] at hmem
      exact List.false_of_mem_take_findIdx hmem
    · rw [List.length_take, Nat.min_eq_left (Nat.le_of_lt hlt)]
  · rintro ⟨before, x, after, rfl, hbefore, hx, rfl⟩
    exact findIdx?_append_cons hbefore hx

/-- Tests that agree on the members of a list find the same place. -/
theorem findIdx?_congr {test' : α → Bool} {list : List α} (h : ∀ x ∈ list, test x = test' x) :
    list.findIdx? test = list.findIdx? test' := by
  induction list with
  | nil => rfl
  | cons x rest ih =>
    rw [List.findIdx?_cons, List.findIdx?_cons, h x (List.mem_cons_self ..),
      ih fun y hmem => h y (List.mem_cons_of_mem _ hmem)]

/-- The places of the members that pass a test. -/
def placesOf (test : α → Bool) (list : List α) : Set Nat :=
  {i | ∃ x, list[i]? = some x ∧ test x = true}

/-- A search finds the least of the places. -/
theorem findIdx?_eq_some_iff_isLeast {list : List α} {i : Nat} :
    list.findIdx? test = some i ↔ IsLeast (placesOf test list) i := by
  rw [List.findIdx?_eq_some_iff_getElem]
  constructor
  · rintro ⟨hlt, htest, hbefore⟩
    refine ⟨⟨list[i], List.getElem?_eq_getElem hlt, htest⟩, ?_⟩
    rintro j ⟨y, hy, hpasses⟩
    obtain ⟨hlt', rfl⟩ := List.getElem?_eq_some_iff.1 hy
    by_contra hless
    exact hbefore j (Nat.lt_of_not_le hless) hpasses
  · rintro ⟨⟨x, hx, htest⟩, hleast⟩
    obtain ⟨hlt, rfl⟩ := List.getElem?_eq_some_iff.1 hx
    refine ⟨hlt, htest, ?_⟩
    intro j hj hpasses
    have hle : i ≤ j := hleast ⟨_, List.getElem?_eq_getElem (Nat.lt_trans hj hlt), hpasses⟩
    exact absurd hj (Nat.not_lt_of_le hle)

/-- A search fails where there are no places. -/
theorem findIdx?_eq_none_iff_placesOf {list : List α} :
    list.findIdx? test = none ↔ placesOf test list = ∅ := by
  rw [List.findIdx?_eq_none_iff, Set.eq_empty_iff_forall_notMem]
  constructor
  · rintro hnone i ⟨x, hx, htest⟩
    rw [hnone x (List.mem_of_getElem? hx)] at htest
    exact Bool.false_ne_true htest
  · intro hempty x hmem
    obtain ⟨i, hx⟩ := List.mem_iff_getElem?.1 hmem
    rw [← Bool.not_eq_true]
    intro htest
    exact hempty i ⟨x, hx, htest⟩

/-- The places in the rest of a list are those that come after what is left out. -/
theorem mem_placesOf_drop {list : List α} {start i : Nat} :
    i ∈ placesOf test (list.drop start) ↔ start + i ∈ placesOf test list := by
  show (∃ x, (list.drop start)[i]? = some x ∧ test x = true) ↔ ∃ x, list[start + i]? = some x ∧ test x = true
  rw [List.getElem?_drop]

/-- If no two members pass the test, the search finds the same member in every order of the list. -/
theorem find?_perm {list list' : List α} (hperm : list.Perm list')
    (hunique : ∀ x ∈ list, ∀ y ∈ list, test x = true → test y = true → x = y) :
    list.find? test = list'.find? test := by
  cases h : list.find? test with
  | none =>
    rw [List.find?_eq_none] at h
    exact (List.find?_eq_none.2 fun x hmem => h x (hperm.mem_iff.2 hmem)).symm
  | some x =>
    have hx := List.find?_some h
    have hmem := List.mem_of_find?_eq_some h
    cases h' : list'.find? test with
    | none => exact absurd hx (List.find?_eq_none.1 h' x (hperm.mem_iff.1 hmem))
    | some y =>
      have hy := hperm.mem_iff.2 (List.mem_of_find?_eq_some h')
      rw [hunique x hmem y hy hx (List.find?_some h')]

end Scaffold
