/-!
# Sets of names

A finite set of names, listed in ascending order by code point and without repetition. Two sets with the
same members are equal, however they were built.

## Main Definitions

* `NameSet` — an ascending list of names
* `NameSet.insert`, `NameSet.ofList`, `NameSet.union` — building sets
* `NameSet.filter`, `NameSet.erase` — taking names out

## Main Statements

* `NameSet.mem_insert`, `NameSet.mem_ofList` — what the members are
* `NameSet.ext` — sets are equal when their members are
-/

namespace Scaffold

universe u

/-- A finite set of names, as an ascending list. -/
@[ext]
structure NameSet where
  /-- The members in ascending order. -/
  toList : List String
  /-- The order is strict, so no name repeats. -/
  sorted : toList.Pairwise (· < ·)
  deriving DecidableEq

namespace NameSet

/-- Puts a name into its place in an ascending list, unless it is there already. -/
def insertSorted (name : String) : List String → List String
  | [] => [name]
  | first :: rest =>
    if name < first then name :: first :: rest
    else if name = first then first :: rest
    else first :: insertSorted name rest

theorem mem_insertSorted {name other : String} {list : List String} :
    other ∈ insertSorted name list ↔ other = name ∨ other ∈ list := by
  induction list with
  | nil => simp [insertSorted]
  | cons first rest ih =>
    unfold insertSorted
    split
    · simp
    · split
      · next h => subst h; simp
      · simp only [List.mem_cons, ih]
        constructor
        · rintro (h | h | h) <;> simp [h]
        · rintro (h | h | h) <;> simp [h]

/-- Of two different names that are not in order, the second is the smaller. -/
theorem lt_of_not_lt_of_ne {a b : String} (h : ¬a < b) (hne : a ≠ b) : b < a := by
  rcases String.le_total a b with hle | hle
  · exact absurd (String.le_antisymm hle (String.not_lt.1 h)) hne
  · refine Classical.byContradiction fun hn => hne ?_
    exact String.le_antisymm (String.not_lt.1 hn) hle

theorem sorted_insertSorted {name : String} {list : List String} (h : list.Pairwise (· < ·)) :
    (insertSorted name list).Pairwise (· < ·) := by
  induction list with
  | nil => simp [insertSorted]
  | cons first rest ih =>
    have hfirst := (List.pairwise_cons.1 h).1
    unfold insertSorted
    split
    · next hlt =>
      refine List.pairwise_cons.2 ⟨fun other hmem => ?_, h⟩
      rcases List.mem_cons.1 hmem with rfl | hmem
      · exact hlt
      · exact String.lt_trans hlt (hfirst _ hmem)
    · split
      · exact h
      · next hnlt hne =>
        refine List.pairwise_cons.2 ⟨fun other hmem => ?_, ih (List.Pairwise.of_cons h)⟩
        rcases mem_insertSorted.1 hmem with rfl | hmem
        · exact lt_of_not_lt_of_ne hnlt hne
        · exact hfirst _ hmem

/-- The set without members. -/
def empty : NameSet :=
  ⟨[], List.Pairwise.nil⟩

instance : EmptyCollection NameSet := ⟨empty⟩

instance : Inhabited NameSet := ⟨empty⟩

instance : Repr NameSet := ⟨fun set => reprPrec set.toList⟩

instance : Membership String NameSet := ⟨fun set name => name ∈ set.toList⟩

instance (name : String) (set : NameSet) : Decidable (name ∈ set) :=
  inferInstanceAs (Decidable (name ∈ set.toList))

/-- The set with one more member. -/
def insert (set : NameSet) (name : String) : NameSet :=
  ⟨insertSorted name set.toList, sorted_insertSorted set.sorted⟩

/-- The set of the names in a list. -/
def ofList (names : List String) : NameSet :=
  names.foldl insert empty

/-- The members that pass a test. -/
def filter (set : NameSet) (test : String → Bool) : NameSet :=
  ⟨set.toList.filter test, List.Pairwise.filter _ set.sorted⟩

/-- The set without one name. -/
def erase (set : NameSet) (name : String) : NameSet :=
  set.filter (· != name)

/-- The members of either set. -/
def union (a b : NameSet) : NameSet :=
  b.toList.foldl insert a

/-- Number of members. -/
def size (set : NameSet) : Nat :=
  set.toList.length

/-- Membership is membership in the list. -/
theorem mem_def {name : String} {set : NameSet} : name ∈ set ↔ name ∈ set.toList :=
  Iff.rfl

@[simp]
theorem mem_toList {name : String} {set : NameSet} : name ∈ set.toList ↔ name ∈ set :=
  Iff.rfl

@[simp]
theorem not_mem_empty (name : String) : name ∉ (empty : NameSet) :=
  List.not_mem_nil

@[simp]
theorem mem_insert {name other : String} {set : NameSet} :
    other ∈ set.insert name ↔ other = name ∨ other ∈ set :=
  mem_insertSorted

@[simp]
theorem mem_filter {name : String} {set : NameSet} {test : String → Bool} :
    name ∈ set.filter test ↔ name ∈ set ∧ test name = true :=
  List.mem_filter

@[simp]
theorem mem_erase {name other : String} {set : NameSet} :
    other ∈ set.erase name ↔ other ∈ set ∧ other ≠ name := by
  simp [erase]

theorem mem_foldl_insert {name : String} {names : List String} {set : NameSet} :
    name ∈ names.foldl insert set ↔ name ∈ set ∨ name ∈ names := by
  induction names generalizing set with
  | nil => simp
  | cons first rest ih =>
    simp only [List.foldl_cons, ih, mem_insert, List.mem_cons]
    constructor
    · rintro ((h | h) | h) <;> simp [h]
    · rintro (h | h | h) <;> simp [h]

@[simp]
theorem mem_ofList {name : String} {names : List String} : name ∈ ofList names ↔ name ∈ names := by
  simp [ofList, mem_foldl_insert]

@[simp]
theorem mem_union {name : String} {a b : NameSet} : name ∈ a.union b ↔ name ∈ a ∨ name ∈ b := by
  simp [union, mem_foldl_insert]

/-- Two lists in a strict order that have the same members are equal. -/
theorem eq_of_pairwise_of_mem_iff {α : Type u} {r : α → α → Prop}
    (asymm : ∀ x y, r x y → ¬r y x) {a b : List α} (ha : a.Pairwise r) (hb : b.Pairwise r)
    (h : ∀ x, x ∈ a ↔ x ∈ b) : a = b := by
  induction a generalizing b with
  | nil =>
    cases b with
    | nil => rfl
    | cons y ys => exact absurd ((h y).2 (List.mem_cons_self ..)) List.not_mem_nil
  | cons x xs ih =>
    cases b with
    | nil => exact absurd ((h x).1 (List.mem_cons_self ..)) List.not_mem_nil
    | cons y ys =>
      obtain ⟨hx, hxs⟩ := List.pairwise_cons.1 ha
      obtain ⟨hy, hys⟩ := List.pairwise_cons.1 hb
      have heq : x = y := by
        rcases List.mem_cons.1 ((h x).1 (List.mem_cons_self ..)) with heq | hmem
        · exact heq
        · rcases List.mem_cons.1 ((h y).2 (List.mem_cons_self ..)) with heq | hmem'
          · exact heq.symm
          · exact absurd (hx _ hmem') (asymm _ _ (hy _ hmem))
      subst heq
      refine congrArg _ (ih hxs hys fun z => ?_)
      constructor
      · intro hmem
        rcases List.mem_cons.1 ((h z).1 (List.mem_cons_of_mem _ hmem)) with rfl | hmem'
        · exact absurd (hx _ hmem) (asymm _ _ (hx _ hmem))
        · exact hmem'
      · intro hmem
        rcases List.mem_cons.1 ((h z).2 (List.mem_cons_of_mem _ hmem)) with rfl | hmem'
        · exact absurd (hy _ hmem) (asymm _ _ (hy _ hmem))
        · exact hmem'

/-- Sets with the same members are equal. -/
theorem ext_mem {a b : NameSet} (h : ∀ name, name ∈ a ↔ name ∈ b) : a = b :=
  NameSet.ext (eq_of_pairwise_of_mem_iff (fun _ _ => String.lt_asymm) a.sorted b.sorted h)

/-- No name is listed twice. -/
theorem nodup_toList (set : NameSet) : set.toList.Nodup := by
  refine List.Pairwise.imp ?_ set.sorted
  rintro a _ hlt rfl
  exact String.lt_irrefl a hlt

/-- Listing a set and collecting the list gives the set back. -/
@[simp]
theorem ofList_toList (set : NameSet) : ofList set.toList = set :=
  ext_mem fun _ => mem_ofList

end NameSet

end Scaffold
