import Scaffold.NameSet

/-!
# Maps from names

A finite map from names, kept as its entries in ascending order of their names. Two maps that answer every
look-up alike are equal, however they were built.

## Main Definitions

* `NameMap` — entries in ascending order
* `NameMap.insert`, `NameMap.get?` — the last entry put under a name is the one found
* `NameMap.names` — the set of names with an entry

## Main Statements

* `NameMap.get?_insert` — what a look-up finds after an insertion
* `NameMap.ext_get?` — maps are equal when their look-ups are
-/

namespace Scaffold

universe u v

/-- A finite map from names, as entries in ascending order. -/
@[ext]
structure NameMap (α : Type u) where
  /-- The entries in ascending order of their names. -/
  toList : List (String × α)
  /-- The order is strict, so no name has two entries. -/
  sorted : toList.Pairwise (fun a b => a.1 < b.1)

namespace NameMap

variable {α : Type u} {β : Type v}

instance [DecidableEq α] : DecidableEq (NameMap α) := fun a b =>
  decidable_of_iff (a.toList = b.toList) NameMap.ext_iff.symm

/-- Puts an entry into its place among entries in ascending order, over one of the same name. -/
def insertSorted (name : String) (value : α) : List (String × α) → List (String × α)
  | [] => [(name, value)]
  | first :: rest =>
    if name < first.1 then (name, value) :: first :: rest
    else if name = first.1 then (name, value) :: rest
    else first :: insertSorted name value rest

theorem mem_of_mem_insertSorted {name : String} {value : α} {entry : String × α}
    {list : List (String × α)} (h : entry ∈ insertSorted name value list) :
    entry = (name, value) ∨ entry ∈ list := by
  induction list with
  | nil => simpa [insertSorted] using h
  | cons first rest ih =>
    unfold insertSorted at h
    split at h
    · simpa using h
    · split at h
      · rcases List.mem_cons.1 h with h | h
        · exact .inl h
        · exact .inr (List.mem_cons_of_mem _ h)
      · rcases List.mem_cons.1 h with h | h
        · exact .inr (h ▸ List.mem_cons_self ..)
        · exact (ih h).imp id (List.mem_cons_of_mem _)

theorem sorted_insertSorted {name : String} {value : α} {list : List (String × α)}
    (h : list.Pairwise (fun a b => a.1 < b.1)) :
    (insertSorted name value list).Pairwise (fun a b => a.1 < b.1) := by
  induction list with
  | nil => simp [insertSorted]
  | cons first rest ih =>
    have hfirst := (List.pairwise_cons.1 h).1
    unfold insertSorted
    split
    · next hlt =>
      refine List.pairwise_cons.2 ⟨fun other hmem => ?_, h⟩
      rcases List.mem_cons.1 hmem with rfl | hmem
      · exact hlt
      · exact String.lt_trans hlt (hfirst _ hmem)
    · split
      · next heq =>
        exact List.pairwise_cons.2 ⟨fun other hmem => heq ▸ hfirst _ hmem, List.Pairwise.of_cons h⟩
      · next hnlt hne =>
        refine List.pairwise_cons.2 ⟨fun other hmem => ?_, ih (List.Pairwise.of_cons h)⟩
        rcases mem_of_mem_insertSorted hmem with rfl | hmem
        · exact NameSet.lt_of_not_lt_of_ne hnlt hne
        · exact hfirst _ hmem

/-- The map without entries. -/
def empty : NameMap α :=
  ⟨[], List.Pairwise.nil⟩

instance : EmptyCollection (NameMap α) := ⟨empty⟩

instance : Inhabited (NameMap α) := ⟨empty⟩

instance [Repr α] : Repr (NameMap α) := ⟨fun map => reprPrec map.toList⟩

/-- The map with an entry put under a name. -/
def insert (map : NameMap α) (name : String) (value : α) : NameMap α :=
  ⟨insertSorted name value map.toList, sorted_insertSorted map.sorted⟩

/-- The value of the first entry of a name. -/
def lookup (name : String) : List (String × α) → Option α
  | [] => none
  | first :: rest => if name = first.1 then some first.2 else lookup name rest

/-- The value under a name. -/
def get? (map : NameMap α) (name : String) : Option α :=
  lookup name map.toList

/-- Whether a name has an entry. -/
def contains (map : NameMap α) (name : String) : Bool :=
  (map.get? name).isSome

/-- The map of a list of entries; a later entry of a name replaces an earlier one. -/
def ofList (entries : List (String × α)) : NameMap α :=
  entries.foldl (fun map entry => map.insert entry.1 entry.2) empty

/-- The names with an entry. -/
def names (map : NameMap α) : NameSet :=
  ⟨map.toList.map Prod.fst, List.pairwise_map.2 map.sorted⟩

/-- The values in ascending order of their names. -/
def values (map : NameMap α) : List α :=
  map.toList.map Prod.snd

/-- Number of entries. -/
def size (map : NameMap α) : Nat :=
  map.toList.length

/-- The entries whose value passes a test. -/
def filter (map : NameMap α) (test : String → α → Bool) : NameMap α :=
  ⟨map.toList.filter fun entry => test entry.1 entry.2, List.Pairwise.filter _ map.sorted⟩

/-- The map with a function applied to each value. -/
def map (entries : NameMap α) (f : α → β) : NameMap β :=
  ⟨entries.toList.map fun entry => (entry.1, f entry.2), List.pairwise_map.2 entries.sorted⟩

theorem lookup_insertSorted {name other : String} {value : α} {list : List (String × α)} :
    lookup other (insertSorted name value list) =
      if other = name then some value else lookup other list := by
  induction list with
  | nil => rfl
  | cons first rest ih =>
    unfold insertSorted
    split
    · rfl
    · split
      · next heq =>
        by_cases h : other = name
        · simp [lookup, h]
        · simp [lookup, h, ← heq]
      · next hne =>
        by_cases h : other = first.1
        · have hne' : ¬first.1 = name := fun he => hne he.symm
          simp [lookup, h, hne']
        · simp [lookup, h, ih]

/-- The last entry put under a name is the one found, and no other name is disturbed. -/
@[simp]
theorem get?_insert {map : NameMap α} {name other : String} {value : α} :
    (map.insert name value).get? other = if other = name then some value else map.get? other :=
  lookup_insertSorted

theorem lookup_eq_some_iff {list : List (String × α)} {name : String} {value : α}
    (h : list.Pairwise (fun a b => a.1 < b.1)) :
    lookup name list = some value ↔ (name, value) ∈ list := by
  induction list with
  | nil => simp [lookup]
  | cons first rest ih =>
    obtain ⟨hfirst, hrest⟩ := List.pairwise_cons.1 h
    rw [lookup, List.mem_cons]
    split
    · next heq =>
      subst heq
      constructor
      · rintro ⟨rfl⟩; exact .inl rfl
      · rintro (he | hmem)
        · rw [← he]
        · exact absurd (hfirst _ hmem) (String.lt_irrefl _)
    · next hne =>
      rw [ih hrest]
      constructor
      · exact .inr
      · rintro (he | hmem)
        · exact absurd (congrArg Prod.fst he) hne
        · exact hmem

/-- A look-up finds exactly the listed entries. -/
theorem get?_eq_some_iff {map : NameMap α} {name : String} {value : α} :
    map.get? name = some value ↔ (name, value) ∈ map.toList :=
  lookup_eq_some_iff map.sorted

/-- The names are those under which something is found. -/
theorem mem_names_iff {map : NameMap α} {name : String} :
    name ∈ map.names ↔ ∃ value, map.get? name = some value := by
  rw [names, NameSet.mem_def]
  simp only [get?_eq_some_iff, List.mem_map, Prod.exists, exists_and_right, exists_eq_right]

/-- A name has an entry when it is among the names. -/
theorem contains_iff {map : NameMap α} {name : String} :
    map.contains name = true ↔ name ∈ map.names := by
  rw [contains, Option.isSome_iff_exists, mem_names_iff]

/-- A name without an entry is found nowhere. -/
theorem get?_eq_none_iff {map : NameMap α} {name : String} :
    map.get? name = none ↔ name ∉ map.names := by
  rw [← contains_iff, contains]
  cases map.get? name <;> simp

theorem lookup_map {list : List (String × α)} {name : String} {f : α → β} :
    lookup name (list.map fun entry => (entry.1, f entry.2)) = (lookup name list).map f := by
  induction list with
  | nil => rfl
  | cons first rest ih =>
    by_cases h : name = first.1
    · simp [lookup, h]
    · simp [lookup, h, ih]

/-- A function applied to each value is applied to what is found. -/
@[simp]
theorem get?_map {map : NameMap α} {name : String} {f : α → β} :
    (map.map f).get? name = (map.get? name).map f :=
  lookup_map

/-- A filtered map finds what passes the test. -/
theorem get?_filter_eq_some_iff {map : NameMap α} {name : String} {value : α}
    {test : String → α → Bool} :
    (map.filter test).get? name = some value ↔
      map.get? name = some value ∧ test name value = true := by
  rw [get?_eq_some_iff, get?_eq_some_iff, filter, List.mem_filter]

/-- Maps that answer every look-up alike are equal. -/
theorem ext_get? {a b : NameMap α} (h : ∀ name, a.get? name = b.get? name) : a = b := by
  refine NameMap.ext (NameSet.eq_of_pairwise_of_mem_iff (fun _ _ => String.lt_asymm)
    a.sorted b.sorted fun ⟨name, value⟩ => ?_)
  rw [← get?_eq_some_iff, ← get?_eq_some_iff, h]

end NameMap

end Scaffold
