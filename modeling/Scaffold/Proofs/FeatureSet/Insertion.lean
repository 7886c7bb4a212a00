import Mathlib.Computability.Language
import Mathlib.Data.Char
import Mathlib.Order.Interval.Set.Defs
import Scaffold.Proofs.FeatureSet.Accessors
import Scaffold.Proofs.FeatureSet.Contributors
import Scaffold.Proofs.FirstMatch

/-!
# Insertion into a catalog

A feature set is inserted when all names in it are names of feature sets and its own is not taken.  The checks come
before the change, so that a refused feature set leaves the catalog as it was, and they come in a fixed order, which
decides the reason that is given.

To say that nothing is left behind, `Catalog.insertInPlace` is the insertion with the catalog as a state that could
change at any point; `Catalog.tryInsert_eq` compares it with `Catalog.insert`.

## Main Definitions

* `featureSetNames` — the names of feature sets, as a language
* `FeatureSet.Valid` — all names in a feature set are such names
* `FeatureSet.FirstInvalid` — the name that a feature set is refused for
* `Catalog.insertInPlace`, `Catalog.tryInsert` — an insertion that changes a catalog, or not
* `Catalog.Reachable` — what insertions make of the empty catalog

## Main Statements

* `isFeatureSetName_iff` — the check of a name accepts exactly the language
* `Catalog.insert_eq_ok_iff`, `Catalog.inserts_tryInsert` — the outcomes of an insertion
* `Catalog.exists_ofList_iff`, `Catalog.get?_of_ofList` — when a list of feature sets makes a catalog, and which
* `Catalog.keyed_of_ofList` — insertions put feature sets under their names
* `Catalog.insertion_exact` — insertions into the catalogs that can be reached, and lists of them in any order
-/

namespace Scaffold

open scoped Computability

/-! ### Names -/

/-- The words of one character from a class. -/
def oneOf (chars : Set Char) : Language Char :=
  {word | ∃ c ∈ chars, word = [c]}

/-- The names of feature sets: `[a-z_][a-z0-9_]*`. -/
def featureSetNames : Language Char :=
  oneOf (Set.Icc 'a' 'z' ∪ {'_'}) * (oneOf (Set.Icc 'a' 'z' ∪ Set.Icc '0' '9' ∪ {'_'}))∗

/-- Words are put together from characters of a class when all their characters are of that class. -/
theorem mem_kstar_oneOf {chars : Set Char} {word : List Char} :
    word ∈ (oneOf chars)∗ ↔ ∀ c ∈ word, c ∈ chars := by
  rw [Language.mem_kstar]
  constructor
  · rintro ⟨parts, rfl, hparts⟩ c hc
    obtain ⟨part, hpart, hmem⟩ := List.mem_flatten.1 hc
    obtain ⟨only, honly, rfl⟩ := hparts part hpart
    exact List.mem_singleton.1 hmem ▸ honly
  · intro h
    refine ⟨word.map fun c => [c], ?_, ?_⟩
    · rw [← List.flatMap_def, List.flatMap_singleton']
    · intro part hpart
      obtain ⟨c, hc, rfl⟩ := List.mem_map.1 hpart
      exact ⟨c, h c hc, rfl⟩

theorem isLower_iff {c : Char} : c.isLower = true ↔ c ∈ Set.Icc 'a' 'z' := by
  show (decide ('a'.val ≤ c.val) && decide (c.val ≤ 'z'.val)) = true ↔ 'a' ≤ c ∧ c ≤ 'z'
  rw [Bool.and_eq_true, decide_eq_true_iff, decide_eq_true_iff]
  rfl

theorem isDigit_iff {c : Char} : c.isDigit = true ↔ c ∈ Set.Icc '0' '9' := by
  show (decide ('0'.val ≤ c.val) && decide (c.val ≤ '9'.val)) = true ↔ '0' ≤ c ∧ c ≤ '9'
  rw [Bool.and_eq_true, decide_eq_true_iff, decide_eq_true_iff]
  rfl

theorem isNameStart_iff {c : Char} : isNameStart c = true ↔ c ∈ Set.Icc 'a' 'z' ∪ {'_'} := by
  rw [isNameStart, Bool.or_eq_true, isLower_iff, beq_iff_eq]
  rfl

theorem isNameChar_iff {c : Char} :
    isNameChar c = true ↔ c ∈ Set.Icc 'a' 'z' ∪ Set.Icc '0' '9' ∪ {'_'} := by
  rw [isNameChar, Bool.or_eq_true, Bool.or_eq_true, isLower_iff, isDigit_iff, beq_iff_eq]
  rfl

/-- The check of a name accepts the names of feature sets, and nothing else. -/
theorem isFeatureSetName_iff {name : String} :
    isFeatureSetName name = true ↔ name.toList ∈ featureSetNames := by
  rw [isFeatureSetName, featureSetNames, Language.mem_mul]
  cases name.toList with
  | nil =>
    refine ⟨fun h => absurd h Bool.false_ne_true, ?_⟩
    rintro ⟨_, ⟨first, -, rfl⟩, rest, -, h⟩
    cases h
  | cons first rest =>
    show (isNameStart first && rest.all isNameChar) = true ↔ _
    rw [Bool.and_eq_true, isNameStart_iff, List.all_eq_true]
    constructor
    · rintro ⟨hfirst, hrest⟩
      refine ⟨[first], ⟨first, hfirst, rfl⟩, rest, mem_kstar_oneOf.2 fun c hc => ?_, rfl⟩
      exact isNameChar_iff.1 (hrest c hc)
    · rintro ⟨_, ⟨c, hc, rfl⟩, word, hword, h⟩
      cases h
      exact ⟨hc, fun c hc => isNameChar_iff.2 (mem_kstar_oneOf.1 hword c hc)⟩

namespace FeatureSet

/-- All names in a feature set are names of feature sets. -/
structure Valid (featureSet : FeatureSet) : Prop where
  /-- Its own name is. -/
  name : featureSet.name.toList ∈ featureSetNames
  /-- The names that it depends on are. -/
  dependencies : ∀ name ∈ featureSet.dependencies, name.toList ∈ featureSetNames
  /-- The names that it would use are. -/
  softRequirements : ∀ name ∈ featureSet.softRequirements, name.toList ∈ featureSetNames

/-- A name in a feature set is no name of a feature set, and all that are looked at before it are: its own name is
looked at first, then its dependencies in ascending order, then its soft requirements in ascending order. -/
def FirstInvalid (featureSet : FeatureSet) (name : String) : Prop :=
  ∃ before after, featureSet.name ::
      (featureSet.dependencies.toList ++ featureSet.softRequirements.toList) = before ++ name :: after ∧
    (∀ earlier ∈ before, earlier.toList ∈ featureSetNames) ∧ name.toList ∉ featureSetNames

variable {featureSet : FeatureSet} {name : String}

theorem valid_iff : featureSet.Valid ↔ ∀ name ∈ featureSet.mentionedNames, isFeatureSetName name = true := by
  simp only [mentionedNames, List.cons_append, List.forall_mem_cons, List.forall_mem_append, isFeatureSetName_iff]
  exact ⟨fun h => ⟨h.name, h.dependencies, h.softRequirements⟩, fun h => ⟨h.1, h.2.1, h.2.2⟩⟩

/-- Looking for an invalid name finds the first. -/
theorem find?_mentionedNames_eq_some_iff :
    featureSet.mentionedNames.find? (!isFeatureSetName ·) = some name ↔ featureSet.FirstInvalid name := by
  rw [List.find?_eq_some_iff_append, FirstInvalid, mentionedNames]
  simp only [Bool.not_eq_true', Bool.not_not, ← Bool.not_eq_true, isFeatureSetName_iff]
  constructor
  · rintro ⟨hname, before, after, hsplit, hbefore⟩
    exact ⟨before, after, hsplit, hbefore, hname⟩
  · rintro ⟨before, after, hsplit, hbefore, hname⟩
    exact ⟨hname, before, after, hsplit, hbefore⟩

/-- Looking for an invalid name finds none in a feature set that is valid. -/
theorem find?_mentionedNames_eq_none_iff :
    featureSet.mentionedNames.find? (!isFeatureSetName ·) = none ↔ featureSet.Valid := by
  rw [List.find?_eq_none, valid_iff]
  simp only [Bool.not_eq_true', Bool.not_eq_false]

/-- What is not valid has a first invalid name. -/
theorem valid_or_firstInvalid (featureSet : FeatureSet) :
    featureSet.Valid ∨ ∃ name, featureSet.FirstInvalid name := by
  cases h : featureSet.mentionedNames.find? (!isFeatureSetName ·) with
  | none => exact .inl (find?_mentionedNames_eq_none_iff.1 h)
  | some name => exact .inr ⟨name, find?_mentionedNames_eq_some_iff.1 h⟩

/-- What is valid has none. -/
theorem FirstInvalid.not_valid (h : featureSet.FirstInvalid name) : ¬featureSet.Valid := by
  rw [← find?_mentionedNames_eq_none_iff, find?_mentionedNames_eq_some_iff.2 h]
  exact Option.some_ne_none name

/-- There is only one first. -/
theorem FirstInvalid.unique {other : String} (h : featureSet.FirstInvalid name)
    (h' : featureSet.FirstInvalid other) : name = other := by
  rw [← find?_mentionedNames_eq_some_iff] at h h'
  exact Option.some.inj (h.symm.trans h')

end FeatureSet

namespace Catalog

variable {catalog after : Catalog} {featureSet : FeatureSet} {name : String} {invalid : InvalidFeatureSet}

/-! ### The outcomes of an insertion -/

/-- A feature set that is valid is refused when its name is taken, and only then. -/
theorem insert_of_valid (h : featureSet.Valid) : catalog.insert featureSet =
    if catalog.contains featureSet.name then .error ⟨featureSet.name, .duplicate⟩
    else .ok ⟨catalog.featureSets.insert featureSet.name featureSet⟩ := by
  unfold insert
  rw [FeatureSet.find?_mentionedNames_eq_none_iff.2 h]
  rfl

/-- A feature set that is not valid is refused for its first invalid name, whether its own name is taken or not. -/
theorem insert_of_firstInvalid (h : featureSet.FirstInvalid name) :
    catalog.insert featureSet = .error ⟨featureSet.name, .invalidName name⟩ := by
  unfold insert
  rw [FeatureSet.find?_mentionedNames_eq_some_iff.2 h]

theorem insert_eq_ok_iff : catalog.insert featureSet = .ok after ↔
    featureSet.Valid ∧ catalog.get? featureSet.name = none ∧
      ⟨catalog.featureSets.insert featureSet.name featureSet⟩ = after := by
  rw [get?_eq_none_iff, ← contains_iff]
  rcases featureSet.valid_or_firstInvalid with hvalid | ⟨name, hname⟩
  · rw [insert_of_valid hvalid]
    split
    · next htaken => simp [htaken]
    · next hfree => simp [hvalid, hfree]
  · rw [insert_of_firstInvalid hname]
    simp [hname.not_valid]

/-- A feature set that is accepted is found under its name, and what is found under other names is as before. -/
theorem get?_of_insert (h : catalog.insert featureSet = .ok after) (name : String) :
    after.get? name = if name = featureSet.name then some featureSet else catalog.get? name := by
  obtain ⟨-, -, rfl⟩ := insert_eq_ok_iff.1 h
  exact NameMap.get?_insert

/-! ### An insertion step by step -/

/-- Refuses a name that is no name of a feature set, on account of the feature set that mentions it. -/
def checkName (owner name : String) : ExceptT InvalidFeatureSet (StateM Catalog) Unit :=
  if isFeatureSetName name then pure () else throw ⟨owner, .invalidName name⟩

/-- Adds a feature set to the catalog that is kept, after one check at a time. -/
def insertInPlace (featureSet : FeatureSet) : ExceptT InvalidFeatureSet (StateM Catalog) Unit := do
  featureSet.mentionedNames.forM (checkName featureSet.name)
  if (← get).contains featureSet.name then
    throw ⟨featureSet.name, .duplicate⟩
  else
    modify fun catalog => ⟨catalog.featureSets.insert featureSet.name featureSet⟩

/-- The result of adding a feature set to a catalog, and the catalog that is there afterwards. -/
def tryInsert (catalog : Catalog) (featureSet : FeatureSet) : Except InvalidFeatureSet Unit × Catalog :=
  (insertInPlace featureSet).run.run catalog

/-- Names are checked up to the first that is refused, and the catalog stays. -/
theorem run_forM_checkName {owner : String} {names : List String} :
    (names.forM (checkName owner)).run.run catalog =
      (match names.find? (!isFeatureSetName ·) with
        | some name => .error ⟨owner, .invalidName name⟩
        | none => .ok (), catalog) := by
  induction names with
  | nil => rfl
  | cons first rest ih =>
    show (checkName owner first >>= fun _ => rest.forM (checkName owner)).run.run catalog = _
    rw [List.find?_cons]
    cases hfirst : isFeatureSetName first with
    | false =>
      rw [checkName, hfirst]
      rfl
    | true =>
      rw [checkName, hfirst]
      exact ih

/-- Step by step an insertion makes the same catalog, or is refused for the same reason and leaves the catalog as
it was. -/
theorem tryInsert_eq : catalog.tryInsert featureSet =
    match catalog.insert featureSet with
    | .ok after => (.ok (), after)
    | .error invalid => (.error invalid, catalog) := by
  unfold tryInsert insertInPlace
  rw [ExceptT.run_bind, StateT.run_bind, run_forM_checkName]
  rcases featureSet.valid_or_firstInvalid with hvalid | ⟨name, hname⟩
  · rw [insert_of_valid hvalid, FeatureSet.find?_mentionedNames_eq_none_iff.2 hvalid]
    show StateT.run (ExceptT.run (if catalog.contains featureSet.name then _ else _)) catalog = _
    split <;> rfl
  · rw [insert_of_firstInvalid hname, FeatureSet.find?_mentionedNames_eq_some_iff.2 hname]
    rfl

/-- What an insertion does: the feature set is there from then on, or nothing has changed and there is a reason. -/
structure Inserts (catalog : Catalog) (featureSet : FeatureSet) (result : Except InvalidFeatureSet Unit)
    (after : Catalog) : Prop where
  /-- A feature set is accepted when it is valid and its name is not taken. -/
  accepted_iff : result = .ok () ↔ featureSet.Valid ∧ catalog.get? featureSet.name = none
  /-- A feature set that is accepted is found under its name, and what is found under other names is as before. -/
  gained : result = .ok () → ∀ name,
    after.get? name = if name = featureSet.name then some featureSet else catalog.get? name
  /-- A feature set that is refused leaves the catalog as it was, and the refusal names it. -/
  unchanged : ∀ invalid, result = .error invalid → after = catalog ∧ invalid.name = featureSet.name
  /-- The reason is the first invalid name, if there is one. -/
  invalidName_iff : ∀ name,
    result = .error ⟨featureSet.name, .invalidName name⟩ ↔ featureSet.FirstInvalid name
  /-- Only if there is none it is that the name is taken. -/
  duplicate_iff : result = .error ⟨featureSet.name, .duplicate⟩ ↔
    featureSet.Valid ∧ ∃ found, catalog.get? featureSet.name = some found
  /-- The wording has the name of the feature set and the reason. -/
  worded : ∀ invalid, result = .error invalid →
    (∃ name, featureSet.FirstInvalid name ∧ invalid.message =
      "Invalid feature set '" ++ featureSet.name ++ "': " ++ ("'" ++ name ++ "' is not a valid feature-set name")) ∨
    featureSet.Valid ∧
      invalid.message = "Invalid feature set '" ++ featureSet.name ++ "': " ++ "defined more than once"

theorem inserts_tryInsert (catalog : Catalog) (featureSet : FeatureSet) :
    catalog.Inserts featureSet (catalog.tryInsert featureSet).1 (catalog.tryInsert featureSet).2 := by
  rw [tryInsert_eq]
  rcases featureSet.valid_or_firstInvalid with hvalid | ⟨name, hname⟩
  · have hnone : ∀ name, ¬featureSet.FirstInvalid name := fun name hname => hname.not_valid hvalid
    rw [insert_of_valid hvalid]
    cases hfound : catalog.get? featureSet.name with
    | none =>
      rw [if_neg (mt contains_iff.1 (get?_eq_none_iff.1 hfound))]
      exact {
        accepted_iff := by simp [hvalid, hfound]
        gained := fun _ name => NameMap.get?_insert
        unchanged := fun invalid h => by cases h
        invalidName_iff := by simp [hnone]
        duplicate_iff := by simp [hfound]
        worded := fun invalid h => by cases h }
    | some found =>
      have htaken : catalog.contains featureSet.name = true := Option.isSome_iff_exists.2 ⟨found, hfound⟩
      rw [if_pos htaken]
      exact {
        accepted_iff := by simp [hfound]
        gained := fun h => by cases h
        unchanged := fun invalid h => by cases h; exact ⟨rfl, rfl⟩
        invalidName_iff := by simp [hnone]
        duplicate_iff := by simp [hvalid, hfound]
        worded := fun invalid h => by cases h; exact .inr ⟨hvalid, rfl⟩ }
  · rw [insert_of_firstInvalid hname]
    exact {
      accepted_iff := by simp [hname.not_valid]
      gained := fun h => by cases h
      unchanged := fun invalid h => by cases h; exact ⟨rfl, rfl⟩
      invalidName_iff := fun other => by
        constructor
        · intro h
          cases h
          exact hname
        · intro hother
          rw [hname.unique hother]
      duplicate_iff := by simp [hname.not_valid]
      worded := fun invalid h => by cases h; exact .inl ⟨name, hname, rfl⟩ }

/-! ### Catalogs that can be reached -/

/-- What insertions make of the empty catalog, accepted or refused. -/
inductive Reachable : Catalog → Prop where
  /-- A new catalog is empty. -/
  | empty : Reachable ∅
  /-- A feature set is inserted, or refused. -/
  | insert {catalog : Catalog} (h : catalog.Reachable) (featureSet : FeatureSet) :
      Reachable (catalog.tryInsert featureSet).2

/-- In a catalog that can be reached each feature set stands under its name, and is valid. -/
theorem Reachable.sound (h : catalog.Reachable) {featureSet : FeatureSet}
    (hfound : catalog.get? name = some featureSet) : featureSet.name = name ∧ featureSet.Valid := by
  induction h with
  | empty => cases hfound
  | @insert catalog h inserted ih =>
    have hinserts := inserts_tryInsert catalog inserted
    cases hresult : (catalog.tryInsert inserted).1 with
    | error invalid =>
      rw [(hinserts.unchanged invalid hresult).1] at hfound
      exact ih hfound
    | ok _ =>
      rw [hinserts.gained hresult] at hfound
      split at hfound
      · next heq =>
        cases hfound
        exact ⟨heq.symm, (hinserts.accepted_iff.1 hresult).1⟩
      · exact ih hfound

theorem Reachable.keyed (h : catalog.Reachable) : catalog.Keyed :=
  fun _ _ hfound => (h.sound hfound).1

theorem Reachable.of_insert (h : catalog.Reachable) (inserted : catalog.insert featureSet = .ok after) :
    after.Reachable := by
  have hreachable := h.insert featureSet
  rw [tryInsert_eq, inserted] at hreachable
  exact hreachable

/-! ### Lists of feature sets -/

theorem foldlM_insert_cons {first : FeatureSet} {rest : List FeatureSet} :
    (first :: rest).foldlM insert catalog = .ok after ↔
      ∃ next, catalog.insert first = .ok next ∧ rest.foldlM insert next = .ok after := by
  rw [List.foldlM_cons]
  constructor
  · intro h
    cases hfirst : catalog.insert first with
    | error invalid =>
      rw [hfirst] at h
      cases h
    | ok next =>
      rw [hfirst] at h
      exact ⟨next, rfl, h⟩
  · rintro ⟨next, hfirst, hrest⟩
    rw [hfirst]
    exact hrest

theorem Reachable.of_foldlM {featureSets : List FeatureSet} (h : catalog.Reachable)
    (inserted : featureSets.foldlM Catalog.insert catalog = .ok after) : after.Reachable := by
  induction featureSets generalizing catalog with
  | nil =>
    cases inserted
    exact h
  | cons first rest ih =>
    obtain ⟨next, hfirst, hrest⟩ := foldlM_insert_cons.1 inserted
    exact ih (h.of_insert hfirst) hrest

/-- The catalog of a list of feature sets can be reached. -/
theorem reachable_of_ofList {featureSets : List FeatureSet} (h : ofList featureSets = .ok catalog) :
    catalog.Reachable :=
  Reachable.empty.of_foldlM h

theorem keyed_of_ofList {featureSets : List FeatureSet} (h : ofList featureSets = .ok catalog) : catalog.Keyed :=
  (reachable_of_ofList h).keyed

/-- Feature sets that go into a catalog are valid, and no name is taken, be it in the catalog or by an earlier one. -/
theorem valid_of_foldlM_insert {featureSets : List FeatureSet}
    (h : featureSets.foldlM insert catalog = .ok after) :
    (∀ featureSet ∈ featureSets, featureSet.Valid) ∧ (featureSets.map FeatureSet.name).Nodup ∧
      ∀ featureSet ∈ featureSets, catalog.get? featureSet.name = none := by
  induction featureSets generalizing catalog with
  | nil => exact ⟨by simp, List.nodup_nil, by simp⟩
  | cons first rest ih =>
    obtain ⟨next, hfirst, hrest⟩ := foldlM_insert_cons.1 h
    obtain ⟨hvalid, hfree, -⟩ := insert_eq_ok_iff.1 hfirst
    obtain ⟨hvalids, hnodup, hfrees⟩ := ih hrest
    have hothers : ∀ featureSet ∈ rest, featureSet.name ≠ first.name ∧ catalog.get? featureSet.name = none := by
      intro featureSet hmem
      have hnext := hfrees featureSet hmem
      rw [get?_of_insert hfirst] at hnext
      split at hnext
      · cases hnext
      · next hne => exact ⟨hne, hnext⟩
    have hfirstName : first.name ∉ rest.map FeatureSet.name := by
      rw [List.mem_map]
      rintro ⟨featureSet, hmem, hname⟩
      exact (hothers featureSet hmem).1 hname
    refine ⟨List.forall_mem_cons.2 ⟨hvalid, hvalids⟩, List.nodup_cons.2 ⟨hfirstName, hnodup⟩, ?_⟩
    exact List.forall_mem_cons.2 ⟨hfree, fun featureSet hmem => (hothers featureSet hmem).2⟩

/-- Such feature sets do go into the catalog, and each is found under its name. -/
theorem exists_foldlM_insert {featureSets : List FeatureSet}
    (hvalid : ∀ featureSet ∈ featureSets, featureSet.Valid) (hnodup : (featureSets.map FeatureSet.name).Nodup)
    (hfree : ∀ featureSet ∈ featureSets, catalog.get? featureSet.name = none) :
    ∃ after, featureSets.foldlM insert catalog = .ok after ∧
      ∀ name, after.get? name = (featureSets.find? (·.name == name)).or (catalog.get? name) := by
  induction featureSets generalizing catalog with
  | nil => exact ⟨catalog, rfl, fun name => rfl⟩
  | cons first rest ih =>
    obtain ⟨hfirst, hrest⟩ := List.forall_mem_cons.1 hvalid
    obtain ⟨hfreeFirst, hfreeRest⟩ := List.forall_mem_cons.1 hfree
    rw [List.map_cons, List.nodup_cons, List.mem_map] at hnodup
    obtain ⟨next, hnext⟩ : ∃ next, catalog.insert first = .ok next :=
      ⟨_, insert_eq_ok_iff.2 ⟨hfirst, hfreeFirst, rfl⟩⟩
    have hfreeNext : ∀ featureSet ∈ rest, next.get? featureSet.name = none := by
      intro featureSet hmem
      rw [get?_of_insert hnext, if_neg fun hname => hnodup.1 ⟨featureSet, hmem, hname⟩]
      exact hfreeRest featureSet hmem
    obtain ⟨after, hafter, hget⟩ := ih hrest hnodup.2 hfreeNext
    refine ⟨after, foldlM_insert_cons.2 ⟨next, hnext, hafter⟩, fun name => ?_⟩
    rw [hget, get?_of_insert hnext, List.find?_cons]
    by_cases hname : name = first.name
    · have hnone : rest.find? (·.name == name) = none := List.find?_eq_none.2 fun featureSet hmem heq =>
        hnodup.1 ⟨featureSet, hmem, (beq_iff_eq.1 heq).trans hname⟩
      rw [hnone, if_pos hname, hname, beq_self_eq_true]
      rfl
    · rw [if_neg hname, beq_false_of_ne (Ne.symm hname)]

/-- A list of feature sets makes a catalog when all of them are valid and no two have the same name. -/
theorem exists_ofList_iff {featureSets : List FeatureSet} :
    (∃ catalog, ofList featureSets = .ok catalog) ↔
      (∀ featureSet ∈ featureSets, featureSet.Valid) ∧ (featureSets.map FeatureSet.name).Nodup := by
  constructor
  · rintro ⟨catalog, h⟩
    obtain ⟨hvalid, hnodup, -⟩ := valid_of_foldlM_insert h
    exact ⟨hvalid, hnodup⟩
  · rintro ⟨hvalid, hnodup⟩
    have hfree : ∀ featureSet ∈ featureSets, (∅ : Catalog).get? featureSet.name = none := fun _ _ => rfl
    obtain ⟨catalog, h, -⟩ := exists_foldlM_insert hvalid hnodup hfree
    exact ⟨catalog, h⟩

/-- In the catalog of a list the feature sets of the list are found. -/
theorem get?_of_ofList {featureSets : List FeatureSet} (h : ofList featureSets = .ok catalog) (name : String) :
    catalog.get? name = featureSets.find? (·.name == name) := by
  obtain ⟨hvalid, hnodup, hfree⟩ := valid_of_foldlM_insert h
  obtain ⟨after, hafter, hget⟩ := exists_foldlM_insert hvalid hnodup hfree
  obtain rfl : catalog = after := Except.ok.inj (h.symm.trans hafter)
  rw [hget]
  exact Option.or_none

/-- The order of the list does not matter. -/
theorem ofList_of_perm {featureSets permuted : List FeatureSet} (hperm : featureSets.Perm permuted)
    (h : ofList featureSets = .ok catalog) : ofList permuted = .ok catalog := by
  obtain ⟨hvalid, hnodup⟩ := exists_ofList_iff.1 ⟨catalog, h⟩
  have hpermuted : ∃ other, ofList permuted = .ok other :=
    exists_ofList_iff.2 ⟨fun featureSet hmem => hvalid featureSet (hperm.mem_iff.2 hmem),
      (hperm.map FeatureSet.name).nodup_iff.1 hnodup⟩
  obtain ⟨other, hother⟩ := hpermuted
  have hget : ∀ name, other.get? name = catalog.get? name := by
    intro name
    rw [get?_of_ofList h, get?_of_ofList hother]
    refine (find?_perm hperm fun a ha b hb hatest hbtest => ?_).symm
    exact List.inj_on_of_nodup_map hnodup ha hb ((beq_iff_eq.1 hatest).trans (beq_iff_eq.1 hbtest).symm)
  rw [hother, Catalog.ext (NameMap.ext_get? hget)]

/-- Insertion is exact: a feature set is accepted when it is valid and its name is free, and is then the only thing
that has changed; otherwise nothing has changed, and the reason is the first invalid name or else the name that is
taken.  So in a catalog that can be reached each feature set stands under its name and is valid.  A list makes a
catalog when all of it would be accepted, and then the same one in every order. -/
theorem insertion_exact :
    (∀ catalog : Catalog, catalog.Reachable →
      (∀ name featureSet, catalog.get? name = some featureSet → featureSet.name = name ∧ featureSet.Valid) ∧
      ∀ featureSet,
        catalog.Inserts featureSet (catalog.tryInsert featureSet).1 (catalog.tryInsert featureSet).2 ∧
        catalog.insert featureSet = (catalog.tryInsert featureSet).1.map fun _ => (catalog.tryInsert featureSet).2) ∧
    (∀ featureSets, (∃ catalog, ofList featureSets = .ok catalog) ↔
      (∀ featureSet ∈ featureSets, featureSet.Valid) ∧ (featureSets.map FeatureSet.name).Nodup) ∧
    ∀ featureSets permuted : List FeatureSet, featureSets.Perm permuted →
      ∀ catalog, ofList featureSets = .ok catalog → ofList permuted = .ok catalog := by
  refine ⟨fun catalog reachable => ⟨fun name featureSet => reachable.sound, fun featureSet => ⟨?_, ?_⟩⟩, ?_, ?_⟩
  · exact inserts_tryInsert catalog featureSet
  · rw [tryInsert_eq]
    cases catalog.insert featureSet <;> rfl
  · exact fun featureSets => exists_ofList_iff
  · exact fun featureSets permuted hperm catalog h => ofList_of_perm hperm h

/-- A feature set that others may be built on. -/
def groundFeatureSet : FeatureSet where
  name := "base"
  hasSubsystem := true

/-- A feature set that needs it, and would use one that starts with an underscore. -/
def panelFeatureSet : FeatureSet where
  name := "panel_v2"
  dependencies := .ofList ["base"]
  softRequirements := .ofList ["_vr"]

/-- A feature set whose name is taken, with three names in it that are none. -/
def strayFeatureSet : FeatureSet where
  name := "base"
  dependencies := .ofList ["panel_v2", "é"]
  softRequirements := .ofList ["9lives", ""]

/-- Two feature sets are accepted in either order; the third is refused for the dependency that is no name, which is
looked at before the soft requirements and before its own name is looked up. -/
theorem insertion_exact_stray :
    ∃ catalog, ofList [groundFeatureSet, panelFeatureSet] = .ok catalog ∧ catalog.Reachable ∧
      [groundFeatureSet, panelFeatureSet].Perm [panelFeatureSet, groundFeatureSet] ∧
      ofList [panelFeatureSet, groundFeatureSet] = .ok catalog ∧
      catalog.get? "panel_v2" = some panelFeatureSet ∧ panelFeatureSet.Valid ∧
      catalog.tryInsert strayFeatureSet = (.error ⟨"base", .invalidName "é"⟩, catalog) := by
  have hbase : groundFeatureSet.Valid := FeatureSet.valid_iff.2 (by decide +kernel)
  have hpanel : panelFeatureSet.Valid := FeatureSet.valid_iff.2 (by decide +kernel)
  obtain ⟨hreached, hlists, horders⟩ := insertion_exact
  obtain ⟨catalog, hbuilt⟩ := (hlists [groundFeatureSet, panelFeatureSet]).2
    ⟨by simp [hbase, hpanel], by decide⟩
  have hreachable := reachable_of_ofList hbuilt
  have hfound : catalog.get? "panel_v2" = some panelFeatureSet := get?_of_ofList hbuilt "panel_v2"
  obtain ⟨hsound, hinsertions⟩ := hreached catalog hreachable
  obtain ⟨hinserts, -⟩ := hinsertions strayFeatureSet
  have hfirst : strayFeatureSet.FirstInvalid "é" :=
    FeatureSet.find?_mentionedNames_eq_some_iff.1 (by decide +kernel)
  have hrefused := (hinserts.invalidName_iff "é").2 hfirst
  have hunchanged := (hinserts.unchanged _ hrefused).1
  have hswap : [groundFeatureSet, panelFeatureSet].Perm [panelFeatureSet, groundFeatureSet] := .swap ..
  exact ⟨catalog, hbuilt, hreachable, hswap, horders _ _ hswap catalog hbuilt, hfound,
    (hsound _ _ hfound).2, Prod.ext hrefused hunchanged⟩

end Catalog

end Scaffold
