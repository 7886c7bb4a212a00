import Scaffold.FeatureSet.Catalog
import Scaffold.Proofs.Text.Words

/-!
# Names of classes

The class of a subsystem is named after its feature set, in PascalCase.  The name of a feature set has no capitals, and
underscores are all that it has besides letters and digits, so that it falls into words at its underscores and nowhere
else.

A digit has no upper case.  So the name of a class is not always one: it starts with a digit where the name of the
feature set does after its underscores.

## Main Statements

* `FeatureSet.toList_pascalName` — the name in PascalCase, from the parts between underscores
* `FeatureSet.isUpper_head_className_iff` — which names of classes start with a capital
* `FeatureSet.className_derived` — both, and what any name keeps in PascalCase
-/

namespace Scaffold

open Text

/-! ### Characters of names -/

/-- The name of a feature set has characters of names only. -/
theorem isNameChar_of_mem {name : String} (h : isFeatureSetName name = true) {c : Char} (hc : c ∈ name.toList) :
    isNameChar c = true := by
  rw [isFeatureSetName] at h
  cases hname : name.toList with
  | nil =>
    rw [hname] at hc
    exact absurd hc List.not_mem_nil
  | cons first rest =>
    rw [hname] at h hc
    obtain ⟨hfirst, hrest⟩ := Bool.and_eq_true_iff.1 h
    rcases List.mem_cons.1 hc with rfl | hc
    · rw [isNameStart, Bool.or_eq_true] at hfirst
      rw [isNameChar, Bool.or_eq_true, Bool.or_eq_true]
      exact hfirst.imp .inl id
    · exact List.all_eq_true.1 hrest c hc

theorem isNameChar_cases {c : Char} (h : isNameChar c = true) : c.isLower = true ∨ c.isDigit = true ∨ c = '_' := by
  rwa [isNameChar, Bool.or_eq_true, Bool.or_eq_true, beq_iff_eq, or_assoc] at h

/-- A digit is no capital. -/
theorem isUpper_of_isDigit {c : Char} (h : c.isDigit = true) : c.isUpper = false := by
  refine Bool.eq_false_iff.2 fun hupper => ?_
  simp only [Char.isDigit, Char.isUpper, Bool.and_eq_true, decide_eq_true_eq, UInt32.le_iff_toNat_le,
    ge_iff_le] at h hupper
  have hnine : '9'.val.toNat = 57 := rfl
  have hcapital : 'A'.val.toNat = 65 := rfl
  omega

/-- Characters of names are no capitals. -/
theorem isUpper_of_isNameChar {c : Char} (h : isNameChar c = true) : c.isUpper = false := by
  rcases isNameChar_cases h with hlower | hdigit | rfl
  · exact Bool.eq_false_iff.2 (Char.not_isUpper_of_isLower hlower)
  · exact isUpper_of_isDigit hdigit
  · rfl

/-- Characters of names are letters and digits, but for the underscore. -/
theorem isAlphanum_iff_of_isNameChar {c : Char} (h : isNameChar c = true) : c.isAlphanum = true ↔ c ≠ '_' := by
  constructor
  · rintro halnum rfl
    exact absurd halnum (by decide)
  · intro hne
    rw [Char.isAlphanum, Char.isAlpha]
    rcases isNameChar_cases h with hlower | hdigit | heq
    · rw [hlower, Bool.or_true, Bool.true_or]
    · rw [hdigit, Bool.or_true]
    · exact absurd heq hne

namespace FeatureSet

variable {featureSet : FeatureSet}

/-! ### Names in PascalCase -/

/-- The parts of the name between its underscores, the first character of each in upper case. -/
theorem toList_pascalName (h : isFeatureSetName featureSet.name = true) :
    featureSet.pascalName.toList =
      (featureSet.name.toList.splitOn '_').flatMap (List.modifyHead Char.toUpper) :=
  pascalCase_of_separated (fun _ hc => isUpper_of_isNameChar (isNameChar_of_mem h hc))
    fun _ hc => isAlphanum_iff_of_isNameChar (isNameChar_of_mem h hc)

/-- The name of a class starts with a capital when a letter follows the underscores at the front of the name, or
nothing. -/
theorem isUpper_head_className_iff (h : isFeatureSetName featureSet.name = true) :
    (∃ first ∈ featureSet.className.toList.head?, first.isUpper = true) ↔
      ∀ first ∈ featureSet.name.toList.find? (· != '_'), first.isAlpha = true := by
  have hhead : featureSet.className.toList.head? =
      ((featureSet.name.toList.find? (· != '_')).map Char.toUpper).or (some 'S') := by
    rw [className, String.toList_append, List.head?_append, toList_pascalName h, head?_flatMap_splitOn]
    rfl
  rw [hhead]
  cases featureSet.name.toList.find? (· != '_') with
  | none => simp
  | some first => simp

/-- In PascalCase a name keeps its letters and digits in their order, but for their case, and nothing else; the name of
a feature set keeps the parts between its underscores, the first character of each in upper case, and makes the name of
a class that starts with a capital unless its first character that is no underscore is a digit. -/
theorem className_derived (featureSet : FeatureSet) :
    (∀ c ∈ featureSet.pascalName.toList, c.isAlphanum = true) ∧
    lowerCase featureSet.pascalName = lowerCase (String.ofList (featureSet.name.toList.filter Char.isAlphanum)) ∧
    (isFeatureSetName featureSet.name = true →
      featureSet.pascalName = String.ofList
        (((featureSet.name.toList.splitOn '_').filter (· ≠ [])).flatMap (List.modifyHead Char.toUpper)) ∧
      ((∃ first ∈ featureSet.className.toList.head?, first.isUpper = true) ↔
        ∀ first ∈ featureSet.name.toList.find? (· != '_'), first.isAlpha = true)) := by
  refine ⟨fun c hc => isAlphanum_of_mem_pascalCase hc, lowerCase_pascalCase _, fun h => ⟨?_, ?_⟩⟩
  · rw [← String.toList_inj, toList_pascalName h, String.toList_ofList, flatMap_filter_ne_nil rfl]
  · exact isUpper_head_className_iff h

/-- Underscores at the front and in a row make no words, and a digit at the front stays. -/
theorem className_derived_digitFirst :
    isFeatureSetName "__2d__scene_v1" = true ∧
      ({ name := "__2d__scene_v1" } : FeatureSet).pascalName = "2dSceneV1" ∧
      ¬∃ first ∈ ({ name := "__2d__scene_v1" } : FeatureSet).className.toList.head?, first.isUpper = true := by
  have hname : isFeatureSetName "__2d__scene_v1" = true := by decide +kernel
  obtain ⟨-, -, haccepted⟩ := className_derived { name := "__2d__scene_v1" }
  obtain ⟨hpascal, hcapital⟩ := haccepted hname
  refine ⟨hname, hpascal.trans (by cbv), fun hstart => ?_⟩
  have hletter := hcapital.1 hstart '2' (by decide +kernel)
  exact absurd hletter (by decide)

end FeatureSet

end Scaffold
