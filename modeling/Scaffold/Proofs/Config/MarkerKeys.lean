import Mathlib
import Scaffold.Config.Basic

/-!
# Keys of markers

A configuration compares markers by their keys, without any of the terminators at their ends.  A document compares its
lines with markers without one terminator at the end of each.  The keys are the coarser of the two: lines that a
document takes for one another have one key, so that markers with different keys are different to every document.

The conventional markers of a section end in one line feed, and before it in underscores, so that their keys are what
stands before the line feed.  With one indent and one comment prefix such keys are different for names that differ in
more than the case of ASCII letters, and opening ones are different from closing ones whatever the names are.

## Main Definitions

* `Section.Markers.keys` — the keys of the two markers of a section

## Main Statements

* `markerKey_eq_of_lineMatches` — lines that match have one key
* `keys_ofSection` — the keys of the conventional markers
* `disjoint_keys_ofSection_iff` — which names have different ones
-/

namespace Scaffold

open Text Section

/-- Names agree in upper case when they do in lower case. -/
theorem Text.upperCase_eq_iff {a b : String} : upperCase a = upperCase b ↔ lowerCase a = lowerCase b := by
  rw [← String.toList_inj, ← String.toList_inj, toList_upperCase, toList_upperCase, toList_lowerCase,
    toList_lowerCase]
  constructor
  · intro h
    simpa [Function.comp_def] using congrArg (List.map Char.toLower) h
  · intro h
    simpa [Function.comp_def] using congrArg (List.map Char.toUpper) h

/-! ### Keys and matching -/

/-- One terminator less makes no difference to the key. -/
theorem markerKey_stripTerminator (marker : String) : markerKey (stripTerminator marker) = markerKey marker := by
  rw [stripTerminator, dropTerminator, markerKey, markerKey]
  split
  · next rest hreverse => simp [hreverse]
  · next rest _ hreverse => simp [hreverse]
  · rw [String.toList_ofList]

/-- Lines that match have one key. -/
theorem markerKey_eq_of_lineMatches {line marker : String} (h : lineMatches line marker = true) :
    markerKey line = markerKey marker := by
  rw [← markerKey_stripTerminator line, lineMatches_iff.1 h, markerKey_stripTerminator]

/-- The two marker lines, the opening one first. -/
def Section.Markers.both (markers : Markers) : List String :=
  [markers.opening, markers.closing]

/-- The keys of the two marker lines, that of the opening one first. -/
def Section.Markers.keys (markers : Markers) : List String :=
  markers.both.map markerKey

/-! ### Conventional markers -/

section

variable (name other indent commentPrefix : String)

theorem keys_ofSection :
    (Markers.ofSection name indent commentPrefix).keys =
      [indent ++ commentPrefix ++ " __" ++ upperCase name ++ "_BEGIN__",
        indent ++ commentPrefix ++ " __" ++ upperCase name ++ "_END__"] := by
  have hopening : markerKey (Markers.ofSection name indent commentPrefix).opening =
      indent ++ commentPrefix ++ " __" ++ upperCase name ++ "_BEGIN__" := by
    rw [← String.toList_inj]
    simp [markerKey, Markers.ofSection]
  have hclosing : markerKey (Markers.ofSection name indent commentPrefix).closing =
      indent ++ commentPrefix ++ " __" ++ upperCase name ++ "_END__" := by
    rw [← String.toList_inj]
    simp [markerKey, Markers.ofSection]
  rw [← hopening, ← hclosing]
  rfl

/-- The keys are not blank, since they hold underscores. -/
theorem isBlank_of_mem_keys_ofSection {key : String} (h : key ∈ (Markers.ofSection name indent commentPrefix).keys) :
    isBlank key = false := by
  rw [keys_ofSection] at h
  rcases List.mem_pair.1 h with rfl | rfl <;> simp [isBlank, isBlankChar, blankRanges]

/-- An opening marker and a closing one have different keys: before the underscores at the end there is an `N` in the
one, and a `D` in the other. -/
theorem append_begin_ne_append_end (front front' : String) : front ++ "_BEGIN__" ≠ front' ++ "_END__" := by
  intro h
  have hreverse := congrArg (fun text => text.toList.reverse) h
  simp at hreverse

theorem nodup_keys_ofSection : (Markers.ofSection name indent commentPrefix).keys.Nodup := by
  rw [keys_ofSection, List.nodup_cons, List.mem_singleton]
  exact ⟨append_begin_ne_append_end _ _, List.nodup_singleton _⟩

/-- Names have different keys when they differ in more than the case of ASCII letters. -/
theorem disjoint_keys_ofSection_iff :
    List.Disjoint (Markers.ofSection name indent commentPrefix).keys
        (Markers.ofSection other indent commentPrefix).keys ↔ lowerCase name ≠ lowerCase other := by
  rw [Ne, ← upperCase_eq_iff, keys_ofSection, keys_ofSection]
  constructor
  · rintro hdisjoint heq
    rw [heq] at hdisjoint
    exact hdisjoint List.mem_cons_self List.mem_cons_self
  · intro hne key hkey hkey'
    rcases List.mem_pair.1 hkey with rfl | rfl <;> rcases List.mem_pair.1 hkey' with heq | heq
    · rw [String.append_left_inj, String.append_right_inj] at heq
      exact hne heq
    · exact append_begin_ne_append_end _ _ heq
    · exact append_begin_ne_append_end _ _ heq.symm
    · rw [String.append_left_inj, String.append_right_inj] at heq
      exact hne heq

end

end Scaffold
