import Mathlib.Data.Nat.Basic
import Mathlib.Data.Set.Basic
import Mathlib.Order.Bounds.Basic
import Mathlib.Order.Interval.Set.Defs
import Scaffold.Proofs.FirstMatch
import Scaffold.Proofs.Section.Cut
import Scaffold.Proofs.Text.Terminator

/-!
# Where markers stand

Two searches, and a third where the second fails, decide what becomes of a look-up of a section.  Said without
them, the outcome depends on the places of the two markers in the document alone: on the first place of the
opening marker, on the first place of the closing marker behind it, and, if there is none, on the first place of
the closing marker at all.

The cases are those of `Search`.  One of them always holds, and no two of them overlap, because the least element
of a set is unique.

## Main Definitions

* `SameLine` — two lines that are equal without their terminators
* `Document.places` — the indices of the lines that are the same as a marker
* `Search` — the outcomes of a look-up, by the places of the markers

## Main Statements

* `findLine_eq_some_iff` — a search finds the least place from its start on
* `findSection_eq_iff` — a look-up has the outcome that the places call for
* `findSection_outcome` — the outcomes one by one
-/

namespace Scaffold.Section

open Text

/-- Two lines are equal when one final `\n` or `\r\n` is taken from each. -/
def SameLine (line marker : String) : Prop :=
  ∃ rest, Bare line rest ∧ Bare marker rest

/-- Matching finds out whether two lines are the same. -/
theorem lineMatches_eq_true_iff {line marker : String} :
    lineMatches line marker = true ↔ SameLine line marker := by
  rw [lineMatches_iff]
  constructor
  · intro h
    exact ⟨stripTerminator marker, bare_iff.2 h, bare_iff.2 rfl⟩
  · rintro ⟨rest, hline, hmarker⟩
    rw [bare_iff.1 hline, bare_iff.1 hmarker]

theorem lineMatches_eq_false_iff {line marker : String} :
    lineMatches line marker = false ↔ ¬SameLine line marker := by
  rw [← lineMatches_eq_true_iff, Bool.not_eq_true]

/-- The indices of the lines of a document that are the same as a marker. -/
def Document.places (document : Document) (marker : String) : Set Nat :=
  {index | ∃ line, document.line? index = some line ∧ SameLine line marker}

variable {document : Document} {markers : Markers}

/-! ## One search -/

theorem places_eq (marker : String) :
    document.places marker = placesOf (lineMatches · marker) document.lines := by
  ext index
  show (∃ line, document.lines[index]? = some line ∧ SameLine line marker) ↔
    ∃ line, document.lines[index]? = some line ∧ lineMatches line marker = true
  simp only [lineMatches_eq_true_iff]

/-- A search finds the least place that is not before its start. -/
theorem findLine_eq_some_iff {marker : String} {start index : Nat} :
    document.findLine marker start = some index ↔
      IsLeast (document.places marker ∩ Set.Ici start) index := by
  rw [Document.findLine, Option.map_eq_some_iff, places_eq]
  constructor
  · rintro ⟨skipped, hfind, rfl⟩
    obtain ⟨hplace, hleast⟩ := findIdx?_eq_some_iff_isLeast.1 hfind
    refine ⟨⟨mem_placesOf_drop.1 hplace, Nat.le_add_right ..⟩, ?_⟩
    rintro other ⟨hother, hstart⟩
    obtain ⟨further, rfl⟩ := Nat.exists_eq_add_of_le (show start ≤ other from hstart)
    exact Nat.add_le_add_left (hleast (mem_placesOf_drop.2 hother)) start
  · rintro ⟨⟨hplace, hstart⟩, hleast⟩
    obtain ⟨skipped, rfl⟩ := Nat.exists_eq_add_of_le (show start ≤ index from hstart)
    refine ⟨skipped, findIdx?_eq_some_iff_isLeast.2 ⟨mem_placesOf_drop.2 hplace, ?_⟩, rfl⟩
    intro further hfurther
    exact Nat.le_of_add_le_add_left
      (hleast ⟨mem_placesOf_drop.1 hfurther, Nat.le_add_right ..⟩)

/-- A search fails where no place is left from its start on. -/
theorem findLine_eq_none_iff {marker : String} {start : Nat} :
    document.findLine marker start = none ↔ document.places marker ∩ Set.Ici start = ∅ := by
  rw [Document.findLine, Option.map_eq_none_iff, findIdx?_eq_none_iff_placesOf, places_eq,
    Set.eq_empty_iff_forall_notMem, Set.eq_empty_iff_forall_notMem]
  constructor
  · rintro hnone index ⟨hplace, hstart⟩
    obtain ⟨skipped, rfl⟩ := Nat.exists_eq_add_of_le (show start ≤ index from hstart)
    exact hnone skipped (mem_placesOf_drop.2 hplace)
  · intro hempty skipped hplace
    exact hempty (start + skipped) ⟨mem_placesOf_drop.1 hplace, Nat.le_add_right ..⟩

/-- From the first line on, all places count. -/
theorem places_inter_Ici_zero (marker : String) :
    document.places marker ∩ Set.Ici 0 = document.places marker :=
  Set.inter_eq_left.2 fun index _ => Nat.zero_le index

theorem findLine_zero_eq_some_iff {marker : String} {index : Nat} :
    document.findLine marker 0 = some index ↔ IsLeast (document.places marker) index := by
  rw [findLine_eq_some_iff, places_inter_Ici_zero]

theorem findLine_zero_eq_none_iff {marker : String} :
    document.findLine marker 0 = none ↔ document.places marker = ∅ := by
  rw [findLine_eq_none_iff, places_inter_Ici_zero]

/-- From the line after a line on, the places behind that line count. -/
theorem places_inter_Ici_succ (marker : String) (index : Nat) :
    document.places marker ∩ Set.Ici (index + 1) = document.places marker ∩ Set.Ioi index :=
  rfl

/-! ## The look-up -/

/-- What becomes of a look-up of a section, by the places of its two markers. -/
inductive Search (document : Document) (markers : Markers) : Except Error Span → Prop where
  /-- The opening marker has no place. -/
  | unopened (nowhere : document.places markers.opening = ∅) :
    Search document markers (.error (.markerNotFound markers.opening))
  /-- The opening marker has one, and the closing marker has none. -/
  | unclosed {opening : Nat} (first : IsLeast (document.places markers.opening) opening)
    (nowhere : document.places markers.closing = ∅) :
    Search document markers (.error (.markerNotFound markers.closing))
  /-- The closing marker stands right behind the first opening marker. -/
  | adjacent {opening : Nat} (first : IsLeast (document.places markers.opening) opening)
    (next : opening + 1 ∈ document.places markers.closing) :
    Search document markers (.error (.markerOrder markers (.noLines (opening + 1))))
  /-- The closing marker has places, and none of them is behind the first opening marker. -/
  | reversed {opening closing : Nat} (first : IsLeast (document.places markers.opening) opening)
    (closingFirst : IsLeast (document.places markers.closing) closing)
    (early : document.places markers.closing ⊆ Set.Iic opening) :
    Search document markers
      (.error (.markerOrder markers (.closingFirst (closing + 1) (opening + 1))))
  /-- The first closing marker behind the first opening marker leaves lines between the two. -/
  | found {opening closing : Nat} (first : IsLeast (document.places markers.opening) opening)
    (firstAfter : IsLeast (document.places markers.closing ∩ Set.Ioi opening) closing)
    (apart : opening + 1 < closing) :
    Search document markers (.ok ⟨opening, closing⟩)

/-- A look-up has one of the outcomes. -/
theorem search_findSection (document : Document) (markers : Markers) :
    Search document markers (document.findSection markers) := by
  unfold Document.findSection
  split
  · next hopening => exact .unopened (findLine_zero_eq_none_iff.1 hopening)
  · next opening hopening =>
    have first := findLine_zero_eq_some_iff.1 hopening
    split
    · next closing hclosing =>
      rw [findLine_eq_some_iff, places_inter_Ici_succ] at hclosing
      have hbehind : opening < closing := hclosing.1.2
      split
      · next hadjacent => exact .adjacent first (hadjacent ▸ hclosing.1.1)
      · next hapart => exact .found first hclosing (by omega)
    · next hclosing =>
      rw [findLine_eq_none_iff, places_inter_Ici_succ, Set.eq_empty_iff_forall_notMem] at hclosing
      split
      · next closing hearly =>
        refine .reversed first (findLine_zero_eq_some_iff.1 hearly) fun place hplace => ?_
        show place ≤ opening
        by_contra hbehind
        exact hclosing place ⟨hplace, Nat.lt_of_not_le hbehind⟩
      · next hnowhere => exact .unclosed first (findLine_zero_eq_none_iff.1 hnowhere)

/-- The places call for one outcome only, the one that the look-up has. -/
theorem Search.findSection_eq {outcome : Except Error Span} (h : Search document markers outcome) :
    document.findSection markers = outcome := by
  cases h with
  | unopened nowhere => rw [Document.findSection, findLine_zero_eq_none_iff.2 nowhere]
  | @unclosed opening first nowhere =>
    have hbehind : document.findLine markers.closing (opening + 1) = none := by
      rw [findLine_eq_none_iff, nowhere, Set.empty_inter]
    rw [Document.findSection, findLine_zero_eq_some_iff.2 first]
    simp only [hbehind, findLine_zero_eq_none_iff.2 nowhere]
  | @adjacent opening first next =>
    have hnext : document.findLine markers.closing (opening + 1) = some (opening + 1) :=
      findLine_eq_some_iff.2 ⟨⟨next, Nat.le_refl _⟩, fun place hplace => hplace.2⟩
    rw [Document.findSection, findLine_zero_eq_some_iff.2 first]
    simp only [hnext, if_true]
  | @reversed opening closing first closingFirst early =>
    have hbehind : document.findLine markers.closing (opening + 1) = none := by
      rw [findLine_eq_none_iff, places_inter_Ici_succ, Set.eq_empty_iff_forall_notMem]
      rintro place ⟨hplace, hbehind⟩
      exact Nat.not_lt_of_le (early hplace) hbehind
    rw [Document.findSection, findLine_zero_eq_some_iff.2 first]
    simp only [hbehind, findLine_zero_eq_some_iff.2 closingFirst]
  | @found opening closing first firstAfter apart =>
    have hbehind : document.findLine markers.closing (opening + 1) = some closing := by
      rw [findLine_eq_some_iff, places_inter_Ici_succ]
      exact firstAfter
    rw [Document.findSection, findLine_zero_eq_some_iff.2 first]
    simp only [hbehind, if_neg (Nat.ne_of_gt apart)]

/-- A look-up has the outcome that the places of the markers call for. -/
theorem findSection_eq_iff {outcome : Except Error Span} :
    document.findSection markers = outcome ↔ Search document markers outcome := by
  constructor
  · rintro rfl
    exact search_findSection document markers
  · exact Search.findSection_eq

/-! ## The outcomes one by one -/

theorem findSection_eq_unopened_iff :
    document.findSection markers = .error (.markerNotFound markers.opening) ↔
      document.places markers.opening = ∅ := by
  rw [findSection_eq_iff]
  constructor
  · generalize hout : Except.error (Error.markerNotFound markers.opening) = outcome
    intro h
    cases h with
    | unopened nowhere => exact nowhere
    | unclosed first nowhere =>
      -- The two markers would be one, with a place and without.
      have hsame : markers.opening = markers.closing := by simpa using hout
      rw [← hsame] at nowhere
      exact nowhere
    | adjacent | reversed | found => cases hout
  · exact .unopened

theorem findSection_eq_unclosed_iff {opening : Nat}
    (first : IsLeast (document.places markers.opening) opening) :
    document.findSection markers = .error (.markerNotFound markers.closing) ↔
      document.places markers.closing = ∅ := by
  rw [findSection_eq_iff]
  constructor
  · generalize hout : Except.error (Error.markerNotFound markers.closing) = outcome
    intro h
    cases h with
    | unopened nowhere => exact absurd first.1 (Set.eq_empty_iff_forall_notMem.1 nowhere opening)
    | unclosed _ nowhere => exact nowhere
    | adjacent | reversed | found => cases hout
  · exact .unclosed first

/-- Where none of the errors is called for, the section is found. -/
theorem exists_findSection_eq_ok {opening : Nat}
    (first : IsLeast (document.places markers.opening) opening)
    (hnext : opening + 1 ∉ document.places markers.closing)
    (hlate : ¬document.places markers.closing ⊆ Set.Iic opening) :
    ∃ closing, document.findSection markers = .ok ⟨opening, closing⟩ := by
  have h := search_findSection document markers
  generalize document.findSection markers = outcome at h ⊢
  cases h with
  | unopened nowhere => exact absurd first.1 (Set.eq_empty_iff_forall_notMem.1 nowhere opening)
  | unclosed _ nowhere => exact absurd (nowhere ▸ Set.empty_subset _) hlate
  | adjacent first' next => exact absurd (first.unique first' ▸ next) hnext
  | reversed first' _ early => exact absurd (first.unique first' ▸ early) hlate
  | found first' _ _ => exact ⟨_, by rw [first.unique first']⟩

/-- What becomes of a look-up of a section.  The opening marker is reported as not found when no line is the same
as it.  Otherwise let `opening` be the first line that is.  The closing marker is reported as not found when no
line at all is the same as it, the markers as having no lines between them when the next line is, and as
standing the wrong way round, with the first place of the closing marker, when it has places up to the opening
line only.  In all other cases the section is found, and ends at the first place of the closing marker behind
the opening line.  The two reasons name the lines counted from one.

A section that is found has lines, as many as its size says, none of which is the same as the closing marker, and
no line before it is the same as the opening marker. -/
theorem findSection_outcome (document : Document) (markers : Markers) :
    (document.findSection markers = .error (.markerNotFound markers.opening) ↔
      document.places markers.opening = ∅) ∧
    (∀ opening, IsLeast (document.places markers.opening) opening →
      (document.findSection markers = .error (.markerNotFound markers.closing) ↔
        document.places markers.closing = ∅) ∧
      (document.findSection markers = .error (.markerOrder markers (.noLines (opening + 1))) ↔
        opening + 1 ∈ document.places markers.closing) ∧
      (∀ closing, document.findSection markers =
          .error (.markerOrder markers (.closingFirst (closing + 1) (opening + 1))) ↔
        IsLeast (document.places markers.closing) closing ∧
          document.places markers.closing ⊆ Set.Iic opening) ∧
      (∀ closing, document.findSection markers = .ok ⟨opening, closing⟩ ↔
        IsLeast (document.places markers.closing ∩ Set.Ioi opening) closing ∧
          opening + 1 < closing) ∧
      (opening + 1 ∉ document.places markers.closing →
        ¬document.places markers.closing ⊆ Set.Iic opening →
          ∃ closing, document.findSection markers = .ok ⟨opening, closing⟩)) ∧
    (∀ line other : Nat,
      (Disorder.noLines line).reason = "no lines between markers (line " ++ toString line ++ ")" ∧
      (Disorder.closingFirst other line).reason = "end marker at line " ++ toString other ++
        " does not follow begin marker at line " ++ toString line) ∧
    ∀ span, document.findSection markers = .ok span →
      span.opening + 1 + span.contentSize = span.closing ∧ 0 < span.contentSize ∧
      (document.contentLines span).length = span.contentSize ∧
      (∀ line ∈ document.contentLines span, ¬SameLine line markers.closing) ∧
      ∀ line ∈ document.lines.take span.opening, ¬SameLine line markers.opening := by
  refine ⟨findSection_eq_unopened_iff, fun opening first => ⟨findSection_eq_unclosed_iff first,
    ?_, fun closing => ?_, fun closing => ?_, exists_findSection_eq_ok first⟩,
    fun line other => ⟨rfl, rfl⟩, fun span hfind => ?_⟩
  · rw [findSection_eq_iff]
    constructor
    · intro h
      cases h with
      | adjacent _ next => exact next
    · exact .adjacent first
  · rw [findSection_eq_iff]
    constructor
    · intro h
      cases h with
      | reversed _ closingFirst early => exact ⟨closingFirst, early⟩
    · rintro ⟨closingFirst, early⟩
      exact .reversed first closingFirst early
  · rw [findSection_eq_iff]
    constructor
    · intro h
      cases h with
      | found _ firstAfter apart => exact ⟨firstAfter, apart⟩
    · rintro ⟨firstAfter, apart⟩
      exact .found first firstAfter apart
  · obtain ⟨cut, hlines, brackets, rfl⟩ := exists_cut_of_findSection hfind
    have hbefore : document.lines.take cut.span.opening = cut.before := by
      rw [← hlines]
      exact List.take_left
    rw [contentLines_span hlines, Cut.contentSize_span, hbefore]
    refine ⟨rfl, List.length_pos_iff.2 brackets.nonempty, rfl, fun line hmem => ?_, fun line hmem => ?_⟩
    · rw [← lineMatches_eq_false_iff]
      exact brackets.unclosed line hmem
    · rw [← lineMatches_eq_false_iff]
      exact brackets.unopened line hmem

/-- A closing marker that stands before the section as well, and an opening line that ends in `\r\n`. -/
def stray : Document :=
  .ofText "END\nBEGIN\r\nbody\nEND\n"

/-- The section begins at the opening line and ends at the closing marker behind it.  One marker for both ends has
its only place at the opening line, and with the next line for a closing marker there are no lines between. -/
theorem findSection_outcome_stray :
    IsLeast (stray.places "BEGIN") 1 ∧
      stray.findSection ⟨"BEGIN", "END"⟩ = .ok ⟨1, 3⟩ ∧
      IsLeast (stray.places "END" ∩ Set.Ioi 1) 3 ∧ (∀ line ∈ ["body\n"], ¬SameLine line "END") ∧
      stray.findSection ⟨"BEGIN", "BEGIN"⟩ =
        .error (.markerOrder ⟨"BEGIN", "BEGIN"⟩ (.closingFirst 2 2)) ∧
      stray.places "BEGIN" ⊆ Set.Iic 1 ∧
      stray.findSection ⟨"BEGIN", "body"⟩ = .error (.markerOrder ⟨"BEGIN", "body"⟩ (.noLines 2)) ∧
      2 ∈ stray.places "body" := by
  have first : IsLeast (stray.places "BEGIN") 1 := by
    rw [← findLine_zero_eq_some_iff]
    decide +kernel
  have hfound : stray.findSection ⟨"BEGIN", "END"⟩ = .ok ⟨1, 3⟩ := by decide +kernel
  have hreversed : stray.findSection ⟨"BEGIN", "BEGIN"⟩ =
      .error (.markerOrder ⟨"BEGIN", "BEGIN"⟩ (.closingFirst 2 2)) := by decide +kernel
  have hadjacent : stray.findSection ⟨"BEGIN", "body"⟩ =
      .error (.markerOrder ⟨"BEGIN", "body"⟩ (.noLines 2)) := by decide +kernel
  have hcontent : stray.contentLines ⟨1, 3⟩ = ["body\n"] := by decide +kernel
  obtain ⟨-, houtcome, -, hspan⟩ := findSection_outcome stray ⟨"BEGIN", "END"⟩
  obtain ⟨-, -, -, hok, -⟩ := houtcome 1 first
  obtain ⟨-, -, -, hunclosed, -⟩ := hspan ⟨1, 3⟩ hfound
  rw [hcontent] at hunclosed
  obtain ⟨-, -, hclosingFirst, -⟩ := (findSection_outcome stray ⟨"BEGIN", "BEGIN"⟩).2.1 1 first
  obtain ⟨-, hnoLines, -⟩ := (findSection_outcome stray ⟨"BEGIN", "body"⟩).2.1 1 first
  exact ⟨first, hfound, ((hok 3).1 hfound).1, hunclosed, hreversed,
    ((hclosingFirst 1).1 hreversed).2, hadjacent, hnoLines.1 hadjacent⟩

end Scaffold.Section
