import Scaffold.Proofs.Section.Refilling

/-!
# Overwriting a section again

After a section has been overwritten with its marker lines kept, the new content is its body, if the search finds
the section there again.  It does when the content has lines and none of them is the closing marker; then the text
is as good as the original one for any later overwriting of the section.

Otherwise overwriting is not idempotent.  Without lines between them the marker lines bracket no section, and so
it is when the first line of the content is the closing marker.  If a later one is, the section that is found ends
there, and what follows that line stays when the content is put in once more, so that the text grows.

What counts is the content as it goes into the document.  A carriage return at its end is followed by the line
feed that it is given, and its last line may be the closing marker only then.

## Main Statements

* `rewriteText_eq_ok_iff` — overwriting a section of a text, by its cut
* `findSection_eq_noLines` — marker lines that follow each other bracket no section
* `findSection_join_rewritten` — what is found after content that has no lines or brings in the closing marker
* `rewriteText_idempotent` — when a second overwriting gives what the first one gave
-/

namespace Scaffold.Section

open Text

namespace Cut

variable {cut : Cut}

/-- If the marker lines stay, the new content is the body between them. -/
theorem rewritten_true (content : String) :
    cut.rewritten content true = (cut.withBody (Text.lines (cut.inserted content))).lines := by
  simp [rewritten, kept, withBody, lines]

/-- What the body was does not show when it is overwritten. -/
theorem rewritten_withBody (body : List String) (content : String) (keepMarkers : Bool) :
    (cut.withBody body).rewritten content keepMarkers = cut.rewritten content keepMarkers :=
  rfl

/-- The marker lines still bracket a body of lines none of which is the closing marker. -/
theorem Brackets.withBody {markers : Markers} (h : cut.Brackets markers) {body : List String}
    (hne : body ≠ []) (hunclosed : ∀ line ∈ body, markers.isClosing line = false) :
    (cut.withBody body).Brackets markers :=
  { h with unclosed := hunclosed, nonempty := hne }

/-- The cut of the same lines at an earlier line of the body, which then is the closing line. -/
def closedAt (cut : Cut) (body : List String) (closing : String) (rest : List String) : Cut :=
  { cut with body, closing, after := rest ++ cut.closing :: cut.after }

theorem lines_closedAt {body rest : List String} {closing : String} :
    (cut.closedAt body closing rest).lines = (cut.withBody (body ++ closing :: rest)).lines := by
  simp [closedAt, withBody, lines]

/-- Where the section ends earlier, more lines come after it. -/
theorem length_rewritten_closedAt (body rest : List String) (closing content : String) :
    ((cut.closedAt body closing rest).rewritten content true).length =
      (cut.rewritten content true).length + rest.length + 1 := by
  have hinserted : (cut.closedAt body closing rest).inserted content = cut.inserted content := rfl
  rw [rewritten_true, rewritten_true, hinserted]
  simp only [closedAt, withBody, lines, List.length_append, List.length_cons]
  omega

end Cut

variable {text result content : String} {markers : Markers} {keepMarkers : Bool}

/-! ## Overwriting, by cuts of the text -/

/-- Overwriting a section of a text gives the rewritten lines of its cut. -/
theorem rewriteText_of_brackets {cut : Cut} (hlines : cut.lines = lines text)
    (brackets : cut.Brackets markers) (content : String) (keepMarkers : Bool) :
    rewriteText text markers content keepMarkers =
      .ok (String.join (cut.rewritten content keepMarkers)) := by
  have hrewrite : (Document.ofText text).rewrite markers content keepMarkers =
      .ok ⟨cut.rewritten content keepMarkers⟩ :=
    rewrite_eq_ok (canonical_lines text) hlines brackets content keepMarkers
  rw [rewriteText, hrewrite]
  rfl

/-- Overwriting succeeds where the text has a cut that the markers bracket. -/
theorem rewriteText_eq_ok_iff :
    rewriteText text markers content keepMarkers = .ok result ↔
      ∃ cut : Cut, cut.lines = lines text ∧ cut.Brackets markers ∧
        result = String.join (cut.rewritten content keepMarkers) := by
  constructor
  · intro h
    cases hfind : (Document.ofText text).findSection markers with
    | error error =>
      rw [rewriteText, Document.rewrite, hfind] at h
      cases h
    | ok span =>
      obtain ⟨cut, hlines, brackets, -⟩ := exists_cut_of_findSection hfind
      rw [rewriteText_of_brackets hlines brackets] at h
      exact ⟨cut, hlines, brackets, (Except.ok.inj h).symm⟩
  · rintro ⟨cut, hlines, brackets, rfl⟩
    exact rewriteText_of_brackets hlines brackets content keepMarkers

theorem Cut.canonical_of_lines {cut : Cut} (hlines : cut.lines = Text.lines text) :
    Canonical cut.lines := by
  rw [hlines]
  exact canonical_lines text

/-- The lines of a text after overwriting. -/
theorem lines_join_rewritten_of_lines {cut : Cut} (hlines : cut.lines = lines text) :
    lines (String.join (cut.rewritten content keepMarkers)) = cut.rewritten content keepMarkers :=
  lines_join (Cut.canonical_rewritten (Cut.canonical_of_lines hlines) content keepMarkers)

/-- Marker lines that follow each other bracket no section. -/
theorem findSection_eq_noLines {document : Document} {before rest : List String}
    {opening closing : String} (hlines : document.lines = before ++ opening :: closing :: rest)
    (hunopened : ∀ line ∈ before, markers.isOpening line = false)
    (hopens : markers.isOpening opening = true) (hcloses : markers.isClosing closing = true) :
    document.findSection markers =
      .error (.markerOrder markers (.noLines (before.length + 1))) := by
  have hopening : document.findLine markers.opening 0 = some before.length := by
    rw [findLine_zero, hlines]
    exact findIdx?_append_cons hunopened hopens
  have hplace : (closing :: rest).findIdx? (lineMatches · markers.closing) = some 0 :=
    List.findIdx?_cons.trans (if_pos hcloses)
  have hclosing := findLine_after hlines markers.closing
  rw [hplace, Option.map_some] at hclosing
  rw [Document.findSection, hopening]
  simp only [hclosing]
  rfl

/-! ## A second time -/

/-- Content that has lines, none of which is the closing marker, leaves the text as good as it was. -/
theorem rewriteText_join_rewritten {cut : Cut} (hlines : cut.lines = lines text)
    (brackets : cut.Brackets markers) (hne : cut.inserted content ≠ "")
    (hunclosed : ∀ line ∈ lines (cut.inserted content), markers.isClosing line = false)
    (content' : String) (keepMarkers : Bool) :
    rewriteText (String.join (cut.rewritten content true)) markers content' keepMarkers =
      rewriteText text markers content' keepMarkers := by
  have hresult : (cut.withBody (lines (cut.inserted content))).lines =
      lines (String.join (cut.rewritten content true)) := by
    rw [lines_join_rewritten_of_lines hlines, Cut.rewritten_true]
  rw [rewriteText_of_brackets hresult (brackets.withBody (lines_ne_nil hne) hunclosed),
    rewriteText_of_brackets hlines brackets, Cut.rewritten_withBody]

/-- After content without lines, or with one that is the closing marker, the search finds no section in the new
text, or one that ends at a line of the content. -/
theorem findSection_join_rewritten {cut : Cut} (hlines : cut.lines = lines text)
    (brackets : cut.Brackets markers)
    (h : cut.inserted content = "" ∨
      ∃ line ∈ lines (cut.inserted content), markers.isClosing line = true) :
    (∃ error, (Document.ofText (String.join (cut.rewritten content true))).findSection markers =
        .error error) ∨
      ∃ body closing rest, lines (cut.inserted content) = body ++ closing :: rest ∧
        (cut.closedAt body closing rest).lines = lines (String.join (cut.rewritten content true)) ∧
        (cut.closedAt body closing rest).Brackets markers := by
  have hresult : (Document.ofText (String.join (cut.rewritten content true))).lines =
      cut.before ++ cut.opening :: (lines (cut.inserted content) ++ cut.closing :: cut.after) := by
    show lines (String.join (cut.rewritten content true)) = _
    rw [lines_join_rewritten_of_lines hlines, Cut.rewritten_true]
    rfl
  rcases h with hempty | ⟨line, hmem, hline⟩
  · have hnil : lines (cut.inserted content) = [] := by rw [hempty]; rfl
    rw [hnil, List.nil_append] at hresult
    exact .inl ⟨_, findSection_eq_noLines hresult brackets.unopened brackets.opens brackets.closes⟩
  · -- The section that is found next ends at the first line of the content that is the closing marker.
    obtain ⟨place, hplace⟩ : ∃ place,
        (lines (cut.inserted content)).findIdx? markers.isClosing = some place := by
      rw [← Option.isSome_iff_exists, List.findIdx?_isSome, List.any_eq_true]
      exact ⟨line, hmem, hline⟩
    obtain ⟨body, closing, rest, hsplit, hunclosed, hcloses, -⟩ := findIdx?_eq_some_iff_split.1 hplace
    cases body with
    | nil =>
      rw [hsplit] at hresult
      exact .inl ⟨_, findSection_eq_noLines hresult brackets.unopened brackets.opens hcloses⟩
    | cons first more =>
      refine .inr ⟨first :: more, closing, rest, hsplit, ?_, brackets.unopened, brackets.opens,
        hunclosed, hcloses, List.cons_ne_nil _ _⟩
      rw [Cut.lines_closedAt, ← hsplit]
      exact hresult.symm

/-- Without lines, or with one that is the closing marker, the content is not found again as it was put in. -/
theorem rewriteText_join_rewritten_ne {cut : Cut} (hlines : cut.lines = lines text)
    (brackets : cut.Brackets markers)
    (h : cut.inserted content = "" ∨
      ∃ line ∈ lines (cut.inserted content), markers.isClosing line = true) :
    rewriteText (String.join (cut.rewritten content true)) markers content true ≠
      .ok (String.join (cut.rewritten content true)) := by
  intro hagain
  rcases findSection_join_rewritten hlines brackets h with
    ⟨error, hfind⟩ | ⟨body, closing, rest, -, hlines', brackets'⟩
  · rw [rewriteText, Document.rewrite, hfind] at hagain
    cases hagain
  · rw [rewriteText_of_brackets hlines' brackets'] at hagain
    -- The two results have the same lines, and the second one has more of them.
    have hsame := congrArg lines (Except.ok.inj hagain)
    rw [lines_join_rewritten_of_lines hlines', lines_join_rewritten_of_lines hlines] at hsame
    have hlength := congrArg List.length hsame
    rw [Cut.length_rewritten_closedAt] at hlength
    omega

/-- A section that has been overwritten with its marker lines kept is overwritten again as the original one
would be, and so with the same content gives the same text, if the content as it goes into the document has lines
and none of them is the closing marker.  If it has none, or one of them is, the same content does not give the
same text again. -/
theorem rewriteText_idempotent (rewritten : rewriteText text markers content true = .ok result) :
    ∃ span, (Document.ofText text).findSection markers = .ok span ∧
      let inserted := (Document.ofText text).splicedContent span content
      (inserted ≠ "" ∧ (∀ line ∈ lines inserted, markers.isClosing line = false) →
        (∀ content' keepMarkers, rewriteText result markers content' keepMarkers =
          rewriteText text markers content' keepMarkers) ∧
        rewriteText result markers content true = .ok result) ∧
      (inserted = "" ∨ (∃ line ∈ lines inserted, markers.isClosing line = true) →
        rewriteText result markers content true ≠ .ok result) := by
  obtain ⟨cut, hlines, brackets, rfl⟩ := rewriteText_eq_ok_iff.1 rewritten
  have hfind : (Document.ofText text).findSection markers = .ok cut.span :=
    findSection_of_brackets hlines brackets
  refine ⟨cut.span, hfind, ?_⟩
  have hinserted : (Document.ofText text).splicedContent cut.span content = cut.inserted content :=
    splicedContent_span hlines content
  rw [hinserted]
  refine ⟨fun hstays => ?_, rewriteText_join_rewritten_ne hlines brackets⟩
  have hsame := rewriteText_join_rewritten hlines brackets hstays.1 hstays.2
  exact ⟨hsame, (hsame content true).trans rewritten⟩

/-- A section of a text whose lines end in line feeds. -/
def ended : String :=
  "BEGIN\nold\nEND\n"

/-- Content without an end can be put in again and again, unless the line feed that it is given makes its last line
the closing marker. -/
theorem rewriteText_idempotent_ended :
    rewriteText ended ⟨"BEGIN", "END"⟩ "new" true = .ok "BEGIN\nnew\nEND\n" ∧
      rewriteText "BEGIN\nnew\nEND\n" ⟨"BEGIN", "END"⟩ "new" true = .ok "BEGIN\nnew\nEND\n" ∧
      rewriteText ended ⟨"BEGIN", "END"⟩ "new\nEND\r" true = .ok "BEGIN\nnew\nEND\r\nEND\n" ∧
      rewriteText "BEGIN\nnew\nEND\r\nEND\n" ⟨"BEGIN", "END"⟩ "new\nEND\r" true ≠
        .ok "BEGIN\nnew\nEND\r\nEND\n" := by
  have hplain : rewriteText ended ⟨"BEGIN", "END"⟩ "new" true = .ok "BEGIN\nnew\nEND\n" := by
    decide +kernel
  have hmarked : rewriteText ended ⟨"BEGIN", "END"⟩ "new\nEND\r" true =
      .ok "BEGIN\nnew\nEND\r\nEND\n" := by decide +kernel
  have hfind : (Document.ofText ended).findSection ⟨"BEGIN", "END"⟩ = .ok ⟨0, 2⟩ := by decide +kernel
  obtain ⟨span, hspan, hagain, -⟩ := rewriteText_idempotent hplain
  obtain ⟨span', hspan', -, hnot⟩ := rewriteText_idempotent hmarked
  obtain rfl := Except.ok.inj (hfind.symm.trans hspan)
  obtain rfl := Except.ok.inj (hfind.symm.trans hspan')
  exact ⟨hplain, (hagain (by decide +kernel)).2, hmarked, hnot (.inr (by decide +kernel))⟩

end Scaffold.Section
