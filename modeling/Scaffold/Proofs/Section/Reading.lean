import Scaffold.Proofs.Section.Overwriting

/-!
# Reading a section and writing it

Reading takes lines out of a document, and writing puts text into one that is then split again.  The two agree:
what is read can be written back and changes nothing, because the lines of a section are ended, the last one too.

What is written is read again when the search finds the section where it was.  If the new content has no lines
between the marker lines, or is cut off by a line that is the closing marker, what is read is an error or a part
of it.

## Main Statements

* `sectionContent_of_brackets` — what is read is the body of the cut
* `rewriteText_eq_self_iff` — what is written without a change is what was there
* `rewriteText_sectionContent` — reading and writing a section are inverse to each other
-/

namespace Scaffold.Section

open Text

namespace Cut

variable {cut : Cut}

/-- The body of a cut in the lines of a text is lines of a text, all of them ended. -/
theorem canonical_body (canonical : Canonical cut.lines) :
    Canonical cut.body ∧ ∀ line ∈ cut.body, endsWithNewline line = true := by
  rw [lines_eq_append] at canonical
  obtain ⟨hbody, -, hended⟩ := canonical.of_append.2.1.of_append
  exact ⟨hbody, hended (List.cons_ne_nil _ _)⟩

/-- The text of the body goes into the document as it is. -/
theorem inserted_join_body (canonical : Canonical cut.lines) :
    cut.inserted (String.join cut.body) = String.join cut.body := by
  rw [inserted, Document.terminated]
  exact if_pos (terminated_join (canonical_body canonical).2)

end Cut

variable {text content : String} {markers : Markers} {cut : Cut}

/-! ## Reading -/

/-- What is read from a section is the text of its body. -/
theorem sectionContent_of_brackets (hlines : cut.lines = lines text)
    (brackets : cut.Brackets markers) :
    (Document.ofText text).sectionContent markers = .ok (String.join cut.body) := by
  have hlines' : cut.lines = (Document.ofText text).lines := hlines
  rw [Document.sectionContent, findSection_of_brackets hlines' brackets, ← contentLines_span hlines']
  rfl

/-! ## Writing what was read -/

/-- Writing changes nothing when what goes into the document is what was there. -/
theorem rewriteText_eq_self_iff (hlines : cut.lines = lines text) (brackets : cut.Brackets markers) :
    rewriteText text markers content true = .ok text ↔
      cut.inserted content = String.join cut.body := by
  have canonical : Canonical cut.lines := Cut.canonical_of_lines hlines
  rw [rewriteText_of_brackets hlines brackets, Cut.rewritten_true]
  constructor
  · intro h
    -- The two texts fall into the same lines, and those around the body are the same anyway.
    have hsame : (cut.withBody (lines (cut.inserted content))).lines = cut.lines := by
      rw [hlines, ← Cut.rewritten_true, ← lines_join_rewritten_of_lines hlines, Cut.rewritten_true]
      exact congrArg lines (Except.ok.inj h)
    have hbody : lines (cut.inserted content) = cut.body := by
      simpa [Cut.withBody, Cut.lines] using hsame
    rw [← hbody, join_lines]
  · intro h
    have hbody : lines (cut.inserted content) = cut.body := by
      rw [h, lines_join (Cut.canonical_body canonical).1]
    rw [hbody]
    show Except.ok (String.join cut.lines) = Except.ok text
    rw [hlines, join_lines]

/-! ## Reading what was written -/

/-- What is read after writing is what went into the document when it has lines and none of them is the closing
marker, and something else otherwise. -/
theorem sectionContent_join_rewritten_iff (hlines : cut.lines = lines text)
    (brackets : cut.Brackets markers) :
    (Document.ofText (String.join (cut.rewritten content true))).sectionContent markers =
        .ok (cut.inserted content) ↔
      cut.inserted content ≠ "" ∧
        ∀ line ∈ lines (cut.inserted content), markers.isClosing line = false := by
  constructor
  · intro hread
    by_contra hnot
    have hlost : cut.inserted content = "" ∨
        ∃ line ∈ lines (cut.inserted content), markers.isClosing line = true := by
      by_cases hempty : cut.inserted content = ""
      · exact .inl hempty
      · simpa [hempty] using hnot
    rcases findSection_join_rewritten hlines brackets hlost with
      ⟨error, hfind⟩ | ⟨body, closing, rest, hsplit, hlines', brackets'⟩
    · rw [Document.sectionContent, hfind] at hread
      cases hread
    · rw [sectionContent_of_brackets hlines' brackets'] at hread
      -- What is read is a proper part of the lines that went in.
      have hbody : lines (cut.inserted content) = body := by
        rw [← Except.ok.inj hread]
        exact lines_join (Cut.canonical_body (Cut.canonical_of_lines hlines')).1
      have hlength := congrArg List.length (hsplit.symm.trans hbody)
      rw [List.length_append, List.length_cons] at hlength
      omega
  · rintro ⟨hne, hunclosed⟩
    have hresult : (cut.withBody (lines (cut.inserted content))).lines =
        lines (String.join (cut.rewritten content true)) := by
      rw [lines_join_rewritten_of_lines hlines, Cut.rewritten_true]
    rw [sectionContent_of_brackets hresult (brackets.withBody (lines_ne_nil hne) hunclosed)]
    exact congrArg Except.ok (join_lines _)

/-- Reading and writing a section with its marker lines kept are inverse to each other.  Writing leaves a text as
it is when what goes into the document is what is read from it, as it does when that is written.  What went into
the document is read from the new text if it has lines and none of them is the closing marker, and only then. -/
theorem rewriteText_sectionContent {span : Span}
    (located : (Document.ofText text).findSection markers = .ok span) :
    ∃ current, (Document.ofText text).sectionContent markers = .ok current ∧
      rewriteText text markers current true = .ok text ∧
      ∀ content, let inserted := (Document.ofText text).splicedContent span content
        (rewriteText text markers content true = .ok text ↔ inserted = current) ∧
        ∃ result, rewriteText text markers content true = .ok result ∧
          ((Document.ofText result).sectionContent markers = .ok inserted ↔
            inserted ≠ "" ∧ ∀ line ∈ lines inserted, markers.isClosing line = false) := by
  obtain ⟨cut, hlines, brackets, rfl⟩ := exists_cut_of_findSection located
  have canonical : Canonical cut.lines := Cut.canonical_of_lines hlines
  refine ⟨String.join cut.body, sectionContent_of_brackets hlines brackets, ?_, fun content => ?_⟩
  · exact (rewriteText_eq_self_iff hlines brackets).2 (Cut.inserted_join_body canonical)
  · have hinserted : (Document.ofText text).splicedContent cut.span content = cut.inserted content :=
      splicedContent_span hlines content
    rw [hinserted]
    exact ⟨rewriteText_eq_self_iff hlines brackets, _, rewriteText_of_brackets hlines brackets content true,
      sectionContent_join_rewritten_iff hlines brackets⟩

/-- A section whose closing line has no end, with two lines between its marker lines. -/
def closedAtEnd : String :=
  "BEGIN\r\nfirst\r\nsecond\nEND"

/-- Two lines are read and can be written back.  Content that brings in the closing marker is read up to there, and
so is not what was written. -/
theorem rewriteText_sectionContent_closedAtEnd :
    (Document.ofText closedAtEnd).findSection ⟨"BEGIN", "END"⟩ = .ok ⟨0, 3⟩ ∧
      (Document.ofText closedAtEnd).sectionContent ⟨"BEGIN", "END"⟩ = .ok "first\r\nsecond\n" ∧
      rewriteText closedAtEnd ⟨"BEGIN", "END"⟩ "first\r\nsecond\n" true = .ok closedAtEnd ∧
      (∃ result, rewriteText closedAtEnd ⟨"BEGIN", "END"⟩ "new" true = .ok result ∧
        (Document.ofText result).sectionContent ⟨"BEGIN", "END"⟩ = .ok "new\r\n") ∧
      ∃ result, rewriteText closedAtEnd ⟨"BEGIN", "END"⟩ "new\nEND" true = .ok result ∧
        (Document.ofText result).sectionContent ⟨"BEGIN", "END"⟩ ≠ .ok "new\nEND\r\n" := by
  have located : (Document.ofText closedAtEnd).findSection ⟨"BEGIN", "END"⟩ = .ok ⟨0, 3⟩ := by
    decide +kernel
  have hread : (Document.ofText closedAtEnd).sectionContent ⟨"BEGIN", "END"⟩ =
      .ok "first\r\nsecond\n" := by decide +kernel
  have hplain : (Document.ofText closedAtEnd).splicedContent ⟨0, 3⟩ "new" = "new\r\n" := by
    decide +kernel
  have hmarked : (Document.ofText closedAtEnd).splicedContent ⟨0, 3⟩ "new\nEND" = "new\nEND\r\n" := by
    decide +kernel
  obtain ⟨current, hcurrent, hback, hwrite⟩ := rewriteText_sectionContent located
  obtain rfl := Except.ok.inj (hread.symm.trans hcurrent)
  obtain ⟨-, result, hresult, hsame⟩ := hwrite "new"
  obtain ⟨-, result', hresult', hdifferent⟩ := hwrite "new\nEND"
  rw [hplain] at hsame
  rw [hmarked] at hdifferent
  refine ⟨located, hread, hback, ⟨result, hresult, hsame.2 (by decide +kernel)⟩,
    ⟨result', hresult', fun hagain => ?_⟩⟩
  exact absurd (hdifferent.1 hagain) (by decide +kernel)

end Scaffold.Section
