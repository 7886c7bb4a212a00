import Scaffold.Proofs.FirstMatch
import Scaffold.Proofs.Text.Lines
import Scaffold.Section.Document

/-!
# Documents cut at a section

The search for a section is a search for a cut of the document: lines before it none of which is the
opening marker, the opening line, lines none of which is the closing marker, the closing line, and the
rest.  Overwriting the section then leaves the lines outside it as they are, one by one: both seams lie
between lines, because the lines in front of the section end in line feeds and the content is given one if
it lacks it.

## Main Definitions

* `Cut` — a document in five parts
* `Cut.Brackets` — two markers bracket the body of a cut
* `Cut.rewritten` — the lines with new content in place of the body

## Main Statements

* `findSection_eq_ok_iff` — a section is found where the document has a cut
* `rewrite_eq_ok` — what overwriting does to the lines of a cut
* `rewriteText_frame` — outside the section a text stays the same, byte by byte and line by line
-/

namespace Scaffold.Section

open Text

/-- A document cut at the marker lines of a section. -/
structure Cut where
  /-- The lines before the section. -/
  before : List String
  /-- The opening marker line. -/
  opening : String
  /-- The lines between the marker lines. -/
  body : List String
  /-- The closing marker line. -/
  closing : String
  /-- The lines after the section. -/
  after : List String

namespace Cut

/-- All lines in order. -/
def lines (cut : Cut) : List String :=
  cut.before ++ cut.opening :: (cut.body ++ cut.closing :: cut.after)

/-- Where the marker lines stand. -/
def span (cut : Cut) : Span :=
  ⟨cut.before.length, cut.before.length + 1 + cut.body.length⟩

/-- The body of a cut is what two markers bracket: the opening line is the first that matches the opening
marker, the closing line is the first after it that matches the closing one, and there are lines between
the two. -/
structure Brackets (cut : Cut) (markers : Markers) : Prop where
  /-- No line before the section is the opening marker. -/
  unopened : ∀ line ∈ cut.before, markers.isOpening line = false
  /-- The opening line is. -/
  opens : markers.isOpening cut.opening = true
  /-- No line of the body is the closing marker. -/
  unclosed : ∀ line ∈ cut.body, markers.isClosing line = false
  /-- The closing line is. -/
  closes : markers.isClosing cut.closing = true
  /-- The body has lines. -/
  nonempty : cut.body ≠ []

/-- A marker line, if marker lines stay. -/
def kept (keepMarkers : Bool) (line : String) : List String :=
  if keepMarkers then [line] else []

/-- New content, as it goes into the document. -/
def inserted (cut : Cut) (content : String) : String :=
  Document.terminated content (if endsWithCrLf cut.opening then "\r\n" else "\n")

/-- The lines with new content in place of the body. -/
def rewritten (cut : Cut) (content : String) (keepMarkers : Bool) : List String :=
  (cut.before ++ kept keepMarkers cut.opening) ++ Text.lines (cut.inserted content) ++
    (kept keepMarkers cut.closing ++ cut.after)

variable {cut : Cut}

/-- The opening line stands where the span says. -/
theorem getElem?_opening : cut.lines[cut.span.opening]? = some cut.opening := by
  rw [lines, span, List.getElem?_append_right (Nat.le_refl _), Nat.sub_self]
  rfl

/-- The lines up to the opening one, and the others. -/
theorem lines_eq_append :
    cut.lines = (cut.before ++ [cut.opening]) ++ (cut.body ++ cut.closing :: cut.after) := by
  simp [lines]

/-- The size of the content is that of the body. -/
theorem contentSize_span : cut.span.contentSize = cut.body.length := by
  show cut.before.length + 1 + cut.body.length - cut.before.length - 1 = cut.body.length
  omega

/-- What stays in front of new content. -/
theorem take_headSize (keepMarkers : Bool) :
    cut.lines.take (cut.span.headSize keepMarkers) =
      cut.before ++ kept keepMarkers cut.opening := by
  cases keepMarkers with
  | false => simp [lines, span, Span.headSize, kept]
  | true =>
    have hlength : cut.before.length + 1 = (cut.before ++ [cut.opening]).length := by simp
    simp only [span, Span.headSize, if_true, kept]
    rw [hlength, lines_eq_append, List.take_left]

/-- What stays in front is not all: the closing line, at least, comes after it. -/
theorem drop_headSize_ne_nil (keepMarkers : Bool) :
    cut.lines.drop (cut.span.headSize keepMarkers) ≠ [] := by
  rw [Ne, List.drop_eq_nil_iff, Nat.not_le]
  have hlength : cut.lines.length =
      cut.before.length + 1 + cut.body.length + 1 + cut.after.length := by
    simp only [lines, List.length_append, List.length_cons]
    omega
  rw [hlength, span, Span.headSize]
  cases keepMarkers <;> simp <;> omega

/-- What stays behind new content. -/
theorem drop_tailStart (keepMarkers : Bool) :
    cut.lines.drop (cut.span.tailStart keepMarkers) =
      kept keepMarkers cut.closing ++ cut.after := by
  have hsplit : cut.lines = (cut.before ++ cut.opening :: cut.body) ++ cut.closing :: cut.after := by
    simp [lines]
  have hlength : cut.before.length + 1 + cut.body.length =
      (cut.before ++ cut.opening :: cut.body).length := by
    simp only [List.length_append, List.length_cons]
    omega
  cases keepMarkers with
  | false =>
    simp only [span, Span.tailStart, Bool.false_eq_true, if_false, kept]
    rw [hlength, hsplit, ← List.drop_drop, List.drop_left]
    rfl
  | true =>
    simp only [span, Span.tailStart, if_true, kept]
    rw [hlength, hsplit, List.drop_left]
    rfl

/-- Inserted content never shares a line with what follows. -/
theorem terminated_inserted (content : String) : Terminated (cut.inserted content) := by
  unfold inserted Document.terminated
  split
  · next h => exact h
  · refine .inr ?_
    split
    · exact (endsWithNewline_append (by decide)).trans (by decide)
    · exact (endsWithNewline_append (by decide)).trans (by decide)

/-- The kept lines and the content, joined, have exactly these lines. -/
theorem lines_join_rewritten (canonical : Canonical cut.lines) (content : String)
    (keepMarkers : Bool) :
    Text.lines (String.join (cut.before ++ kept keepMarkers cut.opening) ++ cut.inserted content ++
        String.join (kept keepMarkers cut.closing ++ cut.after)) =
      cut.rewritten content keepMarkers := by
  -- Both seams are places where the old lines fall apart, so no line reaches across.
  have hhead := canonical
  rw [← List.take_append_drop (cut.span.headSize keepMarkers) cut.lines, take_headSize] at hhead
  obtain ⟨hheadCanonical, -, hheadTerminated⟩ := hhead.of_append
  have htail := canonical
  rw [← List.take_append_drop (cut.span.tailStart keepMarkers) cut.lines, drop_tailStart] at htail
  obtain ⟨-, htailCanonical, -⟩ := htail.of_append
  have hheadJoin := terminated_join (hheadTerminated (drop_headSize_ne_nil keepMarkers))
  rw [lines_append (hheadJoin.append (terminated_inserted content)), lines_append hheadJoin,
    lines_join hheadCanonical, lines_join htailCanonical]
  rfl

/-- The lines after overwriting are canonical again. -/
theorem canonical_rewritten (canonical : Canonical cut.lines) (content : String)
    (keepMarkers : Bool) : Canonical (cut.rewritten content keepMarkers) := by
  rw [← lines_join_rewritten canonical]
  exact canonical_lines _

end Cut

/-! ## Finding a section -/

/-- A search from the first line on looks at all lines. -/
theorem findLine_zero {document : Document} (marker : String) :
    document.findLine marker 0 = document.lines.findIdx? (lineMatches · marker) := by
  rw [Document.findLine, List.drop_zero]
  simp

/-- A search that starts after a line looks at the lines behind it. -/
theorem findLine_after {document : Document} {before rest : List String} {line : String}
    (hlines : document.lines = before ++ line :: rest) (marker : String) :
    document.findLine marker (before.length + 1) =
      (rest.findIdx? (lineMatches · marker)).map (before.length + 1 + ·) := by
  have hdrop : document.lines.drop (before.length + 1) = rest := by
    rw [hlines, ← List.drop_drop, List.drop_left]
    rfl
  rw [Document.findLine, hdrop]

/-- A section that is found cuts the document. -/
theorem exists_cut_of_findSection {document : Document} {markers : Markers} {span : Span}
    (h : document.findSection markers = .ok span) :
    ∃ cut : Cut, cut.lines = document.lines ∧ cut.Brackets markers ∧ cut.span = span := by
  unfold Document.findSection at h
  split at h
  · simp at h
  · next b hopening =>
    rw [findLine_zero, findIdx?_eq_some_iff_split] at hopening
    obtain ⟨before, opening, rest, hlines, hunopened, hopens, rfl⟩ := hopening
    rw [findLine_after hlines] at h
    cases hclosing : rest.findIdx? (lineMatches · markers.closing) with
    | none =>
      -- The closing marker stands before the opening one, or nowhere.
      rw [hclosing] at h
      simp only [Option.map_none] at h
      split at h <;> simp at h
    | some e =>
      rw [hclosing] at h
      simp only [Option.map_some] at h
      rw [findIdx?_eq_some_iff_split] at hclosing
      obtain ⟨body, closing, after, rfl, hunclosed, hcloses, rfl⟩ := hclosing
      split at h
      · simp at h
      · next hnonempty =>
        obtain rfl := Except.ok.inj h
        refine ⟨⟨before, opening, body, closing, after⟩, hlines.symm,
          ⟨hunopened, hopens, hunclosed, hcloses, ?_⟩, rfl⟩
        rintro rfl
        exact hnonempty rfl

/-- A section is found where a cut of the document is bracketed. -/
theorem findSection_of_brackets {document : Document} {markers : Markers} {cut : Cut}
    (hlines : cut.lines = document.lines) (brackets : cut.Brackets markers) :
    document.findSection markers = .ok cut.span := by
  have hopening : document.findLine markers.opening 0 = some cut.before.length := by
    rw [findLine_zero, ← hlines]
    exact findIdx?_append_cons brackets.unopened brackets.opens
  have hplace : (cut.body ++ cut.closing :: cut.after).findIdx? (lineMatches · markers.closing) =
      some cut.body.length :=
    findIdx?_append_cons brackets.unclosed brackets.closes
  have hclosing := findLine_after hlines.symm markers.closing
  rw [hplace, Option.map_some] at hclosing
  have hbody : 0 < cut.body.length := List.length_pos_iff.2 brackets.nonempty
  rw [Document.findSection, hopening]
  simp only [hclosing]
  rw [if_neg (by omega)]
  rfl

/-- A section is found where the document has a cut that the markers bracket, and nowhere else. -/
theorem findSection_eq_ok_iff {document : Document} {markers : Markers} {span : Span} :
    document.findSection markers = .ok span ↔
      ∃ cut : Cut, cut.lines = document.lines ∧ cut.Brackets markers ∧ cut.span = span := by
  constructor
  · exact exists_cut_of_findSection
  · rintro ⟨cut, hlines, brackets, rfl⟩
    exact findSection_of_brackets hlines brackets

/-- The lines between the markers are the body. -/
theorem contentLines_span {document : Document} {cut : Cut} (hlines : cut.lines = document.lines) :
    document.contentLines cut.span = cut.body := by
  have hstart : cut.span.contentStart = (cut.before ++ [cut.opening]).length := by
    rw [List.length_append]
    rfl
  rw [Document.contentLines, Cut.contentSize_span, hstart, ← hlines, Cut.lines_eq_append,
    List.drop_left, List.take_left]

/-! ## Overwriting a section -/

/-- The content goes into the document with the terminator of the opening line. -/
theorem splicedContent_span {document : Document} {cut : Cut} (hlines : cut.lines = document.lines)
    (content : String) : document.splicedContent cut.span content = cut.inserted content := by
  have hopening : document.line? cut.span.opening = some cut.opening := by
    rw [Document.line?, ← hlines, Cut.getElem?_opening]
  rw [Document.splicedContent, Document.terminatorAt, hopening]
  rfl

/-- A document that comes out of overwriting is the splice at a section that was found. -/
theorem exists_splice_of_rewrite {document result : Document} {markers : Markers} {content : String}
    {keepMarkers : Bool} (h : document.rewrite markers content keepMarkers = .ok result) :
    ∃ span, document.findSection markers = .ok span ∧
      result = document.splice span content keepMarkers := by
  rw [Document.rewrite] at h
  cases hfind : document.findSection markers with
  | error error =>
    rw [hfind] at h
    cases h
  | ok span =>
    rw [hfind] at h
    exact ⟨span, rfl, (Except.ok.inj h).symm⟩

/-- Overwriting a section exchanges the lines between its markers, and the markers unless they stay. -/
theorem rewrite_eq_ok {document : Document} {markers : Markers} {cut : Cut}
    (canonical : Canonical document.lines) (hlines : cut.lines = document.lines)
    (brackets : cut.Brackets markers) (content : String) (keepMarkers : Bool) :
    document.rewrite markers content keepMarkers = .ok ⟨cut.rewritten content keepMarkers⟩ := by
  have hfind : document.findSection markers = .ok cut.span :=
    findSection_of_brackets hlines brackets
  have hsplice : document.splice cut.span content keepMarkers =
      ⟨cut.rewritten content keepMarkers⟩ := by
    rw [Document.splice, splicedContent_span hlines, ← hlines, Cut.take_headSize,
      Cut.drop_tailStart, Document.ofText,
      Cut.lines_join_rewritten (by rw [hlines]; exact canonical)]
  rw [Document.rewrite, hfind, ← hsplice]
  rfl

/-- Overwriting the section that two markers bracket leaves everything outside it as it is.  The new text
is the text of the lines in front, the content, ended like the opening line if it lacks an end, and the text
of the lines behind; and its lines are the lines in front, the lines of the content, and the lines behind. -/
theorem rewriteText_frame {text : String} {markers : Markers} {span : Span}
    (located : (Document.ofText text).findSection markers = .ok span) (content : String)
    (keepMarkers : Bool) :
    ∃ openingLine, (Document.ofText text).lines[span.opening]? = some openingLine ∧
      let before := (Document.ofText text).lines.take
        (if keepMarkers then span.opening + 1 else span.opening)
      let after := (Document.ofText text).lines.drop
        (if keepMarkers then span.closing else span.closing + 1)
      let inserted :=
        if content = "" ∨ endsWithNewline content then content
        else content ++ (if endsWithCrLf openingLine then "\r\n" else "\n")
      ∃ out, rewriteText text markers content keepMarkers = .ok out ∧
        out = String.join before ++ inserted ++ String.join after ∧
        (Document.ofText out).lines = before ++ lines inserted ++ after := by
  obtain ⟨cut, hlines, brackets, rfl⟩ := exists_cut_of_findSection located
  have canonical : Canonical (Document.ofText text).lines := canonical_lines text
  have hcut : Canonical cut.lines := by rw [hlines]; exact canonical
  have hbefore : cut.lines.take (cut.span.headSize keepMarkers) =
      cut.before ++ Cut.kept keepMarkers cut.opening := Cut.take_headSize keepMarkers
  have hafter : cut.lines.drop (cut.span.tailStart keepMarkers) =
      Cut.kept keepMarkers cut.closing ++ cut.after := Cut.drop_tailStart keepMarkers
  have hjoin := Cut.lines_join_rewritten hcut content keepMarkers
  rw [← hlines]
  refine ⟨cut.opening, Cut.getElem?_opening, ?_⟩
  -- The sizes of the statement are those of the span, and the content is that of the cut.
  show ∃ out, rewriteText text markers content keepMarkers = .ok out ∧
    out = String.join (cut.lines.take (cut.span.headSize keepMarkers)) ++ cut.inserted content ++
      String.join (cut.lines.drop (cut.span.tailStart keepMarkers)) ∧
    lines out = cut.lines.take (cut.span.headSize keepMarkers) ++ lines (cut.inserted content) ++
      cut.lines.drop (cut.span.tailStart keepMarkers)
  rw [hbefore, hafter]
  refine ⟨_, ?_, rfl, hjoin⟩
  rw [rewriteText, rewrite_eq_ok canonical hlines brackets, ← hjoin]
  exact congrArg Except.ok (join_lines _)

/-- A text whose last line has no end, and whose other lines end in `\r\n`. -/
def unended : String :=
  "head\r\nBEGIN\r\nold\r\nEND\r\ntail"

/-- The new line ends like the marker line before it, and the last line still has no end. -/
theorem rewriteText_frame_unended :
    (Document.ofText unended).findSection ⟨"BEGIN", "END\n"⟩ = .ok ⟨1, 3⟩ ∧
      ∃ out, rewriteText unended ⟨"BEGIN", "END\n"⟩ "new" true = .ok out ∧
        (Document.ofText out).lines = ["head\r\n", "BEGIN\r\n", "new\r\n", "END\r\n", "tail"] := by
  have located : (Document.ofText unended).findSection ⟨"BEGIN", "END\n"⟩ = .ok ⟨1, 3⟩ := by
    decide +kernel
  obtain ⟨openingLine, hopening, out, hout, -, hlines⟩ := rewriteText_frame located "new" true
  have hline : (Document.ofText unended).lines[1]? = some "BEGIN\r\n" := by
    decide +kernel
  obtain rfl : "BEGIN\r\n" = openingLine := Option.some.inj (hline.symm.trans hopening)
  exact ⟨located, out, hout, hlines.trans (by decide +kernel)⟩

end Scaffold.Section
