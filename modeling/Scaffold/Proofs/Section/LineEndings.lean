import Scaffold.Proofs.Section.Cut
import Scaffold.Proofs.Text.Terminator
import Scaffold.Section.Plan

/-!
# Plans on text with other line endings

A plan does not depend on how the lines of a text end.  When the text and all contents end their lines with `\r\n`
in place of `\n`, each edit finds its section at the same lines, and what comes out is the old result with the
other line endings; content without an end is given the one of the marker line before it.  The markers need not be
touched, because lines match without their terminators.

The two runs go side by side.  Each document of the one has the lines of the other with `\r\n` for `\n`, and this
is kept because in a document without carriage returns (`Unreturned`) a line and its counterpart match the same
markers.

## Main Definitions

* `Document.withCrLf`, `Edit.withCrLf`, `Plan.withCrLf` — the same with other line endings
* `Unreturned` — a document without carriage returns

## Main Statements

* `Unreturned.findSection_withCrLf` — a section is found at the same lines, or missed for the same reason
* `Unreturned.apply_withCrLf` — one edit, with other line endings
* `applyText_withCrLf` — a plan, with other line endings
-/

namespace Scaffold.Section

open Text

/-- The document with `\r\n` at the end of each line that has an end. -/
def Document.withCrLf (document : Document) : Document :=
  ⟨document.lines.map Text.withCrLf⟩

/-- The edit with `\r\n` for each `\n` of its content. -/
def Edit.withCrLf (edit : Edit) : Edit :=
  { edit with content := Text.withCrLf edit.content }

/-- The plan with `\r\n` for each `\n` of the contents. -/
def Plan.withCrLf (plan : Plan) : Plan :=
  ⟨plan.edits.map Edit.withCrLf⟩

/-- The lines of a text that holds no carriage return. -/
structure Unreturned (document : Document) : Prop where
  /-- The lines are those of a text. -/
  canonical : Canonical document.lines
  /-- No line holds a carriage return. -/
  notMem : ∀ line ∈ document.lines, '\r' ∉ line.toList

variable {document : Document} {markers : Markers} {span : Span}

theorem ofText_withCrLf (text : String) :
    Document.ofText (withCrLf text) = (Document.ofText text).withCrLf :=
  congrArg Document.mk (lines_withCrLf text)

theorem toText_withCrLf (document : Document) :
    document.withCrLf.toText = withCrLf document.toText :=
  (withCrLf_join document.lines).symm

theorem unreturned_ofText {text : String} (h : '\r' ∉ text.toList) : Unreturned (.ofText text) where
  canonical := canonical_lines text
  notMem := fun _ hmem => notMem_of_mem_lines h hmem

/-- Content is ended in the same case, and then with the other terminator. -/
theorem terminated_withCrLf (content : String) :
    Document.terminated (withCrLf content) "\r\n" = withCrLf (Document.terminated content "\n") := by
  have hsame : withCrLf content = "" ∨ endsWithNewline (withCrLf content) = true ↔
      content = "" ∨ endsWithNewline content = true := by
    rw [withCrLf_eq_empty_iff, endsWithNewline_withCrLf]
  rw [Document.terminated, Document.terminated]
  by_cases hended : content = "" ∨ endsWithNewline content = true
  · rw [if_pos (hsame.2 hended), if_pos hended]
  · rw [if_neg (mt hsame.1 hended), if_neg hended, withCrLf_append, withCrLf_newline]

namespace Unreturned

/-! ## Finding a section -/

/-- A marker is found at the same line. -/
theorem findLine_withCrLf (h : Unreturned document) (marker : String) (start : Nat) :
    document.withCrLf.findLine marker start = document.findLine marker start := by
  have hsame : ∀ line ∈ document.lines.drop start,
      lineMatches (withCrLf line) marker = lineMatches line marker := by
    intro line hmem
    have hline := List.mem_of_mem_drop hmem
    rw [lineMatches, lineMatches,
      stripTerminator_withCrLf (h.canonical.isLine line hline) (h.notMem line hline)]
  rw [Document.findLine, Document.findLine, Document.withCrLf, ← List.map_drop, List.findIdx?_map]
  exact congrArg (Option.map (start + ·)) (findIdx?_congr hsame)

/-- A section is found at the same lines, or missed for the same reason. -/
theorem findSection_withCrLf (h : Unreturned document) (markers : Markers) :
    document.withCrLf.findSection markers = document.findSection markers := by
  rw [Document.findSection, Document.findSection]
  simp only [h.findLine_withCrLf]

/-! ## Overwriting a section -/

/-- The opening line of a section has an end, and no carriage return before it. -/
theorem exists_opening (h : Unreturned document) (hfind : document.findSection markers = .ok span) :
    ∃ rest, '\r' ∉ rest.toList ∧ document.line? span.opening = some (rest ++ "\n") := by
  obtain ⟨cut, hlines, -, rfl⟩ := exists_cut_of_findSection hfind
  have canonical : Canonical cut.lines := hlines ▸ h.canonical
  rw [Cut.lines_eq_append] at canonical
  have hended : endsWithNewline cut.opening = true :=
    canonical.of_append.2.2 (by simp) cut.opening (by simp)
  obtain ⟨rest, hrest⟩ := endsWithNewline_iff.1 hended
  refine ⟨rest, ?_, ?_⟩
  · have hnot : '\r' ∉ cut.opening.toList := h.notMem _ (by rw [← hlines, Cut.lines]; simp)
    rw [hrest, String.toList_append] at hnot
    exact fun hmem => hnot (List.mem_append_left _ hmem)
  · rw [Document.line?, ← hlines, Cut.getElem?_opening, hrest]

/-- The opening line has the terminator of the text. -/
theorem terminatorAt_opening (h : Unreturned document)
    (hfind : document.findSection markers = .ok span) :
    document.terminatorAt span.opening = "\n" := by
  obtain ⟨rest, hreturn, hopening⟩ := h.exists_opening hfind
  rw [Document.terminatorAt, hopening]
  simp [endsWithCrLf_append_newline hreturn]

theorem terminatorAt_opening_withCrLf (h : Unreturned document)
    (hfind : document.findSection markers = .ok span) :
    document.withCrLf.terminatorAt span.opening = "\r\n" := by
  obtain ⟨rest, -, hopening⟩ := h.exists_opening hfind
  have hline : document.withCrLf.line? span.opening = some (withCrLf rest ++ "\r\n") := by
    have hmap : document.withCrLf.line? span.opening =
        (document.line? span.opening).map withCrLf := List.getElem?_map
    rw [hmap, hopening, Option.map_some, withCrLf_append, withCrLf_newline]
  have hends : endsWithCrLf (withCrLf rest ++ "\r\n") = true := endsWithCrLf_iff.2 ⟨_, rfl⟩
  rw [Document.terminatorAt, hline]
  simp [hends]

/-- New content is ended like the marker line before it. -/
theorem splicedContent_withCrLf (h : Unreturned document)
    (hfind : document.findSection markers = .ok span) (content : String) :
    document.withCrLf.splicedContent span (withCrLf content) =
      withCrLf (document.splicedContent span content) := by
  rw [Document.splicedContent, Document.splicedContent, h.terminatorAt_opening hfind,
    h.terminatorAt_opening_withCrLf hfind, terminated_withCrLf]

/-- Overwriting a section gives the old result with other line endings. -/
theorem splice_withCrLf (h : Unreturned document) (hfind : document.findSection markers = .ok span)
    (content : String) (keepMarkers : Bool) :
    document.withCrLf.splice span (withCrLf content) keepMarkers =
      (document.splice span content keepMarkers).withCrLf := by
  have hlines : document.withCrLf.lines = document.lines.map withCrLf := rfl
  rw [Document.splice, Document.splice, ← ofText_withCrLf, withCrLf_append, withCrLf_append,
    withCrLf_join, withCrLf_join, h.splicedContent_withCrLf hfind, hlines, List.map_take,
    List.map_drop]

/-- One edit has the old outcome with other line endings. -/
theorem apply_withCrLf (h : Unreturned document) (edit : Edit) :
    edit.withCrLf.apply document.withCrLf = (edit.apply document).map Document.withCrLf := by
  have hfind : document.withCrLf.findSection edit.withCrLf.markers =
      document.findSection edit.markers := h.findSection_withCrLf edit.markers
  rw [Edit.apply, Edit.apply, Document.rewrite, Document.rewrite, hfind]
  cases hfound : document.findSection edit.markers with
  | error error => rfl
  | ok span => exact congrArg Except.ok (h.splice_withCrLf hfound edit.content edit.keepMarkers)

/-- An edit whose content holds no carriage return brings none in. -/
theorem of_apply {edit : Edit} {result : Document} (h : Unreturned document)
    (hcontent : '\r' ∉ edit.content.toList) (happly : edit.apply document = .ok result) :
    Unreturned result := by
  obtain ⟨span, hfind, rfl⟩ := exists_splice_of_rewrite happly
  have hinserted : '\r' ∉ (document.splicedContent span edit.content).toList := by
    rw [Document.splicedContent, h.terminatorAt_opening hfind, Document.terminated]
    split
    · exact hcontent
    · simp [hcontent]
  have hbefore : '\r' ∉ (String.join (document.lines.take (span.headSize edit.keepMarkers))).toList :=
    notMem_join fun line hmem => h.notMem line (List.mem_of_mem_take hmem)
  have hafter : '\r' ∉ (String.join (document.lines.drop (span.tailStart edit.keepMarkers))).toList :=
    notMem_join fun line hmem => h.notMem line (List.mem_of_mem_drop hmem)
  apply unreturned_ofText
  rw [String.toList_append, String.toList_append]
  simp only [List.mem_append, not_or]
  exact ⟨⟨hbefore, hinserted⟩, hafter⟩

/-! ## Plans -/

/-- A series of edits has the old outcome with other line endings. -/
theorem foldlM_withCrLf {edits : List Edit} (h : Unreturned document)
    (hcontents : ∀ edit ∈ edits, '\r' ∉ edit.content.toList) :
    (edits.map Edit.withCrLf).foldlM (fun current (edit : Edit) => edit.apply current)
        document.withCrLf =
      (edits.foldlM (fun current (edit : Edit) => edit.apply current) document).map
        Document.withCrLf := by
  induction edits generalizing document with
  | nil => rfl
  | cons edit rest ih =>
    rw [List.map_cons, List.foldlM_cons, List.foldlM_cons, h.apply_withCrLf]
    cases happly : edit.apply document with
    | error error => rfl
    | ok next =>
      have hnext : Unreturned next := h.of_apply (hcontents edit (List.mem_cons_self ..)) happly
      exact ih hnext fun other hmem => hcontents other (List.mem_cons_of_mem _ hmem)

end Unreturned

/-- A plan on a text with `\r\n` for each `\n`, and with `\r\n` for each `\n` of its contents, gives the text that the
plan itself gives, with `\r\n` for each `\n`, and fails with the same error where it fails.  The text and the contents
are without carriage returns before; the markers are any. -/
theorem applyText_withCrLf {plan : Plan} {text : String} (htext : '\r' ∉ text.toList)
    (hcontents : ∀ edit ∈ plan.edits, '\r' ∉ edit.content.toList) :
    plan.withCrLf.applyText (withCrLf text) = (plan.applyText text).map withCrLf := by
  have hrun := (unreturned_ofText htext).foldlM_withCrLf hcontents
  have happly : plan.withCrLf.apply (.ofText (withCrLf text)) =
      (plan.apply (.ofText text)).map Document.withCrLf := by
    rw [ofText_withCrLf]
    exact hrun
  rw [Plan.applyText, Plan.applyText, happly]
  cases plan.apply (.ofText text) with
  | error error => rfl
  | ok result => exact congrArg Except.ok (toText_withCrLf result)

/-- A text with two sections and a last line without an end. -/
def openEnded : String :=
  "A1\nold\nA2\nB1\nold\n\nB2\ntail"

/-- An edit that takes its marker lines away, and one that leaves nothing between them. -/
def emptying : Plan :=
  ⟨[{ markers := ⟨"A1\r\n", "A2\n"⟩, content := "new\nlines", keepMarkers := false },
    { markers := ⟨"B1", "B2"⟩, content := "" }]⟩

/-- An edit that brings in the closing marker of its own section in front of another line, and the same edit again. -/
def repeated : Plan :=
  ⟨[{ markers := ⟨"A1", "A2"⟩, content := "A2\nnew" }, { markers := ⟨"A1", "A2"⟩, content := "A2\nnew" }]⟩

/-- Content without an end gets `\r\n`, the last line of the text stays without one, and the reason of a failure names
the same line. -/
theorem applyText_withCrLf_openEnded :
    '\r' ∉ openEnded.toList ∧
      emptying.applyText openEnded = .ok "new\nlines\nB1\nB2\ntail" ∧
      emptying.withCrLf.applyText (withCrLf openEnded) =
        .ok "new\r\nlines\r\nB1\r\nB2\r\ntail" ∧
      repeated.withCrLf.applyText (withCrLf openEnded) =
        .error (.markerOrder ⟨"A1", "A2"⟩ (.noLines 1)) := by
  have htext : '\r' ∉ openEnded.toList := by decide +kernel
  have hcontents : ∀ edit ∈ emptying.edits, '\r' ∉ edit.content.toList := by decide +kernel
  have hcontents' : ∀ edit ∈ repeated.edits, '\r' ∉ edit.content.toList := by decide +kernel
  have hok : emptying.applyText openEnded = .ok "new\nlines\nB1\nB2\ntail" := by decide +kernel
  have herror : repeated.applyText openEnded =
      .error (.markerOrder ⟨"A1", "A2"⟩ (.noLines 1)) := by decide +kernel
  have hresult : withCrLf "new\nlines\nB1\nB2\ntail" = "new\r\nlines\r\nB1\r\nB2\r\ntail" := by
    decide +kernel
  refine ⟨htext, hok, ?_, ?_⟩
  · rw [applyText_withCrLf htext hcontents, hok, ← hresult]
    rfl
  · rw [applyText_withCrLf htext hcontents', herror]
    rfl

end Scaffold.Section
