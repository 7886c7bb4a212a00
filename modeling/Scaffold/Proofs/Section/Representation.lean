import Scaffold.Proofs.Section.Cut
import Scaffold.Proofs.Text.Terminator
import Scaffold.Section.Plan

/-!
# Documents that are texts

The lines of a text are canonical, and canonical lines are those of their text, so that texts and canonical
documents are the same thing.  Not every document is one: a document that is made of given lines keeps the line
feeds inside them.  No edit passes such lines on, because what it has put together is split again.

## Main Statements

* `canonical_ofLines_iff` — which given lines make a canonical document
* `canonical_of_rewrite` — overwriting a section makes any document canonical
* `canonical_of_foldlM` — what edits keep
* `canonical_representation` — canonical documents, and where they come from
-/

namespace Scaffold.Section

open Text

variable {document result : Document}

/-- A canonical document is the document of its text, and no other document is. -/
theorem ofText_toText_iff : Document.ofText document.toText = document ↔ Canonical document.lines := by
  constructor
  · intro h
    rw [← h]
    exact canonical_lines document.toText
  · intro h
    show Document.mk (lines (String.join document.lines)) = document
    rw [lines_join h]

/-- Given lines make a canonical document when no line feed is left in them without their terminators. -/
theorem canonical_ofLines_iff {list : List String} :
    Canonical (Document.ofLines list).lines ↔
      ∀ line ∈ list, ∀ rest, Bare line rest → '\n' ∉ rest.toList := by
  constructor
  · intro h line hmem rest hbare
    have hline : IsLine (stripTerminator line ++ "\n") := h.isLine _ (List.mem_map_of_mem hmem)
    rw [bare_iff.1 hbare] at hline
    exact isLine_append_newline.1 hline
  · intro h
    refine ⟨fun line hmem => ?_, fun line hmem => ?_⟩
    · obtain ⟨given, hgiven, rfl⟩ := List.mem_map.1 hmem
      exact isLine_append_newline.2 (h given hgiven _ (bare_iff.2 rfl))
    · obtain ⟨given, -, rfl⟩ := List.mem_map.1 (List.dropLast_subset _ hmem)
      exact endsWithNewline_iff.2 ⟨_, rfl⟩

/-- Overwriting a section leaves the lines of a text, whatever the document was. -/
theorem canonical_of_rewrite {markers : Markers} {content : String} {keepMarkers : Bool}
    (h : document.rewrite markers content keepMarkers = .ok result) : Canonical result.lines := by
  obtain ⟨span, -, rfl⟩ := exists_splice_of_rewrite h
  exact canonical_lines _

/-- Edits leave the lines of a text, if it had such lines before or if there is an edit. -/
theorem canonical_of_foldlM {edits : List Edit} (hstart : edits = [] → Canonical document.lines)
    (h : edits.foldlM (fun current (edit : Edit) => edit.apply current) document = .ok result) :
    Canonical result.lines := by
  induction edits generalizing document with
  | nil =>
    obtain rfl := Except.ok.inj h
    exact hstart rfl
  | cons edit rest ih =>
    rw [List.foldlM_cons] at h
    cases happly : edit.apply document with
    | error error =>
      rw [happly] at h
      cases h
    | ok next =>
      rw [happly] at h
      exact ih (fun _ => canonical_of_rewrite happly) h

/-- The document of a text is canonical and has that text, and a document is canonical when it is the document of its
text.  Given lines make a canonical document when no line feed is left in them without their terminators.  A
document that comes out of overwriting a section, or of a plan with edits, is canonical, whatever it was before. -/
theorem canonical_representation :
    (∀ text, Canonical (Document.ofText text).lines ∧ (Document.ofText text).toText = text) ∧
    (∀ document, Canonical document.lines ↔ Document.ofText document.toText = document) ∧
    (∀ list, Canonical (Document.ofLines list).lines ↔
      ∀ line ∈ list, ∀ rest, Bare line rest → '\n' ∉ rest.toList) ∧
    (∀ document markers content keepMarkers result,
      Document.rewrite document markers content keepMarkers = .ok result → Canonical result.lines) ∧
    ∀ (plan : Plan) document result, plan.edits ≠ [] → plan.apply document = .ok result →
      Canonical result.lines := by
  refine ⟨fun text => ⟨canonical_lines text, Document.toText_ofText text⟩, fun document => ?_,
    fun list => canonical_ofLines_iff, ?_, ?_⟩
  · exact ofText_toText_iff.symm
  · intro document markers content keepMarkers result h
    exact canonical_of_rewrite h
  · intro plan document result hne h
    exact canonical_of_foldlM (fun hnil => absurd hnil hne) h

/-- Given lines, one of which holds a line feed. -/
def folded : Document :=
  .ofLines ["one\ntwo", "BEGIN", "old", "END\r\n"]

/-- A line feed inside a given line makes a document that no text has, until it is edited. -/
theorem canonical_representation_folded :
    folded.lines = ["one\ntwo\n", "BEGIN\n", "old\n", "END\n"] ∧ ¬Canonical folded.lines ∧
      folded.rewrite ⟨"BEGIN", "END"⟩ "new" true =
        .ok ⟨["one\n", "two\n", "BEGIN\n", "new\n", "END\n"]⟩ ∧
      Canonical ["one\n", "two\n", "BEGIN\n", "new\n", "END\n"] ∧
      (⟨[⟨⟨"BEGIN", "END"⟩, "", false⟩]⟩ : Plan).apply folded = .ok ⟨["one\n", "two\n"]⟩ ∧
      Canonical ["one\n", "two\n"] := by
  obtain ⟨-, htext, hgiven, hrewrite, hplan⟩ := canonical_representation
  have hlines : folded.lines = ["one\ntwo\n", "BEGIN\n", "old\n", "END\n"] := by decide +kernel
  have hnot : ¬Canonical folded.lines := by
    rw [htext folded]
    decide +kernel
  have hnew : folded.rewrite ⟨"BEGIN", "END"⟩ "new" true =
      .ok ⟨["one\n", "two\n", "BEGIN\n", "new\n", "END\n"]⟩ := by decide +kernel
  have hedits : (⟨[⟨⟨"BEGIN", "END"⟩, "", false⟩]⟩ : Plan).apply folded =
      .ok ⟨["one\n", "two\n"]⟩ := by decide +kernel
  exact ⟨hlines, hnot, hnew, hrewrite _ _ _ _ _ hnew, hedits,
    hplan _ _ _ (List.cons_ne_nil _ _) hedits⟩

end Scaffold.Section
