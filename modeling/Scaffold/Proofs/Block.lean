import Scaffold.Block
import Scaffold.Proofs.Text.Lines

/-!
# Blocks end where a line ends

An indent goes in front of a line and leaves its end alone, so indented text ends in a line feed when the text
does.  A block always does, so it goes into a document as it is, and is never empty.

## Main Statements

* `endsWithNewline_composeBlock` — a block ends in a line feed
-/

namespace Scaffold.Block

open Text

theorem endsWithNewline_indentLine {indent line : String} (h : endsWithNewline line = true) :
    endsWithNewline (indentLine indent line) = true := by
  unfold indentLine
  split
  · exact h
  · exact (endsWithNewline_append (ne_empty_of_endsWithNewline h)).trans h

theorem endsWithNewline_indentLines {text : String} (indent : String)
    (h : endsWithNewline text = true) : endsWithNewline (indentLines text indent) = true := by
  refine endsWithNewline_join ?_ ?_
  · rw [Ne, List.map_eq_nil_iff]
    exact lines_ne_nil (ne_empty_of_endsWithNewline h)
  · intro line hmem
    obtain ⟨original, horiginal, rfl⟩ := List.mem_map.1 hmem
    exact endsWithNewline_indentLine (endsWithNewline_of_mem_lines (.inr h) horiginal)

theorem endsWithNewline_unindented (notice body : String) :
    endsWithNewline (unindented notice body) = true := by
  unfold unindented
  split
  · exact endsWithNewline_iff.2 ⟨notice, rfl⟩
  · exact endsWithNewline_iff.2 ⟨notice ++ "\n\n" ++ body, rfl⟩

/-- A block ends in a line feed, whatever the notice, the body and the indent. -/
theorem endsWithNewline_composeBlock (notice body indent : String) :
    endsWithNewline (composeBlock notice body indent) = true :=
  endsWithNewline_indentLines indent (endsWithNewline_unindented notice body)

end Scaffold.Block
