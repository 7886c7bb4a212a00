import Scaffold.Proofs.Block

/-!
# Indentation

An indent without a line feed is put in front of the lines that are not blank and touches nothing else.  So the lines
of indented text are the lines of the text one by one, and blank where these are: a line with an indent before it is
still one line, and what was not blank in it is still there.

From this follows how indentation composes.  Indents add up, text can be indented in parts that end where a line ends,
and who knows the indent can take it away again.

## Main Definitions

* `Block.dedentLines` — text with an indent taken away from every line that is not blank
* `Block.Indents` — what indented text has to do with the text

## Main Statements

* `Block.lines_indentLines` — the lines of indented text
* `Block.indentLines_indentLines`, `Block.indentLines_append` — indents after one another, and texts after one another
* `Block.indents_indentLines` — the indent stands where it should, and can be taken away
* `Block.indentation_laws` — the laws of indentation, and what they say of a block
-/

namespace Scaffold

open Text

/-! ### Blank text and lines -/

namespace Text

/-- Text is blank when all parts of it are. -/
theorem isBlank_append {a b : String} : isBlank (a ++ b) = (isBlank a && isBlank b) := by
  rw [isBlank, String.toList_append, List.all_append]
  rfl

/-- Text without a line feed in front of a line makes one line. -/
theorem IsLine.append_left {front line : String} (h : IsLine line) (hfront : '\n' ∉ front.toList) :
    IsLine (front ++ line) := by
  have hne : line.toList ≠ [] := fun hnil => h.1 (String.toList_inj.1 hnil)
  refine ⟨fun hempty => h.1 (String.append_eq_empty_iff.1 hempty).2, ?_⟩
  rw [String.toList_append, List.dropLast_append_of_ne_nil hne, List.mem_append, not_or]
  exact ⟨hfront, h.2⟩

/-- What leaves the number of a character as it is in each part leaves it as it is in the text. -/
theorem count_toList_join_map {f : String → String} {c : Char}
    (hf : ∀ part, (f part).toList.count c = part.toList.count c) (parts : List String) :
    (String.join (parts.map f)).toList.count c = (String.join parts).toList.count c := by
  rw [String.toList_join, String.toList_join, List.flatMap_map, List.count_flatMap, List.count_flatMap]
  exact congrArg List.sum (List.map_congr_left fun part _ => hf part)

end Text

namespace Block

variable {indent : String}

/-! ### One line -/

/-- A line is as blank with an indent as it was without. -/
theorem isBlank_indentLine (indent line : String) : isBlank (indentLine indent line) = isBlank line := by
  unfold indentLine
  split
  · rfl
  · next hline =>
    rw [isBlank_append, Bool.eq_false_iff.2 hline, Bool.and_false]

/-- A line with an indent that has no line feed is one line. -/
theorem isLine_indentLine {line : String} (h : IsLine line) (hindent : '\n' ∉ indent.toList) :
    IsLine (indentLine indent line) := by
  unfold indentLine
  split
  · exact h
  · exact h.append_left hindent

/-- The outer indent goes in front of the inner one. -/
theorem indentLine_indentLine (a b line : String) :
    indentLine b (indentLine a line) = indentLine (b ++ a) line := by
  by_cases hline : isBlank line = true
  · simp only [indentLine, if_pos hline]
  · have hinner : ¬isBlank (indentLine a line) = true := by rwa [isBlank_indentLine]
    rw [indentLine, if_neg hinner, indentLine, if_neg hline, indentLine, if_neg hline, String.append_assoc]

theorem indentLine_empty (line : String) : indentLine "" line = line := by
  rw [indentLine, String.empty_append, ite_self]

/-- An indent that has no line feed brings none. -/
theorem count_newline_indentLine (hindent : '\n' ∉ indent.toList) (line : String) :
    (indentLine indent line).toList.count '\n' = line.toList.count '\n' := by
  unfold indentLine
  split
  · rfl
  · rw [String.toList_append, List.count_append, List.count_eq_zero_of_not_mem hindent, Nat.zero_add]

/-- A line with as many characters taken from its front as an indent has, unless it is blank. -/
def dedentLine (indent line : String) : String :=
  if isBlank line then line else String.ofList (line.toList.drop indent.toList.length)

/-- An indent can be taken away again. -/
theorem dedentLine_indentLine (indent line : String) : dedentLine indent (indentLine indent line) = line := by
  rw [dedentLine, isBlank_indentLine]
  split
  · next hline => rw [indentLine, if_pos hline]
  · next hline => rw [indentLine, if_neg hline, String.toList_append, List.drop_left, String.ofList_toList]

/-! ### Lines of indented text -/

/-- The lines of indented text are the lines of the text, each with its indent. -/
theorem lines_indentLines (text : String) (hindent : '\n' ∉ indent.toList) :
    lines (indentLines text indent) = (lines text).map (indentLine indent) := by
  have hcanonical := canonical_lines text
  refine lines_join ⟨fun line hmem => ?_, fun line hmem => ?_⟩
  · obtain ⟨original, horiginal, rfl⟩ := List.mem_map.1 hmem
    exact isLine_indentLine (hcanonical.isLine original horiginal) hindent
  · rw [← List.map_dropLast] at hmem
    obtain ⟨original, horiginal, rfl⟩ := List.mem_map.1 hmem
    exact endsWithNewline_indentLine (hcanonical.terminated original horiginal)

/-- Indented text is indented by putting the outer indent in front of the inner one. -/
theorem indentLines_indentLines (text : String) {a : String} (b : String) (ha : '\n' ∉ a.toList) :
    indentLines (indentLines text a) b = indentLines text (b ++ a) := by
  rw [indentLines, lines_indentLines text ha, List.map_map, indentLines]
  refine congrArg String.join (List.map_congr_left fun line _ => ?_)
  exact indentLine_indentLine a b line

/-- The empty indent changes nothing. -/
theorem indentLines_empty (text : String) : indentLines text "" = text := by
  have hid : indentLine "" = id := funext indentLine_empty
  rw [indentLines, hid, List.map_id, join_lines]

/-- Text is indented in parts that end where a line ends. -/
theorem indentLines_append {a : String} (ha : Terminated a) (b indent : String) :
    indentLines (a ++ b) indent = indentLines a indent ++ indentLines b indent := by
  rw [indentLines, lines_append ha, List.map_append, String.join_append]
  rfl

/-- Indented text has the line feeds of the text. -/
theorem count_newline_indentLines (text : String) (hindent : '\n' ∉ indent.toList) :
    (indentLines text indent).toList.count '\n' = text.toList.count '\n' := by
  rw [indentLines, count_toList_join_map (count_newline_indentLine hindent), join_lines]

/-! ### Taking an indent away -/

/-- Text with an indent taken away from every line that is not blank. -/
def dedentLines (text indent : String) : String :=
  String.join ((lines text).map (dedentLine indent))

/-- Indented text: what an indent has made of a text. -/
structure Indents (indent text indented : String) : Prop where
  /-- A line that is not blank starts with the indent. -/
  starts : ∀ line ∈ lines indented, isBlank line = false → indent.toList <+: line.toList
  /-- The blank lines are those of the text, and stand where they stood. -/
  blank : ∀ (i : Nat) (line : String), isBlank line = true →
    ((lines indented)[i]? = some line ↔ (lines text)[i]? = some line)
  /-- Without the indent, the text is left. -/
  dedented : dedentLines indented indent = text

theorem dedentLines_indentLines (text : String) (hindent : '\n' ∉ indent.toList) :
    dedentLines (indentLines text indent) indent = text := by
  have hid : dedentLine indent ∘ indentLine indent = id := funext (dedentLine_indentLine indent)
  rw [dedentLines, lines_indentLines text hindent, List.map_map, hid, List.map_id, join_lines]

/-- A blank line comes from the same blank line. -/
theorem indentLine_eq_iff_of_isBlank {line other : String} (h : isBlank line = true) :
    indentLine indent other = line ↔ other = line := by
  constructor
  · rintro rfl
    rw [isBlank_indentLine] at h
    rw [indentLine, if_pos h]
  · rintro rfl
    rw [indentLine, if_pos h]

/-- Text is indented as it should be. -/
theorem indents_indentLines (text : String) (hindent : '\n' ∉ indent.toList) :
    Indents indent text (indentLines text indent) where
  starts line hmem hline := by
    rw [lines_indentLines text hindent] at hmem
    obtain ⟨original, -, rfl⟩ := List.mem_map.1 hmem
    rw [isBlank_indentLine] at hline
    rw [indentLine, if_neg (Bool.eq_false_iff.1 hline), String.toList_append]
    exact List.prefix_append _ _
  blank i line hline := by
    rw [lines_indentLines text hindent, List.getElem?_map, Option.map_eq_some_iff]
    simp only [indentLine_eq_iff_of_isBlank hline, exists_eq_right]
  dedented := dedentLines_indentLines text hindent

/-! ### Blocks -/

theorem unindented_eq (notice body : String) :
    unindented notice body = notice ++ "\n" ++ if isBlank body then "" else "\n" ++ body ++ "\n" := by
  unfold unindented
  split
  · rw [String.append_empty]
  · simp only [String.append_assoc]
    rfl

theorem count_newline_unindented (notice body : String) : (unindented notice body).toList.count '\n' =
    if isBlank body then notice.toList.count '\n' + 1
    else notice.toList.count '\n' + body.toList.count '\n' + 3 := by
  unfold unindented
  split <;> simp only [String.toList_append, List.count_append]
  · rfl
  · have hone : "\n".toList.count '\n' = 1 := rfl
    have htwo : "\n\n".toList.count '\n' = 2 := rfl
    omega

/-- The laws of indentation, and of a block: it is terminated text with the line feeds of its parts, in which the
notice, an empty line and a body that is not blank stand indented. -/
theorem indentation_laws :
    (∀ text a b : String, '\n' ∉ a.toList → indentLines (indentLines text a) b = indentLines text (b ++ a)) ∧
    (∀ text, indentLines text "" = text) ∧
    (∀ a b indent, Terminated a → indentLines (a ++ b) indent = indentLines a indent ++ indentLines b indent) ∧
    ∀ notice body indent : String, '\n' ∉ indent.toList →
      composeBlock notice body indent ≠ "" ∧
      endsWithNewline (composeBlock notice body indent) = true ∧
      (composeBlock notice body indent).toList.count '\n' =
        (if isBlank body then notice.toList.count '\n' + 1
        else notice.toList.count '\n' + body.toList.count '\n' + 3) ∧
      Indents indent (notice ++ "\n" ++ if isBlank body then "" else "\n" ++ body ++ "\n")
        (composeBlock notice body indent) := by
  refine ⟨fun text a b ha => indentLines_indentLines text b ha, indentLines_empty,
    fun a b indent ha => indentLines_append ha b indent, fun notice body indent hindent => ?_⟩
  have hended := endsWithNewline_composeBlock notice body indent
  refine ⟨ne_empty_of_endsWithNewline hended, hended, ?_, ?_⟩
  · exact (count_newline_indentLines _ hindent).trans (count_newline_unindented notice body)
  · rw [← unindented_eq]
    exact indents_indentLines _ hindent

/-- An em space makes a blank line, a zero-width space does not; a lone carriage return ends no line. -/
theorem indentation_laws_spaced :
    indentLines (indentLines "a\rb\n\u2003\r\n\u200b" "\t") "> \n" = indentLines "a\rb\n\u2003\r\n\u200b" "> \n\t" ∧
      indentLines "a\rb\n\u2003\r\n\u200b" "\t" = "\ta\rb\n\u2003\r\n\t\u200b" ∧
      indentLines ("a\rb\n" ++ "\u2003\r\n\u200b") "\t" =
        indentLines "a\rb\n" "\t" ++ indentLines "\u2003\r\n\u200b" "\t" ∧
      composeBlock "# note" "x\n\u2003" "  " = "  # note\n\n  x\n\u2003\n" ∧
      dedentLines "  # note\n\n  x\n\u2003\n" "  " = "# note\n\nx\n\u2003\n" := by
  have hblock : composeBlock "# note" "x\n\u2003" "  " = "  # note\n\n  x\n\u2003\n" := by decide +kernel
  obtain ⟨htwice, -, happend, hcomposed⟩ := indentation_laws
  refine ⟨htwice _ _ _ (by decide), by decide +kernel, happend _ _ _ (.inr (by decide)), hblock, ?_⟩
  have hdedented := (hcomposed "# note" "x\n\u2003" "  " (by decide)).2.2.2.dedented
  rw [hblock] at hdedented
  exact hdedented

end Block

end Scaffold
