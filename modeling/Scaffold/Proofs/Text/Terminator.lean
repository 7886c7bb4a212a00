import Scaffold.Proofs.Text.Lines

/-!
# Terminators of lines

A line is read without its terminator: one final `\n`, or one final `\r\n`.  A carriage return that no line feed
follows is part of the line, and so is one in front of `\r\n`.

Text can be given the other terminators, `\r\n` in place of each `\n`.  It falls into lines at the same places
then, and as long as there was no carriage return in it before, what its lines are without their terminators is
the same too.

## Main Definitions

* `Bare` — a line and what is left of it without its terminator
* `withCrLf` — text with `\r\n` in place of each line feed

## Main Statements

* `bare_iff` — what is left of a line is what `stripTerminator` computes
* `lines_withCrLf` — other terminators leave the cuts between lines where they are
* `stripTerminator_withCrLf` — and what the lines are without them
-/

namespace Scaffold.Text

/-! ## What is left of a line -/

/-- What is left of a line without one final `\n` or `\r\n`. -/
inductive Bare : String → String → Prop where
  /-- A carriage return and a line feed are one terminator. -/
  | crLf (rest : String) : Bare (rest ++ "\r\n") rest
  /-- A line feed alone is one where no carriage return stands right before it. -/
  | lineFeed {rest : String} (unreturned : ∀ front, rest ≠ front ++ "\r") : Bare (rest ++ "\n") rest
  /-- A line that does not end in a line feed has none. -/
  | unended {line : String} (h : endsWithNewline line = false) : Bare line line

theorem stripTerminator_append_crLf (rest : String) : stripTerminator (rest ++ "\r\n") = rest := by
  simp [stripTerminator, dropTerminator]

theorem stripTerminator_append_lineFeed {rest : String} (h : ∀ front, rest ≠ front ++ "\r") :
    stripTerminator (rest ++ "\n") = rest := by
  rw [stripTerminator, dropTerminator]
  split
  · next front hreverse =>
    have hrest : rest.toList.reverse = '\r' :: front := by simpa using hreverse
    refine absurd ?_ (h (String.ofList front.reverse))
    rw [← String.toList_inj, ← List.reverse_inj, hrest]
    simp
  · next front _ hreverse =>
    have hfront : front = rest.toList.reverse := by simpa using hreverse.symm
    rw [hfront, List.reverse_reverse, String.ofList_toList]
  · next hnot => exact absurd (by simp) (hnot rest.toList.reverse)

theorem stripTerminator_of_unended {line : String} (h : endsWithNewline line = false) :
    stripTerminator line = line := by
  have hnot : ∀ front, line.toList.reverse ≠ '\n' :: front := by
    intro front hreverse
    rw [endsWithNewline, ← List.head?_reverse, hreverse] at h
    simp at h
  rw [stripTerminator, dropTerminator]
  split
  · next hreverse => exact absurd hreverse (hnot _)
  · next hreverse => exact absurd hreverse (hnot _)
  · exact String.ofList_toList

/-- The line feed of a `\r\n` is the last character, and the carriage return stands before it. -/
theorem append_crLf (text : String) : text ++ "\r\n" = text ++ "\r" ++ "\n" := by
  rw [String.append_assoc]
  rfl

/-- Every line is of one of the three forms. -/
theorem exists_bare (line : String) : ∃ rest, Bare line rest := by
  cases hend : endsWithNewline line with
  | false => exact ⟨line, .unended hend⟩
  | true =>
    obtain ⟨rest, rfl⟩ := endsWithNewline_iff.1 hend
    by_cases hreturn : ∃ front, rest = front ++ "\r"
    · obtain ⟨front, rfl⟩ := hreturn
      rw [← append_crLf]
      exact ⟨front, .crLf front⟩
    · exact ⟨rest, .lineFeed fun front heq => hreturn ⟨front, heq⟩⟩

/-- What is left of a line is what comes out when its terminator is dropped. -/
theorem bare_iff {line rest : String} : Bare line rest ↔ stripTerminator line = rest := by
  have hstrip : ∀ {rest}, Bare line rest → stripTerminator line = rest := by
    intro rest h
    cases h with
    | crLf => exact stripTerminator_append_crLf rest
    | lineFeed h => exact stripTerminator_append_lineFeed h
    | unended h => exact stripTerminator_of_unended h
  constructor
  · exact hstrip
  · intro h
    obtain ⟨rest', hbare⟩ := exists_bare line
    rwa [← h, hstrip hbare]

/-! ## Lines and their last character -/

/-- Text without line feeds, ended by one, is one line. -/
theorem isLine_append_newline {rest : String} : IsLine (rest ++ "\n") ↔ '\n' ∉ rest.toList := by
  have hne : rest ++ "\n" ≠ "" := ne_empty_of_endsWithNewline (endsWithNewline_iff.2 ⟨rest, rfl⟩)
  have hinner : (rest ++ "\n").toList.dropLast = rest.toList := by simp
  rw [IsLine, hinner]
  exact ⟨And.right, And.intro hne⟩

/-- A line feed is the whole terminator of text without carriage returns. -/
theorem endsWithCrLf_append_newline {rest : String} (h : '\r' ∉ rest.toList) :
    endsWithCrLf (rest ++ "\n") = false := by
  rw [← Bool.not_eq_true, endsWithCrLf_iff]
  rintro ⟨front, heq⟩
  rw [append_crLf, String.append_left_inj] at heq
  rw [heq] at h
  simp at h

/-- A line that does not end in a line feed holds none. -/
theorem IsLine.newline_notMem {line : String} (h : IsLine line) (hend : endsWithNewline line = false) :
    '\n' ∉ line.toList := by
  have hne : line.toList ≠ [] := fun hnil => h.1 (String.toList_inj.1 hnil)
  intro hmem
  rw [← List.dropLast_concat_getLast hne, List.mem_append, List.mem_singleton] at hmem
  refine hmem.elim h.2 fun hlast => ?_
  rw [endsWithNewline, List.getLast?_eq_some_getLast hne, ← hlast] at hend
  simp at hend

/-- A character that is not in a text is in none of its lines. -/
theorem notMem_of_mem_lines {c : Char} {text line : String} (h : c ∉ text.toList)
    (hmem : line ∈ lines text) : c ∉ line.toList := by
  intro hc
  apply h
  rw [← join_lines text, String.toList_join]
  exact List.mem_flatMap.2 ⟨line, hmem, hc⟩

theorem notMem_join {c : Char} {list : List String} (h : ∀ line ∈ list, c ∉ line.toList) :
    c ∉ (String.join list).toList := by
  rw [String.toList_join]
  intro hc
  obtain ⟨line, hmem, hin⟩ := List.mem_flatMap.1 hc
  exact h line hmem hin

/-! ## Other terminators -/

/-- The text with a carriage return in front of each line feed. -/
def withCrLf (text : String) : String :=
  String.ofList (text.toList.flatMap fun c => if c = '\n' then ['\r', '\n'] else [c])

theorem withCrLf_newline : withCrLf "\n" = "\r\n" := by
  decide +kernel

theorem withCrLf_append (a b : String) : withCrLf (a ++ b) = withCrLf a ++ withCrLf b := by
  rw [← String.toList_inj]
  simp [withCrLf]

theorem withCrLf_join (list : List String) :
    withCrLf (String.join list) = String.join (list.map withCrLf) := by
  induction list with
  | nil => rfl
  | cons line rest ih => rw [String.join_cons, withCrLf_append, ih, List.map_cons, String.join_cons]

/-- Without line feeds there is nothing to exchange. -/
theorem withCrLf_of_notMem {text : String} (h : '\n' ∉ text.toList) : withCrLf text = text := by
  have hsame : (text.toList.flatMap fun c => if c = '\n' then ['\r', '\n'] else [c]) =
      text.toList.flatMap fun c => [c] := by
    apply List.flatMap_congr
    intro c hmem
    rw [if_neg]
    rintro rfl
    exact h hmem
  rw [withCrLf, hsame, List.flatMap_singleton', String.ofList_toList]

theorem withCrLf_eq_empty_iff {text : String} : withCrLf text = "" ↔ text = "" := by
  rw [← String.toList_inj, ← String.toList_inj, withCrLf, String.toList_ofList]
  cases text.toList with
  | nil => simp
  | cons c rest =>
    have hne : (if c = '\n' then ['\r', '\n'] else [c]) ≠ [] := by
      split <;> exact List.cons_ne_nil _ _
    simp [hne]

/-- Text that ends in a line feed still does, and no other text. -/
theorem endsWithNewline_withCrLf (text : String) :
    endsWithNewline (withCrLf text) = endsWithNewline text := by
  rw [endsWithNewline, endsWithNewline, withCrLf, String.toList_ofList]
  rcases List.eq_nil_or_concat text.toList with hnil | ⟨front, last, hlast⟩
  · rw [hnil]
    rfl
  · rw [hlast, List.concat_eq_append, List.flatMap_append, List.getLast?_concat, List.flatMap_singleton]
    split
    · next h => simp [h]
    · simp

/-- A line is still one line. -/
theorem IsLine.withCrLf {line : String} (h : IsLine line) : IsLine (withCrLf line) := by
  cases hend : endsWithNewline line with
  | false =>
    rw [withCrLf_of_notMem (h.newline_notMem hend)]
    exact h
  | true =>
    obtain ⟨rest, rfl⟩ := endsWithNewline_iff.1 hend
    have hrest := isLine_append_newline.1 h
    rw [withCrLf_append, withCrLf_of_notMem hrest, withCrLf_newline, append_crLf, isLine_append_newline]
    simp [hrest]

/-- The lines of a text are still the lines of a text. -/
theorem Canonical.withCrLf {list : List String} (h : Canonical list) :
    Canonical (list.map Text.withCrLf) where
  isLine := by
    intro line hmem
    obtain ⟨old, hold, rfl⟩ := List.mem_map.1 hmem
    exact (h.isLine old hold).withCrLf
  terminated := by
    intro line hmem
    rw [← List.map_dropLast] at hmem
    obtain ⟨old, hold, rfl⟩ := List.mem_map.1 hmem
    rw [endsWithNewline_withCrLf]
    exact h.terminated old hold

/-- Text with other terminators falls into lines at the same places. -/
theorem lines_withCrLf (text : String) : lines (withCrLf text) = (lines text).map withCrLf := by
  calc lines (withCrLf text) = lines (withCrLf (String.join (lines text))) := by rw [join_lines]
    _ = lines (String.join ((lines text).map withCrLf)) := by rw [withCrLf_join]
    _ = (lines text).map withCrLf := lines_join (canonical_lines text).withCrLf

/-- A line with the other terminator is the same without it. -/
theorem stripTerminator_withCrLf {line : String} (h : IsLine line) (hreturn : '\r' ∉ line.toList) :
    stripTerminator (withCrLf line) = stripTerminator line := by
  obtain ⟨rest, hbare⟩ := exists_bare line
  rw [bare_iff.1 hbare]
  cases hbare with
  | crLf => simp at hreturn
  | lineFeed =>
    rw [withCrLf_append, withCrLf_of_notMem (isLine_append_newline.1 h), withCrLf_newline]
    exact stripTerminator_append_crLf rest
  | unended hend =>
    rw [withCrLf_of_notMem (h.newline_notMem hend)]
    exact stripTerminator_of_unended hend

end Scaffold.Text
