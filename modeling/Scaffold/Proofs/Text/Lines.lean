import Mathlib.Data.List.Basic
import Scaffold.Text.Lines

/-!
# How text falls into lines

A cut after a line feed is a cut between lines: text that ends where a line ends can be put before any
other text, and the lines of the whole are the lines of the two.  From this follows which lists of strings
are the lines of some text, and that such a list is found again when it is joined and split.

## Main Definitions

* `IsLine` — a string that is one line
* `Canonical` — a list of strings that is the lines of a text

## Main Statements

* `lines_append` — the lines of text put after terminated text
* `canonical_lines` — the lines of a text are canonical
* `lines_join` — canonical lines are the lines of their text
-/

namespace Scaffold.Text

/-! ## Ends of text -/

/-- Text ends in a line feed when it can be written so. -/
theorem endsWithNewline_iff {text : String} :
    endsWithNewline text = true ↔ ∃ rest, text = rest ++ "\n" := by
  rw [endsWithNewline, beq_iff_eq, List.getLast?_eq_some_iff]
  constructor
  · rintro ⟨cs, h⟩
    exact ⟨String.ofList cs, by rw [← String.toList_inj]; simp [h]⟩
  · rintro ⟨rest, rfl⟩
    exact ⟨rest.toList, by simp⟩

/-- Text ends in a carriage return and a line feed when it can be written so. -/
theorem endsWithCrLf_iff {text : String} :
    endsWithCrLf text = true ↔ ∃ rest, text = rest ++ "\r\n" := by
  rw [endsWithCrLf, beq_iff_eq]
  constructor
  · intro h
    refine ⟨String.ofList (text.toList.reverse.drop 2).reverse, ?_⟩
    have hsplit := List.take_append_drop 2 text.toList.reverse
    rw [h] at hsplit
    rw [← String.toList_inj]
    have := congrArg List.reverse hsplit
    simpa using this.symm
  · rintro ⟨rest, rfl⟩
    simp

/-- What follows decides how text ends, unless it is empty. -/
theorem endsWithNewline_append {a b : String} (h : b ≠ "") :
    endsWithNewline (a ++ b) = endsWithNewline b := by
  have hne : b.toList ≠ [] := fun hnil => h (String.toList_inj.1 hnil)
  rw [endsWithNewline, endsWithNewline, String.toList_append,
    List.getLast?_append_of_ne_nil _ hne]

theorem terminated_empty : Terminated "" :=
  .inl rfl

/-- Terminated text after terminated text is terminated. -/
theorem Terminated.append {a b : String} (ha : Terminated a) (hb : Terminated b) :
    Terminated (a ++ b) := by
  by_cases h : b = ""
  · rw [h, String.append_empty]
    exact ha
  · exact .inr (by rw [endsWithNewline_append h, hb.resolve_left h])

/-- Lines that all end in a line feed make terminated text. -/
theorem terminated_join {list : List String} (h : ∀ line ∈ list, endsWithNewline line = true) :
    Terminated (String.join list) := by
  induction list with
  | nil => exact terminated_empty
  | cons line rest ih =>
    rw [String.join_cons]
    have hline : Terminated line := .inr (h line (List.mem_cons_self ..))
    exact hline.append (ih fun other hmem => h other (List.mem_cons_of_mem _ hmem))

/-! ## Lines of joined text -/

/-- A cut after a line feed is a cut between lines. -/
theorem splitLines_append {a b : List Char} (h : a = [] ∨ a.getLast? = some '\n') :
    splitLines (a ++ b) = splitLines a ++ splitLines b := by
  induction a with
  | nil => rfl
  | cons c rest ih =>
    have hlast : (c :: rest).getLast? = some '\n' := h.resolve_left (List.cons_ne_nil _ _)
    cases rest with
    | nil =>
      obtain rfl : c = '\n' := by simpa using hlast
      rfl
    | cons d more =>
      have hmore : (d :: more).getLast? = some '\n' := by
        rwa [List.getLast?_cons_cons] at hlast
      have hrest := ih (.inr hmore)
      rw [List.cons_append, splitLines]
      conv => rhs; rw [splitLines]
      rw [hrest]
      by_cases hc : c = '\n'
      · rw [if_pos hc, if_pos hc]
        rfl
      · rw [if_neg hc, if_neg hc]
        cases hsplit : splitLines (d :: more) with
        | nil =>
          have hflat := flatten_splitLines (d :: more)
          rw [hsplit] at hflat
          exact absurd hflat (by simp)
        | cons line others => rfl

/-- The lines of text put after terminated text. -/
theorem lines_append {a b : String} (h : Terminated a) : lines (a ++ b) = lines a ++ lines b := by
  have hlast : a.toList = [] ∨ a.toList.getLast? = some '\n' := by
    rcases h with rfl | h
    · exact .inl rfl
    · exact .inr (by simpa [endsWithNewline] using h)
  rw [lines, String.toList_append, splitLines_append hlast, List.map_append]
  rfl

/-- One line: it is not empty, and holds a line feed as its last character at most. -/
def IsLine (line : String) : Prop :=
  line ≠ "" ∧ '\n' ∉ line.toList.dropLast

/-- The lines of some text: each is one line, and only the last one may lack its terminator. -/
structure Canonical (list : List String) : Prop where
  /-- Each string is one line. -/
  isLine : ∀ line ∈ list, IsLine line
  /-- Every line but the last ends in a line feed. -/
  terminated : ∀ line ∈ list.dropLast, endsWithNewline line = true

theorem canonical_nil : Canonical [] :=
  ⟨by simp, by simp⟩

/-- A line in front of canonical lines has to be terminated, unless it is the only one. -/
theorem canonical_cons {line : String} {rest : List String} :
    Canonical (line :: rest) ↔
      IsLine line ∧ (rest ≠ [] → endsWithNewline line = true) ∧ Canonical rest := by
  cases rest with
  | nil =>
    refine ⟨fun h => ⟨h.isLine line (List.mem_cons_self ..), fun hne => absurd rfl hne,
      canonical_nil⟩, fun h => ⟨?_, by simp⟩⟩
    simpa using h.1
  | cons next more =>
    constructor
    · rintro ⟨hlines, hterminated⟩
      rw [List.dropLast_cons_cons] at hterminated
      exact ⟨hlines line (List.mem_cons_self ..),
        fun _ => hterminated line (List.mem_cons_self ..),
        fun other hmem => hlines other (List.mem_cons_of_mem _ hmem),
        fun other hmem => hterminated other (List.mem_cons_of_mem _ hmem)⟩
    · rintro ⟨hline, hend, hrest⟩
      refine ⟨fun other hmem => ?_, fun other hmem => ?_⟩
      · rcases List.mem_cons.1 hmem with rfl | hmem
        · exact hline
        · exact hrest.isLine other hmem
      · rw [List.dropLast_cons_cons] at hmem
        rcases List.mem_cons.1 hmem with rfl | hmem
        · exact hend (List.cons_ne_nil _ _)
        · exact hrest.terminated other hmem

/-- The first part of canonical lines is canonical, and terminated if anything follows. -/
theorem Canonical.of_append {a b : List String} (h : Canonical (a ++ b)) :
    Canonical a ∧ Canonical b ∧ (b ≠ [] → ∀ line ∈ a, endsWithNewline line = true) := by
  induction a with
  | nil => exact ⟨canonical_nil, h, fun _ _ hmem => absurd hmem List.not_mem_nil⟩
  | cons line rest ih =>
    obtain ⟨hline, hend, hrest⟩ := canonical_cons.1 h
    obtain ⟨ha, hb, hall⟩ := ih hrest
    refine ⟨canonical_cons.2 ⟨hline, fun hne => hend (by simp [hne]), ha⟩, hb, ?_⟩
    intro hne other hmem
    rcases List.mem_cons.1 hmem with rfl | hmem
    · exact hend (by simp [hne])
    · exact hall hne other hmem

/-- A single line has itself as its only line. -/
theorem splitLines_eq_singleton {cs : List Char} (hne : cs ≠ []) (h : '\n' ∉ cs.dropLast) :
    splitLines cs = [cs] := by
  induction cs with
  | nil => exact absurd rfl hne
  | cons c rest ih =>
    cases rest with
    | nil => by_cases hc : c = '\n' <;> simp [splitLines, hc]
    | cons d more =>
      rw [List.dropLast_cons_cons, List.mem_cons, not_or] at h
      have hc : ¬c = '\n' := fun heq => h.1 heq.symm
      rw [splitLines, ih (List.cons_ne_nil _ _) h.2, if_neg hc]

theorem lines_of_isLine {line : String} (h : IsLine line) : lines line = [line] := by
  have hne : line.toList ≠ [] := fun hnil => h.1 (String.toList_inj.1 hnil)
  rw [lines, splitLines_eq_singleton hne h.2]
  simp

/-- Canonical lines are the lines of their text. -/
theorem lines_join {list : List String} (h : Canonical list) :
    lines (String.join list) = list := by
  induction list with
  | nil => rfl
  | cons line rest ih =>
    obtain ⟨hline, hend, hrest⟩ := canonical_cons.1 h
    by_cases hnil : rest = []
    · subst hnil
      rw [String.join_cons, String.join_nil, String.append_empty]
      exact lines_of_isLine hline
    · rw [String.join_cons, lines_append (.inr (hend hnil)), lines_of_isLine hline, ih hrest]
      rfl

/-- A character that ends no line goes to the front of the first line. -/
theorem canonical_cons_char {c : Char} {line : List Char} {rest : List String} (hc : c ≠ '\n')
    (h : Canonical (String.ofList line :: rest)) : Canonical (String.ofList (c :: line) :: rest) := by
  obtain ⟨⟨hne, hinner⟩, hend, hrest⟩ := canonical_cons.1 h
  cases line with
  | nil => exact absurd rfl hne
  | cons d more =>
    rw [String.toList_ofList] at hinner
    refine canonical_cons.2 ⟨⟨by simp, ?_⟩, fun hmore => ?_, hrest⟩
    · rw [String.toList_ofList, List.dropLast_cons_cons, List.mem_cons, not_or]
      exact ⟨hc.symm, hinner⟩
    · have hlast := hend hmore
      rw [endsWithNewline, String.toList_ofList] at hlast ⊢
      rwa [List.getLast?_cons_cons]

/-- The lines of a text are canonical. -/
theorem canonical_lines (text : String) : Canonical (lines text) := by
  rw [lines]
  induction text.toList with
  | nil => exact canonical_nil
  | cons c rest ih =>
    rw [splitLines]
    by_cases hc : c = '\n'
    · rw [if_pos hc, List.map_cons]
      subst hc
      exact canonical_cons.2 ⟨⟨by simp, by simp⟩, fun _ => by simp [endsWithNewline], ih⟩
    · rw [if_neg hc]
      cases hsplit : splitLines rest with
      | nil =>
        refine canonical_cons.2 ⟨⟨by simp, by simp⟩, fun hne => absurd rfl hne, canonical_nil⟩
      | cons line more =>
        rw [hsplit, List.map_cons] at ih
        exact canonical_cons_char hc ih

/-! ## Lines of terminated text -/

theorem lines_ne_nil {text : String} (h : text ≠ "") : lines text ≠ [] := by
  intro hnil
  have hjoin := join_lines text
  rw [hnil] at hjoin
  exact h hjoin.symm

theorem ne_empty_of_endsWithNewline {text : String} (h : endsWithNewline text = true) :
    text ≠ "" := by
  rintro rfl
  exact absurd h (by decide)

/-- Terminated text has terminated lines only. -/
theorem endsWithNewline_of_mem_lines {text line : String} (h : Terminated text)
    (hmem : line ∈ lines text) : endsWithNewline line = true := by
  -- More text after it would begin a new line, and only the last line of a text may lack its end.
  have hcanonical := canonical_lines (text ++ "more")
  rw [lines_append h] at hcanonical
  have hmore : lines "more" ≠ [] := lines_ne_nil (by decide)
  exact hcanonical.of_append.2.2 hmore line hmem

/-- Lines that end in line feeds make text that ends in one. -/
theorem endsWithNewline_join {list : List String} (hne : list ≠ [])
    (h : ∀ line ∈ list, endsWithNewline line = true) :
    endsWithNewline (String.join list) = true := by
  have hterminated := terminated_join h
  refine hterminated.resolve_left fun hempty => ?_
  obtain ⟨line, rest, rfl⟩ := List.exists_cons_of_ne_nil hne
  rw [String.join_cons, String.append_eq_empty_iff] at hempty
  exact ne_empty_of_endsWithNewline (h line (List.mem_cons_self ..)) hempty.1

end Scaffold.Text
