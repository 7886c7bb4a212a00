import Mathlib
import Scaffold.Text.Words
import Scaffold.Text.Case

/-!
# What PascalCase keeps of a text

The scan for words cuts and never drops, so that the words of a piece put together are the piece, and the words of a
text are its letters and digits.  Capitalising changes nothing but case.  So in PascalCase a text keeps its letters and
digits in their order, and loses everything else.

Where a text has no capitals the scan never cuts at all: both of its cuts need one, which comes next or has just been
read.  The words are then the pieces.

## Main Statements

* `flatten_words` — the words of a text are its letters and digits
* `lowerCase_pascalCase` — in PascalCase these are kept, but for their case
* `words_of_uncapitalized` — without capitals, the words are the pieces
* `pascalCase_of_separated` — without capitals, PascalCase is the parts of a text with their first characters in upper
  case
-/

namespace Scaffold.Text

/-! ### Nothing is lost -/

/-- The pieces of a text hold its letters and digits. -/
theorem flatten_pieces (cs : List Char) : (pieces cs).flatten = cs.filter Char.isAlphanum := by
  induction cs with
  | nil => rfl
  | cons c rest ih =>
    rw [pieces]
    split
    · next hc =>
      rw [List.filter_cons_of_pos hc, ← ih]
      split
      · next hrest => rw [hrest]; rfl
      · next piece more hrest => rw [hrest]; rfl
    · next hc =>
      rw [List.filter_cons_of_neg hc, ← ih]
      rfl

/-- The scan cuts what it is given into words, after the word that it has begun. -/
theorem flatten_scanWords (mode : LetterCase) (word piece : List Char) :
    (scanWords mode word piece).flatten = word.reverse ++ piece := by
  fun_induction scanWords mode word piece with
  | case1 mode word => simp
  | case2 mode word c => simp
  | case3 mode word c next rest hcut ih => simp [ih]
  | case4 mode word c next rest _ hcut ih => simp [ih]
  | case5 mode word c next rest _ _ ih => simp [ih]

/-- The words of a text hold its letters and digits. -/
theorem flatten_words (cs : List Char) : (words cs).flatten = cs.filter Char.isAlphanum := by
  have hscan : ∀ piece, (scanWords .boundary [] piece).flatten = piece := flatten_scanWords .boundary []
  rw [words, List.flatMap_def, ← flatten_pieces]
  induction pieces cs with
  | nil => rfl
  | cons piece more ih =>
    rw [List.map_cons, List.flatten_cons, List.flatten_append, hscan, ih, List.flatten_cons]

/-! ### Nothing but case is changed -/

theorem map_toLower_capitalize (word : List Char) : (capitalize word).map Char.toLower = word.map Char.toLower := by
  cases word with
  | nil => rfl
  | cons c rest => simp [capitalize, Function.comp_def]

/-- In PascalCase a text keeps its letters and digits in their order, but for their case. -/
theorem lowerCase_pascalCase (text : String) :
    lowerCase (pascalCase text) = lowerCase (String.ofList (text.toList.filter Char.isAlphanum)) := by
  rw [← String.toList_inj, toList_lowerCase, toList_lowerCase, pascalCase, String.toList_ofList, String.toList_ofList,
    List.map_flatMap, ← flatten_words]
  simp only [map_toLower_capitalize]
  rw [← List.map_flatMap, List.flatMap_id']

/-- Letters and digits are these in lower case, too. -/
theorem isAlphanum_toLower (c : Char) : c.toLower.isAlphanum = c.isAlphanum := by
  by_cases hc : c.isUpper = true
  · have halpha : c.isAlpha = true := by rw [Char.isAlpha, hc, Bool.true_or]
    rw [Char.isAlphanum, Char.isAlphanum, Char.isAlpha_toLower_eq_isAlpha, halpha, Bool.true_or, Bool.true_or]
  · rw [Char.toLower_eq_of_not_isUpper hc]

/-- PascalCase has letters and digits only. -/
theorem isAlphanum_of_mem_pascalCase {text : String} {c : Char} (h : c ∈ (pascalCase text).toList) :
    c.isAlphanum = true := by
  have hlower : c.toLower ∈ (lowerCase (pascalCase text)).toList := by
    rw [toList_lowerCase]
    exact List.mem_map_of_mem h
  rw [lowerCase_pascalCase, toList_lowerCase, String.toList_ofList] at hlower
  obtain ⟨kept, hkept, heq⟩ := List.mem_map.1 hlower
  rw [← isAlphanum_toLower, ← heq, isAlphanum_toLower]
  exact (List.mem_filter.1 hkept).2

/-! ### Text without capitals -/

/-- Without capitals the scan does not cut. -/
theorem scanWords_of_uncapitalized {mode : LetterCase} {word piece : List Char}
    (h : ∀ c ∈ piece, c.isUpper = false) : scanWords mode word piece = [word.reverse ++ piece] := by
  fun_induction scanWords mode word piece with
  | case1 mode word => simp
  | case2 mode word c => simp
  | case3 mode word c next rest hcut =>
    rw [h next (by simp)] at hcut
    exact absurd hcut.2 Bool.false_ne_true
  | case4 mode word c next rest _ hcut =>
    rw [h c (by simp)] at hcut
    exact absurd hcut.2.1 Bool.false_ne_true
  | case5 mode word c next rest _ _ ih =>
    rw [ih fun other hmem => h other (List.mem_cons_of_mem _ hmem)]
    simp

theorem mem_of_mem_pieces {cs piece : List Char} {c : Char} (hpiece : piece ∈ pieces cs) (hc : c ∈ piece) :
    c ∈ cs := by
  have hmem : c ∈ (pieces cs).flatten := List.mem_flatten.2 ⟨piece, hpiece, hc⟩
  rw [flatten_pieces] at hmem
  exact (List.mem_filter.1 hmem).1

/-- Without capitals, the words are the pieces. -/
theorem words_of_uncapitalized {cs : List Char} (h : ∀ c ∈ cs, c.isUpper = false) : words cs = pieces cs := by
  have hscan : ∀ piece ∈ pieces cs, scanWords .boundary [] piece = [piece] := fun piece hpiece =>
    scanWords_of_uncapitalized fun c hc => h c (mem_of_mem_pieces hpiece hc)
  rw [words, List.flatMap_congr hscan, List.flatMap_singleton']

/-- Without capitals, capitalising changes the first character alone. -/
theorem capitalize_of_uncapitalized {word : List Char} (h : ∀ c ∈ word, c.isUpper = false) :
    capitalize word = word.modifyHead Char.toUpper := by
  cases word with
  | nil => rfl
  | cons c rest =>
    have hrest : rest.map Char.toLower = rest := by
      refine (List.map_congr_left fun other hmem => ?_).trans (List.map_id rest)
      exact Char.toLower_eq_of_not_isUpper (Bool.eq_false_iff.1 (h other (List.mem_cons_of_mem _ hmem)))
    rw [capitalize, hrest, List.modifyHead_cons]

/-- Where one character stands between letters and digits, the pieces are what lies between its places. -/
theorem pieces_eq_splitOn {cs : List Char} {separator : Char} (h : ∀ c ∈ cs, c.isAlphanum = true ↔ c ≠ separator) :
    pieces cs = cs.splitOn separator := by
  induction cs with
  | nil => rfl
  | cons c rest ih =>
    obtain ⟨hc, hrest⟩ := List.forall_mem_cons.1 h
    rw [List.splitOn_cons_eq_if_modifyHead, pieces, ih hrest]
    by_cases heq : c = separator
    · rw [if_neg (fun halnum => hc.1 halnum heq), if_pos (beq_iff_eq.2 heq)]
    · rw [if_pos (hc.2 heq), if_neg (fun hbeq => heq (beq_iff_eq.1 hbeq))]
      obtain ⟨piece, more, hsplit⟩ := List.exists_cons_of_ne_nil (List.splitOn_ne_nil separator rest)
      rw [hsplit]
      rfl

/-- PascalCase of a text without capitals, whose letters and digits one character separates: the parts between its
places, the first character of each in upper case. -/
theorem pascalCase_of_separated {text : String} {separator : Char} (hlower : ∀ c ∈ text.toList, c.isUpper = false)
    (hseparator : ∀ c ∈ text.toList, c.isAlphanum = true ↔ c ≠ separator) :
    (pascalCase text).toList = (text.toList.splitOn separator).flatMap (List.modifyHead Char.toUpper) := by
  have hcapitalize : ∀ piece ∈ pieces text.toList, capitalize piece = piece.modifyHead Char.toUpper :=
    fun piece hpiece => capitalize_of_uncapitalized fun c hc => hlower c (mem_of_mem_pieces hpiece hc)
  rw [pascalCase, String.toList_ofList, words_of_uncapitalized hlower, List.flatMap_congr hcapitalize,
    pieces_eq_splitOn hseparator]

/-- Empty parts add nothing to what is put together, if nothing is made of them. -/
theorem flatMap_filter_ne_nil {f : List Char → List Char} (hf : f [] = []) (parts : List (List Char)) :
    (parts.filter (· ≠ [])).flatMap f = parts.flatMap f := by
  induction parts with
  | nil => rfl
  | cons part more ih =>
    by_cases hpart : part = []
    · rw [List.filter_cons_of_neg (by simp [hpart]), ih, List.flatMap_cons, hpart, hf, List.nil_append]
    · rw [List.filter_cons_of_pos (by simp [hpart]), List.flatMap_cons, List.flatMap_cons, ih]

/-- Such text starts with the first character that is no separator. -/
theorem head?_flatMap_splitOn (cs : List Char) (separator : Char) :
    ((cs.splitOn separator).flatMap (List.modifyHead Char.toUpper)).head? =
      (cs.find? (· != separator)).map Char.toUpper := by
  induction cs with
  | nil => rfl
  | cons c rest ih =>
    rw [List.splitOn_cons_eq_if_modifyHead]
    by_cases heq : c = separator
    · rw [if_pos (beq_iff_eq.2 heq), List.find?_cons_of_neg (by simp [heq])]
      exact ih
    · rw [if_neg (fun hbeq => heq (beq_iff_eq.1 hbeq)), List.find?_cons_of_pos (by simp [heq])]
      obtain ⟨part, more, hsplit⟩ := List.exists_cons_of_ne_nil (List.splitOn_ne_nil separator rest)
      rw [hsplit]
      rfl

end Scaffold.Text
