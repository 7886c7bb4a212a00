import Mathlib.Data.List.Pairwise
import Scaffold.Proofs.Section.Cut
import Scaffold.Section.Plan

/-!
# Plans whose order does not matter

Edits of a plan are applied one after the other, and each one searches the whole document again.  When
their sections lie apart, and no content brings in a line that a later section is found by, the search finds
the section where it was, whichever of the other edits were applied before.  So a plan can be read as
one simultaneous replacement, and every order of its edits gives the same text.

The proof keeps the original document and describes the current one by what stands for each original line
(`replacedLines`).  One edit adds its own lines to the description and leaves all others alone.

## Main Definitions

* `Span.Apart` — two sections that share no line
* `Independent` — edits whose order does not matter
* `replacedLines` — the lines of a document after all edits at once

## Main Statements

* `Independent.apply_replacedLines` — one more edit, after any others
* `applyText_of_perm` — every order of independent edits gives the simultaneous replacement
-/

namespace Scaffold.Section

open Text

/-- Two sections share no line, marker lines included. -/
def Span.Apart (a b : Span) : Prop :=
  a.closing < b.opening ∨ b.closing < a.opening

instance (a b : Span) : Decidable (a.Apart b) :=
  inferInstanceAs (Decidable (_ ∨ _))

theorem Span.Apart.symm {a b : Span} (h : a.Apart b) : b.Apart a :=
  Or.symm h

/-- Edits whose order does not matter.  `span` says where the section of each edit stands. -/
structure Independent (document : Document) (span : Edit → Span) (edits : List Edit) : Prop where
  /-- Each section is found in the document. -/
  located : ∀ edit ∈ edits, document.findSection edit.markers = .ok (span edit)
  /-- No two sections share a line. -/
  apart : edits.Pairwise fun a b => (span a).Apart (span b)
  /-- No line of the content of an edit, as it goes into the document, is the opening marker of a section
  that lies behind. -/
  unannounced : ∀ a ∈ edits, ∀ b ∈ edits, (span a).closing < (span b).opening →
    ∀ line ∈ lines (document.splicedContent (span a) a.content), b.markers.isOpening line = false

instance (document : Document) (span : Edit → Span) (edits : List Edit) :
    Decidable (Independent document span edits) :=
  decidable_of_iff
    ((∀ edit ∈ edits, document.findSection edit.markers = .ok (span edit)) ∧
      edits.Pairwise (fun a b => (span a).Apart (span b)) ∧
      ∀ a ∈ edits, ∀ b ∈ edits, (span a).closing < (span b).opening →
        ∀ line ∈ lines (document.splicedContent (span a) a.content),
          b.markers.isOpening line = false)
    ⟨fun h => ⟨h.1, h.2.1, h.2.2⟩, fun h => ⟨h.located, h.apart, h.unannounced⟩⟩

/-- Whether a line stands in the section of an edit. -/
def Edit.covers (span : Edit → Span) (index : Nat) (edit : Edit) : Bool :=
  (span edit).opening ≤ index ∧ index ≤ (span edit).closing

/-- What stands for a line after edits.  A section becomes its opening line, if marker lines stay, the
lines of the new content, and its closing line, if marker lines stay. -/
def replacedLine (document : Document) (span : Edit → Span) (edits : List Edit)
    (line : String) (index : Nat) : List String :=
  match edits.find? (Edit.covers span index) with
  | none => [line]
  | some edit =>
    if index = (span edit).opening then
      Cut.kept edit.keepMarkers line ++ lines (document.splicedContent (span edit) edit.content)
    else if index = (span edit).closing then Cut.kept edit.keepMarkers line
    else []

/-- What stands for a series of lines, the first of which has the given index. -/
def replacedFrom (document : Document) (span : Edit → Span) (edits : List Edit) :
    Nat → List String → List String
  | _, [] => []
  | index, line :: rest =>
    replacedLine document span edits line index ++
      replacedFrom document span edits (index + 1) rest

/-- The lines of a document after all edits at once. -/
def replacedLines (document : Document) (span : Edit → Span) (edits : List Edit) : List String :=
  replacedFrom document span edits 0 document.lines

variable {document : Document} {span : Edit → Span} {edits : List Edit}

/-! ## Line by line -/

/-- A line outside all sections stays. -/
theorem replacedLine_eq_self {line : String} {index : Nat}
    (h : ∀ edit ∈ edits, Edit.covers span index edit = false) :
    replacedLine document span edits line index = [line] := by
  have hnone : edits.find? (Edit.covers span index) = none :=
    List.find?_eq_none.2 fun edit hmem => by simp [h edit hmem]
  rw [replacedLine, hnone]

/-- An edit in front of others changes nothing outside its own section. -/
theorem replacedLine_cons_of_not_covers {edit : Edit} {line : String} {index : Nat}
    (h : Edit.covers span index edit = false) :
    replacedLine document span (edit :: edits) line index =
      replacedLine document span edits line index := by
  rw [replacedLine, replacedLine, List.find?_cons, h]

/-- An edit in front of others decides what becomes of its own section. -/
theorem replacedLine_cons_of_covers {edit : Edit} {line : String} {index : Nat}
    (h : Edit.covers span index edit = true) :
    replacedLine document span (edit :: edits) line index =
      if index = (span edit).opening then
        Cut.kept edit.keepMarkers line ++ lines (document.splicedContent (span edit) edit.content)
      else if index = (span edit).closing then Cut.kept edit.keepMarkers line
      else [] := by
  rw [replacedLine, List.find?_cons, h]

/-- A line that stands for another is that line, or comes from the content of an edit at its opening
marker. -/
theorem mem_replacedLine {line other : String} {index : Nat}
    (h : other ∈ replacedLine document span edits line index) :
    other = line ∨ ∃ edit ∈ edits, index = (span edit).opening ∧
      other ∈ lines (document.splicedContent (span edit) edit.content) := by
  have hkept : ∀ keepMarkers, other ∈ Cut.kept keepMarkers line → other = line := by
    intro keepMarkers hmem
    cases keepMarkers with
    | false => simp [Cut.kept] at hmem
    | true => simpa [Cut.kept] using hmem
  unfold replacedLine at h
  split at h
  · exact .inl (List.mem_singleton.1 h)
  · next edit hfind =>
    split at h
    · next hopening =>
      rcases List.mem_append.1 h with hmem | hmem
      · exact .inl (hkept _ hmem)
      · exact .inr ⟨edit, List.mem_of_find?_eq_some hfind, hopening, hmem⟩
    · split at h
      · exact .inl (hkept _ h)
      · simp at h

/-! ## Series of lines -/

theorem replacedFrom_append {start : Nat} {a b : List String} :
    replacedFrom document span edits start (a ++ b) =
      replacedFrom document span edits start a ++
        replacedFrom document span edits (start + a.length) b := by
  induction a generalizing start with
  | nil => rfl
  | cons line rest ih =>
    rw [List.cons_append, replacedFrom, replacedFrom, ih, List.append_assoc, List.length_cons,
      Nat.add_assoc start 1, Nat.add_comm 1]

/-- Series of lines are replaced alike when each line is. -/
theorem replacedFrom_congr {edits' : List Edit} {start : Nat} {list : List String}
    (h : ∀ index, start ≤ index → index < start + list.length → ∀ line,
      replacedLine document span edits line index = replacedLine document span edits' line index) :
    replacedFrom document span edits start list = replacedFrom document span edits' start list := by
  induction list generalizing start with
  | nil => rfl
  | cons line rest ih =>
    rw [List.length_cons] at h
    rw [replacedFrom, replacedFrom, h start (Nat.le_refl _) (by omega),
      ih fun index hle hlt => h index (by omega) (by omega)]

/-- A series of lines that are all replaced by one rule. -/
theorem replacedFrom_eq_flatMap {rule : String → List String} {start : Nat} {list : List String}
    (h : ∀ index, start ≤ index → index < start + list.length → ∀ line,
      replacedLine document span edits line index = rule line) :
    replacedFrom document span edits start list = list.flatMap rule := by
  induction list generalizing start with
  | nil => rfl
  | cons line rest ih =>
    rw [List.length_cons] at h
    rw [replacedFrom, h start (Nat.le_refl _) (by omega), List.flatMap_cons,
      ih fun index hle hlt => h index (by omega) (by omega)]

/-- Where a line comes from that stands in a series. -/
theorem mem_replacedFrom {start : Nat} {list : List String} {other : String}
    (h : other ∈ replacedFrom document span edits start list) :
    other ∈ list ∨ ∃ edit ∈ edits, start ≤ (span edit).opening ∧
      (span edit).opening < start + list.length ∧
      other ∈ lines (document.splicedContent (span edit) edit.content) := by
  induction list generalizing start with
  | nil => simp [replacedFrom] at h
  | cons line rest ih =>
    rw [replacedFrom, List.mem_append] at h
    rw [List.length_cons]
    rcases h with hfirst | hrest
    · rcases mem_replacedLine hfirst with rfl | ⟨edit, hmem, hopening, hcontent⟩
      · exact .inl (List.mem_cons_self ..)
      · exact .inr ⟨edit, hmem, by omega, by omega, hcontent⟩
    · rcases ih hrest with hmem | ⟨edit, hmem, hle, hlt, hcontent⟩
      · exact .inl (List.mem_cons_of_mem _ hmem)
      · exact .inr ⟨edit, hmem, by omega, by omega, hcontent⟩

/-! ## Around one section -/

/-- Edits of other sections leave the section of a cut as it is. -/
def Cut.among (cut : Cut) (document : Document) (span : Edit → Span) (edits : List Edit) : Cut :=
  { cut with
    before := replacedFrom document span edits 0 cut.before
    after := replacedFrom document span edits (cut.span.closing + 1) cut.after }

/-- The lines of a cut, section by section. -/
theorem Cut.replacedFrom_lines {cut : Cut} :
    replacedFrom document span edits 0 cut.lines =
      replacedFrom document span edits 0 cut.before ++
        (replacedLine document span edits cut.opening cut.span.opening ++
          (replacedFrom document span edits (cut.span.opening + 1) cut.body ++
            (replacedLine document span edits cut.closing cut.span.closing ++
              replacedFrom document span edits (cut.span.closing + 1) cut.after))) := by
  rw [Cut.lines, replacedFrom_append, Nat.zero_add, replacedFrom, replacedFrom_append, replacedFrom]
  rfl

/-- Among edits of sections that lie apart from it, the section of a cut keeps its lines. -/
theorem replacedLines_eq_among {cut : Cut} (hlines : cut.lines = document.lines)
    (hapart : ∀ edit ∈ edits, cut.span.Apart (span edit)) :
    replacedLines document span edits = (cut.among document span edits).lines := by
  have hself : ∀ index, cut.span.opening ≤ index → index ≤ cut.span.closing → ∀ line,
      replacedLine document span edits line index = [line] := by
    intro index hle hge line
    refine replacedLine_eq_self fun edit hmem => ?_
    have := hapart edit hmem
    simp only [Span.Apart] at this
    simp only [Edit.covers, decide_eq_false_iff_not]
    omega
  have hclosing : cut.span.closing = cut.span.opening + 1 + cut.body.length := rfl
  have hbody : replacedFrom document span edits (cut.span.opening + 1) cut.body = cut.body := by
    rw [replacedFrom_eq_flatMap fun index hle hlt => hself index (by omega) (by omega)]
    exact List.flatMap_singleton' cut.body
  rw [replacedLines, ← hlines, Cut.replacedFrom_lines, hself _ (Nat.le_refl _) (by omega),
    hself _ (by omega) (Nat.le_refl _), hbody]
  rfl

/-- An edit covers the lines of its cut. -/
theorem covers_eq_true {edit : Edit} {cut : Cut} (hspan : cut.span = span edit) {index : Nat}
    (hle : cut.span.opening ≤ index) (hge : index ≤ cut.span.closing) :
    Edit.covers span index edit = true := by
  rw [Edit.covers, ← hspan]
  exact decide_eq_true ⟨hle, hge⟩

/-- An edit covers no other line. -/
theorem covers_eq_false {edit : Edit} {cut : Cut} (hspan : cut.span = span edit) {index : Nat}
    (hout : index < cut.span.opening ∨ cut.span.closing < index) :
    Edit.covers span index edit = false := by
  rw [Edit.covers, ← hspan]
  exact decide_eq_false (by omega)

/-- Outside its section one more edit changes nothing. -/
theorem Cut.among_cons {edit : Edit} {cut : Cut} (hspan : cut.span = span edit) :
    cut.among document span (edit :: edits) = cut.among document span edits := by
  have hlength : cut.before.length = cut.span.opening := rfl
  have hbefore : replacedFrom document span (edit :: edits) 0 cut.before =
      replacedFrom document span edits 0 cut.before :=
    replacedFrom_congr fun index _ hlt line =>
      replacedLine_cons_of_not_covers (covers_eq_false hspan (.inl (by omega)))
  have hafter : replacedFrom document span (edit :: edits) (cut.span.closing + 1) cut.after =
      replacedFrom document span edits (cut.span.closing + 1) cut.after :=
    replacedFrom_congr fun index hle _ line =>
      replacedLine_cons_of_not_covers (covers_eq_false hspan (.inr (by omega)))
  rw [Cut.among, hbefore, hafter]
  rfl

/-- Between the marker lines one more edit leaves nothing. -/
theorem replacedFrom_cons_body {edit : Edit} {cut : Cut} (hspan : cut.span = span edit) :
    replacedFrom document span (edit :: edits) (cut.span.opening + 1) cut.body = [] := by
  have hclosing : cut.span.closing = cut.span.opening + 1 + cut.body.length := rfl
  have hnil : ∀ index, cut.span.opening + 1 ≤ index →
      index < cut.span.opening + 1 + cut.body.length → ∀ line,
      replacedLine document span (edit :: edits) line index = [] := by
    intro index hle hlt line
    rw [replacedLine_cons_of_covers (covers_eq_true hspan (by omega) (by omega)), ← hspan,
      if_neg (by omega), if_neg (by omega)]
  rw [replacedFrom_eq_flatMap hnil]
  simp

/-- At the opening line of its cut one more edit puts its content. -/
theorem replacedLine_cons_opening {edit : Edit} {cut : Cut} (hlines : cut.lines = document.lines)
    (hspan : cut.span = span edit) :
    replacedLine document span (edit :: edits) cut.opening cut.span.opening =
      Cut.kept edit.keepMarkers cut.opening ++ lines (cut.inserted edit.content) := by
  have hclosing : cut.span.closing = cut.span.opening + 1 + cut.body.length := rfl
  rw [replacedLine_cons_of_covers (covers_eq_true hspan (Nat.le_refl _) (by omega)), ← hspan,
    if_pos rfl, splicedContent_span hlines]

/-- At the closing line of its cut one more edit puts nothing. -/
theorem replacedLine_cons_closing {edit : Edit} {cut : Cut} (hspan : cut.span = span edit) :
    replacedLine document span (edit :: edits) cut.closing cut.span.closing =
      Cut.kept edit.keepMarkers cut.closing := by
  have hclosing : cut.span.closing = cut.span.opening + 1 + cut.body.length := rfl
  rw [replacedLine_cons_of_covers (covers_eq_true hspan (by omega) (Nat.le_refl _)), ← hspan,
    if_neg (by omega), if_pos rfl]

/-- One more edit exchanges the body of its cut, and leaves what the others did. -/
theorem replacedLines_cons {edit : Edit} {cut : Cut} (hlines : cut.lines = document.lines)
    (hspan : cut.span = span edit) :
    replacedLines document span (edit :: edits) =
      (cut.among document span edits).rewritten edit.content edit.keepMarkers := by
  rw [← Cut.among_cons hspan, replacedLines, ← hlines, Cut.replacedFrom_lines,
    replacedLine_cons_opening hlines hspan, replacedFrom_cons_body hspan,
    replacedLine_cons_closing hspan, Cut.rewritten]
  simp only [List.nil_append, List.append_assoc]
  rfl

/-! ## Edit by edit -/

namespace Independent

/-- Some of the edits, in any order, are independent. -/
theorem of_subperm {edits' : List Edit} (h : Independent document span edits)
    (hsub : edits'.Subperm edits) : Independent document span edits' where
  located := fun edit hmem => h.located edit (hsub.subset hmem)
  apart := by
    obtain ⟨middle, hperm, hsublist⟩ := hsub
    exact (hperm.pairwise_iff Span.Apart.symm).1 (h.apart.sublist hsublist)
  unannounced := fun a ha b hb => h.unannounced a (hsub.subset ha) b (hsub.subset hb)

/-- No line is covered twice. -/
theorem eq_of_covers (h : Independent document span edits) {index : Nat} {a b : Edit}
    (ha : a ∈ edits) (hb : b ∈ edits) (hcoversA : Edit.covers span index a = true)
    (hcoversB : Edit.covers span index b = true) : a = b := by
  refine Classical.byContradiction fun hne => ?_
  have : Std.Symm fun a b => (span a).Apart (span b) := ⟨fun _ _ => Span.Apart.symm⟩
  have hapart := h.apart.forall ha hb hne
  simp only [Edit.covers, decide_eq_true_eq] at hcoversA hcoversB
  simp only [Span.Apart] at hapart
  omega

/-- The simultaneous replacement does not depend on the order of the edits. -/
theorem replacedLines_perm (h : Independent document span edits) {edits' : List Edit}
    (hperm : edits.Perm edits') :
    replacedLines document span edits = replacedLines document span edits' := by
  refine replacedFrom_congr fun index _ _ line => ?_
  rw [replacedLine, replacedLine,
    find?_perm hperm fun a ha b hb hcoversA hcoversB => h.eq_of_covers ha hb hcoversA hcoversB]

/-- One more edit is found at its section after any others, and adds its own replacement. -/
theorem apply_replacedLines {edit : Edit} (h : Independent document span (edit :: edits))
    (canonical : Canonical (replacedLines document span edits)) :
    edit.apply ⟨replacedLines document span edits⟩ =
        .ok ⟨replacedLines document span (edit :: edits)⟩ ∧
      Canonical (replacedLines document span (edit :: edits)) := by
  have hmem : edit ∈ edit :: edits := List.mem_cons_self ..
  obtain ⟨cut, hlines, brackets, hspan⟩ := exists_cut_of_findSection (h.located edit hmem)
  have hapart : ∀ other ∈ edits, cut.span.Apart (span other) := by
    rw [hspan]
    exact (List.pairwise_cons.1 h.apart).1
  have hamong := replacedLines_eq_among hlines hapart
  have hcons : replacedLines document span (edit :: edits) =
      (cut.among document span edits).rewritten edit.content edit.keepMarkers :=
    replacedLines_cons hlines hspan
  -- The search could be misled in front of the section only: by a line of an edit applied there.
  have hunopened : ∀ line ∈ replacedFrom document span edits 0 cut.before,
      edit.markers.isOpening line = false := by
    intro line hline
    rcases mem_replacedFrom hline with hold | ⟨other, hother, -, hlt, hcontent⟩
    · exact brackets.unopened line hold
    · have hlength : cut.before.length = (span edit).opening := by rw [← hspan]; rfl
      have hclosing : (span edit).opening ≤ (span edit).closing := by
        rw [← hspan]
        show cut.before.length ≤ cut.before.length + 1 + cut.body.length
        omega
      have hbehind := hapart other hother
      rw [hspan, Span.Apart] at hbehind
      exact h.unannounced other (List.mem_cons_of_mem _ hother) edit hmem (by omega) line hcontent
  have brackets' : (cut.among document span edits).Brackets edit.markers :=
    ⟨hunopened, brackets.opens, brackets.unclosed, brackets.closes, brackets.nonempty⟩
  rw [hcons]
  refine ⟨?_, Cut.canonical_rewritten (hamong ▸ canonical) _ _⟩
  exact rewrite_eq_ok canonical hamong.symm brackets' edit.content edit.keepMarkers

/-- Any series of further edits adds its replacements. -/
theorem foldlM_apply {rest : List Edit} (h : Independent document span (rest ++ edits))
    (canonical : Canonical (replacedLines document span edits)) :
    rest.foldlM (fun current edit => edit.apply current) ⟨replacedLines document span edits⟩ =
      .ok ⟨replacedLines document span (rest.reverse ++ edits)⟩ := by
  induction rest generalizing edits with
  | nil => rfl
  | cons edit rest ih =>
    have hedit : Independent document span (edit :: edits) :=
      h.of_subperm ((List.sublist_append_right rest edits).cons_cons edit).subperm
    have hrest : Independent document span (rest ++ edit :: edits) :=
      h.of_subperm List.perm_middle.subperm
    obtain ⟨happly, hcanonical⟩ := hedit.apply_replacedLines canonical
    rw [List.foldlM_cons, happly, List.reverse_cons, List.append_assoc]
    exact ih hrest hcanonical

end Independent

/-- Without edits nothing is replaced. -/
theorem replacedLines_nil : replacedLines document span [] = document.lines := by
  rw [replacedLines, replacedFrom_eq_flatMap fun _ _ _ _ => replacedLine_eq_self (by simp)]
  exact List.flatMap_singleton' _

/-- Independent edits succeed in every order, and every order gives the text in which all sections are
replaced at once. -/
theorem applyText_of_perm {text : String} {span : Edit → Span} {edits : List Edit}
    (independent : Independent (.ofText text) span edits) (plan : Plan)
    (perm : plan.edits.Perm edits) :
    plan.applyText text = .ok (String.join (replacedLines (.ofText text) span edits)) := by
  have hplan : Independent (.ofText text) span (plan.edits ++ []) := by
    rw [List.append_nil]
    exact independent.of_subperm perm.subperm
  have hcanonical : Canonical (replacedLines (.ofText text) span []) := by
    rw [replacedLines_nil]
    exact canonical_lines text
  have hrun := hplan.foldlM_apply hcanonical
  rw [replacedLines_nil, List.append_nil,
    ← independent.replacedLines_perm (perm.symm.trans plan.edits.reverse_perm.symm)] at hrun
  rw [Plan.applyText, Plan.apply]
  exact congrArg (fun outcome => outcome.map Document.toText) hrun

/-- Two sections and a line between them. -/
def twoSections : String :=
  "A1\nold\nA2\nbetween\nB1\nold\nB2\n"

/-- New content for the first section, with the closing marker of the second. -/
def editFirst : Edit :=
  { markers := ⟨"A1", "A2"⟩, content := "B2\nnew" }

/-- New content for the second section, with the opening marker of the first. -/
def editSecond : Edit :=
  { markers := ⟨"B1\n", "B2\n"⟩, content := "A1\n", keepMarkers := false }

/-- The sections of the two edits. -/
def spanOfTwo (edit : Edit) : Span :=
  if edit = editFirst then ⟨0, 2⟩ else ⟨4, 6⟩

/-- Content may hold the opening marker of a section in front, and the closing marker of any. -/
theorem applyText_of_perm_twoSections :
    Independent (.ofText twoSections) spanOfTwo [editFirst, editSecond] ∧
      (⟨[editSecond, editFirst]⟩ : Plan).applyText twoSections =
        .ok "A1\nB2\nnew\nA2\nbetween\nA1\n" := by
  have independent : Independent (.ofText twoSections) spanOfTwo [editFirst, editSecond] := by
    decide +kernel
  have hjoin : String.join
      (replacedLines (.ofText twoSections) spanOfTwo [editFirst, editSecond]) =
        "A1\nB2\nnew\nA2\nbetween\nA1\n" := by
    decide +kernel
  refine ⟨independent, ?_⟩
  rw [applyText_of_perm independent ⟨[editSecond, editFirst]⟩ (List.Perm.swap ..), hjoin]

end Scaffold.Section
