import Scaffold.Proofs.Section.Simultaneous

/-!
# Sections that are filled again

Edits that keep the marker lines can be applied again and again: a section whose content holds no marker is
found where it was, with the new content for its body, so the next edit of it overwrites that content and leaves
no trace of it.  A document that has been edited any number of times is therefore the original document with the
last content in each section, and what counts of two plans for the same sections is the second.

As for plans whose order does not matter, a document is described by what stands for each line of the original
one (`replacedLines`).  Here several of the edits may be of one section; the latest comes first in the list, so
it is the one that the description takes.

## Main Definitions

* `Refillable` — edits that can be applied again and again
* `Document.spanOf` — where the section of an edit stands

## Main Statements

* `Refillable.apply_replacedLines` — one more edit, after any others, of the same or of other sections
* `Refillable.applyText_applyText` — a second plan undoes a first one
-/

namespace Scaffold.Section

open Text

/-- Edits of sections that share no line, which keep the marker lines and bring in no others.  `span` says where
the section of each edit stands. -/
structure Refillable (document : Document) (span : Edit → Span) (edits : List Edit) : Prop where
  /-- Each section is found in the document. -/
  located : ∀ edit ∈ edits, document.findSection edit.markers = .ok (span edit)
  /-- Two edits are of one section, or of sections that share no line. -/
  apart : ∀ a ∈ edits, ∀ b ∈ edits, a.markers = b.markers ∨ (span a).Apart (span b)
  /-- Marker lines stay. -/
  keeps : ∀ edit ∈ edits, edit.keepMarkers = true
  /-- The content is not empty, and ends where a line ends. -/
  ended : ∀ edit ∈ edits, endsWithNewline edit.content = true
  /-- No line of the content of an edit is a marker of a section. -/
  unmarked : ∀ a ∈ edits, ∀ b ∈ edits, ∀ line ∈ lines a.content,
    b.markers.isOpening line = false ∧ b.markers.isClosing line = false

/-- Where the section of an edit stands, if it is found. -/
def Document.spanOf (document : Document) (edit : Edit) : Span :=
  (document.findSection edit.markers).toOption.getD ⟨0, 0⟩

theorem Document.spanOf_eq {document : Document} {edit : Edit} {place : Span}
    (h : document.findSection edit.markers = .ok place) : document.spanOf edit = place := by
  rw [spanOf, h]
  rfl

variable {document : Document} {span : Edit → Span} {edits : List Edit}

/-! ## A cut with another body -/

namespace Cut

variable {cut : Cut}

/-- A cut with other lines between its marker lines. -/
def withBody (cut : Cut) (body : List String) : Cut :=
  { cut with body }

/-- What stands for the section of a cut after edits, marker lines included. -/
def sectionLines (cut : Cut) (document : Document) (span : Edit → Span) (edits : List Edit) :
    List String :=
  replacedLine document span edits cut.opening cut.span.opening ++
    (replacedFrom document span edits (cut.span.opening + 1) cut.body ++
      replacedLine document span edits cut.closing cut.span.closing)

/-- A document after edits, section by section: other lines stand around the section of a cut, and other lines
in it. -/
theorem replacedLines_eq_withBody {body : List String} (hlines : cut.lines = document.lines)
    (hsection : cut.sectionLines document span edits = cut.opening :: (body ++ [cut.closing])) :
    replacedLines document span edits = ((cut.among document span edits).withBody body).lines := by
  have hsplit : replacedLines document span edits =
      replacedFrom document span edits 0 cut.before ++ (cut.sectionLines document span edits ++
        replacedFrom document span edits (cut.span.closing + 1) cut.after) := by
    rw [replacedLines, ← hlines, replacedFrom_lines, sectionLines]
    simp only [List.append_assoc]
  rw [hsplit, hsection]
  simp [Cut.lines, withBody, among]

end Cut

theorem terminated_of_endsWithNewline {content terminator : String}
    (h : endsWithNewline content = true) : Document.terminated content terminator = content := by
  rw [Document.terminated, if_pos (.inr h)]

namespace Refillable

theorem mono {edits' : List Edit} (h : Refillable document span edits)
    (hsub : edits' ⊆ edits) : Refillable document span edits' where
  located := fun edit hmem => h.located edit (hsub hmem)
  apart := fun a ha b hb => h.apart a (hsub ha) b (hsub hb)
  keeps := fun edit hmem => h.keeps edit (hsub hmem)
  ended := fun edit hmem => h.ended edit (hsub hmem)
  unmarked := fun a ha b hb => h.unmarked a (hsub ha) b (hsub hb)

/-- The content of an edit goes into the document as it is. -/
theorem splicedContent_eq (h : Refillable document span edits) {edit : Edit} (hmem : edit ∈ edits)
    (place : Span) : document.splicedContent place edit.content = edit.content :=
  terminated_of_endsWithNewline (h.ended edit hmem)

/-- Edits of one section have one span. -/
theorem span_eq (h : Refillable document span edits) {a b : Edit} (ha : a ∈ edits) (hb : b ∈ edits)
    (hmarkers : a.markers = b.markers) : span a = span b := by
  have hlocated := h.located a ha
  rw [hmarkers, h.located b hb] at hlocated
  exact (Except.ok.inj hlocated).symm

/-! ## Edit by edit -/

/-- What stands for the section of an edit after others: its marker lines, and between them lines none of which
is its closing marker. -/
theorem exists_body {edit : Edit} {cut : Cut} (h : Refillable document span (edit :: edits))
    (hlines : cut.lines = document.lines) (brackets : cut.Brackets edit.markers)
    (hspan : cut.span = span edit) :
    ∃ body, body ≠ [] ∧ (∀ line ∈ body, edit.markers.isClosing line = false) ∧
      cut.sectionLines document span edits = cut.opening :: (body ++ [cut.closing]) := by
  have hclosing : cut.span.closing = cut.span.opening + 1 + cut.body.length := rfl
  -- The latest edit of the section decides; edits of other sections are passed over.
  induction edits with
  | nil =>
    have hself : ∀ line index, replacedLine document span [] line index = [line] :=
      fun line index => replacedLine_eq_self (by simp)
    have hbody : replacedFrom document span [] (cut.span.opening + 1) cut.body = cut.body := by
      rw [replacedFrom_eq_flatMap fun index _ _ line => hself line index]
      exact List.flatMap_singleton' cut.body
    refine ⟨cut.body, brackets.nonempty, brackets.unclosed, ?_⟩
    rw [Cut.sectionLines, hself, hself, hbody]
    rfl
  | cons latest edits ih =>
    have hedit : edit ∈ edit :: latest :: edits := List.mem_cons_self ..
    have hlatest : latest ∈ edit :: latest :: edits := by simp
    rcases h.apart edit hedit latest hlatest with hmarkers | hapart
    · have hspan' : cut.span = span latest := hspan.trans (h.span_eq hedit hlatest hmarkers)
      have hcontent : cut.inserted latest.content = latest.content :=
        terminated_of_endsWithNewline (h.ended latest hlatest)
      have hne : latest.content ≠ "" := ne_empty_of_endsWithNewline (h.ended latest hlatest)
      refine ⟨lines latest.content, lines_ne_nil hne, fun line hline => ?_, ?_⟩
      · exact (h.unmarked latest hlatest edit hedit line hline).2
      · rw [Cut.sectionLines, replacedLine_cons_opening hlines hspan', hcontent,
          replacedFrom_cons_body hspan', replacedLine_cons_closing hspan', h.keeps latest hlatest]
        simp [Cut.kept]
    · have hpass : ∀ index, cut.span.opening ≤ index → index ≤ cut.span.closing → ∀ line,
          replacedLine document span (latest :: edits) line index =
            replacedLine document span edits line index := by
        intro index hle hge line
        refine replacedLine_cons_of_not_covers ?_
        rw [← hspan, Span.Apart] at hapart
        rw [Edit.covers, decide_eq_false_iff_not]
        omega
      have hbody : replacedFrom document span (latest :: edits) (cut.span.opening + 1) cut.body =
          replacedFrom document span edits (cut.span.opening + 1) cut.body :=
        replacedFrom_congr fun index hle hlt => hpass index (by omega) (by omega)
      rw [Cut.sectionLines, hpass _ (Nat.le_refl _) (by omega), hbody,
        hpass _ (by omega) (Nat.le_refl _)]
      exact ih (h.mono (by simp))

/-- One more edit, after any others, finds its section and adds its own replacement. -/
theorem apply_replacedLines {edit : Edit} (h : Refillable document span (edit :: edits))
    (canonical : Canonical (replacedLines document span edits)) :
    edit.apply ⟨replacedLines document span edits⟩ =
        .ok ⟨replacedLines document span (edit :: edits)⟩ ∧
      Canonical (replacedLines document span (edit :: edits)) := by
  have hedit : edit ∈ edit :: edits := List.mem_cons_self ..
  obtain ⟨cut, hlines, brackets, hspan⟩ := exists_cut_of_findSection (h.located edit hedit)
  obtain ⟨body, hne, hunclosed, hsection⟩ := h.exists_body hlines brackets hspan
  have hcurrent := Cut.replacedLines_eq_withBody hlines hsection
  have hunopened : ∀ line ∈ replacedFrom document span edits 0 cut.before,
      edit.markers.isOpening line = false := by
    intro line hline
    rcases mem_replacedFrom hline with hold | ⟨other, hother, -, -, hcontent⟩
    · exact brackets.unopened line hold
    · have hmem : other ∈ edit :: edits := List.mem_cons_of_mem _ hother
      rw [h.splicedContent_eq hmem] at hcontent
      exact (h.unmarked other hmem edit hedit line hcontent).1
  have brackets' : ((cut.among document span edits).withBody body).Brackets edit.markers :=
    ⟨hunopened, brackets.opens, hunclosed, brackets.closes, hne⟩
  -- The body is what the edit replaces, so it does not show in the result.
  have hnext : replacedLines document span (edit :: edits) =
      ((cut.among document span edits).withBody body).rewritten edit.content edit.keepMarkers :=
    replacedLines_cons hlines hspan
  rw [hnext]
  refine ⟨?_, Cut.canonical_rewritten (hcurrent ▸ canonical) _ _⟩
  exact rewrite_eq_ok canonical hcurrent.symm brackets' edit.content edit.keepMarkers

/-- Any series of further edits adds its replacements, the latest first. -/
theorem foldlM_apply {rest : List Edit} (h : Refillable document span (rest ++ edits))
    (canonical : Canonical (replacedLines document span edits)) :
    rest.foldlM (fun current edit => edit.apply current) ⟨replacedLines document span edits⟩ =
        .ok ⟨replacedLines document span (rest.reverse ++ edits)⟩ ∧
      Canonical (replacedLines document span (rest.reverse ++ edits)) := by
  induction rest generalizing edits with
  | nil => exact ⟨rfl, canonical⟩
  | cons edit rest ih =>
    have hedit : Refillable document span (edit :: edits) := h.mono (by simp)
    have hrest : Refillable document span (rest ++ edit :: edits) :=
      h.mono (List.perm_middle (a := edit)).subset
    obtain ⟨happly, hcanonical⟩ := hedit.apply_replacedLines canonical
    rw [List.foldlM_cons, happly, List.reverse_cons, List.append_assoc]
    exact ih hrest hcanonical

/-! ## Plan after plan -/

/-- Edits do not show when each has a later edit of its section. -/
theorem replacedLines_append {later : List Edit} (h : Refillable document span (later ++ edits))
    (hcovered : ∀ edit ∈ edits, ∃ other ∈ later, edit.markers = other.markers) :
    replacedLines document span (later ++ edits) = replacedLines document span later := by
  refine replacedFrom_congr fun index _ _ line => ?_
  have hfind : (later ++ edits).find? (Edit.covers span index) =
      later.find? (Edit.covers span index) := by
    rw [List.find?_append]
    cases hlater : later.find? (Edit.covers span index) with
    | some other => rfl
    | none =>
      have hnone : edits.find? (Edit.covers span index) = none := by
        refine List.find?_eq_none.2 fun edit hmem hcovers => ?_
        obtain ⟨other, hother, hmarkers⟩ := hcovered edit hmem
        have hspan : span edit = span other :=
          h.span_eq (List.mem_append_right _ hmem) (List.mem_append_left _ hother) hmarkers
        refine List.find?_eq_none.1 hlater other hother ?_
        rwa [Edit.covers, ← hspan]
      rw [hnone]
      rfl
  rw [replacedLine, replacedLine, hfind]

/-- The text that a plan gives, from the lines that its edits leave. -/
theorem applyText_eq_ok {plan : Plan} {text : String} {list : List String}
    (h : plan.edits.foldlM (fun current edit => edit.apply current) (.ofText text) = .ok ⟨list⟩) :
    plan.applyText text = .ok (String.join list) := by
  rw [Plan.applyText, Plan.apply, h]
  rfl

/-- A plan of such edits succeeds, and a second plan for the same sections gives on its result what it gives on
the original text. -/
theorem applyText_applyText {text : String} {first second : Plan}
    (h : Refillable (.ofText text) span (second.edits ++ first.edits))
    (hcovered : ∀ edit ∈ first.edits, ∃ other ∈ second.edits, edit.markers = other.markers) :
    ∃ result, first.applyText text = .ok result ∧
      second.applyText result = second.applyText text := by
  have hnil : replacedLines (.ofText text) span [] = lines text := replacedLines_nil
  have hcanonical : Canonical (replacedLines (.ofText text) span []) := by
    rw [hnil]
    exact canonical_lines text
  have hfirst : Refillable (.ofText text) span (first.edits ++ []) := h.mono (by simp)
  have hsecond : Refillable (.ofText text) span (second.edits ++ []) := h.mono (by simp)
  have hboth : Refillable (.ofText text) span
      (second.edits ++ (first.edits.reverse ++ [])) := h.mono (by simp)
  obtain ⟨hrunFirst, hresult⟩ := hfirst.foldlM_apply hcanonical
  obtain ⟨hrunSecond, -⟩ := hsecond.foldlM_apply hcanonical
  obtain ⟨hrunBoth, -⟩ := hboth.foldlM_apply hresult
  -- The second plan leaves the same lines, whether the first one was applied before or not.
  have hsame : replacedLines (.ofText text) span
        (second.edits.reverse ++ (first.edits.reverse ++ [])) =
      replacedLines (.ofText text) span (second.edits.reverse ++ []) := by
    have hreverse : Refillable (.ofText text) span (second.edits.reverse ++ first.edits.reverse) :=
      h.mono (by simp)
    rw [List.append_nil, List.append_nil]
    refine hreverse.replacedLines_append fun edit hmem => ?_
    obtain ⟨other, hother, hmarkers⟩ := hcovered edit (List.mem_reverse.1 hmem)
    exact ⟨other, List.mem_reverse.2 hother, hmarkers⟩
  rw [hnil] at hrunFirst hrunSecond
  refine ⟨_, applyText_eq_ok hrunFirst, ?_⟩
  rw [← lines_join hresult, hsame] at hrunBoth
  exact (applyText_eq_ok hrunBoth).trans (applyText_eq_ok hrunSecond).symm

end Refillable

end Scaffold.Section
