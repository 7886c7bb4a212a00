import Scaffold.Proofs.Section.Representation

/-!
# Plans as edits of text, one after the other

A plan hands documents from edit to edit and makes text of the last one only.  It might as well make text of each,
because every document along the way is canonical: the document of a text at first, and a document that an edit has
put together after that.  So the edits may be applied to text one by one, a plan may be taken apart at any place, and
the failure of a plan is the failure of one edit on the text that those before it have left.

## Main Definitions

* `Edit.applyText` — one edit of a text

## Main Statements

* `Edit.apply_ofText` — an edit of the document of a text is an edit of the text
* `foldlM_apply_ofText` — so it is for edits in turn
* `applyText_append` — a plan may be taken apart anywhere
* `applyText_sequential` — plans on documents and edits of text
-/

namespace Scaffold.Section

/-- Applies one edit to a text. -/
def Edit.applyText (edit : Edit) (text : String) : Except Error String :=
  rewriteText text edit.markers edit.content edit.keepMarkers

/-- An edit of the document of a text gives the document of the edited text, or the same error. -/
theorem Edit.apply_ofText (edit : Edit) (text : String) :
    edit.apply (.ofText text) = (edit.applyText text).map Document.ofText := by
  rw [Edit.apply, Edit.applyText, rewriteText]
  cases hrewrite : (Document.ofText text).rewrite edit.markers edit.content edit.keepMarkers with
  | error error => rfl
  | ok result =>
    have hresult : Document.ofText result.toText = result :=
      ofText_toText_iff.2 (canonical_of_rewrite hrewrite)
    show Except.ok result = Except.ok (Document.ofText result.toText)
    rw [hresult]

/-- Edits of the document of a text, in turn, give the document of the text that they give. -/
theorem foldlM_apply_ofText (edits : List Edit) (text : String) :
    edits.foldlM (fun current (edit : Edit) => edit.apply current) (Document.ofText text) =
      (edits.foldlM (fun current (edit : Edit) => edit.applyText current) text).map
        Document.ofText := by
  induction edits generalizing text with
  | nil => rfl
  | cons edit rest ih =>
    rw [List.foldlM_cons, List.foldlM_cons, edit.apply_ofText]
    cases edit.applyText text with
    | error error => rfl
    | ok next => exact ih next

/-- A plan on a text is its edits of text in turn. -/
theorem applyText_eq_foldlM (plan : Plan) (text : String) :
    plan.applyText text = plan.edits.foldlM (fun current (edit : Edit) => edit.applyText current) text := by
  rw [Plan.applyText, Plan.apply, foldlM_apply_ofText]
  cases plan.edits.foldlM (fun current (edit : Edit) => edit.applyText current) text with
  | error error => rfl
  | ok result => exact congrArg Except.ok (Document.toText_ofText result)

/-- A plan on the document of a text gives the document of the text that it gives. -/
theorem apply_ofText (plan : Plan) (text : String) :
    plan.apply (.ofText text) = (plan.applyText text).map Document.ofText := by
  rw [applyText_eq_foldlM]
  exact foldlM_apply_ofText plan.edits text

/-- A plan may be taken apart anywhere: its second part is applied to the text that the first part gives. -/
theorem applyText_append (first second : List Edit) (text : String) :
    (Plan.mk (first ++ second)).applyText text =
      (Plan.mk first).applyText text >>= (Plan.mk second).applyText := by
  have hsecond : (Plan.mk second).applyText =
      fun text => second.foldlM (fun current (edit : Edit) => edit.applyText current) text := by
    funext middle
    exact applyText_eq_foldlM ⟨second⟩ middle
  rw [hsecond, applyText_eq_foldlM, applyText_eq_foldlM, List.foldlM_append]

/-- A plan with an edit in front applies it first. -/
theorem applyText_cons (edit : Edit) (rest : List Edit) (text : String) :
    (Plan.mk (edit :: rest)).applyText text = edit.applyText text >>= (Plan.mk rest).applyText := by
  have hsingle : (Plan.mk [edit]).applyText text = edit.applyText text := by
    rw [applyText_eq_foldlM, List.foldlM_cons]
    cases edit.applyText text <;> rfl
  rw [← List.singleton_append, applyText_append, hsingle]

/-- A plan fails when one of its edits fails on the text that those before it give, and with the same error. -/
theorem applyText_eq_error_iff {edits : List Edit} {text : String} {error : Error} :
    (Plan.mk edits).applyText text = .error error ↔
      ∃ before edit after current, edits = before ++ edit :: after ∧
        (Plan.mk before).applyText text = .ok current ∧ edit.applyText current = .error error := by
  constructor
  · intro h
    induction edits generalizing text with
    | nil => cases h
    | cons edit rest ih =>
      rw [applyText_cons] at h
      cases hfirst : edit.applyText text with
      | error failure =>
        rw [hfirst] at h
        exact ⟨[], edit, rest, text, rfl, congrArg Except.ok (Document.toText_ofText text),
          hfirst.trans h⟩
      | ok next =>
        rw [hfirst] at h
        obtain ⟨before, failing, after, current, rfl, hbefore, hfails⟩ := ih h
        refine ⟨edit :: before, failing, after, current, rfl, ?_, hfails⟩
        rw [applyText_cons, hfirst]
        exact hbefore
  · rintro ⟨before, edit, after, current, rfl, hbefore, hfails⟩
    rw [applyText_append, hbefore]
    show (Plan.mk (edit :: after)).applyText current = .error error
    rw [applyText_cons, hfails]
    rfl

/-- A plan on a text overwrites one section of text after the other, up to the first failure, which it returns as it
is.  A plan of two parts is the second part on the text that the first part gives.  On the document of a text a plan
gives the document of the text that it gives on the text. -/
theorem applyText_sequential :
    (∀ (plan : Plan) text, plan.applyText text =
      plan.edits.foldlM (fun current (edit : Edit) =>
        rewriteText current edit.markers edit.content edit.keepMarkers) text) ∧
    (∀ (plan : Plan) text error, plan.applyText text = .error error ↔
      ∃ before edit after current, plan.edits = before ++ edit :: after ∧
        (Plan.mk before).applyText text = .ok current ∧
        rewriteText current edit.markers edit.content edit.keepMarkers = .error error) ∧
    (∀ first second text, (Plan.mk (first ++ second)).applyText text =
      (Plan.mk first).applyText text >>= (Plan.mk second).applyText) ∧
    ∀ (plan : Plan) text, let document := Document.ofText text
      (plan.apply document).map Document.toText = plan.applyText document.toText ∧
        plan.apply document = (plan.applyText text).map Document.ofText := by
  refine ⟨applyText_eq_foldlM, fun plan text error => ?_, applyText_append, fun plan text => ⟨?_, ?_⟩⟩
  · exact applyText_eq_error_iff
  · rw [Document.toText_ofText]
    rfl
  · exact apply_ofText plan text

end Scaffold.Section
