import Mathlib
import Scaffold.Generator.Basic
import Scaffold.Proofs.Block
import Scaffold.Proofs.Section.Refilling
import Scaffold.Proofs.Traversal
import Scaffold.Template.Engine

/-!
# Regenerating a document again

The edits of a plan have the markers of the configured sections, whatever the catalog is and whatever the template
engine makes of it; only their contents differ.  So the plans for two catalogs are plans for the same sections, and the
second leaves nothing of what the first has written, as long as no block holds a marker.

## Main Definitions

* `Config.Unmarked` — text without a marker of a configuration

## Main Statements

* `Generator.generate_forgets` — a document that has been regenerated is regenerated like the original one
-/

namespace Scaffold

open Text

/-- No line of a text is a marker of a section that the configuration names. -/
def Config.Unmarked (config : Config) (text : String) : Prop :=
  ∀ line ∈ lines text, ∀ section' ∈ config.sections,
    (section'.markers config.commentPrefix).isOpening line = false ∧
      (section'.markers config.commentPrefix).isClosing line = false

instance (config : Config) (text : String) : Decidable (config.Unmarked text) :=
  inferInstanceAs (Decidable (∀ line ∈ lines text, ∀ section' ∈ config.sections, _ ∧ _))

section

variable {engine : TemplateEngine} {config : Config} {generator : Generator engine}

/-- A generator that has been made of a configuration is made of its templates, and the configuration is valid. -/
theorem TemplateEngine.generator_eq_ok (accepted : engine.generator config = .ok generator) :
    config.validate = .ok () ∧ generator.config = config ∧ engine.renderer config = .ok generator.renderer := by
  unfold TemplateEngine.generator at accepted
  split at accepted
  · cases accepted
  · next hvalid =>
    obtain ⟨renderer, hrenderer, heq⟩ := exists_of_bind_eq_ok accepted
    cases heq
    exact ⟨hvalid, rfl, hrenderer⟩

end

namespace Generator

variable {engine : TemplateEngine} {config : Config} {generator : Generator engine} {catalog : Catalog}
  {plan : Section.Plan}

theorem config_eq (accepted : engine.generator config = .ok generator) :
    generator.config = config :=
  (TemplateEngine.generator_eq_ok accepted).2.1

/-- What an edit takes from its section, whatever the context. -/
theorem editFor_eq_ok {context : Json} {section' : SectionConfig} {edit : Section.Edit}
    (h : generator.editFor context section' = .ok edit) :
    edit.markers = section'.markers generator.config.commentPrefix ∧
      edit.keepMarkers = section'.keepMarkers ∧ endsWithNewline edit.content = true := by
  obtain ⟨block, hblock, hedit⟩ := exists_of_bind_eq_ok h
  obtain ⟨body, -, hcomposed⟩ := exists_of_bind_eq_ok hblock
  cases hedit
  cases hcomposed
  exact ⟨rfl, rfl, Block.endsWithNewline_composeBlock ..⟩

/-- A plan has an edit for each section, and no others. -/
theorem mem_of_plan_eq_ok (planned : generator.plan catalog = .ok plan) :
    (∀ section' ∈ generator.config.sections, ∃ edit ∈ plan.edits,
        edit.markers = section'.markers generator.config.commentPrefix) ∧
      ∀ edit ∈ plan.edits, ∃ section' ∈ generator.config.sections,
        edit.markers = section'.markers generator.config.commentPrefix ∧
          edit.keepMarkers = section'.keepMarkers ∧ endsWithNewline edit.content = true := by
  unfold Generator.plan at planned
  split at planned
  · cases planned
  · next context hcontext =>
    obtain ⟨edits, hedits, hplan⟩ := exists_of_bind_eq_ok planned
    cases hplan
    obtain ⟨hall, honly⟩ := mem_of_mapM_eq_ok hedits
    constructor
    · intro section' hmem
      obtain ⟨edit, hedit, h⟩ := hall section' hmem
      exact ⟨edit, hedit, (editFor_eq_ok h).1⟩
    · intro edit hmem
      obtain ⟨section', hsection, h⟩ := honly edit hmem
      exact ⟨section', hsection, editFor_eq_ok h⟩

/-- Edits for sections that share no line can be applied again and again, if no content holds a marker. -/
theorem refillable {text : String} {span : SectionConfig → Section.Span} {edits : List Section.Edit}
    (keeps : ∀ section' ∈ config.sections, section'.keepMarkers = true)
    (located : ∀ section' ∈ config.sections,
      (Section.Document.ofText text).findSection (section'.markers config.commentPrefix) =
        .ok (span section'))
    (apart : config.sections.Pairwise fun a b => (span a).Apart (span b))
    (hedits : ∀ edit ∈ edits, ∃ section' ∈ config.sections,
      edit.markers = section'.markers config.commentPrefix ∧
        edit.keepMarkers = section'.keepMarkers ∧ endsWithNewline edit.content = true)
    (unmarked : ∀ edit ∈ edits, config.Unmarked edit.content) :
    Section.Refillable (.ofText text) (Section.Document.spanOf (.ofText text)) edits := by
  have hspan : ∀ edit section', section' ∈ config.sections →
      edit.markers = section'.markers config.commentPrefix →
      Section.Document.spanOf (.ofText text) edit = span section' := by
    intro edit section' hmem hmarkers
    refine Section.Document.spanOf_eq ?_
    rw [hmarkers]
    exact located section' hmem
  constructor
  · intro edit hedit
    obtain ⟨section', hmem, hmarkers, -⟩ := hedits edit hedit
    rw [hspan edit section' hmem hmarkers, hmarkers]
    exact located section' hmem
  · intro a ha b hb
    obtain ⟨sectionA, hmemA, hmarkersA, -⟩ := hedits a ha
    obtain ⟨sectionB, hmemB, hmarkersB, -⟩ := hedits b hb
    by_cases heq : sectionA = sectionB
    · refine .inl ?_
      rw [hmarkersA, hmarkersB, heq]
    · have : Std.Symm fun a b => (span a).Apart (span b) := ⟨fun _ _ => Section.Span.Apart.symm⟩
      refine .inr ?_
      rw [hspan a sectionA hmemA hmarkersA, hspan b sectionB hmemB hmarkersB]
      exact apart.forall hmemA hmemB heq
  · intro edit hedit
    obtain ⟨section', hmem, -, hkeeps, -⟩ := hedits edit hedit
    rw [hkeeps]
    exact keeps section' hmem
  · intro edit hedit
    obtain ⟨section', -, -, -, hended⟩ := hedits edit hedit
    exact hended
  · intro a ha b hb line hline
    obtain ⟨section', hmem, hmarkers, -⟩ := hedits b hb
    rw [hmarkers]
    exact unmarked a ha line hline section' hmem

theorem generate_eq_of_plan {text : String} (planned : generator.plan catalog = .ok plan) :
    generator.generate catalog text = (plan.applyText text).mapError GenerationError.section := by
  rw [generate, planned]
  dsimp only [bind, Except.bind]
  cases plan.applyText text <;> rfl

theorem generate_eq_of_plan_eq_error {text : String} {cause : GenerationError}
    (failed : generator.plan catalog = .error cause) :
    generator.generate catalog text = .error cause := by
  rw [generate, failed]
  rfl

/-- Regeneration forgets what was generated before, with any template engine.  When all sections are found, share no
line and keep their marker lines, and no block holds a marker, a text that has been regenerated for one catalog is
regenerated for another like the original text, with the same result or the same error; and regenerating it for the
same catalog changes nothing. -/
theorem generate_forgets (accepted : engine.generator config = .ok generator)
    (keeps : ∀ section' ∈ config.sections, section'.keepMarkers = true)
    {text : String} (span : SectionConfig → Section.Span)
    (located : ∀ section' ∈ config.sections,
      (Section.Document.ofText text).findSection (section'.markers config.commentPrefix) =
        .ok (span section'))
    (apart : config.sections.Pairwise fun a b => (span a).Apart (span b))
    {first second : Catalog} {plan : Section.Plan} (planned : generator.plan first = .ok plan)
    (unmarked : ∀ edit ∈ plan.edits, config.Unmarked edit.content)
    (unmarked' : ∀ plan', generator.plan second = .ok plan' →
      ∀ edit ∈ plan'.edits, config.Unmarked edit.content) :
    ∃ result, generator.generate first text = .ok result ∧
      generator.generate second result = generator.generate second text ∧
      generator.generate first result = .ok result := by
  obtain rfl := config_eq accepted
  obtain ⟨hsections, hedits⟩ := mem_of_plan_eq_ok planned
  -- Any plan whose blocks hold no marker gives after the first plan what it gives at once.
  have hafter : ∀ catalog plan', generator.plan catalog = .ok plan' →
      (∀ edit ∈ plan'.edits, generator.config.Unmarked edit.content) →
      ∃ result, plan.applyText text = .ok result ∧
        generator.generate catalog result = generator.generate catalog text := by
    intro catalog plan' planned' hunmarked
    obtain ⟨hsections', hedits'⟩ := mem_of_plan_eq_ok planned'
    have hrefillable : Section.Refillable (.ofText text) (Section.Document.spanOf (.ofText text))
        (plan'.edits ++ plan.edits) := by
      refine refillable keeps located apart (fun edit hmem => ?_) (fun edit hmem => ?_)
      · exact (List.mem_append.1 hmem).elim (hedits' edit) (hedits edit)
      · exact (List.mem_append.1 hmem).elim (hunmarked edit) (unmarked edit)
    have hcovered : ∀ edit ∈ plan.edits, ∃ other ∈ plan'.edits, edit.markers = other.markers := by
      intro edit hmem
      obtain ⟨section', hsection, hmarkers, -⟩ := hedits edit hmem
      obtain ⟨other, hother, hmarkers'⟩ := hsections' section' hsection
      exact ⟨other, hother, hmarkers.trans hmarkers'.symm⟩
    obtain ⟨result, hresult, hsame⟩ := hrefillable.applyText_applyText hcovered
    refine ⟨result, hresult, ?_⟩
    rw [generate_eq_of_plan planned', generate_eq_of_plan planned', hsame]
  obtain ⟨result, hresult, hagain⟩ := hafter first plan planned unmarked
  have hgenerate : generator.generate first text = .ok result := by
    rw [generate_eq_of_plan planned, hresult]
    rfl
  refine ⟨result, hgenerate, ?_, hagain.trans hgenerate⟩
  cases hplan : generator.plan second with
  | error cause =>
    rw [generate_eq_of_plan_eq_error hplan, generate_eq_of_plan_eq_error hplan]
  | ok plan' =>
    obtain ⟨result', hresult', hother⟩ := hafter second plan' hplan (unmarked' plan' hplan)
    obtain rfl : result = result' := Except.ok.inj (hresult.symm.trans hresult')
    exact hother

/-! ### A document with two sections -/

/-- A section that shows the order of initialization. -/
def orderSection : SectionConfig where
  name := "order"
  indent := "  "
  opening := some "<"
  closing := some ">"
  template := "\x7b\x7binit_order\x7d\x7d"

/-- A section without content of its own. -/
def noneSection : SectionConfig where
  name := "none"
  opening := some "["
  closing := some "]"

/-- The two sections. -/
def twoSections : Config where
  notice := "# made"
  sections := [orderSection, noneSection]

/-- The generator of the two sections. -/
def ofTwoSections : Generator Template.engine where
  config := twoSections
  renderer := {
    templates := NameMap.ofList [
      ("order", [.value (.path { source := "init_order", segments := [.key "init_order"] })]),
      ("none", [])]
    notice := "# made" }

theorem generator_twoSections : Template.engine.generator twoSections = .ok ofTwoSections := by
  have hvalid : twoSections.validate = .ok () := by decide +kernel
  have hrenderer : Template.engine.renderer twoSections = .ok ofTwoSections.renderer := by cbv
  rw [TemplateEngine.generator, hvalid, hrenderer]
  rfl

/-- The plan for the two sections, given what the first template prints. -/
theorem plan_twoSections (context : AppContext) (body : String) {block : String}
    (hcontext : AppContext.ofCatalog catalog = .ok context)
    (hbody : ofTwoSections.renderer.renderBody "order" context.toJson = .ok body)
    (hnone : ofTwoSections.renderer.renderBody "none" context.toJson = .ok "")
    (hblock : Block.composeBlock "# made" body "  " = block) :
    ofTwoSections.plan catalog = .ok ⟨[
      { markers := ⟨"<", ">"⟩, content := block }, { markers := ⟨"[", "]"⟩, content := "# made\n" }]⟩ := by
  have hempty : Block.composeBlock "# made" "" "" = "# made\n" := by decide +kernel
  have horder : ofTwoSections.editFor context.toJson orderSection =
      .ok { markers := ⟨"<", ">"⟩, content := block } := by
    rw [← hblock, editFor, Renderer.renderBlock]
    show ((ofTwoSections.renderer.renderBody "order" context.toJson).bind _).bind _ = _
    rw [hbody]
    rfl
  have hother : ofTwoSections.editFor context.toJson noneSection =
      .ok { markers := ⟨"[", "]"⟩, content := "# made\n" } := by
    rw [← hempty, editFor, Renderer.renderBlock]
    show ((ofTwoSections.renderer.renderBody "none" context.toJson).bind _).bind _ = _
    rw [hnone]
    rfl
  rw [Generator.plan, hcontext]
  show (do return (⟨← [orderSection, noneSection].mapM (ofTwoSections.editFor context.toJson)⟩ :
    Section.Plan) : Except GenerationError Section.Plan) = _
  rw [List.mapM_cons, horder, List.mapM_cons, hother]
  rfl

/-- A catalog with one subsystem. -/
def small : Catalog :=
  ⟨NameMap.ofList [("base", { name := "base", hasSubsystem := true })]⟩

/-- A catalog with two subsystems. -/
def large : Catalog :=
  ⟨NameMap.ofList [("app", { name := "app", hasSubsystem := true, dependencies := .ofList ["base"] }),
    ("base", { name := "base", hasSubsystem := true })]⟩

/-- What templates see of subsystems. -/
def contextOf (subsystems : List Subsystem) (order : List String) : AppContext where
  subsystems := subsystems
  accessors := subsystems.map fun subsystem => ⟨subsystem.name, .required, some subsystem⟩
  initOrder := order
  missing := []
  featureSets := subsystems.map Subsystem.name
  present := NameMap.ofList (subsystems.map fun subsystem => (subsystem.name, true))

/-- What templates see of the one subsystem. -/
def smallContext : AppContext :=
  contextOf [⟨"base", "BaseSubsystem", "base", false⟩] ["base"]

/-- What templates see of the two subsystems. -/
def largeContext : AppContext :=
  contextOf [⟨"app", "AppSubsystem", "app", false⟩, ⟨"base", "BaseSubsystem", "base", false⟩]
    ["base", "app"]

/-- Old content in both sections, more lines than a block has and fewer. -/
def stale : String :=
  "head\n<\nold\nold\nold\nold\n>\n[\n\n]\ntail"

/-- The document regenerated for the first catalog. -/
def fresh : String :=
  "head\n<\n  # made\n\n  [base]\n>\n[\n# made\n]\ntail"

/-- Of the old content, and of the first catalog, nothing is left when the document is regenerated for the second
one. -/
theorem generate_forgets_small :
    ofTwoSections.generate small stale = .ok fresh ∧
      ofTwoSections.generate large fresh = .ok "head\n<\n  # made\n\n  [base, app]\n>\n[\n# made\n]\ntail" ∧
      ofTwoSections.generate small fresh = .ok fresh := by
  have hsmall : ofTwoSections.plan small = .ok ⟨[
      { markers := ⟨"<", ">"⟩, content := "  # made\n\n  [base]\n" },
      { markers := ⟨"[", "]"⟩, content := "# made\n" }]⟩ :=
    plan_twoSections smallContext "[base]" (by cbv) (by cbv) (by cbv)
      (by decide +kernel)
  have hlarge : ofTwoSections.plan large = .ok ⟨[
      { markers := ⟨"<", ">"⟩, content := "  # made\n\n  [base, app]\n" },
      { markers := ⟨"[", "]"⟩, content := "# made\n" }]⟩ :=
    plan_twoSections largeContext "[base, app]" (by cbv) (by cbv) (by cbv)
      (by decide +kernel)
  have hfresh : ofTwoSections.generate small stale = .ok fresh := by
    rw [generate_eq_of_plan hsmall]
    decide +kernel
  have hforgets : ∃ result, ofTwoSections.generate small stale = .ok result ∧
      ofTwoSections.generate large result = ofTwoSections.generate large stale ∧
      ofTwoSections.generate small result = .ok result := by
    refine generate_forgets generator_twoSections (by decide)
      (fun section' => if section'.name = "order" then ⟨1, 6⟩ else ⟨7, 9⟩) (by decide +kernel)
      (by decide +kernel) hsmall (by decide +kernel) ?_
    intro plan' planned
    obtain rfl := Except.ok.inj (hlarge.symm.trans planned)
    decide +kernel
  obtain ⟨result, hresult, hother, hagain⟩ := hforgets
  obtain rfl : result = fresh := Except.ok.inj (hresult.symm.trans hfresh)
  refine ⟨hfresh, hother.trans ?_, hagain⟩
  rw [generate_eq_of_plan hlarge]
  decide +kernel

end Generator

end Scaffold
