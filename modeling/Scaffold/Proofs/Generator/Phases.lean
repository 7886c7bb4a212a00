import Scaffold.Proofs.Config.Validation
import Scaffold.Proofs.Generator.Coherence
import Scaffold.Proofs.Generator.Regeneration
import Scaffold.Proofs.Section.Sequencing

/-!
# The phases of generation

A text is regenerated in three phases.  First the subsystems of the catalog are put in order, then the templates of all
sections are rendered, and only then the text is rewritten, section by section.  Each phase fails with errors of its
own, and the text is not looked at before the last one, so that what fails earlier fails for every text.

The templates of sections are looked up by name.  That none is missing, and that none stands in for another, comes from
the way in which a generator is made: the configuration has been found valid, so that the names of its sections are
different, and a template has been read for each of them and for nothing else.

## Main Definitions

* `Generator.Furnished` — a generator with the templates of its sections, and with no others
* `Generator.rewriteAll` — puts the bodies of sections into a text
* `Generator.EndsIn` — what the generation of a text ends in, phase by phase

## Main Statements

* `Generator.furnished_of_accepted` — a generator that an engine has made of a configuration is furnished
* `Generator.Furnished.generate_eq_iff` — generation ends in what its phases make of it
* `Generator.generate_phases` — for every template engine, configuration, catalog and text
-/

namespace Scaffold

open Relation

variable {engine : TemplateEngine}

namespace TemplateEngine

/-! ### Templates -/

section

variable {templates after : NameMap engine.Template} {sections : List SectionConfig} {name : String}

/-- Reading templates leaves alone those of other names. -/
theorem get?_readTemplates_of_notMem (read : engine.readTemplates templates sections = .ok after)
    (h : name ∉ sections.map SectionConfig.name) : after.get? name = templates.get? name := by
  induction sections generalizing templates with
  | nil =>
    cases read
    rfl
  | cons first rest ih =>
    rw [List.map_cons, List.mem_cons, not_or] at h
    rw [readTemplates] at read
    split at read
    · cases read
    · rw [ih read h.2, NameMap.get?_insert, if_neg h.1]

/-- Each section with a name of its own has its own template. -/
theorem exists_get?_readTemplates (read : engine.readTemplates templates sections = .ok after)
    (nodup : (sections.map SectionConfig.name).Nodup) {section' : SectionConfig} (h : section' ∈ sections) :
    ∃ template, engine.read? section'.template = some template ∧ after.get? section'.name = some template := by
  induction sections generalizing templates with
  | nil => cases h
  | cons first rest ih =>
    rw [List.map_cons, List.nodup_cons] at nodup
    rw [readTemplates] at read
    split at read
    · cases read
    · next template htemplate =>
      rcases List.mem_cons.1 h with rfl | hmem
      · refine ⟨template, htemplate, ?_⟩
        -- What is read after it has other names, and so does not come in its place.
        rw [get?_readTemplates_of_notMem read nodup.1, NameMap.get?_insert, if_pos rfl]
      · exact ih read nodup.2 hmem

end

/-- A renderer that has been made of a configuration has its notice, and the templates that have been read. -/
theorem renderer_eq_ok {config : Config} {renderer : Renderer engine} (h : engine.renderer config = .ok renderer) :
    renderer.notice = config.notice ∧ engine.readTemplates ∅ config.sections = .ok renderer.templates := by
  obtain ⟨templates, hread, heq⟩ := exists_of_bind_eq_ok h
  cases heq
  exact ⟨rfl, hread⟩

end TemplateEngine

namespace Generator

variable {config : Config} {generator : Generator engine} {catalog : Catalog} {context : AppContext} {text : String}

/-- A generator with the templates of its sections, and with no others. -/
structure Furnished (generator : Generator engine) : Prop where
  /-- The notice is that of the configuration. -/
  notice : generator.renderer.notice = generator.config.notice
  /-- Each section has its own template. -/
  templates : ∀ section' ∈ generator.config.sections, ∃ template,
    engine.read? section'.template = some template ∧
      generator.renderer.templates.get? section'.name = some template
  /-- There are templates for no other names. -/
  names : ∀ name, generator.renderer.templates.contains name = true →
    name ∈ generator.config.sections.map SectionConfig.name

/-- A generator that an engine has made of a configuration is furnished. -/
theorem furnished_of_accepted (accepted : engine.generator config = .ok generator) : generator.Furnished := by
  obtain ⟨hvalid, rfl, hrenderer⟩ := TemplateEngine.generator_eq_ok accepted
  obtain ⟨hnotice, hread⟩ := TemplateEngine.renderer_eq_ok hrenderer
  constructor
  · exact hnotice
  · exact fun section' hmem =>
      TemplateEngine.exists_get?_readTemplates hread (Config.validate_eq_ok_iff.1 hvalid).names hmem
  · intro name hcontains
    by_contra hmem
    rw [NameMap.contains, TemplateEngine.get?_readTemplates_of_notMem hread hmem] at hcontains
    cases hcontains

/-! ### The plan -/

/-- What the template of a section prints for a context. -/
def bodyOf (generator : Generator engine) (context : AppContext) (section' : SectionConfig) : Except String String :=
  engine.render generator.renderer.templates section'.name context.toJson

/-- The edit that puts a body into its section. -/
def editOf (config : Config) (section' : SectionConfig) (body : String) : Section.Edit where
  markers := section'.markers config.commentPrefix
  content := Block.composeBlock config.notice body section'.indent
  keepMarkers := section'.keepMarkers

/-- A configured section is edited with what its template prints, or fails with the name of the section. -/
theorem Furnished.editFor_eq (furnished : generator.Furnished) {section' : SectionConfig}
    (h : section' ∈ generator.config.sections) (context : AppContext) :
    generator.editFor context.toJson section' =
      ((generator.bodyOf context section').mapError (.render section'.name)).map
        (editOf generator.config section') := by
  obtain ⟨template, -, hget⟩ := furnished.templates section' h
  have hcontains : generator.renderer.templates.contains section'.name = true := by
    rw [NameMap.contains, hget]
    rfl
  rw [editFor, Renderer.renderBlock, Renderer.renderBody, if_pos hcontains, bodyOf, furnished.notice]
  cases engine.render generator.renderer.templates section'.name context.toJson <;> rfl

theorem plan_of_circular {cycle : Ordering.Cycle} (circular : AppContext.ofCatalog catalog = .error cycle) :
    generator.plan catalog = .error (.ordering cycle) := by
  rw [plan, circular]

/-- There is no plan when a template fails, and the first one that does is to blame. -/
theorem Furnished.plan_of_unrendered (furnished : generator.Furnished)
    (ordered : AppContext.ofCatalog catalog = .ok context) {before after : List SectionConfig}
    {section' : SectionConfig} {message : String}
    (sections : generator.config.sections = before ++ section' :: after)
    (rendered : ∀ earlier ∈ before, ∃ body, generator.bodyOf context earlier = .ok body)
    (fails : generator.bodyOf context section' = .error message) :
    generator.plan catalog = .error (.render section'.name message) := by
  have hmem : section' ∈ generator.config.sections := by
    rw [sections]
    exact List.mem_append_right _ List.mem_cons_self
  have hbefore : ∀ earlier ∈ before, ∃ edit, generator.editFor context.toJson earlier = .ok edit := by
    intro earlier hearlier
    obtain ⟨body, hbody⟩ := rendered earlier hearlier
    rw [furnished.editFor_eq (by rw [sections]; exact List.mem_append_left _ hearlier), hbody]
    exact ⟨_, rfl⟩
  have hsection : generator.editFor context.toJson section' = .error (.render section'.name message) := by
    rw [furnished.editFor_eq hmem, fails]
    rfl
  rw [plan, ordered]
  dsimp only
  rw [mapM_eq_error_iff.2 ⟨before, section', after, sections, hbefore, hsection⟩]
  rfl

/-- The plan holds the bodies that the templates print, section by section. -/
theorem Furnished.plan_of_rendered (furnished : generator.Furnished)
    (ordered : AppContext.ofCatalog catalog = .ok context) {bodies : List (SectionConfig × String)}
    (sections : bodies.map Prod.fst = generator.config.sections)
    (rendered : ∀ entry ∈ bodies, generator.bodyOf context entry.1 = .ok entry.2) :
    generator.plan catalog = .ok ⟨bodies.map fun entry => editOf generator.config entry.1 entry.2⟩ := by
  have hedits : generator.config.sections.mapM (generator.editFor context.toJson) =
      .ok (bodies.map fun entry => editOf generator.config entry.1 entry.2) := by
    refine mapM_eq_ok_iff.2
      ⟨bodies.map fun entry => (entry.1, editOf generator.config entry.1 entry.2), ?_, ?_, ?_⟩
    · rw [List.map_map]
      exact sections
    · rw [List.map_map]
      rfl
    · refine List.forall_mem_map.2 fun entry hentry => ?_
      have hmem : entry.1 ∈ generator.config.sections := sections ▸ List.mem_map_of_mem hentry
      rw [furnished.editFor_eq hmem, rendered entry hentry]
      rfl
  rw [plan, ordered]
  dsimp only
  rw [hedits]
  rfl

/-! ### The text -/

/-- Puts bodies into their sections of a text, one after the other, up to the first section that cannot be rewritten. -/
def rewriteAll (config : Config) : List (SectionConfig × String) → String → Except Section.Error String
  | [], text => .ok text
  | (section', body) :: rest, text =>
    match Section.rewriteText text (section'.markers config.commentPrefix)
        (Block.composeBlock config.notice body section'.indent) section'.keepMarkers with
    | .error cause => .error cause
    | .ok next => rewriteAll config rest next

/-- A plan rewrites sections of a text one after the other. -/
theorem applyText_eq_rewriteAll (config : Config) (bodies : List (SectionConfig × String)) (text : String) :
    Section.Plan.applyText ⟨bodies.map fun entry => editOf config entry.1 entry.2⟩ text =
      rewriteAll config bodies text := by
  induction bodies generalizing text with
  | nil => rw [Section.applyText_eq_foldlM]; rfl
  | cons entry rest ih =>
    rw [List.map_cons, Section.applyText_cons, rewriteAll]
    show (Section.rewriteText text (entry.1.markers config.commentPrefix)
      (Block.composeBlock config.notice entry.2 entry.1.indent) entry.1.keepMarkers).bind _ = _
    cases Section.rewriteText text (entry.1.markers config.commentPrefix)
      (Block.composeBlock config.notice entry.2 entry.1.indent) entry.1.keepMarkers with
    | error cause => rfl
    | ok next => exact ih next

/-- What the generation of a text ends in, phase by phase. -/
inductive EndsIn (generator : Generator engine) (catalog : Catalog) (text : String) :
    Except GenerationError String → Prop where
  /-- There is no order of the subsystems. -/
  | circular {cycle : Ordering.Cycle} (circular : AppContext.ofCatalog catalog = .error cycle) :
      EndsIn generator catalog text (.error (.ordering cycle))
  /-- The templates print the sections before one, and fail to print that one. -/
  | unrendered {context : AppContext} {before after : List SectionConfig} {section' : SectionConfig}
      {message : String} (ordered : AppContext.ofCatalog catalog = .ok context)
      (sections : generator.config.sections = before ++ section' :: after)
      (rendered : ∀ earlier ∈ before, ∃ body, generator.bodyOf context earlier = .ok body)
      (fails : generator.bodyOf context section' = .error message) :
      EndsIn generator catalog text (.error (.render section'.name message))
  /-- The templates print all sections, of which one cannot be rewritten. -/
  | unplaced {context : AppContext} {bodies : List (SectionConfig × String)} {cause : Section.Error}
      (ordered : AppContext.ofCatalog catalog = .ok context)
      (sections : bodies.map Prod.fst = generator.config.sections)
      (rendered : ∀ entry ∈ bodies, generator.bodyOf context entry.1 = .ok entry.2)
      (fails : rewriteAll generator.config bodies text = .error cause) :
      EndsIn generator catalog text (.error (.section cause))
  /-- The templates print all sections, and all are rewritten. -/
  | done {context : AppContext} {bodies : List (SectionConfig × String)} {output : String}
      (ordered : AppContext.ofCatalog catalog = .ok context)
      (sections : bodies.map Prod.fst = generator.config.sections)
      (rendered : ∀ entry ∈ bodies, generator.bodyOf context entry.1 = .ok entry.2)
      (placed : rewriteAll generator.config bodies text = .ok output) :
      EndsIn generator catalog text (.ok output)

/-- Generation ends in what its phases make of it. -/
theorem EndsIn.generate_eq {result : Except GenerationError String} (furnished : generator.Furnished)
    (h : generator.EndsIn catalog text result) : generator.generate catalog text = result := by
  cases h with
  | circular hcircular => exact generate_eq_of_plan_eq_error (plan_of_circular hcircular)
  | unrendered hordered hsections hrendered hfails =>
    exact generate_eq_of_plan_eq_error (furnished.plan_of_unrendered hordered hsections hrendered hfails)
  | unplaced hordered hsections hrendered hfails =>
    rw [generate_eq_of_plan (furnished.plan_of_rendered hordered hsections hrendered), applyText_eq_rewriteAll,
      hfails]
    rfl
  | done hordered hsections hrendered hplaced =>
    rw [generate_eq_of_plan (furnished.plan_of_rendered hordered hsections hrendered), applyText_eq_rewriteAll,
      hplaced]
    rfl

/-- One of the phases is the last. -/
theorem exists_endsIn (generator : Generator engine) (catalog : Catalog) (text : String) :
    ∃ result, generator.EndsIn catalog text result := by
  cases hcontext : AppContext.ofCatalog catalog with
  | error cycle => exact ⟨_, .circular hcontext⟩
  | ok context =>
    cases hbodies : generator.config.sections.mapM (generator.bodyOf context) with
    | error cause =>
      obtain ⟨before, section', after, hsections, hrendered, hfails⟩ := mapM_eq_error_iff.1 hbodies
      exact ⟨_, .unrendered hcontext hsections hrendered hfails⟩
    | ok texts =>
      obtain ⟨bodies, hsections, -, hrendered⟩ := mapM_eq_ok_iff.1 hbodies
      cases hrewritten : rewriteAll generator.config bodies text with
      | error cause => exact ⟨_, .unplaced hcontext hsections hrendered hrewritten⟩
      | ok output => exact ⟨_, .done hcontext hsections hrendered hrewritten⟩

theorem Furnished.generate_eq_iff (furnished : generator.Furnished) {result : Except GenerationError String} :
    generator.generate catalog text = result ↔ generator.EndsIn catalog text result := by
  constructor
  · rintro rfl
    obtain ⟨result, hends⟩ := exists_endsIn generator catalog text
    rw [hends.generate_eq furnished]
    exact hends
  · exact fun hends => hends.generate_eq furnished

/-- What ends before any section is rewritten ends so for every text. -/
theorem EndsIn.of_text {error : GenerationError} (h : generator.EndsIn catalog text (.error error))
    (early : ∀ cause, error ≠ .section cause) (other : String) : generator.EndsIn catalog other (.error error) := by
  cases h with
  | circular hcircular => exact .circular hcircular
  | unrendered hordered hsections hrendered hfails => exact .unrendered hordered hsections hrendered hfails
  | unplaced hordered hsections hrendered hfails => exact absurd rfl (early _)

/-- Whatever the template engine, a generator that it has made of a configuration holds the templates of its sections
and no others.  It first orders the subsystems of a catalog, which fails when their dependencies are circular, and then
only; then it renders all sections, which fails at the first one whose template does; and only then it rewrites the
text, section by section.  So a failure before that is the same for every text, and there are no other failures. -/
theorem generate_phases {featureSets : List FeatureSet} (accepted : engine.generator config = .ok generator)
    (built : Catalog.ofList featureSets = .ok catalog) :
    generator.config = config ∧ generator.Furnished ∧
    (∀ text, (∃ cycle, generator.generate catalog text = .error (.ordering cycle)) ↔
      ∃ name, TransGen catalog.Requires name name) ∧
    (∀ text result, generator.generate catalog text = result ↔ generator.EndsIn catalog text result) ∧
    (∀ text other error, generator.generate catalog text = .error error → (∀ cause, error ≠ .section cause) →
      generator.generate catalog other = .error error) ∧
    ∀ text error, generator.generate catalog text = .error error →
      (∃ cycle, error = .ordering cycle) ∨
        (∃ section' ∈ config.sections, ∃ message, error = .render section'.name message) ∨
        ∃ cause, error = .section cause := by
  have hfurnished := furnished_of_accepted accepted
  obtain rfl := config_eq accepted
  have hkeyed := Catalog.keyed_of_ofList built
  refine ⟨rfl, hfurnished, ?_, fun text result => hfurnished.generate_eq_iff, ?_, ?_⟩
  · intro text
    rw [← Catalog.exists_initOrder_eq_error_iff hkeyed]
    refine exists_congr fun cycle => ?_
    rw [hfurnished.generate_eq_iff, ← AppContext.ofCatalog_eq_error_iff]
    constructor
    · intro hends
      cases hends with
      | circular hcircular => exact hcircular
    · exact fun hcircular => .circular hcircular
  · intro text other error hfailed hearly
    exact hfurnished.generate_eq_iff.2 ((hfurnished.generate_eq_iff.1 hfailed).of_text hearly other)
  · intro text error hfailed
    cases hfurnished.generate_eq_iff.1 hfailed with
    | circular => exact .inl ⟨_, rfl⟩
    | @unrendered _ before after section' _ _ hsections =>
      refine .inr (.inl ⟨section', ?_, _, rfl⟩)
      rw [hsections]
      exact List.mem_append_right _ List.mem_cons_self
    | unplaced => exact .inr (.inr ⟨_, rfl⟩)

/-! ### Catalogs that can and cannot be ordered -/

/-- A catalog of two subsystems that need each other. -/
def ring : Catalog :=
  ⟨NameMap.ofList [("app", { name := "app", hasSubsystem := true, dependencies := .ofList ["base"] }),
    ("base", { name := "base", hasSubsystem := true, dependencies := .ofList ["app"] })]⟩

/-- The circular catalog fails for every text.  The other one fails for a text without the markers of the first
section. -/
theorem generate_phases_ring :
    (∀ text, ∃ cycle, ofTwoSections.generate ring text = .error (.ordering cycle)) ∧
      ofTwoSections.generate small stale =
        .ok "head\n<\n  # made\n\n  [base]\n>\n[\n# made\n]\ntail" ∧
      ofTwoSections.generate small "head\n" = .error (.section (.markerNotFound "<")) := by
  have hring : Catalog.ofList [{ name := "app", hasSubsystem := true, dependencies := .ofList ["base"] },
      { name := "base", hasSubsystem := true, dependencies := .ofList ["app"] }] = .ok ring := rfl
  have hsmall : Catalog.ofList [{ name := "base", hasSubsystem := true }] = .ok small := rfl
  obtain ⟨-, -, hordering, -⟩ := generate_phases generator_twoSections hring
  obtain ⟨-, -, -, hends, -⟩ := generate_phases generator_twoSections hsmall
  have hordered : AppContext.ofCatalog small = .ok smallContext := by cbv
  have hbodies : ∀ entry ∈ [(orderSection, "[base]"), (noneSection, "")],
      ofTwoSections.bodyOf smallContext entry.1 = .ok entry.2 := by
    exact List.forall_mem_cons.2 ⟨by cbv, List.forall_mem_singleton.2 (by cbv)⟩
  refine ⟨fun text => (hordering text).2 ⟨"app", ?_⟩, (hends _ _).2 ?_, (hends _ _).2 ?_⟩
  · have happ : ring.Requires "app" "base" := ⟨⟨_, rfl, rfl, by decide⟩, _, rfl, rfl⟩
    have hbase : ring.Requires "base" "app" := ⟨⟨_, rfl, rfl, by decide⟩, _, rfl, rfl⟩
    exact .tail (.single happ) hbase
  · exact .done hordered rfl hbodies (by decide +kernel)
  · exact .unplaced hordered rfl hbodies (by decide +kernel)

end Generator

end Scaffold
