import Scaffold.Generator.Context
import Scaffold.Generator.Renderer
import Scaffold.Section.Plan

/-!
# The generator

Regenerates the sections of a document from a catalog: all sections are rendered first, and then the document is
rewritten section by section.

## Main Definitions

* `Generator` — a valid configuration with its templates
* `TemplateEngine.generator` — the generator of a configuration
* `Generator.plan` — the edits for a catalog
* `Generator.generate` — the regenerated text
-/

namespace Scaffold

/-- A valid configuration with its templates. -/
structure Generator (engine : TemplateEngine) where
  /-- What the generator works by. -/
  config : Config
  /-- The templates of its sections. -/
  renderer : Renderer engine

/-- The generator of a configuration, which has to be valid and to have templates that can be read. -/
def TemplateEngine.generator (engine : TemplateEngine) (config : Config) :
    Except GenerationError (Generator engine) :=
  match config.validate with
  | .error problem => .error (.config problem)
  | .ok () => do
    return { config, renderer := ← engine.renderer config }

namespace Generator

variable {engine : TemplateEngine}

/-- The edit that regenerates a section. -/
def editFor (generator : Generator engine) (context : Json) (config : SectionConfig) :
    Except GenerationError Section.Edit := do
  return {
    markers := config.markers generator.config.commentPrefix
    content := ← generator.renderer.renderBlock config context
    keepMarkers := config.keepMarkers }

/-- The edits that regenerate all sections, in the order of the configuration. -/
def plan (generator : Generator engine) (catalog : Catalog) : Except GenerationError Section.Plan :=
  match AppContext.ofCatalog catalog with
  | .error cycle => .error (.ordering cycle)
  | .ok context => do
    return ⟨← generator.config.sections.mapM (generator.editFor context.toJson)⟩

/-- The regenerated text. -/
def generate (generator : Generator engine) (catalog : Catalog) (text : String) :
    Except GenerationError String := do
  let plan ← generator.plan catalog
  match plan.applyText text with
  | .ok result => return result
  | .error cause => throw (.section cause)

end Generator

end Scaffold
