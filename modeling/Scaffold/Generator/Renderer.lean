import Scaffold.Block
import Scaffold.Generator.Engine
import Scaffold.Generator.Error

/-!
# Rendering sections

## Main Definitions

* `Renderer` — the templates of all sections
* `TemplateEngine.renderer` — reads the templates of a configuration
* `Renderer.renderBody` — the text of a section's template
* `Renderer.renderBlock` — the same as a block, with notice and indent
-/

namespace Scaffold

/-- The templates of all sections, with the notice of their blocks. -/
structure Renderer (engine : TemplateEngine) where
  /-- The templates by the names of their sections. -/
  templates : NameMap engine.Template
  /-- The line that comes first in every block. -/
  notice : String

namespace TemplateEngine

variable (engine : TemplateEngine)

/-- Reads the templates of sections, on top of those read before. The later one of a name counts. -/
def readTemplates (templates : NameMap engine.Template) :
    List SectionConfig → Except GenerationError (NameMap engine.Template)
  | [] => .ok templates
  | first :: rest =>
    match engine.read? first.template with
    | none => .error (.template first.name)
    | some template => readTemplates (templates.insert first.name template) rest

/-- Reads the templates of a configuration, up to the first that breaks the grammar. -/
def renderer (config : Config) : Except GenerationError (Renderer engine) := do
  return { templates := ← engine.readTemplates ∅ config.sections, notice := config.notice }

end TemplateEngine

namespace Renderer

variable {engine : TemplateEngine}

/-- The text of a section's template for a context. -/
def renderBody (renderer : Renderer engine) (name : String) (context : Json) :
    Except GenerationError String :=
  if renderer.templates.contains name then
    match engine.render renderer.templates name context with
    | .ok text => .ok text
    | .error message => .error (.render name message)
  else .error (.unknownSection name)

/-- The block of a section for a context. -/
def renderBlock (renderer : Renderer engine) (config : SectionConfig) (context : Json) :
    Except GenerationError String := do
  let body ← renderer.renderBody config.name context
  return Block.composeBlock renderer.notice body config.indent

end Renderer

end Scaffold
