import Scaffold.Generator.Basic
import Scaffold.Template.Engine

/-!
# Generators for templates in double braces

## Main Definitions

* `Renderer.ofConfig`, `Generator.ofConfig` — made of a configuration whose templates have their tags in double braces
-/

namespace Scaffold

/-- Reads the templates of a configuration. -/
def Renderer.ofConfig (config : Config) : Except GenerationError (Renderer Template.engine) :=
  Template.engine.renderer config

/-- The generator of a configuration. -/
def Generator.ofConfig (config : Config) : Except GenerationError (Generator Template.engine) :=
  Template.engine.generator config

end Scaffold
