import Scaffold.Generator.Engine
import Scaffold.Template.Parser
import Scaffold.Template.Render

/-!
# The engine of templates in double braces

## Main Definitions

* `Template.engine` — reads and renders templates with tags in double braces
-/

namespace Scaffold

/-- Reads and renders templates with tags in double braces. -/
def Template.engine : TemplateEngine where
  Template := Template
  read? := Template.ofText?
  render templates name context := (Templates.render templates name context).mapError RenderError.message

end Scaffold
