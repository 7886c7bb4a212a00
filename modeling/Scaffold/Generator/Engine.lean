import Scaffold.Json.Basic

/-!
# Template engines

Sections are written as templates, in a language that the generator knows nothing of.  An engine reads templates and
renders them; whatever it makes of them, the generator puts it into the document.

## Main Definitions

* `TemplateEngine` — how templates are read and rendered
-/

namespace Scaffold

/-- How templates are read and rendered. -/
structure TemplateEngine where
  /-- What a text is once it has been read as a template. -/
  Template : Type
  /-- Reads a template; none if the text breaks the grammar. -/
  read? : (text : String) → Option Template
  /-- Renders the template of a name for a context.  It is one of those that have been read, each under its name, and
  may make use of the others.  A failure has a message. -/
  render : (templates : NameMap Template) → (name : String) → (context : Json) → Except String String

end Scaffold
