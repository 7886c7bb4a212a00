import Scaffold.Config.Basic
import Scaffold.FeatureSet.Catalog
import Scaffold.Section.Error

/-!
# Errors of generation

## Main Definitions

* `GenerationError` — why a document is not regenerated
* `GenerationError.message` — the wording
-/

namespace Scaffold

/-- Why a document is not regenerated. -/
inductive GenerationError where
  /-- A section of the document cannot be located. -/
  | section (cause : Section.Error)
  /-- The dependencies of subsystems are circular. -/
  | ordering (cause : Ordering.Cycle)
  /-- The template of a section breaks the grammar. -/
  | template (name : String)
  /-- The template of a section does not render. -/
  | render (name message : String)
  /-- No section has the name. -/
  | unknownSection (name : String)
  /-- A feature set is refused. -/
  | featureSet (invalid : InvalidFeatureSet)
  /-- The configuration does not tell its sections apart. -/
  | config (problem : ConfigProblem)
  deriving DecidableEq, Repr

/-- The wording of an error. -/
def GenerationError.message : GenerationError → String
  | .section cause => "Section error: " ++ cause.message
  | ordering cause => "Ordering error: " ++ cause.message
  | template name => "Invalid template for section '" ++ name ++ "'"
  | render name message => "Render error in section '" ++ name ++ "': " ++ message
  | unknownSection name => "Unknown section: " ++ name
  | featureSet invalid => invalid.message
  | config problem => "Configuration error: " ++ problem.reason

end Scaffold
