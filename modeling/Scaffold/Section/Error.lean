import Scaffold.Section.Markers
import Scaffold.Text.Quoted

/-!
# Errors of section rewriting

## Main Definitions

* `Disorder` — why two present markers bracket no section
* `Error` — why a section could not be located
* `Error.message` — the wording
-/

namespace Scaffold.Section

open Text

/-- Why two markers that both occur bracket no section; lines are counted from one. -/
inductive Disorder where
  /-- The closing marker follows the opening one, on the given line, at once. -/
  | noLines (openingLine : Nat)
  /-- The closing marker occurs at or before the opening marker only. -/
  | closingFirst (closingLine openingLine : Nat)
  deriving DecidableEq, Repr

/-- The wording of a disorder. -/
def Disorder.reason : Disorder → String
  | noLines openingLine => "no lines between markers (line " ++ toString openingLine ++ ")"
  | closingFirst closingLine openingLine =>
    "end marker at line " ++ toString closingLine ++
      " does not follow begin marker at line " ++ toString openingLine

/-- Why a section could not be located. -/
inductive Error where
  /-- A marker line does not occur in the document. -/
  | markerNotFound (marker : String)
  /-- Both markers occur, and bracket no section. -/
  | markerOrder (markers : Markers) (disorder : Disorder)
  deriving DecidableEq, Repr

/-- The wording of an error. -/
def Error.message : Error → String
  | markerNotFound marker => "Marker not found: " ++ quote marker
  | markerOrder markers disorder =>
    "Malformed section between " ++ quote markers.opening ++ " and " ++ quote markers.closing ++
      ": " ++ disorder.reason

end Scaffold.Section
