import Scaffold.Text.Blank
import Scaffold.Text.Lines

/-!
# Generated blocks

A block is what goes between the markers of a section: a notice, and after an empty line the body, all of it
indented. Blank lines are not indented.

## Main Definitions

* `indentLines` — an indent before every line that is not blank
* `composeBlock` — notice and body as a block
-/

namespace Scaffold.Block

open Text

/-- A line with an indent before it, unless it is blank. -/
def indentLine (indent line : String) : String :=
  if isBlank line then line else indent ++ line

/-- Text with an indent before every line that is not blank. -/
def indentLines (text indent : String) : String :=
  String.join ((lines text).map (indentLine indent))

/-- The lines of a block before they are indented: the notice, and a body that is not blank. -/
def unindented (notice body : String) : String :=
  if isBlank body then notice ++ "\n" else notice ++ "\n\n" ++ body ++ "\n"

/-- Notice and body as a block. -/
def composeBlock (notice body indent : String) : String :=
  indentLines (unindented notice body) indent

end Scaffold.Block
