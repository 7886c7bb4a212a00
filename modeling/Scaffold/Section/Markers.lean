import Scaffold.Text.Blank
import Scaffold.Text.Case
import Scaffold.Text.Lines

/-!
# Markers

A section of a document stands between two marker lines. A line matches a marker when both are equal
without their terminators; everything else, indentation included, counts.

## Main Definitions

* `Markers` — the opening and the closing marker line of a section
* `Markers.ofSection` — the conventional marker lines of a named section
* `lineMatches` — equality of lines up to one terminator
-/

namespace Scaffold.Section

open Text

/-- The two lines around a section, as supplied. -/
structure Markers where
  /-- The line before the section. -/
  opening : String
  /-- The line after the section. -/
  closing : String
  deriving DecidableEq, Repr

/-- Whether two lines are equal without their terminators. -/
def lineMatches (line marker : String) : Bool :=
  stripTerminator line == stripTerminator marker

namespace Markers

/-- The conventional marker lines of a section: its name in ASCII capitals in a comment. -/
def ofSection (name indent commentPrefix : String) : Markers :=
  { opening := indent ++ commentPrefix ++ " __" ++ upperCase name ++ "_BEGIN__\n"
    closing := indent ++ commentPrefix ++ " __" ++ upperCase name ++ "_END__\n" }

/-- Whether a line is the opening marker. -/
def isOpening (markers : Markers) (line : String) : Bool :=
  lineMatches line markers.opening

/-- Whether a line is the closing marker. -/
def isClosing (markers : Markers) (line : String) : Bool :=
  lineMatches line markers.closing

/-- The two markers in short form, for messages to a reader. -/
def display (markers : Markers) : String :=
  trim (stripTerminator markers.opening) ++ ".." ++ trim (stripTerminator markers.closing)

end Markers

/-- Matching says that the lines agree without terminators. -/
theorem lineMatches_iff {line marker : String} :
    lineMatches line marker = true ↔ stripTerminator line = stripTerminator marker := by
  simp [lineMatches]

end Scaffold.Section
