import Scaffold.Section.Error

/-!
# Documents

A document is the text that is being regenerated, held as its lines with their terminators. A section
of it is located by its markers, read, and overwritten; all other lines stay as they are.

## Main Definitions

* `Document` — a sequence of lines
* `Document.findSection` — the place of a section, by its markers
* `Document.splice` — the document with other lines in place of a section
* `Document.rewrite` — locate, then splice
* `rewriteText` — the same on text
-/

namespace Scaffold.Section

open Text

/-- A sequence of lines, each with its terminator. -/
structure Document where
  /-- The lines in order. -/
  lines : List String
  deriving DecidableEq, Repr

/-- Where a section stands: the indices of its two marker lines. -/
structure Span where
  /-- Index of the opening marker line. -/
  opening : Nat
  /-- Index of the closing marker line. -/
  closing : Nat
  deriving DecidableEq, Repr

namespace Span

/-- Index of the first line between the markers. -/
def contentStart (span : Span) : Nat :=
  span.opening + 1

/-- Number of lines between the markers. -/
def contentSize (span : Span) : Nat :=
  span.closing - span.opening - 1

/-- How many lines of the document stay before the new content. -/
def headSize (span : Span) (keepMarkers : Bool) : Nat :=
  if keepMarkers then span.opening + 1 else span.opening

/-- Index of the first line that stays after the new content. -/
def tailStart (span : Span) (keepMarkers : Bool) : Nat :=
  if keepMarkers then span.closing else span.closing + 1

end Span

namespace Document

/-- The document of a text: its lines. -/
def ofText (text : String) : Document :=
  ⟨Text.lines text⟩

/-- The document of given lines, each ended by a line feed in place of its own terminator. -/
def ofLines (lines : List String) : Document :=
  ⟨lines.map fun line => stripTerminator line ++ "\n"⟩

/-- The lines, joined. -/
def toText (document : Document) : String :=
  String.join document.lines

/-- Number of lines. -/
def size (document : Document) : Nat :=
  document.lines.length

/-- Whether there are no lines. -/
def isEmpty (document : Document) : Bool :=
  document.lines.isEmpty

/-- The line at an index, with its terminator. -/
def line? (document : Document) (index : Nat) : Option String :=
  document.lines[index]?

/-- Index of the first line at or after `start` that matches a marker. -/
def findLine (document : Document) (marker : String) (start : Nat) : Option Nat :=
  ((document.lines.drop start).findIdx? (lineMatches · marker)).map (start + ·)

/-- The place of the first section between two markers: the first line that matches the
opening marker and the first line after it that matches the closing one, with lines between. -/
def findSection (document : Document) (markers : Markers) : Except Error Span :=
  match document.findLine markers.opening 0 with
  | none => .error (.markerNotFound markers.opening)
  | some opening =>
    match document.findLine markers.closing (opening + 1) with
    | some closing =>
      if closing = opening + 1 then .error (.markerOrder markers (.noLines (opening + 1)))
      else .ok ⟨opening, closing⟩
    | none =>
      match document.findLine markers.closing 0 with
      | some closing =>
        .error (.markerOrder markers (.closingFirst (closing + 1) (opening + 1)))
      | none => .error (.markerNotFound markers.closing)

/-- The lines strictly between the markers of a span. -/
def contentLines (document : Document) (span : Span) : List String :=
  (document.lines.drop span.contentStart).take span.contentSize

/-- The text between two markers. -/
def sectionContent (document : Document) (markers : Markers) : Except Error String := do
  let span ← document.findSection markers
  return String.join (document.contentLines span)

/-- The terminator of the line at an index; a line feed where there is none. -/
def terminatorAt (document : Document) (index : Nat) : String :=
  match document.line? index with
  | some line => if endsWithCrLf line then "\r\n" else "\n"
  | none => "\n"

/-- Content ended by a terminator, unless it is empty or has one. -/
def terminated (content terminator : String) : String :=
  if content = "" ∨ endsWithNewline content then content else content ++ terminator

/-- New content for a section, as it goes into the document: it takes the terminator of the
opening marker line where it lacks one, so that it never shares a line with the closing marker. -/
def splicedContent (document : Document) (span : Span) (content : String) : String :=
  terminated content (document.terminatorAt span.opening)

/-- The document with new content in place of a section's lines. The marker lines stay or go. -/
def splice (document : Document) (span : Span) (content : String) (keepMarkers : Bool) : Document :=
  ofText <|
    String.join (document.lines.take (span.headSize keepMarkers)) ++
      document.splicedContent span content ++
      String.join (document.lines.drop (span.tailStart keepMarkers))

/-- Overwrites the first section between two markers. -/
def rewrite (document : Document) (markers : Markers) (content : String) (keepMarkers : Bool) :
    Except Error Document := do
  let span ← document.findSection markers
  return document.splice span content keepMarkers

/-- Text, taken apart and joined again, is unchanged. -/
@[simp]
theorem toText_ofText (text : String) : (ofText text).toText = text :=
  join_lines text

end Document

/-- Overwrites the first section between two markers in a text. -/
def rewriteText (text : String) (markers : Markers) (content : String) (keepMarkers : Bool) :
    Except Error String := do
  let document ← (Document.ofText text).rewrite markers content keepMarkers
  return document.toText

end Scaffold.Section
