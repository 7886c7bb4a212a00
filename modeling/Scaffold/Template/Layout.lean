import Scaffold.Template.Tag
import Scaffold.Text.Blank

/-!
# The layout of a template

A template falls into text and tags. Some of the white space around tags is not printed: what a mark for
trimming removes, and the line of a tag that stands alone on it.

## Main Definitions

* `Token` — text or a tag, as written
* `scan` — the tokens of a template
* `Piece` — text or a tag, as printed
* `layOut` — the pieces of tokens

## Design Notes

A backslash before two braces makes them text; of several backslashes before two braces one goes, and the
braces start a tag.

A tag stands alone if its line holds only spaces and tabs before it, and spaces, tabs and then a line break
after it; the end of the template is no line break. Whether it does is decided on the text as it is
written. A tag that prints a value never stands alone, and an inclusion keeps the white space before it.
-/

namespace Scaffold.Template

open Text

/-- Text or a tag of a template, as written. -/
inductive Token where
  /-- Text, as it is written and as it reads. -/
  | text (source shown : List Char)
  /-- A tag, and whether only spaces and tabs stand between it and the next line break. -/
  | tag (tag : MarkedTag) (endsLine : Bool)
  deriving Repr

/-- Whether a character is a space or a tab. -/
def isIndentChar (c : Char) : Bool :=
  c == ' ' || c == '\t'

/-- Whether a character breaks a line. -/
def isBreakChar (c : Char) : Bool :=
  c == '\n' || c == '\r'

/-- Whether text starts with spaces and tabs that a line break follows. -/
def startsWithEmptyLine (cs : List Char) : Bool :=
  (cs.dropWhile isIndentChar).head?.any isBreakChar

/-- How many backslashes stand at the front of a text. -/
def backslashes (cs : List Char) : Nat :=
  (cs.takeWhile (· == '\\')).length

/-- Text up to the next tag that starts with the given number of braces, as written and as it
reads, and the rest. -/
def scanText (braces : Nat) : (fuel : Nat) → List Char → (List Char × List Char) × List Char
  | 0, cs => (([], []), cs)
  | fuel + 1, cs =>
    let opening := List.replicate braces '\x7b'
    let escaped := backslashes cs
    let behind := cs.drop escaped
    if escaped = 1 ∧ ['\x7b', '\x7b'].isPrefixOf behind then
      let taken := if (List.replicate 4 '\x7b').isPrefixOf behind then 4 else 2
      let ((source, shown), rest) := scanText braces fuel (behind.drop taken)
      ((cs.take (taken + 1) ++ source, behind.take taken ++ shown), rest)
    else if 1 < escaped ∧ ['\x7b', '\x7b'].isPrefixOf behind then
      let ((source, shown), rest) := scanText braces fuel behind
      ((cs.take escaped ++ source, cs.take (escaped - 1) ++ shown), rest)
    else if opening.isPrefixOf cs then (([], []), cs)
    else
      match cs with
      | [] => (([], []), [])
      | c :: rest =>
        let ((source, shown), rest) := scanText braces fuel rest
        ((c :: source, c :: shown), rest)

/-- The tokens of a template; none if a tag is not one. Each step takes one character at least. -/
def scanTokens : (fuel : Nat) → List Char → Option (List Token)
  | 0, _ => none
  | _, [] => some []
  | fuel + 1, cs =>
    let ((source, shown), rest) := scanText 2 cs.length cs
    if source.isEmpty then do
      let (tag, rest) ← readTag.result? cs
      let token := Token.tag tag (startsWithEmptyLine rest)
      match tag.tag with
      | .openRaw _ =>
        let blank := rest.takeWhile Json.isSpace
        let ((source, shown), rest) := scanText 4 rest.length (rest.drop blank.length)
        return token :: .text (blank ++ source) shown :: (← scanTokens fuel rest)
      | _ => return token :: (← scanTokens fuel rest)
    else return .text source shown :: (← scanTokens fuel rest)

/-- The tokens of a template. -/
def scan (cs : List Char) : Option (List Token) :=
  scanTokens (cs.length + 1) cs

/-- Text or a tag of a template, as printed. -/
inductive Piece where
  /-- Text. -/
  | text (text : String)
  /-- A tag, and the spaces and tabs before it. -/
  | tag (tag : Tag) (indent : String)
  deriving Repr

/-- What is known of the place between two tokens. -/
structure Place where
  /-- Whether the tag before asks for the white space after it to go. -/
  trim : Bool := false
  /-- Whether the tag before stands alone, so that the rest of its line goes. -/
  dropLine : Bool := false
  /-- Whether only spaces and tabs have come since the last line break. -/
  lineStart : Bool := true
  /-- The spaces and tabs that have come last, last one first. -/
  indent : List Char := []
  deriving Repr

/-- Drops spaces and tabs, and then one line break. -/
def dropLineEnd (cs : List Char) : List Char :=
  match cs.dropWhile isIndentChar with
  | '\r' :: '\n' :: rest => rest
  | '\n' :: rest => rest
  | rest => rest

/-- Drops characters from the end of a text as long as they pass a test. -/
def dropEndWhile (test : Char → Bool) (cs : List Char) : List Char :=
  (cs.reverse.dropWhile test).reverse

/-- The place after a text, as written. -/
def Place.afterText (place : Place) (source : List Char) : Place :=
  let indent := source.reverse.takeWhile isIndentChar
  let lineStart :=
    match source.reverse.dropWhile isIndentChar with
    | [] => place.lineStart
    | c :: _ => isBreakChar c
  { place with lineStart, indent }

/-- The text that follows a place, without what goes at its start. Text of white space alone that
is trimmed leaves the line of a tag before it to be dropped from later text. -/
def Place.open (place : Place) (source shown : List Char) : Option (List Char) × Place :=
  if source.all Json.isSpace then
    if place.trim then (none, place)
    else (some (if place.dropLine then dropLineEnd shown else shown), { place with dropLine := false })
  else if place.trim then (some (shown.dropWhile isBlankChar), { place with dropLine := false })
  else if place.dropLine then (some (dropLineEnd shown), { place with dropLine := false })
  else (some shown, place)

/-- Whether a tag can stand alone on its line. -/
def Tag.standsAlone : Tag → Bool
  | .value _ => false
  | .call .. => false
  | _ => true

/-- Whether a tag that stands alone takes the spaces before it away. -/
def Tag.takesIndent : Tag → Bool
  | .inclusion .. => false
  | tag => tag.standsAlone

/-- Whether a tag stands alone at a place. -/
def Place.isAlone (place : Place) (tag : MarkedTag) (endsLine : Bool) : Bool :=
  tag.tag.standsAlone && endsLine && place.lineStart

/-- The text before a tag, without what the tag removes at its end. -/
def Place.close (place : Place) (tag : MarkedTag) (endsLine : Bool) (shown : List Char) :
    List Char :=
  let shown := if tag.trimBefore then dropEndWhile isBlankChar shown else shown
  if place.isAlone tag endsLine && tag.tag.takesIndent then dropEndWhile isIndentChar shown
  else shown

/-- The place after a tag. -/
def Place.afterTag (place : Place) (tag : MarkedTag) (endsLine : Bool) : Place where
  trim := match tag.tag with
    | .comment => place.trim
    | _ => tag.trimAfter
  dropLine := if tag.tag.standsAlone then place.isAlone tag endsLine else place.dropLine
  lineStart := false
  indent := []

/-- The spaces and tabs before a tag, if the tag does not ask for them to go. -/
def Place.indentOf (place : Place) (tag : MarkedTag) : String :=
  if tag.trimBefore then "" else String.ofList place.indent.reverse

/-- The pieces of tokens from a place on. -/
def layOut (place : Place) : List Token → List Piece
  | [] => []
  | .tag tag endsLine :: rest =>
    .tag tag.tag (place.indentOf tag) :: layOut (place.afterTag tag endsLine) rest
  | .text source shown :: .tag tag endsLine :: rest =>
    let (text, opened) := place.open source shown
    let here := opened.afterText source
    let more := .tag tag.tag (here.indentOf tag) :: layOut (here.afterTag tag endsLine) rest
    match text with
    | none => more
    | some text => .text (String.ofList (here.close tag endsLine text)) :: more
  | .text source shown :: rest =>
    let (text, opened) := place.open source shown
    let more := layOut (opened.afterText source) rest
    match text with
    | none => more
    | some text => .text (String.ofList text) :: more

end Scaffold.Template
