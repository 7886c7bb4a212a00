/-!
# Lines of text

Text falls into lines after each line feed and nowhere else. A line keeps its terminator, so that
joining the lines gives the text back.

## Main Definitions

* `splitLines` — the lines of a list of characters
* `lines` — the lines of a text
* `stripTerminator` — a line without one final `\n` or `\r\n`
* `Terminated` — text that is empty or ends in a line feed
-/

namespace Scaffold.Text

/-- Cuts a list of characters after each line feed. -/
def splitLines : List Char → List (List Char)
  | [] => []
  | c :: rest =>
    if c = '\n' then [c] :: splitLines rest
    else
      match splitLines rest with
      | [] => [[c]]
      | line :: more => (c :: line) :: more

/-- The lines of a text, each with its terminator; only the last one may lack it. -/
def lines (text : String) : List String :=
  (splitLines text.toList).map String.ofList

/-- Drops one `\n`, or one `\r\n`, from the end of a list of characters. -/
def dropTerminator (line : List Char) : List Char :=
  match line.reverse with
  | '\n' :: '\r' :: rest => rest.reverse
  | '\n' :: rest => rest.reverse
  | _ => line

/-- A line without its terminator; a lone `\r` is no terminator. -/
def stripTerminator (line : String) : String :=
  String.ofList (dropTerminator line.toList)

/-- Whether text ends in a line feed. -/
def endsWithNewline (text : String) : Bool :=
  text.toList.getLast? == some '\n'

/-- Text that ends where a line ends: it is empty, or its last character is a line feed. -/
def Terminated (text : String) : Prop :=
  text = "" ∨ endsWithNewline text = true

/-- Whether text ends in a carriage return and a line feed. -/
def endsWithCrLf (text : String) : Bool :=
  text.toList.reverse.take 2 == ['\n', '\r']

/-- Joining the lines gives the text back. -/
theorem flatten_splitLines (cs : List Char) : (splitLines cs).flatten = cs := by
  induction cs with
  | nil => rfl
  | cons c rest ih =>
    unfold splitLines
    split
    · simp [ih]
    · split
      · next h => simp [h] at ih; simp [← ih]
      · next line more h => rw [h] at ih; simpa using ih

/-- Joining the lines of a text gives the text back. -/
theorem join_lines (text : String) : String.join (lines text) = text := by
  rw [← String.toList_inj, String.toList_join, lines, List.flatMap_map]
  simpa using flatten_splitLines text.toList

end Scaffold.Text
