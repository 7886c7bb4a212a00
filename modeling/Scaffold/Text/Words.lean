/-!
# Words and PascalCase

A name falls into words at every character that is neither an ASCII letter nor an ASCII digit, and inside
a piece where the case of its letters changes: after a lower-case letter before an upper-case
one, and before the last capital of a run of capitals that a lower-case letter follows. A digit takes
over the case of the letter before it.

## Main Definitions

* `pieces` — the runs of ASCII letters and digits
* `scanWords` — the words of one piece
* `words` — the words of a list of characters
* `pascalCase` — the words, capitalised and joined
-/

namespace Scaffold.Text

/-- Cuts a list of characters at every character outside `A-Z a-z 0-9`, which is dropped. -/
def pieces : List Char → List (List Char)
  | [] => [[]]
  | c :: rest =>
    if c.isAlphanum then
      match pieces rest with
      | [] => [[c]]
      | piece :: more => (c :: piece) :: more
    else [] :: pieces rest

/-- The letter case that the scan of a word has seen last. -/
inductive LetterCase where
  /-- The word has no letter yet. -/
  | boundary
  /-- The last letter was lower-case. -/
  | lower
  /-- The last letter was upper-case. -/
  | upper
  deriving DecidableEq, Repr

/-- The case after reading `c`; a digit keeps the case before it. -/
def LetterCase.after (mode : LetterCase) (c : Char) : LetterCase :=
  if c.isLower then .lower else if c.isUpper then .upper else mode

/-- Cuts a piece into words; `word` holds the characters of the current word, last one first. -/
def scanWords (mode : LetterCase) (word : List Char) : List Char → List (List Char)
  | [] => [word.reverse]
  | [c] => [(c :: word).reverse]
  | c :: next :: rest =>
    if mode.after c = .lower ∧ next.isUpper then
      (c :: word).reverse :: scanWords .boundary [] (next :: rest)
    else if mode = .upper ∧ c.isUpper ∧ next.isLower then
      word.reverse :: scanWords .boundary [c] (next :: rest)
    else scanWords (mode.after c) (c :: word) (next :: rest)

/-- The words of a list of characters, in order. -/
def words (cs : List Char) : List (List Char) :=
  (pieces cs).flatMap (scanWords .boundary [])

/-- A word with its first character in upper case and the others in lower case. -/
def capitalize : List Char → List Char
  | [] => []
  | c :: rest => c.toUpper :: rest.map Char.toLower

/-- The words of a text, capitalised and joined: `scene_v1` becomes `SceneV1`. -/
def pascalCase (text : String) : String :=
  String.ofList ((words text.toList).flatMap capitalize)

end Scaffold.Text
