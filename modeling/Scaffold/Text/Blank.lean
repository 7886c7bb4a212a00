/-!
# Blank text

White space as the Unicode property `White_Space` draws it, and what follows from it: blank text and
trimming.

## Main Definitions

* `isBlankChar` — the property, as a table of ranges
* `isBlank` — text that holds white space only
* `trim` — text without the white space around it
-/

namespace Scaffold.Text

/-- The code points with the property `White_Space`, as inclusive ranges in ascending order. -/
def blankRanges : List (Nat × Nat) :=
  [(0x9, 0xd), (0x20, 0x20), (0x85, 0x85), (0xa0, 0xa0), (0x1680, 0x1680), (0x2000, 0x200a),
    (0x2028, 0x2029), (0x202f, 0x202f), (0x205f, 0x205f), (0x3000, 0x3000)]

/-- Whether a character is white space. -/
def isBlankChar (c : Char) : Bool :=
  blankRanges.any fun range => range.1 ≤ c.toNat && c.toNat ≤ range.2

/-- Whether text holds white space only; the empty text does. -/
def isBlank (text : String) : Bool :=
  text.toList.all isBlankChar

/-- A list of characters without the white space at its two ends. -/
def trimChars (cs : List Char) : List Char :=
  ((cs.dropWhile isBlankChar).reverse.dropWhile isBlankChar).reverse

/-- Text without the white space at its two ends. -/
def trim (text : String) : String :=
  String.ofList (trimChars text.toList)

end Scaffold.Text
