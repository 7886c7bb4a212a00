import Scaffold.Json.Basic
import Scaffold.Text.Quoted

/-!
# Writing JSON text

## Main Definitions

* `Json.quoted` — a text between quotes, with the escapes that JSON needs
* `Json.toText` — a value as text, without space
-/

namespace Scaffold.Json

/-- The letters of the escapes that have one. -/
def shortEscapes : List (Char × Char) :=
  [('"', '"'), ('\\', '\\'), ('\x08', 'b'), ('\t', 't'), ('\n', 'n'), ('\x0c', 'f'), ('\r', 'r')]

/-- How one character is written in a quoted text. -/
def escaped (c : Char) : List Char :=
  if let some letter := shortEscapes.lookup c then ['\\', letter]
  else if c.toNat < 0x20 then
    let digits := Nat.toDigits 16 c.toNat
    '\\' :: 'u' :: List.replicate (4 - digits.length) '0' ++ digits
  else [c]

/-- A text between quotes. -/
def quoted (text : String) : String :=
  String.ofList ('"' :: text.toList.flatMap escaped ++ ['"'])

mutual

/-- A value as text, without space between its tokens. -/
def toText : Json → String
  | null => "null"
  | bool value => if value then "true" else "false"
  | number value => value.toText
  | string value => quoted value
  | array items => "[" ++ ",".intercalate (itemTexts items) ++ "]"
  | object fields => "\x7b" ++ ",".intercalate (fieldTexts fields) ++ "\x7d"

/-- The texts of the items of a list. -/
def itemTexts : List Json → List String
  | [] => []
  | item :: rest => toText item :: itemTexts rest

/-- The texts of the fields of an object. -/
def fieldTexts : List (String × Json) → List String
  | [] => []
  | (name, value) :: rest => (quoted name ++ ":" ++ toText value) :: fieldTexts rest

end

end Scaffold.Json
