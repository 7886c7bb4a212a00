import Scaffold.Text.Printable

/-!
# Quoted text

Text between double quotes, in a form that shows every character: a few characters have escapes of
their own, and any other that is not printable is written by its code point.

## Main Definitions

* `escapeChar` — the quoted form of one character
* `quote` — the quoted form of a text
-/

namespace Scaffold.Text

/-- A number in lower-case hexadecimal digits, without padding. -/
def hex (n : Nat) : String :=
  String.ofList (Nat.toDigits 16 n)

/-- How one character is written between the quotes. -/
def escapeChar (c : Char) : String :=
  match c with
  | '\x00' => "\\0"
  | '\t' => "\\t"
  | '\r' => "\\r"
  | '\n' => "\\n"
  | '"' => "\\\""
  | '\\' => "\\\\"
  | c => if isPrintable c then c.toString else "\\u\x7b" ++ hex c.toNat ++ "\x7d"

/-- Text between double quotes, with every character shown. -/
def quote (text : String) : String :=
  "\"" ++ String.join (text.toList.map escapeChar) ++ "\""

end Scaffold.Text
