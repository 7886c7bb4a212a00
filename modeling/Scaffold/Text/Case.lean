/-!
# Letter case

Case is changed for the letters of ASCII alone; every other character stays as it is.

## Main Definitions

* `upperCase`, `lowerCase` — a text with its ASCII letters in one case
-/

namespace Scaffold.Text

/-- A text with its ASCII letters in upper case. -/
def upperCase (text : String) : String :=
  String.ofList (text.toList.map Char.toUpper)

/-- A text with its ASCII letters in lower case. -/
def lowerCase (text : String) : String :=
  String.ofList (text.toList.map Char.toLower)

/-- Upper case keeps the places of characters. -/
@[simp]
theorem toList_upperCase (text : String) :
    (upperCase text).toList = text.toList.map Char.toUpper := by
  simp [upperCase]

/-- Lower case keeps the places of characters. -/
@[simp]
theorem toList_lowerCase (text : String) :
    (lowerCase text).toList = text.toList.map Char.toLower := by
  simp [lowerCase]

end Scaffold.Text
