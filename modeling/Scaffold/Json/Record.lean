import Scaffold.Fields
import Scaffold.Json.Basic

/-!
# Records in JSON

A record is given as an object, whose unknown fields are ignored, or as a list of its fields in the order of
their declaration, of which a tail may be missing.

## Main Definitions

* `Json.record?` — the look-up of fields that a value offers, in either shape
* `Json.text?`, `Json.flag?`, `Json.listOf?`, … — values of one kind only
-/

namespace Scaffold

namespace Json

/-- A text, and nothing else. -/
def text? : Json → Option String
  | string value => some value
  | _ => none

/-- A truth value, and nothing else. -/
def flag? : Json → Option Bool
  | bool value => some value
  | _ => none

/-- A text or `null`. -/
def nullableText? : Json → Option (Option String)
  | null => some none
  | string value => some (some value)
  | _ => none

/-- The items of a list. -/
def items? : Json → Option (List Json)
  | array items => some items
  | _ => none

/-- A list whose items all decode. -/
def listOf? {α : Type} (decode : Json → Option α) (value : Json) : Option (List α) := do
  (← value.items?).mapM decode

/-- A list of texts. -/
def texts? : Json → Option (List String) :=
  listOf? text?

/-- A list of names, taken as a set. -/
def nameSet? (value : Json) : Option NameSet := do
  return NameSet.ofList (← value.texts?)

end Json

/-- The fields of a record with the given field names: those of an object, or the items of a list that
is no longer than the record. -/
def Json.record? (names : List String) : Json → Option (Fields Json)
  | object fields => some fun name => NameMap.lookup name fields
  | array items =>
    if items.length ≤ names.length then some fun name => NameMap.lookup name (names.zip items)
    else none
  | _ => none

end Scaffold
