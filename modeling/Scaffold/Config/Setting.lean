import Scaffold.Config.KeyPath
import Scaffold.Fields
import Scaffold.NameMap
import Scaffold.Text.Case
import Scaffold.Toml.Basic

/-!
# Settings

A setting is a value of some kind, a list of settings, or a table of settings. Layers of settings are put over each
other: a table is merged field by field, and everything else takes the place of what was there.

## Main Definitions

* `Setting` — a value, a list, or a table
* `Setting.ofToml` — a TOML value as a setting
* `Setting.put` — puts a setting under a name
* `Setting.assign` — puts a setting at the end of a path
* `Setting.toText?`, `Setting.toFlag?`, `Setting.items?`, `Setting.record?` — a setting as what is wanted

## Design Notes

Where a text is wanted, numbers, truth values and dates are written out, for the variables of the environment hold
nothing but text. Where a truth value is wanted, a number stands for whether it differs from zero, and a text
for the truth value that it names.

Names are in lower case where a setting is put. The tables that stand inside a list are taken as they are.
-/

namespace Scaffold

open Text

/-- A value of some kind, or settings put together. -/
inductive Setting where
  /-- Nothing: an item that a list has for the sake of a later one. -/
  | unset
  /-- A text; dates and times are texts. -/
  | text (value : String)
  /-- A whole number. -/
  | integer (value : Int)
  /-- A floating-point number. -/
  | float (value : Number.Binary64)
  /-- A truth value. -/
  | flag (value : Bool)
  /-- A list. -/
  | list (items : List Setting)
  /-- A table, in ascending order of the names. -/
  | table (fields : List (String × Setting))
  deriving Repr

namespace Setting

/-- Settings without an entry. -/
def empty : Setting :=
  .table []

instance : Inhabited Setting := ⟨empty⟩

/-! ### TOML values -/

mutual

/-- A TOML value as a setting. -/
def ofToml : Toml → Setting
  | .string value => .text value
  | .integer value => .integer value
  | .float value => .float value
  | .boolean value => .flag value
  | .datetime value => .text value
  | .array items => .list (ofTomlItems items)
  | .table fields => .table (NameMap.ofList (ofTomlFields fields)).toList

/-- The items of a TOML list as settings. -/
def ofTomlItems : List Toml → List Setting
  | [] => []
  | item :: rest => ofToml item :: ofTomlItems rest

/-- The fields of a TOML table as settings. -/
def ofTomlFields : List (String × Toml) → List (String × Setting)
  | [] => []
  | (name, value) :: rest => (name, ofToml value) :: ofTomlFields rest

end

/-! ### Layers -/

/-- The fields of a table; what is no table has none. -/
def fields : Setting → List (String × Setting)
  | .table fields => fields
  | _ => []

/-- The items of a list; what is no list has none. -/
def items : Setting → List Setting
  | .list items => items
  | _ => []

/-- The setting under a name. -/
def field? (here : Setting) (name : String) : Option Setting :=
  NameMap.lookup name here.fields

/-- The table with a setting under a name, whatever was there. -/
def setField (here : Setting) (name : String) (value : Setting) : Setting :=
  .table (NameMap.insertSorted name value here.fields)

mutual

/-- The table with a setting put under a name: a table is merged into what is there. -/
def put (here : Setting) (name : String) : (value : Setting) → Setting
  | .table fields =>
    let inner := (here.field? (lowerCase name)).getD empty
    here.setField (lowerCase name) (merge inner fields)
  | value => here.setField (lowerCase name) value

/-- The table with the fields of another put into it one after the other. -/
def merge (here : Setting) : (fields : List (String × Setting)) → Setting
  | [] => here
  | (name, value) :: rest => merge (put here name value) rest

end

/-- The position of an index in a list of some length, which a negative index must not exceed. -/
def position? (index : Int) (length : Nat) : Option Nat :=
  if 0 ≤ index then some index.toNat
  else if index.natAbs ≤ length then some (length - index.natAbs)
  else none

/-- The list with one item changed; up to there it is filled with items that are unset. -/
def changeItem (position : Nat) (change : Setting → Setting) (here : List Setting) : List Setting :=
  (here ++ List.replicate (position + 1 - here.length) unset).modify position change

/-- The settings with one of them put at the end of a path. What is of another kind than the path asks
for gives way on the path. -/
def assign (here : Setting) (path : KeyPath) (value : Setting) : Setting :=
  match path with
  | [] => value
  | [.field name] => here.put name value
  | .field name :: path =>
    let inner := (here.field? (lowerCase name)).getD unset
    here.setField (lowerCase name) (inner.assign path value)
  | .item index :: path =>
    match position? index here.items.length with
    | some position => .list (changeItem position (fun inner => inner.assign path value) here.items)
    | none => .list here.items

/-! ### Kinds -/

/-- The setting as a text. -/
def toText? : Setting → Option String
  | text value => some value
  | integer value => some (toString value)
  | float value => some value.toPositional
  | flag value => some (if value then "true" else "false")
  | _ => none

/-- The setting as a text that may be left out. -/
def toOptionalText? : Setting → Option (Option String)
  | unset => some none
  | setting => setting.toText?.map some

/-- The truth value that a text names. -/
def flagNamed? (text : String) : Option Bool :=
  if lowerCase text ∈ ["1", "true", "on", "yes"] then some true
  else if lowerCase text ∈ ["0", "false", "off", "no"] then some false
  else none

/-- The setting as a truth value. -/
def toFlag? : Setting → Option Bool
  | flag value => some value
  | integer value => some (value != 0)
  | float value => some (!value.isZero)
  | text value => flagNamed? value
  | _ => none

/-- The items of a list. -/
def items? : Setting → Option (List Setting)
  | list items => some items
  | _ => none

/-- The fields of a record with the given field names: those of a table, or the items of a list, of
which those beyond the record are ignored. -/
def record? (names : List String) : Setting → Option (Fields Setting)
  | table fields => some fun name => NameMap.lookup name fields
  | list items => some fun name => NameMap.lookup name (names.zip items)
  | _ => none

end Setting

end Scaffold
