import Scaffold.NameMap
import Scaffold.Number.Decimal

/-!
# JSON values

## Main Definitions

* `JsonNumber` — a whole number of 64 bits or a floating-point number
* `Json` — a value; the fields of an object stand in ascending order of their names
* `Json.ofMap` — an object from a map
* `Json.field?` — a field of an object
* `Json.equals` — equality of values
-/

namespace Scaffold

open Number

/-- A number: a whole one that fits into 64 bits, signed or unsigned, or a floating-point one. -/
inductive JsonNumber where
  /-- A whole number. -/
  | whole (value : Int)
  /-- A floating-point number. -/
  | float (value : Binary64)
  deriving DecidableEq, Repr

namespace JsonNumber

/-- The text of a number. -/
def toText : JsonNumber → String
  | whole value => toString value
  | float value => value.toScientific

/-- Equality of numbers; a whole number never equals a floating-point one. -/
def equals : JsonNumber → JsonNumber → Bool
  | whole a, whole b => a == b
  | float a, float b => a.equals b
  | _, _ => false

/-- A number as a signed whole number of 64 bits. -/
def toInt64? : JsonNumber → Option Int
  | whole value => if -Nat.pow 2 63 ≤ value ∧ value < Nat.pow 2 63 then some value else none
  | float _ => none

/-- A number as an unsigned whole number. -/
def toNat? : JsonNumber → Option Nat
  | whole value => if 0 ≤ value then some value.toNat else none
  | float _ => none

end JsonNumber

/-- A JSON value. -/
inductive Json where
  /-- The value `null`. -/
  | null
  /-- A truth value. -/
  | bool (value : Bool)
  /-- A number. -/
  | number (value : JsonNumber)
  /-- A text. -/
  | string (value : String)
  /-- A list. -/
  | array (items : List Json)
  /-- An object; the fields stand in ascending order of their names. -/
  | object (fields : List (String × Json))
  deriving Repr

namespace Json

instance : Inhabited Json := ⟨null⟩

/-- The object with the entries of a map. -/
def ofMap (entries : NameMap Json) : Json :=
  .object entries.toList

/-- The object of a list of fields; a later field of a name replaces an earlier one. -/
def ofFields (fields : List (String × Json)) : Json :=
  ofMap (NameMap.ofList fields)

/-- A list of texts. -/
def ofStrings (texts : List String) : Json :=
  .array (texts.map .string)

/-- A natural number. -/
def ofNat (n : Nat) : Json :=
  .number (.whole n)

/-- A text, or `null` where there is none. -/
def ofOption : Option String → Json
  | none => null
  | some text => string text

/-- A field of an object. -/
def field? (name : String) : Json → Option Json
  | object fields => NameMap.lookup name fields
  | _ => none

mutual

/-- Equality of values. -/
def equals : Json → Json → Bool
  | null, null => true
  | bool a, bool b => a == b
  | number a, number b => a.equals b
  | string a, string b => a == b
  | array a, array b => equalsItems a b
  | object a, object b => equalsFields a b
  | _, _ => false

/-- Equality of lists of values. -/
def equalsItems : List Json → List Json → Bool
  | [], [] => true
  | x :: xs, y :: ys => equals x y && equalsItems xs ys
  | _, _ => false

/-- Equality of lists of fields. -/
def equalsFields : List (String × Json) → List (String × Json) → Bool
  | [], [] => true
  | (a, x) :: xs, (b, y) :: ys => a == b && equals x y && equalsFields xs ys
  | _, _ => false

end

end Json

end Scaffold
