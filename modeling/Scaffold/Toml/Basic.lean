import Scaffold.Number.Decimal

/-!
# TOML values

## Main Definitions

* `Toml` — a value; a date or time is kept as its text
-/

namespace Scaffold

/-- A TOML value. -/
inductive Toml where
  /-- A text. -/
  | string (value : String)
  /-- A whole number of 64 bits. -/
  | integer (value : Int)
  /-- A floating-point number. -/
  | float (value : Number.Binary64)
  /-- A truth value. -/
  | boolean (value : Bool)
  /-- A date, a time, or both, in its normal form. -/
  | datetime (text : String)
  /-- A list. -/
  | array (items : List Toml)
  /-- A table. -/
  | table (fields : List (String × Toml))
  deriving Repr

instance : Inhabited Toml := ⟨.table []⟩

end Scaffold
