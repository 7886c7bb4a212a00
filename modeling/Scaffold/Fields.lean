/-!
# Fields of a record

What a record offers while it is decoded, whatever the format of its values.

## Main Definitions

* `Fields` — the values of the fields, by name
* `Fields.required` — a field that must be there
* `Fields.optional` — a field with a default
-/

namespace Scaffold

/-- The values of the fields of a record, by name. -/
abbrev Fields (ν : Type) := String → Option ν

namespace Fields

variable {ν α : Type}

/-- A field that has to be there. -/
def required (fields : Fields ν) (name : String) (decode : ν → Option α) : Option α := do
  decode (← fields name)

/-- A field that may be missing; if it is there, it has to decode. -/
def optional (fields : Fields ν) (name : String) (decode : ν → Option α) (default : α) :
    Option α :=
  match fields name with
  | none => some default
  | some value => decode value

end Fields

end Scaffold
