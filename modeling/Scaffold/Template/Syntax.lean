import Scaffold.Json.Basic

/-!
# Templates

A template is text with tags in double braces. A tag prints a value, calls a helper, opens a block around a
part of the template, or includes another template.

## Main Definitions

* `Segment`, `Path` — how a value is found in the context
* `Argument` — what stands inside a tag: a literal, a path, or a call in parentheses
* `Element` — a part of a template
* `Template` — the elements in order
-/

namespace Scaffold.Template

/-- A step of a path. -/
inductive Segment where
  /-- The start of the whole context, `@root`. -/
  | root
  /-- The mark `@` of a variable of the enclosing block. -/
  | variableMark
  /-- One block outwards, `..`. -/
  | up
  /-- A field of an object or an index of a list. -/
  | key (name : String)
  deriving DecidableEq, Repr

/-- A path to a value. -/
structure Path where
  /-- The path as it is written. -/
  source : String
  /-- Its steps. -/
  segments : List Segment
  deriving DecidableEq, Repr

/-- What stands inside a tag. -/
inductive Argument where
  /-- A value written out. -/
  | literal (value : Json)
  /-- A path to a value. -/
  | path (path : Path)
  /-- The result of a helper. -/
  | call (name : String) (positional : List Argument) (named : List (String × Argument))
  deriving Repr

/-- The arguments of a tag. -/
structure Arguments where
  /-- The arguments by position. -/
  positional : List Argument := []
  /-- The arguments by name, in ascending order of the names. -/
  named : List (String × Argument) := []
  deriving Repr

/-- The start of a block. -/
structure Head where
  /-- The helper that renders the block. -/
  name : String
  /-- Its arguments. -/
  arguments : Arguments
  /-- The names that the block gives to its values. -/
  parameters : List String
  deriving Repr

/-- A part of a template. -/
inductive Element where
  /-- Text that is printed as it is. -/
  | text (text : String)
  /-- A value to be printed, or a helper without arguments. -/
  | value (value : Argument)
  /-- A helper whose result is printed. -/
  | call (name : String) (arguments : Arguments)
  /-- A block with its body and its other branch. -/
  | block (head : Head) (body : List Element) (otherwise : Option (List Element))
  /-- Another template, by name, with an indent for its lines. -/
  | inclusion (name : Argument) (arguments : Arguments) (indent : String)
  deriving Repr

end Template

/-- A template: its elements in order. -/
abbrev Template := List Template.Element

end Scaffold
