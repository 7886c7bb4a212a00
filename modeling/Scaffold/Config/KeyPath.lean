import Scaffold.Text.Reader

/-!
# Key paths

The keys of settings are paths: a name leads to a setting, and names after dots and indexes in brackets lead on
into its parts. A text that is no path as a whole is a name.

## Main Definitions

* `KeyStep` — a step from a setting to a part of it
* `KeyPath` — the steps from the whole of the settings
* `KeyPath.ofText?` — the path that a text spells out
* `KeyPath.ofText` — the path that a key stands for
-/

namespace Scaffold

open Text Text.Reader

/-- A step from a setting to a part of it. -/
inductive KeyStep where
  /-- The field of a name. -/
  | field (name : String)
  /-- The item at an index, which counts from the end if it is negative. -/
  | item (index : Int)
  deriving DecidableEq, Repr

/-- The steps from the whole of the settings to one of their parts. -/
abbrev KeyPath := List KeyStep

namespace KeyPath

/-- Whether a character may stand in a name of a path. -/
def isNameChar (c : Char) : Bool :=
  c.isAlphanum || c == ' ' || c == '_' || c == '-'

/-- A name. -/
def readName : Reader String := do
  return String.ofList (← takeWhile1 isNameChar)

/-- Skips spaces and tabs. -/
def skipBlanks : Reader Unit := do
  let _ ← takeWhile fun c => c == ' ' || c == '\t'

/-- An index: a whole number of 64 bits, with spaces around it. -/
def readIndex : Reader Int := do
  skipBlanks
  let negative ← found (exact "-")
  let digits ← takeWhile1 Char.isDigit
  skipBlanks
  let size := digits.foldl (fun n c => n * 10 + (c.toNat - '0'.toNat)) 0
  if negative then
    if size ≤ Nat.pow 2 63 then return -(size : Int) else absent
  else
    if size < Nat.pow 2 63 then return size else absent

/-- A step behind a name. -/
def readStep : Reader KeyStep :=
  orElse
    (do
      exact "."
      return .field (← readName))
    (do
      exact "["
      let index ← readIndex
      exact "]"
      return .item index)

/-- A path. -/
def readPath : Reader KeyPath := do
  let name ← readName
  return .field name :: (← many readStep (← remaining))

/-- The path that a text spells out. -/
def ofText? (text : String) : Option KeyPath := do
  let (path, rest) ← readPath.result? text.toList
  if rest.isEmpty then return path else none

/-- The path that a key stands for. -/
def ofText (key : String) : KeyPath :=
  (ofText? key).getD [.field key]

end KeyPath

end Scaffold
