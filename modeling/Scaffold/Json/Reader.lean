import Scaffold.Json.Basic

/-!
# Reading JSON text

A reader takes a value off the front of a text and returns the rest. Where a name occurs twice in an
object, the later field counts. Values may be nested to a depth of 127.

## Main Definitions

* `Json.readString` — a quoted text
* `Json.readNumber` — a number
* `Json.readValue` — a value of bounded depth
* `Json.ofText?` — a text that holds one value and nothing else

## Design Notes

A number with a point, an exponent or more digits than 64 bits hold is floating-point. It is
computed from its leading digits as a number of 64 bits and then multiplied or divided by a power of ten, with
a rounding in each step.
-/

namespace Scaffold.Json

open Number

/-- Takes a value off the front of a text, or refuses it. -/
abbrev Reader (α : Type) := List Char → Option (α × List Char)

/-- Whether a character may stand between tokens. -/
def isSpace (c : Char) : Bool :=
  c == ' ' || c == '\t' || c == '\n' || c == '\r'

/-- Drops the space at the front. -/
def skipSpace (cs : List Char) : List Char :=
  cs.dropWhile isSpace

/-- The value of a decimal digit. -/
def digitValue (c : Char) : Nat :=
  c.toNat - '0'.toNat

/-- The value of a hexadecimal digit. -/
def hexValue? (c : Char) : Option Nat :=
  if c.isDigit then some (digitValue c)
  else if 'a' ≤ c ∧ c ≤ 'f' then some (c.toNat - 'a'.toNat + 10)
  else if 'A' ≤ c ∧ c ≤ 'F' then some (c.toNat - 'A'.toNat + 10)
  else none

/-- Four hexadecimal digits. -/
def readHex : Reader Nat
  | a :: b :: c :: d :: rest => do
    let a ← hexValue? a
    let b ← hexValue? b
    let c ← hexValue? c
    let d ← hexValue? d
    return (((a * 16 + b) * 16 + c) * 16 + d, rest)
  | _ => none

/-- What follows `\u`: a code unit, or two for a character beyond the first plane. -/
def readUnicode (cs : List Char) : Option (Char × List Char) := do
  let (unit, rest) ← readHex cs
  if 0xdc00 ≤ unit ∧ unit ≤ 0xdfff then none
  else if 0xd800 ≤ unit ∧ unit ≤ 0xdbff then
    match rest with
    | '\\' :: 'u' :: rest => do
      let (low, rest) ← readHex rest
      if 0xdc00 ≤ low ∧ low ≤ 0xdfff then
        return (Char.ofNat (0x10000 + (unit - 0xd800) * 0x400 + (low - 0xdc00)), rest)
      else none
    | _ => none
  else return (Char.ofNat unit, rest)

/-- The characters of a quoted text up to its closing quote; each step takes one character at least. -/
def readStringTail : (fuel : Nat) → Reader (List Char)
  | 0, _ => none
  | fuel + 1, cs =>
    match cs with
    | [] => none
    | '"' :: rest => some ([], rest)
    | '\\' :: 'u' :: rest => do
      let (c, rest) ← readUnicode rest
      let (more, rest) ← readStringTail fuel rest
      return (c :: more, rest)
    | '\\' :: escape :: rest => do
      let c ← match escape with
        | '"' => some '"'
        | '\\' => some '\\'
        | '/' => some '/'
        | 'b' => some '\x08'
        | 'f' => some '\x0c'
        | 'n' => some '\n'
        | 'r' => some '\r'
        | 't' => some '\t'
        | _ => none
      let (more, rest) ← readStringTail fuel rest
      return (c :: more, rest)
    | c :: rest => do
      if c.toNat < 0x20 ∨ c = '\\' then none
      else
        let (more, rest) ← readStringTail fuel rest
        return (c :: more, rest)

/-- A quoted text. -/
def readString : Reader String
  | '"' :: rest => do
    let (cs, rest) ← readStringTail (rest.length + 1) rest
    return (String.ofList cs, rest)
  | _ => none

/-- The bound of an unsigned number of 64 bits. -/
def wholeBound : Nat := Nat.pow 2 64

/-- A magnitude from its leading digits and an exponent of ten, rounded at each step; none if it is too
large. -/
def scaleFloat : (fuel : Nat) → Binary64 → Int → Option Binary64
  | 0, _, _ => some (.zero false)
  | fuel + 1, value, exponent =>
    if exponent.natAbs ≤ 308 then
      let power := Binary64.ofNat (Nat.pow 10 exponent.natAbs)
      if 0 ≤ exponent then
        let product := value.mul power
        if product.isFinite then some product else none
      else some (value.div power)
    else if value.isZero then some value
    else if 0 ≤ exponent then none
    else scaleFloat fuel (value.div (Binary64.ofNat (Nat.pow 10 308))) (exponent + 308)

/-- The floating-point number of leading digits and an exponent. -/
def floatOf (negative : Bool) (significand : Nat) (exponent : Int) : Option JsonNumber := do
  let value ← scaleFloat 4 (Binary64.ofNat significand) exponent
  return .float (if negative then value.neg else value)

/-- Reads digits into a significand of 64 bits. Digits that no longer fit are counted, not read. -/
def readDigits (significand dropped : Nat) : List Char → Nat × Nat × List Char
  | [] => (significand, dropped, [])
  | c :: rest =>
    if c.isDigit then
      let next := significand * 10 + digitValue c
      if dropped = 0 ∧ next < wholeBound then readDigits next 0 rest
      else readDigits significand (dropped + 1) rest
    else (significand, dropped, c :: rest)

/-- Reads the exponent of a number whose leading digits have the given exponent already. -/
def readExponent (negative : Bool) (significand : Nat) (exponent : Int) : Reader JsonNumber :=
  fun cs =>
    let (down, cs) := match cs with
      | '-' :: rest => (true, rest)
      | '+' :: rest => (false, rest)
      | _ => (false, cs)
    let digits := cs.takeWhile Char.isDigit
    let rest := cs.dropWhile Char.isDigit
    if digits.isEmpty then none
    else
      let power := digits.foldl (fun n c => n * 10 + digitValue c) 0
      if Nat.pow 2 31 ≤ power then
        if significand = 0 ∨ down then
          some (.float (.zero negative), rest)
        else none
      else do
        let exponent : Int := if down then exponent - power else exponent + power
        let value ← floatOf negative significand exponent
        return (value, rest)

/-- Reads what follows the digits of a floating-point number: an exponent, or nothing. -/
def readScale (negative : Bool) (significand : Nat) (exponent : Int) : Reader JsonNumber
  | 'e' :: rest => readExponent negative significand exponent rest
  | 'E' :: rest => readExponent negative significand exponent rest
  | cs => do
    let value ← floatOf negative significand exponent
    return (value, cs)

/-- Reads what follows the first digits of a number: a fraction, an exponent, or nothing. -/
def readRemainder (negative : Bool) (significand dropped : Nat) : Reader JsonNumber
  | '.' :: rest => do
    let digits := (rest.takeWhile Char.isDigit).length
    if digits = 0 then none
    else
      let (significand, ignored, rest) := readDigits significand 0 rest
      readScale negative significand (dropped - (digits - ignored : Nat)) rest
  | cs =>
    if cs.head? = some 'e' ∨ cs.head? = some 'E' ∨ dropped ≠ 0 then
      readScale negative significand dropped cs
    else if negative then
      if significand = 0 ∨ Nat.pow 2 63 < significand then do
        let value ← floatOf true significand 0
        return (value, cs)
      else some (.whole (-significand), cs)
    else some (.whole significand, cs)

/-- A number: no zero in front of other digits, and a digit on both sides of the point. -/
def readNumber (cs : List Char) : Option (JsonNumber × List Char) :=
  let (negative, cs) := match cs with
    | '-' :: rest => (true, rest)
    | _ => (false, cs)
  match cs with
  | '0' :: rest =>
    if rest.head?.any Char.isDigit then none else readRemainder negative 0 0 rest
  | c :: _ =>
    if c.isDigit then
      let (significand, dropped, rest) := readDigits 0 0 cs
      readRemainder negative significand dropped rest
    else none
  | [] => none

/-- The rest of a list after its opening bracket and first items. -/
def readItems (read : Reader Json) : (fuel : Nat) → Reader (List Json)
  | 0, _ => none
  | fuel + 1, cs => do
    let (item, rest) ← read (skipSpace cs)
    match skipSpace rest with
    | ']' :: rest => some ([item], rest)
    | ',' :: rest => do
      let (more, rest) ← readItems read fuel rest
      return (item :: more, rest)
    | _ => none

/-- The rest of an object after its opening brace and first fields. -/
def readFields (read : Reader Json) : (fuel : Nat) → Reader (List (String × Json))
  | 0, _ => none
  | fuel + 1, cs => do
    let (name, rest) ← readString (skipSpace cs)
    match skipSpace rest with
    | ':' :: rest => do
      let (value, rest) ← read (skipSpace rest)
      match skipSpace rest with
      | '\x7d' :: rest => some ([(name, value)], rest)
      | ',' :: rest => do
        let (more, rest) ← readFields read fuel rest
        return ((name, value) :: more, rest)
      | _ => none
    | _ => none

/-- A value whose lists and objects are nested less deeply than `depth`. -/
def readValue : (depth : Nat) → Reader Json
  | _, 'n' :: 'u' :: 'l' :: 'l' :: rest => some (null, rest)
  | _, 't' :: 'r' :: 'u' :: 'e' :: rest => some (bool true, rest)
  | _, 'f' :: 'a' :: 'l' :: 's' :: 'e' :: rest => some (bool false, rest)
  | _, '"' :: rest => do
    let (text, rest) ← readString ('"' :: rest)
    return (string text, rest)
  | depth + 1, '[' :: rest =>
    match depth, skipSpace rest with
    | 0, _ => none
    | _, ']' :: rest => some (array [], rest)
    | depth, rest => do
      let (items, rest) ← readItems (readValue depth) (rest.length + 1) rest
      return (array items, rest)
  | depth + 1, '\x7b' :: rest =>
    match depth, skipSpace rest with
    | 0, _ => none
    | _, '\x7d' :: rest => some (object [], rest)
    | depth, rest => do
      let (fields, rest) ← readFields (readValue depth) (rest.length + 1) rest
      return (ofFields fields, rest)
  | _, cs => do
    let (value, rest) ← readNumber cs
    return (number value, rest)

/-- The depth to which values may be nested, and one more. -/
def maxDepth : Nat := 128

/-- The value of a text that holds one value, with space around it, and nothing else. -/
def ofText? (text : String) : Option Json := do
  let (value, rest) ← readValue maxDepth (skipSpace text.toList)
  if (skipSpace rest).isEmpty then some value else none

end Scaffold.Json
