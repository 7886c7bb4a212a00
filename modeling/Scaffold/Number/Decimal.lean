import Scaffold.Number.Binary64

/-!
# Decimal text of floating-point numbers

A finite number is written with the fewest decimal digits that read back as the same number; of two such
decimals, with the nearer one. Two layouts are in use: a positional one, and one that turns to an
exponent for very large and very small numbers.

## Main Definitions

* `Decimal` — digits with an exponent of ten
* `Decimal.shortest` — the fewest digits that read back
* `Decimal.positional` — digits without an exponent
* `Decimal.scientific` — digits with a point, and an exponent where the number is far from one
-/

namespace Scaffold.Number

/-- The number `digits * 10 ^ exponent`. -/
structure Decimal where
  /-- The significant digits as a number. -/
  digits : Nat
  /-- The power of ten. -/
  exponent : Int
  deriving DecidableEq, Repr

namespace Decimal

/-- The quotient `num / den` divided by a power of ten, as a quotient. -/
def scaleDown (num den : Nat) (exponent : Int) : Nat × Nat :=
  if 0 ≤ exponent then (num, den * Nat.pow 10 exponent.toNat)
  else (num * Nat.pow 10 (-exponent).toNat, den)

/-- The exponent at which a positive quotient has one digit before the point. -/
def leadingExponent (num den : Nat) : Int :=
  let guess : Int :=
    ((Nat.toDigits 10 num).length : Int) - (Nat.toDigits 10 den).length
  let scaled := scaleDown num den guess
  if scaled.1 < scaled.2 then guess - 1 else guess

/-- Whether a decimal reads back as a given positive number. -/
def readsBack (mantissa : Nat) (exponent : Int) (decimal : Decimal) : Bool :=
  Binary64.ofScientific false decimal.digits decimal.exponent == .finite false mantissa exponent

/-- The decimal of a given number of digits that is nearest to a positive number, if it or the one on
the other side of the number reads back. -/
def withDigits (mantissa : Nat) (exponent : Int) (count : Nat) : Option Decimal :=
  let value := Binary64.ratio mantissa exponent
  let power := leadingExponent value.1 value.2 - (count - 1 : Nat)
  let scaled := scaleDown value.1 value.2 power
  let below := scaled.1 / scaled.2
  let rest := 2 * (scaled.1 % scaled.2)
  let low : Decimal := ⟨below, power⟩
  let high : Decimal := ⟨below + 1, power⟩
  let (near, far) :=
    if rest < scaled.2 ∨ (rest = scaled.2 ∧ below % 2 = 0) then (low, high) else (high, low)
  [near, far].find? (readsBack mantissa exponent)

/-- Moves trailing zeros of the digits into the exponent. -/
def normalize (decimal : Decimal) : (fuel : Nat) → Decimal
  | 0 => decimal
  | fuel + 1 =>
    if decimal.digits ≠ 0 ∧ decimal.digits % 10 = 0 then
      normalize ⟨decimal.digits / 10, decimal.exponent + 1⟩ fuel
    else decimal

/-- The shortest decimal that reads back as a positive finite number; seventeen digits always do. -/
def shortest (mantissa : Nat) (exponent : Int) : Decimal :=
  let found := (List.range 17).findSome? fun count => withDigits mantissa exponent (count + 1)
  (found.getD ⟨mantissa, exponent⟩).normalize 20

/-- The digits of a natural number. -/
def digitChars (n : Nat) : List Char :=
  Nat.toDigits 10 n

/-- A number of zeros. -/
def zeros (count : Nat) : List Char :=
  List.replicate count '0'

/-- The digits with a decimal point, and nothing after the point of a whole number. -/
def positional (decimal : Decimal) : List Char :=
  let digits := digitChars decimal.digits
  let point : Int := digits.length + decimal.exponent
  if 0 ≤ decimal.exponent then digits ++ zeros decimal.exponent.toNat
  else if 0 < point then digits.take point.toNat ++ '.' :: digits.drop point.toNat
  else '0' :: '.' :: zeros (-point).toNat ++ digits

/-- The digits with a decimal point and a digit after it, where the point falls at most sixteen digits
after the first or five before it; else with an exponent. -/
def scientific (decimal : Decimal) : List Char :=
  let digits := digitChars decimal.digits
  let point : Int := digits.length + decimal.exponent
  if 0 ≤ decimal.exponent ∧ point ≤ 16 then digits ++ zeros decimal.exponent.toNat ++ ['.', '0']
  else if -5 < point ∧ point ≤ 16 then decimal.positional
  else
    let exponent := (if 0 < point then "e+" else "e").toList ++ (toString (point - 1)).toList
    match digits with
    | [] => exponent
    | [digit] => digit :: exponent
    | digit :: rest => digit :: '.' :: rest ++ exponent

end Decimal

namespace Binary64

/-- A sign in front of digits. -/
def signed (negative : Bool) (digits : List Char) : String :=
  String.ofList (if negative then '-' :: digits else digits)

/-- The text with the point in its place, whatever the size of the number: `1`, `0.25`. -/
def toPositional : Binary64 → String
  | .nan => "NaN"
  | .infinite negative => signed negative "inf".toList
  | .finite negative mantissa exponent =>
    if mantissa = 0 then signed negative ['0']
    else signed negative (Decimal.shortest mantissa exponent).positional

/-- The text with at least one digit after the point, or with an exponent and its sign: `1.0`, `1e+16`. What is not
finite is written as `null`. -/
def toScientific : Binary64 → String
  | .nan => "null"
  | .infinite _ => "null"
  | .finite negative mantissa exponent =>
    if mantissa = 0 then signed negative ['0', '.', '0']
    else signed negative (Decimal.shortest mantissa exponent).scientific

end Binary64

end Scaffold.Number
