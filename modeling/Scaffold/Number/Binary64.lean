/-!
# Binary floating-point numbers of 64 bits

The values of the IEEE 754 format `binary64`, in exact arithmetic: a finite one is a sign, a mantissa below
2^53 and an exponent of two. Every operation computes the exact rational result and rounds it once, to the
nearest value, of two equally near ones to the one with the even mantissa.

## Main Definitions

* `Binary64` — a value of the format
* `Binary64.ofRatio` — the value nearest to a quotient
* `Binary64.ofScientific` — the value nearest to a decimal
* `Binary64.mul`, `Binary64.div` — product and quotient of finite values
* `Binary64.equals` — equality as numbers
-/

namespace Scaffold.Number

/-- A value of the format `binary64`. -/
inductive Binary64 where
  /-- The number `mantissa * 2 ^ exponent`, or its negative. The mantissa is below 2^53, and not
  below 2^52 unless the exponent is -1074. -/
  | finite (negative : Bool) (mantissa : Nat) (exponent : Int)
  /-- An infinity. -/
  | infinite (negative : Bool)
  /-- Not a number. -/
  | nan
  deriving DecidableEq, Repr

namespace Binary64

/-- The least exponent of a finite value. -/
def minExponent : Int := -1074

/-- The greatest exponent of a finite value. -/
def maxExponent : Int := 971

/-- The zero of a sign. -/
def zero (negative : Bool) : Binary64 :=
  .finite negative 0 minExponent

/-- A quotient rounded to the nearest natural number, of two equally near ones to the even one. -/
def roundDiv (num den : Nat) : Nat :=
  let q := num / den
  let twice := 2 * (num % den)
  if twice < den then q
  else if den < twice then q + 1
  else if q % 2 = 0 then q else q + 1

/-- A quotient of natural numbers times a power of two, as a quotient again. -/
def scale (num den : Nat) (exponent : Int) : Nat × Nat :=
  if 0 ≤ exponent then (num * Nat.pow 2 exponent.toNat, den)
  else (num, den * Nat.pow 2 (-exponent).toNat)

/-- The exponent for a quotient: the one that puts its mantissa between 2^52 and 2^53, and no less
than the least one. -/
def exponentFor (num den : Nat) : Int :=
  let guess : Int := (Nat.log2 num : Int) - Nat.log2 den - 53
  let scaled := scale num den (-guess)
  let exact := if scaled.1 / scaled.2 < Nat.pow 2 53 then guess else guess + 1
  max exact minExponent

/-- The value nearest to the quotient `num / den` or to its negative; too large a quotient gives an
infinity. -/
def ofRatio (negative : Bool) (num den : Nat) : Binary64 :=
  if num = 0 ∨ den = 0 then zero negative
  else
    let exponent := exponentFor num den
    let scaled := scale num den (-exponent)
    let mantissa := roundDiv scaled.1 scaled.2
    let (mantissa, exponent) :=
      if mantissa = Nat.pow 2 53 then (Nat.pow 2 52, exponent + 1) else (mantissa, exponent)
    if maxExponent < exponent then .infinite negative else .finite negative mantissa exponent

/-- The value nearest to `digits * 10 ^ exponent` or to its negative. -/
def ofScientific (negative : Bool) (digits : Nat) (exponent : Int) : Binary64 :=
  if digits = 0 then zero negative
  else
    let size := (Nat.toDigits 10 digits).length
    if 400 < size + exponent then .infinite negative
    else if size + exponent < -400 then zero negative
    else if 0 ≤ exponent then ofRatio negative (digits * Nat.pow 10 exponent.toNat) 1
    else ofRatio negative digits (Nat.pow 10 (-exponent).toNat)

/-- The value nearest to a natural number. -/
def ofNat (n : Nat) : Binary64 :=
  ofRatio false n 1

/-- The magnitude of a finite value as a quotient. -/
def ratio (mantissa : Nat) (exponent : Int) : Nat × Nat :=
  scale mantissa 1 exponent

/-- The product of finite values, rounded; other products are not needed and give no number. -/
def mul : Binary64 → Binary64 → Binary64
  | .finite s m e, .finite t n f =>
    let a := ratio m e
    let b := ratio n f
    ofRatio (s != t) (a.1 * b.1) (a.2 * b.2)
  | _, _ => .nan

/-- The quotient of finite values with a divisor other than zero, rounded. -/
def div : Binary64 → Binary64 → Binary64
  | .finite s m e, .finite t n f =>
    let a := ratio m e
    let b := ratio n f
    if b.1 = 0 then .nan else ofRatio (s != t) (a.1 * b.2) (a.2 * b.1)
  | _, _ => .nan

/-- The value of the other sign. -/
def neg : Binary64 → Binary64
  | .finite s m e => .finite (!s) m e
  | .infinite s => .infinite (!s)
  | .nan => .nan

/-- Whether a value is a zero of either sign. -/
def isZero : Binary64 → Bool
  | .finite _ m _ => m == 0
  | _ => false

/-- Whether a value is finite and uses the full width of the mantissa. -/
def isNormal : Binary64 → Bool
  | .finite _ m _ => Nat.pow 2 52 ≤ m
  | _ => false

/-- Whether a value is finite. -/
def isFinite : Binary64 → Bool
  | .finite .. => true
  | _ => false

/-- Equality as numbers: the zeros are equal, and what is not a number equals nothing. -/
def equals : Binary64 → Binary64 → Bool
  | .nan, _ => false
  | _, .nan => false
  | a, b => (a.isZero && b.isZero) || a == b

end Binary64

end Scaffold.Number
