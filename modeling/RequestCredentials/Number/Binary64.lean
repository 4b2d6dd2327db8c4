import RequestCredentials.Text.Basic
/-
  Binary64 numbers

  A finite number is a natural multiple of the smallest positive one, 2^-1074,
  with a sign. The multiple is held as `significand · 2^exponent`, where the
  significand has at most 53 bits, and all 53 unless the exponent is zero. So
  every question about finite numbers is one about natural numbers.

  `ofBits` reads the interchange format. `ofDecimal` rounds a decimal to the
  nearest number, a tie to the even significand, and past the largest finite
  number to infinity.
-/

namespace RequestCredentials

/-- A binary64 number; the payload of a NaN is not kept. -/
inductive Binary64 where
  | nan
  | infinite (negative : Bool)
  /-- The number `± significand · 2^exponent · 2^-1074`. -/
  | finite (negative : Bool) (significand exponent : Nat)
  deriving DecidableEq

/-- The quotient rounded to the nearest natural number, a tie to the even one. -/
def roundedQuotient (num den : Nat) : Nat :=
  let q := num / den
  let r := num % den
  if 2 * r < den then q
  else if 2 * r = den ∧ q % 2 = 0 then q
  else q + 1

namespace Binary64

/-- The largest exponent of a finite number. -/
def maxExponent : Nat := 2045

/-- The number with the given bits in the interchange format. -/
def ofBits (bits : Nat) : Binary64 :=
  let negative := bits / Nat.pow 2 63 % 2 == 1
  let exponent := bits / Nat.pow 2 52 % Nat.pow 2 11
  let fraction := bits % Nat.pow 2 52
  if exponent = 2047 then if fraction = 0 then .infinite negative else .nan
  else if exponent = 0 then .finite negative fraction 0
  else .finite negative (Nat.pow 2 52 + fraction) (exponent - 1)

/-- The number nearest to `± num / den` smallest positive numbers. -/
def ofQuotient (negative : Bool) (num den : Nat) : Binary64 :=
  let exponent := Nat.log2 (num / den) - 52
  let significand := roundedQuotient num (den * Nat.pow 2 exponent)
  let (significand, exponent) :=
    if significand = Nat.pow 2 53 then (Nat.pow 2 52, exponent + 1) else (significand, exponent)
  if maxExponent < exponent then .infinite negative else .finite negative significand exponent

/-- The number nearest to `± digits · 10^power`. A power that alone decides the result is not
computed. -/
def ofDecimal (negative : Bool) (digits : Nat) (power : Int) : Binary64 :=
  let size : Int := (Nat.toDigits 10 digits).length
  if digits = 0 ∨ size + power < -400 then .finite negative 0 0
  else if 400 < size + power then .infinite negative
  else ofQuotient negative (digits * Nat.pow 10 power.toNat * Nat.pow 2 1074)
    (Nat.pow 10 (-power).toNat)

/-- The integer that the number is, if it is one. -/
def toInt? : Binary64 → Option Int
  | .finite negative significand exponent =>
    let units := significand * Nat.pow 2 exponent
    if units % Nat.pow 2 1074 = 0 then
      let n : Int := (units / Nat.pow 2 1074 : Nat)
      some (if negative then -n else n)
    else none
  | _ => none

/-- The number is zero, of either sign. -/
def isZero : Binary64 → Bool
  | .finite _ significand _ => significand == 0
  | _ => false

/-- The number is less than zero. -/
def isNegative : Binary64 → Bool
  | .finite negative significand _ => negative && significand != 0
  | .infinite negative => negative
  | .nan => false

/-- The number is less than the natural number `n`. -/
def lessThan : Binary64 → Nat → Bool
  | .finite negative significand exponent, n =>
    if negative then significand != 0 || n != 0
    else significand * Nat.pow 2 exponent < n * Nat.pow 2 1074
  | .infinite negative, _ => negative
  | .nan, _ => false

end Binary64

end RequestCredentials
