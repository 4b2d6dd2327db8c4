import RequestCredentials.Number.Binary64
/-
  The shortest decimal of a binary64 number

  Among the decimals that round to a number, those with the fewest digits are
  looked for, and of these the nearest to the number. A decimal rounds to the
  number when it lies in the interval between the midpoints to the number's two
  neighbours; the ends belong to it when the significand is even. The grid of
  decimals with `n` digits has a point in the interval exactly if one of the
  number's two neighbours on that grid lies in it, so only these are tried.
-/

namespace RequestCredentials

/-- The decimal number `digits · 10^power`. -/
structure Decimal where
  digits : Nat
  power : Int
  deriving DecidableEq

namespace Binary64

/-- The power of ten just above `significand · 2^exponent · 2^-1074`, which is not zero. -/
def decimalMagnitude (significand exponent : Nat) : Int :=
  let scaled := significand * Nat.pow 2 exponent * Nat.pow 10 400 / Nat.pow 2 1074
  ((Nat.toDigits 10 scaled).length : Int) - 400

/-- The decimal nearest to the number among those that are multiples of `10^power` and round to
it, if one of the two neighbours is. -/
def nearestMultiple? (significand exponent : Nat) (power : Int) : Option Decimal :=
  let unit := Nat.pow 10 power.toNat * Nat.pow 2 1076
  let scale := Nat.pow 2 exponent * Nat.pow 10 (-power).toNat
  let value := 4 * significand * scale
  let low :=
    (4 * significand - if significand = Nat.pow 2 52 ∧ exponent ≠ 0 then 1 else 2) * scale
  let high := (4 * significand + 2) * scale
  let inside (n : Nat) : Bool :=
    if significand % 2 = 0 then low ≤ n * unit && n * unit ≤ high
    else low < n * unit && n * unit < high
  let below := value / unit
  let above := below + 1
  let belowNearer :=
    let left := value - below * unit
    let right := above * unit - value
    left < right || left == right && below % 2 == 0
  match inside below, inside above with
  | true, true => some ⟨if belowNearer then below else above, power⟩
  | true, false => some ⟨below, power⟩
  | false, true => some ⟨above, power⟩
  | false, false => none

/-- The shortest decimal that rounds to a positive finite number. -/
def shortest (significand exponent : Nat) : Decimal :=
  let magnitude := decimalMagnitude significand exponent
  ((List.range 17).findSome? fun (n : Nat) =>
    nearestMultiple? significand exponent (magnitude - (n + 1))).getD ⟨0, 0⟩

end Binary64

end RequestCredentials
