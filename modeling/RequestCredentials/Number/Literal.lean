import RequestCredentials.Number.Shortest
/-
  The text of a number

  A number that is not an integer is written with the fewest digits that read
  back: positionally, with digits on both sides of the point, when its first
  digit stands between the fourth place after the point and the sixteenth
  before it, else with an exponent of at least two digits and a sign.
-/

namespace RequestCredentials

namespace Decimal

/-- The digits without trailing zeros. -/
def significantDigits (d : Decimal) : Text :=
  ((Text.ofNat d.digits).reverse.dropWhile (· = CodePoint.ofChar '0')).reverse

/-- The digits are read as a fraction that starts at the point; the number is that fraction times
ten to this power. -/
def pointPosition (d : Decimal) : Int := (Text.ofNat d.digits).length + d.power

/-- The text of a positive decimal. -/
def literal (d : Decimal) : Text :=
  let digits := d.significantDigits
  let point := d.pointPosition
  let zeros (n : Nat) : Text := List.replicate n (CodePoint.ofChar '0')
  if 16 < point ∨ point ≤ -4 then
    let fraction : Text := match digits.drop 1 with
      | [] => []
      | rest => '.' :: rest
    let exponent := point - 1
    let sign : Text := if exponent < 0 then "-" else "+"
    let power := Text.ofNat exponent.natAbs
    digits.take 1 ++ fraction ++ "e" ++ sign ++ zeros (2 - power.length) ++ power
  else if point ≤ 0 then "0." ++ zeros (-point).toNat ++ digits
  else
    let whole := digits.take point.toNat
    let fraction := digits.drop point.toNat
    let fraction : Text := if fraction = [] then "0" else fraction
    whole ++ zeros (point.toNat - whole.length) ++ "." ++ fraction

end Decimal

namespace Binary64

/-- The text that reads back as the number. -/
def literal : Binary64 → Text
  | .nan => "nan"
  | .infinite negative => if negative then "-inf" else "inf"
  | .finite negative significand exponent =>
    let sign : Text := if negative then "-" else ""
    sign ++ if significand = 0 then ("0.0" : Text) else (shortest significand exponent).literal

/-- The text of the number as a value: an integer in full, any other number as its literal. -/
def plainText (x : Binary64) : Text :=
  match x.toInt? with
  | some n => Text.ofInt n
  | none => x.literal

end Binary64

end RequestCredentials
