import RequestCredentials.Json.Basic
import RequestCredentials.Json.Fault
/-
  Numbers in JSON documents

  A number is read as far as its grammar goes: a minus sign or none, a zero or
  digits that do not start with one, then a fraction and an exponent if they
  are complete. Without both it is an integer.
-/

namespace RequestCredentials.Json

/-- The parts of a number as they are written. -/
structure NumberText where
  negative : Bool
  whole : Text
  /-- The digits after the point; empty when there is no fraction. -/
  fraction : Text
  /-- The sign and the digits of the exponent. -/
  exponent : Option (Bool × Text)

namespace NumberText

/-- The digits before the point. -/
def readWhole : Text → Text
  | [] => []
  | c :: rest =>
    if c = '0' then [c] else if c.isDigit then c :: rest.takeWhile (·.isDigit) else []

/-- The digits of a fraction. -/
def readFraction : Text → Text
  | [] => []
  | c :: rest => if c = '.' then rest.takeWhile (·.isDigit) else []

/-- The sign and the digits of an exponent, and how many code points it takes. -/
def readExponent : Text → Option ((Bool × Text) × Nat)
  | [] => none
  | c :: rest =>
    if c = 'e' ∨ c = 'E' then
      let signed := match rest with
        | s :: _ => s = CodePoint.ofChar '+' || s = CodePoint.ofChar '-'
        | [] => false
      let negative := match rest with
        | s :: _ => s = CodePoint.ofChar '-'
        | [] => false
      let start := if signed then 1 else 0
      let digits := (rest.drop start).takeWhile (·.isDigit)
      if digits = [] then none else some ((negative, digits), 1 + start + digits.length)
    else none

/-- The number at the front of a text, and how many code points it takes. -/
def read? (s : Text) : Option (NumberText × Nat) :=
  let negative := s.head? = some (CodePoint.ofChar '-')
  let sign := if negative then 1 else 0
  let whole := readWhole (s.drop sign)
  if whole = [] then none
  else
    let afterWhole := sign + whole.length
    let fraction := readFraction (s.drop afterWhole)
    let afterFraction := afterWhole + if fraction = [] then 0 else 1 + fraction.length
    match readExponent (s.drop afterFraction) with
    | none => some (⟨negative, whole, fraction, none⟩, afterFraction)
    | some (exponent, extent) =>
      some (⟨negative, whole, fraction, some exponent⟩, afterFraction + extent)

/-- The number that the parts spell. -/
def value (n : NumberText) : Except Nat Json :=
  if n.fraction = [] ∧ n.exponent = none then
    if digitLimit < n.whole.length then .error n.whole.length
    else
      let magnitude : Int := (Text.decimalValue n.whole : Nat)
      .ok (.int (if n.negative then -magnitude else magnitude))
  else
    let power : Int := match n.exponent with
      | none => 0
      | some (negative, digits) =>
        let magnitude : Int := (Text.decimalValue digits : Nat)
        if negative then -magnitude else magnitude
    .ok (.float (Binary64.ofDecimal n.negative (Text.decimalValue (n.whole ++ n.fraction))
      (power - n.fraction.length)))

end NumberText

end RequestCredentials.Json
