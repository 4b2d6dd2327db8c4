import RequestCredentials.Text.Basic
/-
  The digit limit

  Decimal text with more digits than the limit is not read as an integer, and
  no integer with more digits is written: both take time quadratic in the
  number of digits, and requests are not trusted. Leading zeros count, a sign
  does not.
-/

namespace RequestCredentials

/-- The largest number of digits that is read as an integer or written. -/
def digitLimit : Nat := 4300

/-- An integer with too many digits to be written. -/
def isLongInteger (n : Int) : Bool := digitLimit < (Text.ofNat n.natAbs).length

/-- What is said of a number with too many digits; they are counted when it is read. -/
def digitLimitMessage (count : Option Nat) : Text :=
  let found : Text := match count with
    | some n => ": value has " ++ Text.ofNat n ++ " digits"
    | none => []
  "Exceeds the limit (" ++ Text.ofNat digitLimit ++ " digits) for integer string conversion" ++
    found ++ "; use sys.set_int_max_str_digits() to increase the limit"

end RequestCredentials
