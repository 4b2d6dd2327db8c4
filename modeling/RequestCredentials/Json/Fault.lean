import RequestCredentials.Number.DigitLimit
/-
  Faults of JSON documents

  A document is malformed at one place, which is given by line, column and
  position; or it holds an integer with too many digits.
-/

namespace RequestCredentials.Json

/-- A place in a document: lines and columns count from one, positions from zero. -/
structure Place where
  line : Nat
  column : Nat
  index : Nat
  deriving DecidableEq

namespace Place

/-- The place of the code point number `index`. -/
def ofIndex (document : Text) (index : Nat) : Place :=
  let before := document.take index
  ⟨1 + before.count (CodePoint.ofChar '\n'),
    1 + (before.reverse.takeWhile (· ≠ CodePoint.ofChar '\n')).length, index⟩

def message (p : Place) : Text :=
  "line " ++ Text.ofNat p.line ++ " column " ++ Text.ofNat p.column ++ " (char " ++
    Text.ofNat p.index ++ ")"

end Place

/-- What is wrong at one place of a document. -/
inductive Malformed where
  | byteOrderMark
  | noValue
  | noName
  | noColon
  | noComma
  | unterminated
  | controlCharacter
  | badEscape
  | badUnicodeEscape
  | extraData
  deriving DecidableEq

def Malformed.message : Malformed → String
  | .byteOrderMark => "Unexpected UTF-8 BOM (decode using utf-8-sig)"
  | .noValue => "Expecting value"
  | .noName => "Expecting property name enclosed in double quotes"
  | .noColon => "Expecting ':' delimiter"
  | .noComma => "Expecting ',' delimiter"
  | .unterminated => "Unterminated string starting at"
  | .controlCharacter => "Invalid control character at"
  | .badEscape => "Invalid \\escape"
  | .badUnicodeEscape => "Invalid \\uXXXX escape"
  | .extraData => "Extra data"

/-- Why a document cannot be read. -/
inductive Fault where
  | malformed (cause : Malformed) (place : Place)
  | tooManyDigits (count : Nat)
  deriving DecidableEq

def Fault.message : Fault → Text
  | .malformed cause place => cause.message ++ ": " ++ place.message
  | .tooManyDigits count => digitLimitMessage count

end RequestCredentials.Json
