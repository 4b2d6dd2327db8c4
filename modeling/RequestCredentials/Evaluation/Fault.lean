import RequestCredentials.Encoding.Fault
import RequestCredentials.Json.Basic
import RequestCredentials.Number.DigitLimit
import RequestCredentials.Url.Authority
/-
  Faults of an evaluation

  A fault is a step that has no answer, neither a value nor a failure: a text
  without bytes, a position that is no integer, a key that is no text, a number
  with too many digits, a URL whose authority is malformed.
-/

namespace RequestCredentials

inductive Fault where
  | unencodable (fault : EncodeFault)
  | fractionalIndex
  /-- A position of a type that has no order among the numbers. -/
  | unorderedIndex (type : JsonType)
  /-- A key of a type that has no bytes. -/
  | unencodableKey (type : JsonType)
  /-- A number with too many digits; they are counted when it is read, not when it is written. -/
  | tooManyDigits (count : Option Nat)
  | malformedUrl (fault : Url.AuthorityFault)
  deriving DecidableEq

def Fault.message : Fault → Text
  | .unencodable fault => fault.message
  | .fractionalIndex => "tuple indices must be integers or slices, not float"
  | .unorderedIndex type =>
    "'<' not supported between instances of '" ++ Text.ofString type.name ++ "' and 'int'"
  | .unencodableKey type =>
    "'" ++ Text.ofString type.name ++ "' object has no attribute 'encode'"
  | .tooManyDigits count => digitLimitMessage count
  | .malformedUrl fault => fault.message

end RequestCredentials
