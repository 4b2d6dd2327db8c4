import RequestCredentials.Operation.Basic
import RequestCredentials.Evaluation.Fault
import RequestCredentials.Json.Fault
import RequestCredentials.Format.Base64
import RequestCredentials.Format.Pairs
import RequestCredentials.Format.Wire.Decode
/-
  Failures of an evaluation

  A location that yields nothing is an answer, and a `Failure` says why: the
  seed is missing, a text does not decode, a lookup finds nothing or is not
  defined on the value, every branch of an alternation failed, or a step of the
  sequence broke down with a `Fault`.
-/

namespace RequestCredentials

/-! ## Failures of decoding -/

/-- Why a value does not decode. -/
inductive DecodeCause where
  | notText (found : Shape)
  | base64 (fault : Base64.Fault)
  | encoding (fault : DecodeFault)
  | json (fault : Json.Fault)
  /-- A JSON document that holds no text, list or struct. -/
  | scalarDocument (found : JsonType)
  | wire (fault : Wire.Fault)
  | pairs (fault : Pairs.Fault)
  deriving DecidableEq

def DecodeCause.message : DecodeCause → Text
  | .notText found => "can only decode text, got " ++ Text.ofString found.name
  | .base64 fault => fault.message
  | .encoding fault => fault.message
  | .json fault => fault.message
  | .scalarDocument found =>
    "top-level JSON " ++ Text.ofString found.name ++ " is not a string, array or object"
  | .wire fault => fault.message
  | .pairs fault => fault.message

/-! ## Failures -/

/-- A value that a lookup is not defined on. -/
inductive Unfit where
  | shape (s : Shape)
  /-- A list with an item that is not text. -/
  | mixedList
  deriving DecidableEq

def Unfit.name : Unfit → String
  | .shape s => s.name
  | .mixedList => "list of non-text"

/-- The kinds of operations. -/
inductive OperationKind where
  | decode
  | lookup
  | alternation
  deriving DecidableEq

def OperationKind.name : OperationKind → String
  | .decode => "Decode"
  | .lookup => "Lookup"
  | .alternation => "Alternation"

inductive Failure where
  /-- The seed is not in the request. -/
  | unresolved (source : Source) (args : List Text)
  | undecodable (kind : DecodeKind) (cause : DecodeCause)
  | illegalLookup (selector : Selector) (found : Unfit)
  | absent (selector : Selector)
  /-- The failures of all branches. -/
  | exhausted (branches : List Failure)
  /-- A step of the sequence had no answer. -/
  | brokeDown (step : OperationKind) (fault : Fault)

namespace Failure

mutual

def message : Failure → Text
  | .unresolved source args =>
    Text.ofString source.name ++ " " ++ Text.join "/" args ++ " not found in request"
  | .undecodable kind cause =>
    "error decoding " ++ Text.ofString kind.name ++ ": " ++ cause.message
  | .illegalLookup selector found =>
    "cannot look up " ++ selector.message ++ " in a " ++ Text.ofString found.name ++ " value"
  | .absent selector => selector.message ++ " not found"
  | .exhausted branches =>
    "all " ++ Text.ofNat branches.length ++ " alternatives failed: [" ++
      Text.join "; " (messages branches) ++ "]"
  | .brokeDown step fault => Text.ofString step.name ++ " failed: " ++ fault.message

def messages : List Failure → List Text
  | [] => []
  | failure :: rest => failure.message :: messages rest

end

end Failure

/-- The answer of an operation: a value or a failure, unless it breaks down. -/
abbrev Answer := Except Fault (Except Failure Value)

end RequestCredentials
