import RequestCredentials.Evaluation.Failure
import RequestCredentials.Encoding.Detect
import RequestCredentials.Json.Reader
/-
  Decoding a text value

  Each kind of decoding is a function from bytes to a value or a cause of
  failure. Only text can be decoded, and it is encoded as UTF-8 first.
-/

namespace RequestCredentials

/-- The value of a JSON document in bytes; it must be a string, array or object. -/
def decodeJson (data : Bytes) : Except DecodeCause Value := do
  let document ← (Encoding.decodeDocument data).mapError .encoding
  let json ← (Json.read document).mapError .json
  if json.type.isScalar then throw (.scalarDocument json.type) else return json.asValue

/-- A struct with one entry for each pair. -/
def ofPairs (pairs : List (Text × Bytes)) : Value :=
  .struct (pairs.map fun (name, value) => (name, .text (.bytes value)))

/-- The value that bytes encode. -/
def decodeBytes (kind : DecodeKind) (data : Bytes) : Except DecodeCause Value :=
  match kind with
  | .text => .ok (.text (.bytes data))
  | .base64 => do
    let raw ← (Base64.decode .standard data).mapError DecodeCause.base64
    return .text (.bytes raw)
  | .base64url => do
    let raw ← (Base64.decode .url data).mapError DecodeCause.base64
    return .text (.bytes raw)
  | .json => decodeJson data
  | .protobufStruct => (Wire.decodeStruct data).mapError .wire
  | .protobufMetadata => (Wire.decodeMetadata data).mapError .wire
  | .pairs => do
    let pairs ← (Pairs.decode data).mapError DecodeCause.pairs
    return ofPairs pairs

/-- The value that a text value encodes. -/
def Value.decode (v : Value) (kind : DecodeKind) : Answer :=
  match v with
  | .text c =>
    match c.toBytes with
    | .ok data => .ok ((decodeBytes kind data).mapError (Failure.undecodable kind))
    | .error fault => .error (.unencodable fault)
  | .list _ => .ok (.error (.undecodable kind (.notText .list)))
  | .struct _ => .ok (.error (.undecodable kind (.notText .struct)))

end RequestCredentials
