import RequestCredentials.Text.Quoted
/-
  Encoding faults — text that has no bytes, bytes that are no text

  An encoding fault names the first run of surrogates in a text: surrogates
  have no UTF-8 form. A decoding fault names the encoding, where the bytes at
  fault start and which they are, and the reason.
-/

namespace RequestCredentials

/-- The first run of surrogates in a text that was to be encoded. -/
structure EncodeFault where
  /-- The first surrogate of the run. -/
  first : CodePoint
  /-- The number of code points before the run. -/
  position : Nat
  /-- The length of the run. -/
  count : Nat
  deriving DecidableEq

namespace EncodeFault

/-- The positions at fault: one, or a range. -/
def message (f : EncodeFault) : Text :=
  let place : Text :=
    if f.count = 1 then
      "character '\\u" ++ Text.ofHex 4 f.first.val ++ "' in position " ++ Text.ofNat f.position
    else
      "characters in position " ++ Text.ofNat f.position ++ "-" ++
        Text.ofNat (f.position + f.count - 1)
  "'utf-8' codec can't encode " ++ place ++ ": surrogates not allowed"

end EncodeFault

/-- The encodings that bytes may be read in. -/
inductive Encoding where
  | utf8
  | utf16 (bigEndian : Bool)
  | utf32 (bigEndian : Bool)
  deriving DecidableEq

/-- The name of an encoding, its byte order included. -/
def Encoding.name : Encoding → String
  | .utf8 => "utf-8"
  | .utf16 true => "utf-16-be"
  | .utf16 false => "utf-16-le"
  | .utf32 true => "utf-32-be"
  | .utf32 false => "utf-32-le"

/-- Why bytes are not text in an encoding. -/
inductive MalformedBytes where
  | invalidStart
  | invalidContinuation
  | unexpectedEnd
  | truncated
  | outOfRange
  deriving DecidableEq

def MalformedBytes.message : MalformedBytes → String
  | .invalidStart => "invalid start byte"
  | .invalidContinuation => "invalid continuation byte"
  | .unexpectedEnd => "unexpected end of data"
  | .truncated => "truncated data"
  | .outOfRange => "code point not in range(0x110000)"

/-- Bytes at fault: how many, the first of them, and the reason. -/
structure ByteFault where
  count : Nat
  first : UInt8
  reason : MalformedBytes
  deriving DecidableEq

/-- Bytes that are not text in an encoding. -/
structure DecodeFault where
  encoding : Encoding
  /-- The number of bytes before those at fault. -/
  position : Nat
  bytes : ByteFault
  deriving DecidableEq

namespace DecodeFault

def message (f : DecodeFault) : Text :=
  let place : Text :=
    if f.bytes.count = 1 then
      "byte 0x" ++ Text.ofHex 2 f.bytes.first.toNat ++ " in position " ++ Text.ofNat f.position
    else
      "bytes in position " ++ Text.ofNat f.position ++ "-" ++
        Text.ofNat (f.position + f.bytes.count - 1)
  "'" ++ f.encoding.name ++ "' codec can't decode " ++ place ++ ": " ++ f.bytes.reason.message

end DecodeFault

end RequestCredentials
