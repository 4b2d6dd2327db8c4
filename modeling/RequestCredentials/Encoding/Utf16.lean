import RequestCredentials.Encoding.Utf8
/-
  UTF-16 and UTF-32

  Both are read in either byte order. In UTF-16 a surrogate pair stands for one
  code point and a surrogate without its other half for itself; in UTF-32 a
  surrogate stands for itself. What remains at the end is at fault when it is
  too short for a unit, and so is a UTF-32 unit past the last code point.
-/

namespace RequestCredentials

/-- The number that bytes spell, the most significant first. -/
def bigEndianValue (bytes : Bytes) : Nat := bytes.foldl (fun n b => n * 0x100 + b.toNat) 0

/-- The number that bytes spell in the given byte order. -/
def unitValue (bigEndian : Bool) (bytes : Bytes) : Nat :=
  bigEndianValue (if bigEndian then bytes else bytes.reverse)

namespace Utf16

/-- The 16-bit unit at the front of some bytes. -/
def unit? (bigEndian : Bool) : Bytes → Option CodePoint
  | a :: b :: _ => some (CodePoint.ofNat (unitValue bigEndian [a, b]))
  | _ => none

def decodeStep (bigEndian : Bool) (b : UInt8) (rest : Bytes) : Step CodePoint ByteFault :=
  match unit? bigEndian (b :: rest) with
  | none => .stop ⟨1, b, .truncated⟩
  | some u =>
    match unit? bigEndian (rest.drop 1) with
    | some v =>
      if u.isHighSurrogate && v.isLowSurrogate then .item (CodePoint.joinSurrogates u v) 3
      else .item u 1
    | none => .item u 1

/-- The text of some bytes whose first is at position `offset`. -/
def decode (bigEndian : Bool) (offset : Nat) (bytes : Bytes) : Except DecodeFault Text :=
  (scan (decodeStep bigEndian) bytes).decoded (.utf16 bigEndian) offset

end Utf16

namespace Utf32

def decodeStep (bigEndian : Bool) (b : UInt8) (rest : Bytes) : Step CodePoint ByteFault :=
  if rest.length < 3 then .stop ⟨1 + rest.length, b, .truncated⟩
  else
    let n := unitValue bigEndian (b :: rest.take 3)
    if n < 0x110000 then .item (CodePoint.ofNat n) 3 else .stop ⟨4, b, .outOfRange⟩

/-- The text of some bytes whose first is at position `offset`. -/
def decode (bigEndian : Bool) (offset : Nat) (bytes : Bytes) : Except DecodeFault Text :=
  (scan (decodeStep bigEndian) bytes).decoded (.utf32 bigEndian) offset

end Utf32

end RequestCredentials
