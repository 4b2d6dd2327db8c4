import RequestCredentials.Text.Basic
/-
  Base64

  Two alphabets are in use; they differ in the last two symbols. `encode` pads
  with `=` to a multiple of four symbols. `decode` takes padding that is left
  out, but nothing else: no symbol outside the alphabet, no data after padding
  and no bits that the last byte leaves over.
-/

namespace RequestCredentials.Base64

/-- The standard alphabet ends in `+` and `/`, the one for URLs in `-` and `_`. -/
inductive Alphabet where
  | standard
  | url
  deriving DecidableEq

/-- The padding symbol. -/
def pad : UInt8 := 0x3D

namespace Alphabet

/-- The last two symbols. -/
def lastSymbols : Alphabet → UInt8 × UInt8
  | standard => (0x2B, 0x2F)
  | url => (0x2D, 0x5F)

/-- The symbol for six bits. -/
def symbol (a : Alphabet) (n : Nat) : UInt8 :=
  if n < 26 then UInt8.ofNat (0x41 + n)
  else if n < 52 then UInt8.ofNat (0x61 + (n - 26))
  else if n < 62 then UInt8.ofNat (0x30 + (n - 52))
  else if n = 62 then a.lastSymbols.1
  else a.lastSymbols.2

/-- The six bits that a symbol stands for. -/
def sextet? (a : Alphabet) (b : UInt8) : Option Nat :=
  if 0x41 ≤ b ∧ b ≤ 0x5A then some (b.toNat - 0x41)
  else if 0x61 ≤ b ∧ b ≤ 0x7A then some (b.toNat - 0x61 + 26)
  else if 0x30 ≤ b ∧ b ≤ 0x39 then some (b.toNat - 0x30 + 52)
  else if b = a.lastSymbols.1 then some 62
  else if b = a.lastSymbols.2 then some 63
  else none

end Alphabet

/-- Why bytes are not Base64. -/
inductive Fault where
  | length (length : Nat)
  | otherAlphabet
  | leadingPadding
  | excessData
  | foreignSymbol
  | dataAfterPadding
  | dataCount (count : Nat)
  | incorrectPadding
  | trailingBits
  deriving DecidableEq

def Fault.message : Fault → Text
  | length n => "invalid base64 length " ++ Text.ofNat n
  | otherAlphabet => "standard base64 characters in base64url data"
  | leadingPadding => "Leading padding not allowed"
  | excessData => "Excess data after padding"
  | foreignSymbol => "Only base64 data is allowed"
  | dataAfterPadding => "Discontinuous padding not allowed"
  | dataCount n => "Invalid base64-encoded string: number of data characters (" ++ Text.ofNat n ++
      ") cannot be 1 more than a multiple of 4"
  | incorrectPadding => "Incorrect padding"
  | trailingBits => "non-canonical base64, trailing bits are set"

/-! ## Writing -/

/-- The padded symbols for some bytes. -/
def encode (a : Alphabet) : Bytes → Bytes
  | [] => []
  | [x] => [a.symbol (x.toNat / 4), a.symbol (x.toNat % 4 * 16), pad, pad]
  | [x, y] =>
    [a.symbol (x.toNat / 4), a.symbol (x.toNat % 4 * 16 + y.toNat / 16),
      a.symbol (y.toNat % 16 * 4), pad]
  | x :: y :: z :: rest =>
    a.symbol (x.toNat / 4) :: a.symbol (x.toNat % 4 * 16 + y.toNat / 16) ::
      a.symbol (y.toNat % 16 * 4 + z.toNat / 64) :: a.symbol (z.toNat % 64) :: encode a rest

/-! ## Reading -/

/-- The bytes that groups of six bits make up; bits that fill no byte are dropped. -/
def ofSextets : List Nat → Bytes
  | p :: q :: r :: s :: rest =>
    UInt8.ofNat (p * 4 + q / 16) :: UInt8.ofNat (q % 16 * 16 + r / 4) ::
      UInt8.ofNat (r % 4 * 64 + s) :: ofSextets rest
  | [p, q, r] => [UInt8.ofNat (p * 4 + q / 16), UInt8.ofNat (q % 16 * 16 + r / 4)]
  | [p, q] => [UInt8.ofNat (p * 4 + q / 16)]
  | _ => []

/-- The data with the padding that was left out; one symbol alone encodes nothing. -/
def padded (data : Bytes) : Except Fault Bytes :=
  match data.length % 4 with
  | 0 => .ok data
  | 1 => .error (.length data.length)
  | r => .ok (data ++ List.replicate (4 - r) pad)

/-- The data without the padding at its end. -/
def unpadded (data : Bytes) : Bytes := (data.reverse.dropWhile (· = pad)).reverse

/-- Checks what stands from the first padding symbol on, after `count` symbols of data. A group
of two or three symbols is filled up by padding, `pads` symbols of which are read, and then
nothing may follow; elsewhere padding has no effect. -/
def checkPadding (a : Alphabet) (count : Nat) : (pads : Nat) → Bytes → Except Fault Unit
  | _, [] =>
    match count % 4 with
    | 0 => .ok ()
    | 1 => .error (.dataCount count)
    | _ => .error .incorrectPadding
  | pads, b :: rest =>
    if b = pad then
      if count % 4 < 2 then checkPadding a count pads rest
      else if count % 4 + pads + 1 < 4 then checkPadding a count (pads + 1) rest
      else if rest = [] then .ok ()
      else .error .excessData
    else if (a.sextet? b).isSome then .error .dataAfterPadding
    else .error .foreignSymbol

/-- The bytes that padded data encodes, whatever bits are left over. -/
def decodePadded (a : Alphabet) (data : Bytes) : Except Fault Bytes := do
  if data.head? = some pad then throw .leadingPadding
  match (data.takeWhile (· ≠ pad)).mapM a.sextet? with
  | none => throw .foreignSymbol
  | some sextets =>
    checkPadding a sextets.length 0 (data.dropWhile (· ≠ pad))
    return ofSextets sextets

/-- The data holds a symbol that only the standard alphabet has. -/
def holdsStandardSymbol (data : Bytes) : Bool :=
  data.any fun b => b = Alphabet.standard.lastSymbols.1 || b = Alphabet.standard.lastSymbols.2

/-- The bytes that data encodes. -/
def decode (a : Alphabet) (data : Bytes) : Except Fault Bytes := do
  if a = .url ∧ holdsStandardSymbol data then throw .otherAlphabet
  let raw ← decodePadded a (← padded data)
  if unpadded (encode a raw) ≠ unpadded data then throw .trailingBits
  return raw

end RequestCredentials.Base64
