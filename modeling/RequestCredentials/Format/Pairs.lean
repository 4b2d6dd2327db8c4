import RequestCredentials.Value.Basic
/-
  Pairs — the proxy's serialization of name and value pairs

  A buffer holds the number of pairs, the lengths of each name and value, and
  then each name and value followed by a zero byte. All numbers are 32-bit and
  little-endian. `decode` accepts a buffer only if the lengths account for
  every byte of it; names must be UTF-8, values may be any bytes.

  Reads past the end of the buffer have a fault of their own, `outside`.
-/

namespace RequestCredentials.Pairs

/-- Why a buffer holds no pairs. -/
inductive Fault where
  | noCount (length : Nat)
  | tooShort (count needed length : Nat)
  | wrongLength (expected length : Nat)
  | noTerminator (offset : Nat)
  | name (fault : DecodeFault)
  | outside (offset : Nat)
  deriving DecidableEq

def Fault.message : Fault → Text
  | noCount length => "need at least 4 bytes, got " ++ Text.ofNat length
  | tooShort count needed length =>
    Text.ofNat count ++ " pairs need at least " ++ Text.ofNat needed ++ " bytes, got " ++
      Text.ofNat length
  | wrongLength expected length =>
    "expected " ++ Text.ofNat expected ++ " bytes, got " ++ Text.ofNat length
  | noTerminator offset => "missing NUL terminator at offset " ++ Text.ofNat offset
  | name fault => "key is not UTF-8: " ++ fault.message
  | outside offset => "no byte at offset " ++ Text.ofNat offset

/-! ## Reading -/

/-- The 32-bit number at an offset. -/
def numberAt (data : Bytes) (offset : Nat) : Except Fault Nat :=
  match data.drop offset with
  | a :: b :: c :: d :: _ =>
    .ok (a.toNat + 0x100 * b.toNat + 0x10000 * c.toNat + 0x1000000 * d.toNat)
  | _ => .error (.outside offset)

/-- The lengths of the names and values of `count` pairs, from an offset on. -/
def readLengths (data : Bytes) (offset : Nat) : (count : Nat) → Except Fault (List (Nat × Nat))
  | 0 => .ok []
  | count + 1 => do
    let name ← numberAt data offset
    let value ← numberAt data (offset + 4)
    let rest ← readLengths data (offset + 8) count
    return (name, value) :: rest

/-- The `length` bytes at an offset, which a zero byte must follow. -/
def readTerminated (data : Bytes) (offset length : Nat) : Except Fault Bytes :=
  match data[offset + length]? with
  | none => .error (.outside (offset + length))
  | some b =>
    if b = 0 then .ok ((data.drop offset).take length) else .error (.noTerminator (offset + length))

/-- The pairs of the given lengths, from an offset on. -/
def readPairs (data : Bytes) (offset : Nat) :
    List (Nat × Nat) → Except Fault (List (Text × Bytes))
  | [] => .ok []
  | (nameLength, valueLength) :: lengths => do
    let name ← readTerminated data offset nameLength
    let value ← readTerminated data (offset + nameLength + 1) valueLength
    let name ← (Utf8.decode name).mapError Fault.name
    let rest ← readPairs data (offset + nameLength + 1 + valueLength + 1) lengths
    return (name, value) :: rest

/-- The length of a buffer whose names and values have the given lengths, terminators included but
not the numbers. -/
def bodyLength : List (Nat × Nat) → Nat
  | [] => 0
  | (nameLength, valueLength) :: rest => nameLength + valueLength + 2 + bodyLength rest

/-- The number of bytes that `count` pairs take at the least: two lengths and two terminators for
each. -/
def leastLength (count : Nat) : Nat := 4 * (1 + 2 * count) + 2 * count

/-- The pairs that a buffer holds. -/
def decode (data : Bytes) : Except Fault (List (Text × Bytes)) := do
  if data.length < 4 then throw (.noCount data.length)
  let count ← numberAt data 0
  if data.length < leastLength count then
    throw (.tooShort count (leastLength count) data.length)
  let lengths ← readLengths data 4 count
  let expected := 4 * (1 + 2 * count) + bodyLength lengths
  if data.length ≠ expected then throw (.wrongLength expected data.length)
  readPairs data (4 * (1 + 2 * count)) lengths

/-! ## Writing -/

/-- Why pairs cannot be written. -/
inductive WriteFault where
  | text (fault : EncodeFault)
  /-- The number of pairs or a length takes more than four bytes. -/
  | tooLarge
  deriving DecidableEq

def WriteFault.message : WriteFault → Text
  | text fault => fault.message
  | tooLarge => "'I' format requires 0 <= number <= 4294967295"

/-- A number as four bytes. -/
def numberBytes (n : Nat) : Bytes :=
  [UInt8.ofNat n, UInt8.ofNat (n / 0x100), UInt8.ofNat (n / 0x10000), UInt8.ofNat (n / 0x1000000)]

/-- The buffer for pairs of bytes. -/
def encodeBytes (pairs : List (Bytes × Bytes)) : Bytes :=
  numberBytes pairs.length ++
    pairs.flatMap (fun (k, v) => numberBytes k.length ++ numberBytes v.length) ++
    pairs.flatMap (fun (k, v) => k ++ [0] ++ v ++ [0])

/-- The bytes of a pair, the name encoded before the value. -/
def pairBytes (pair : Content × Content) : Except EncodeFault (Bytes × Bytes) := do
  let name ← pair.1.toBytes
  let value ← pair.2.toBytes
  return (name, value)

/-- The number of pairs and all lengths take no more than four bytes. -/
def numbersFit (pairs : List (Bytes × Bytes)) : Bool :=
  pairs.length < 0x100000000 &&
    pairs.all fun (k, v) => k.length < 0x100000000 && v.length < 0x100000000

/-- The buffer for pairs of text or bytes. -/
def encode (pairs : List (Content × Content)) : Except WriteFault Bytes := do
  let raw ← (pairs.mapM pairBytes).mapError .text
  if numbersFit raw then return encodeBytes raw else throw .tooLarge

end RequestCredentials.Pairs
