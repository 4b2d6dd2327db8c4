import RequestCredentials.Scan
import RequestCredentials.Encoding.Fault
/-
  UTF-8

  `encode` writes a text as bytes; a surrogate has no bytes of its own, so a
  text that holds one is refused with the first run of them. `decode` reads
  bytes back. `decodeWithSurrogates` also reads the three bytes that the scheme
  would give to a surrogate. `decodeEscaping` reads any bytes: each byte that
  is not part of a well-formed sequence stands for the low surrogate U+DC00
  plus its value, and `encodeEscaped` writes it back.
-/

namespace RequestCredentials

/-- The items of a scan, or the decoding fault it stopped with. -/
def Scan.decoded {α : Type} (s : Scan α ByteFault) (encoding : Encoding) (offset : Nat) :
    Except DecodeFault (List α) :=
  match s.stopped with
  | none => .ok s.items
  | some (position, bytes) => .error ⟨encoding, offset + position, bytes⟩

namespace Utf8

/-! ## Writing -/

/-- The bytes of one code point. -/
def encodePoint (c : CodePoint) : Bytes :=
  let n := c.val
  if n < 0x80 then [UInt8.ofNat n]
  else if n < 0x800 then [UInt8.ofNat (0xC0 + n / 0x40), UInt8.ofNat (0x80 + n % 0x40)]
  else if n < 0x10000 then
    [UInt8.ofNat (0xE0 + n / 0x1000), UInt8.ofNat (0x80 + n / 0x40 % 0x40),
      UInt8.ofNat (0x80 + n % 0x40)]
  else
    [UInt8.ofNat (0xF0 + n / 0x40000), UInt8.ofNat (0x80 + n / 0x1000 % 0x40),
      UInt8.ofNat (0x80 + n / 0x40 % 0x40), UInt8.ofNat (0x80 + n % 0x40)]

/-- The bytes of a text, surrogates written as any other code point. -/
def encodeWithSurrogates (s : Text) : Bytes := s.flatMap encodePoint

/-- The first run of surrogates. -/
def firstSurrogates? (s : Text) : Option EncodeFault :=
  match s.dropWhile (!·.isSurrogate) with
  | [] => none
  | c :: rest =>
    some ⟨c, (s.takeWhile (!·.isSurrogate)).length, 1 + (rest.takeWhile (·.isSurrogate)).length⟩

/-- The bytes of a text without surrogates. -/
def encode (s : Text) : Except EncodeFault Bytes :=
  match firstSurrogates? s with
  | none => .ok (encodeWithSurrogates s)
  | some fault => .error fault

/-- A surrogate that stands for a byte that is not UTF-8. -/
def isEscape (c : CodePoint) : Bool := 0xDC80 ≤ c.val && c.val ≤ 0xDCFF

/-- The bytes of a text, those that surrogates stand for given back. -/
def unescape (s : Text) : Bytes :=
  s.flatMap fun c => if isEscape c then [UInt8.ofNat (c.val - 0xDC00)] else encodePoint c

/-- The first surrogate that stands for no byte, with the surrogates that follow it. -/
def firstUnescapable? (s : Text) : Option EncodeFault :=
  let writable (c : CodePoint) : Bool := !c.isSurrogate || isEscape c
  match s.dropWhile writable with
  | [] => none
  | c :: rest => some ⟨c, (s.takeWhile writable).length, 1 + (rest.takeWhile (·.isSurrogate)).length⟩

/-- The bytes of a text in which every surrogate stands for a byte. -/
def encodeEscaped (s : Text) : Except EncodeFault Bytes :=
  match firstUnescapable? s with
  | none => .ok (unescape s)
  | some fault => .error fault

/-! ## Reading -/

/-- A byte that continues a sequence. -/
def isContinuation (b : UInt8) : Bool := 0x80 ≤ b && b < 0xC0

/-- The six bits that a continuation byte carries. -/
def payload (b : UInt8) : Nat := b.toNat % 0x40

/-- Reads the continuation bytes of a sequence that starts with `lead`. The first must pass
`second`, the others must be continuation bytes; `wanted` of them are needed, `seen` are read, and
`value` holds the bits so far. -/
def readContinuations (lead : UInt8) (second : UInt8 → Bool) :
    (wanted seen value : Nat) → Bytes → Step CodePoint ByteFault
  | 0, seen, value, _ => .item (CodePoint.ofNat value) seen
  | _ + 1, seen, _, [] => .stop ⟨1 + seen, lead, .unexpectedEnd⟩
  | wanted + 1, seen, value, b :: rest =>
    if (if seen = 0 then second b else isContinuation b) then
      readContinuations lead second wanted (seen + 1) (value * 0x40 + payload b) rest
    else .stop ⟨1 + seen, lead, .invalidContinuation⟩

/-- The second bytes that may follow a lead byte: they keep out longer spellings of smaller code
points, surrogates unless these are allowed, and code points past the last one. -/
def secondByte (surrogates : Bool) (lead b : UInt8) : Bool :=
  if lead = 0xE0 then 0xA0 ≤ b && b < 0xC0
  else if lead = 0xED && !surrogates then 0x80 ≤ b && b < 0xA0
  else if lead = 0xF0 then 0x90 ≤ b && b < 0xC0
  else if lead = 0xF4 then 0x80 ≤ b && b < 0x90
  else isContinuation b

/-- The code point at the front of some bytes. -/
def decodeStep (surrogates : Bool) (b : UInt8) (rest : Bytes) : Step CodePoint ByteFault :=
  let read (wanted value : Nat) :=
    readContinuations b (secondByte surrogates b) wanted 0 value rest
  if b < 0x80 then .item (CodePoint.ofNat b.toNat) 0
  else if b < 0xC2 then .stop ⟨1, b, .invalidStart⟩
  else if b < 0xE0 then read 1 (b.toNat - 0xC0)
  else if b < 0xF0 then read 2 (b.toNat - 0xE0)
  else if b < 0xF5 then read 3 (b.toNat - 0xF0)
  else .stop ⟨1, b, .invalidStart⟩

/-- The text of some bytes. -/
def decode (bytes : Bytes) : Except DecodeFault Text :=
  (scan (decodeStep false) bytes).decoded .utf8 0

/-- The code point at the front of some bytes, the form of a surrogate read too. Where there is
none, the fault is the one that is found without surrogates. -/
def decodeStepWithSurrogates (b : UInt8) (rest : Bytes) : Step CodePoint ByteFault :=
  match decodeStep true b rest with
  | .item c extra => .item c extra
  | .stop _ => decodeStep false b rest

/-- The text of some bytes, the forms of surrogates read too. -/
def decodeWithSurrogates (bytes : Bytes) : Except DecodeFault Text :=
  (scan decodeStepWithSurrogates bytes).decoded .utf8 0

/-- The code point at the front of some bytes, the first byte escaped when there is none. -/
def decodeStepEscaping (b : UInt8) (rest : Bytes) : Step CodePoint Empty :=
  match decodeStep false b rest with
  | .item c extra => .item c extra
  | .stop _ => .item (CodePoint.ofNat (0xDC00 + b.toNat)) 0

/-- The text of any bytes, those that are not UTF-8 escaped one by one. -/
def decodeEscaping (bytes : Bytes) : Text := (scan decodeStepEscaping bytes).items

end Utf8

end RequestCredentials
