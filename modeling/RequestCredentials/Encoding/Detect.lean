import RequestCredentials.Encoding.Utf16
/-
  The encoding of a JSON document

  A byte order mark names the encoding. Without one, the first two characters
  of a document are ASCII, so the zero bytes among the first four tell it.
-/

namespace RequestCredentials.Encoding

/-- The encoding of a document without a byte order mark. -/
def ofZeros : Bytes → Encoding
  | a :: b :: c :: d :: _ =>
    if a = 0 then if b ≠ 0 then .utf16 true else .utf32 true
    else if b = 0 then if c ≠ 0 ∨ d ≠ 0 then .utf16 false else .utf32 false
    else .utf8
  | [a, b] => if a = 0 then .utf16 true else if b = 0 then .utf16 false else .utf8
  | _ => .utf8

/-- The text of a JSON document in the encoding that its first bytes tell, lone surrogates kept.
Positions in a fault count a byte order mark, the UTF-8 one excepted. -/
def decodeDocument (bytes : Bytes) : Except DecodeFault Text :=
  match bytes with
  | 0x00 :: 0x00 :: 0xFE :: 0xFF :: rest => Utf32.decode true 4 rest
  | 0xFF :: 0xFE :: 0x00 :: 0x00 :: rest => Utf32.decode false 4 rest
  | 0xFE :: 0xFF :: rest => Utf16.decode true 2 rest
  | 0xFF :: 0xFE :: rest => Utf16.decode false 2 rest
  | 0xEF :: 0xBB :: 0xBF :: rest => Utf8.decodeWithSurrogates rest
  | _ =>
    match ofZeros bytes with
    | .utf8 => Utf8.decodeWithSurrogates bytes
    | .utf16 bigEndian => Utf16.decode bigEndian 0 bytes
    | .utf32 bigEndian => Utf32.decode bigEndian 0 bytes

end RequestCredentials.Encoding
