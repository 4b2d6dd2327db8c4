/-
  Text — sequences of Unicode code points

  A request may carry text that no byte string spells: a JSON escape names half
  of a surrogate pair, and a byte that is not UTF-8 is kept as a surrogate. So
  text here is a list of code points, surrogates included, and `String` is used
  for fixed wording only (`Text.ofString`).

  Defined here: code points with their surrogate halves, fixed wording, the
  order of texts, joining and splitting, and the decimal and hexadecimal text of
  a natural number.
-/

namespace RequestCredentials

/-- A Unicode code point; a surrogate is one too. -/
abbrev CodePoint := Fin 0x110000

/-- A sequence of code points. -/
abbrev Text := List CodePoint

/-- A sequence of bytes. -/
abbrev Bytes := List UInt8

/-! ## Code points -/

namespace CodePoint

/-- The code point of a character. -/
def ofChar (c : Char) : CodePoint :=
  ⟨c.toNat, by rcases c.valid with h | ⟨_, h⟩ <;> unfold Char.toNat <;> simp at * <;> omega⟩

instance : Coe Char CodePoint := ⟨ofChar⟩

/-- The code point numbered `n`; numbers past the last one give the last one. -/
def ofNat (n : Nat) : CodePoint :=
  if h : n < 0x110000 then ⟨n, h⟩ else ⟨0x10FFFF, by decide⟩

/-- The first half of a surrogate pair. -/
def isHighSurrogate (c : CodePoint) : Bool := 0xD800 ≤ c.val && c.val < 0xDC00

/-- The second half of a surrogate pair. -/
def isLowSurrogate (c : CodePoint) : Bool := 0xDC00 ≤ c.val && c.val < 0xE000

def isSurrogate (c : CodePoint) : Bool := 0xD800 ≤ c.val && c.val < 0xE000

/-- The code point that a surrogate pair stands for. -/
def joinSurrogates (high low : CodePoint) : CodePoint :=
  ofNat (0x10000 + (high.val - 0xD800) * 0x400 + (low.val - 0xDC00))

/-- An ASCII digit. -/
def isDigit (c : CodePoint) : Bool := 0x30 ≤ c.val && c.val ≤ 0x39

/-- The value of a hexadecimal digit, in either case. -/
def hexDigit? (c : CodePoint) : Option Nat :=
  if 0x30 ≤ c.val ∧ c.val ≤ 0x39 then some (c.val - 0x30)
  else if 0x41 ≤ c.val ∧ c.val ≤ 0x46 then some (c.val - 0x37)
  else if 0x61 ≤ c.val ∧ c.val ≤ 0x66 then some (c.val - 0x57)
  else none

end CodePoint

/-! ## Text -/

/-- The order of a dictionary on lists, given the order of their elements. -/
def dictionaryLe {α : Type} [DecidableEq α] (le : α → α → Bool) : List α → List α → Bool
  | [], _ => true
  | _ :: _, [] => false
  | a :: s, b :: t => if a = b then dictionaryLe le s t else le a b

namespace Text

/-- The text comes before the other or is the same, code point by code point. -/
def le : Text → Text → Bool := dictionaryLe fun a b => decide (a.val ≤ b.val)

/-- Fixed wording as text. -/
def ofString (s : String) : Text := s.toList.map CodePoint.ofChar

instance : Coe String Text := ⟨ofString⟩

/-- The texts one after another, with `separator` between two of them. -/
def join (separator : Text) : List Text → Text
  | [] => []
  | [s] => s
  | s :: rest => s ++ separator ++ join separator rest

/-- The pieces between the occurrences of `separator`; there is always at least one. -/
def splitOn (separator : CodePoint) : Text → List Text
  | [] => [[]]
  | c :: rest =>
    if c = separator then [] :: splitOn separator rest
    else match splitOn separator rest with
      | [] => [[c]]
      | piece :: pieces => (c :: piece) :: pieces

/-- The part before the first `separator`, and the part after it if there is one. -/
def cut (separator : CodePoint) (s : Text) : Text × Option Text :=
  match s.dropWhile (· ≠ separator) with
  | [] => (s, none)
  | _ :: after => (s.takeWhile (· ≠ separator), some after)

/-- `old` replaced by `new` everywhere. -/
def replace (old new : CodePoint) (s : Text) : Text :=
  s.map fun c => if c = old then new else c

/-- A natural number in decimal digits. -/
def ofNat (n : Nat) : Text := (Nat.toDigits 10 n).map CodePoint.ofChar

/-- An integer in decimal digits, a minus sign before a negative one. -/
def ofInt : Int → Text
  | .ofNat n => ofNat n
  | .negSucc n => '-' :: ofNat (n + 1)

/-- A natural number in lower-case hexadecimal digits, filled with zeros up to `width`. -/
def ofHex (width n : Nat) : Text :=
  let digits := (Nat.toDigits 16 n).map CodePoint.ofChar
  List.replicate (width - digits.length) (CodePoint.ofChar '0') ++ digits

/-- The number that ASCII decimal digits spell. -/
def decimalValue (digits : Text) : Nat :=
  digits.foldl (fun n c => 10 * n + (c.val - 0x30)) 0

end Text

end RequestCredentials
