import Mathlib.Data.List.Chain
import RequestCredentials.Json.Basic
import RequestCredentials.Value.Tree
/-
  How documents are spelled

  A document has many spellings in ASCII. Blanks may stand around every token,
  and a code point of a string may stand for itself, behind a backslash as one
  letter, or as the four hexadecimal digits of its number; past U+FFFF it is
  written as the two halves of a surrogate pair, each with its own four digits.
  What must be escaped is what has no literal form: control characters, quotes,
  backslashes and everything past U+007F.

  `Spelled` is the grammar of values without the blanks around them, and
  `SpelledPart` that of values with them. Two escapes that happen to be the
  halves of a pair would be read as one code point, so a string can be written
  only if no high surrogate stands directly before a low one; and an integer only
  up to the digit limit (`Writable`).

  `Image` says what value a document stands for: the arrays and objects in it
  become lists and structs, member by member, and a leaf becomes its text.
-/

namespace RequestCredentials.Json

/-! ## Strings -/

/-- The letters behind a backslash, and the code points that they stand for. -/
def letterEscapes : List (CodePoint × CodePoint) :=
  [('"', '"'), ('\\', '\\'), ('/', '/'), ('b', CodePoint.ofNat 0x08),
    ('f', CodePoint.ofNat 0x0C), ('n', CodePoint.ofNat 0x0A), ('r', CodePoint.ofNat 0x0D),
    ('t', CodePoint.ofNat 0x09)]

/-- The hexadecimal digit, in either case, of a number below sixteen. -/
def HexDigit (n : Nat) (c : CodePoint) : Prop :=
  ("0123456789abcdef" : Text)[n]? = some c ∨ ("0123456789ABCDEF" : Text)[n]? = some c

/-- The four hexadecimal digits of a code point. -/
inductive UnitForm : CodePoint → Text → Prop
  | digits {c x y z w : CodePoint} {m n p q : Nat} (hx : HexDigit m x) (hy : HexDigit n y)
    (hz : HexDigit p z) (hw : HexDigit q w)
    (hc : c.val = m * 0x1000 + n * 0x100 + p * 0x10 + q) : UnitForm c [x, y, z, w]

/-- A code point of a string as it may be written. -/
inductive PointForm : CodePoint → Text → Prop
  | literal {c : CodePoint} (hrange : 0x20 ≤ c.val ∧ c.val < 0x80) (hquote : c ≠ '"')
    (hbackslash : c ≠ '\\') : PointForm c [c]
  | letter {l c : CodePoint} (h : (l, c) ∈ letterEscapes) : PointForm c [('\\' : CodePoint), l]
  | unit {c : CodePoint} {digits : Text} (h : UnitForm c digits) :
    PointForm c (('\\' : CodePoint) :: ('u' : CodePoint) :: digits)
  | pair {c high low : CodePoint} {digits digits' : Text} (hhigh : high.isHighSurrogate)
    (hlow : low.isLowSurrogate) (h : UnitForm high digits) (h' : UnitForm low digits')
    (hc : c.val = 0x10000 + (high.val - 0xD800) * 0x400 + (low.val - 0xDC00)) :
    PointForm c
      (('\\' : CodePoint) :: ('u' : CodePoint) ::
        (digits ++ ('\\' : CodePoint) :: ('u' : CodePoint) :: digits'))

/-- A string as it may be written, without its quotes. -/
inductive TextForm : Text → Text → Prop
  | nil : TextForm [] []
  | cons {c : CodePoint} {s form body : Text} (hc : PointForm c form) (hs : TextForm s body) :
    TextForm (c :: s) (form ++ body)

/-! ## Values -/

/-- Spaces, tabs, line feeds and carriage returns. -/
def Blank (s : Text) : Prop := ∀ c ∈ s, c ∈ (" \t\n\r" : Text)

instance (s : Text) : Decidable (Blank s) := List.decidableBAll (· ∈ (" \t\n\r" : Text)) s

/-- A member's name with the colon behind it. -/
inductive NameForm : Text → Text → Prop
  | mk {name before body between : Text} (hbefore : Blank before) (hname : TextForm name body)
    (hbetween : Blank between) :
    NameForm name
      (before ++ ('"' : CodePoint) :: (body ++ ('"' : CodePoint) :: (between ++ [(':' : CodePoint)])))

mutual

/-- A value as it may be written, without blanks around it. -/
inductive Spelled : Json → Text → Prop
  | null : Spelled .null "null"
  | true : Spelled (.bool true) "true"
  | false : Spelled (.bool false) "false"
  | int (n : Int) : Spelled (.int n) (Text.ofInt n)
  | str {s body : Text} (h : TextForm s body) :
    Spelled (.str s) (('"' : CodePoint) :: (body ++ [('"' : CodePoint)]))
  | emptyArray {blank : Text} (h : Blank blank) :
    Spelled (.arr []) (('[' : CodePoint) :: (blank ++ [(']' : CodePoint)]))
  | array {items : List Json} {t : Text} (h : SpelledItems items t) :
    Spelled (.arr items) (('[' : CodePoint) :: t)
  | emptyObject {blank : Text} (h : Blank blank) :
    Spelled (.obj []) (('\x7b' : CodePoint) :: (blank ++ [('\x7d' : CodePoint)]))
  | object {members : List (Text × Json)} {t : Text} (h : SpelledMembers members t) :
    Spelled (.obj members) (('\x7b' : CodePoint) :: t)

/-- A value with blanks around it. -/
inductive SpelledPart : Json → Text → Prop
  | mk {v : Json} {before t after : Text} (hbefore : Blank before) (h : Spelled v t)
    (hafter : Blank after) : SpelledPart v (before ++ (t ++ after))

/-- The items of an array with a comma between two of them, and the end of the array. -/
inductive SpelledItems : List Json → Text → Prop
  | last {item : Json} {t : Text} (h : SpelledPart item t) :
    SpelledItems [item] (t ++ [(']' : CodePoint)])
  | more {item : Json} {items : List Json} {t u : Text} (h : SpelledPart item t)
    (hrest : SpelledItems items u) : SpelledItems (item :: items) (t ++ (',' : CodePoint) :: u)

/-- The members of an object with a comma between two of them, and the end of the object. -/
inductive SpelledMembers : List (Text × Json) → Text → Prop
  | last {name : Text} {value : Json} {n t : Text} (hname : NameForm name n)
    (h : SpelledPart value t) : SpelledMembers [(name, value)] (n ++ (t ++ [('\x7d' : CodePoint)]))
  | more {name : Text} {value : Json} {members : List (Text × Json)} {n t u : Text}
    (hname : NameForm name n) (h : SpelledPart value t) (hrest : SpelledMembers members u) :
    SpelledMembers ((name, value) :: members) (n ++ (t ++ (',' : CodePoint) :: u))

end

/-! ## Documents that can be written -/

/-- No high surrogate stands directly before a low one. -/
def NoSplitPair (s : Text) : Prop :=
  s.IsChain fun c d => ¬ (c.isHighSurrogate = true ∧ d.isLowSurrogate = true)

mutual

/-- No string or name holds the two halves of a surrogate pair, and numbers are integers that are
not too long. -/
def Writable : Json → Prop
  | .null => True
  | .bool _ => True
  | .int n => isLongInteger n = false
  | .float _ => False
  | .str s => NoSplitPair s
  | .arr items => AllWritable items
  | .obj members => MembersWritable members

def AllWritable : List Json → Prop
  | [] => True
  | item :: rest => item.Writable ∧ AllWritable rest

def MembersWritable : List (Text × Json) → Prop
  | [] => True
  | (name, value) :: rest => NoSplitPair name ∧ value.Writable ∧ MembersWritable rest

end

/-! ## What documents stand for -/

mutual

/-- A document stands for a value of the same structure. -/
inductive Image : Json → Value → Prop
  | str (s : Text) : Image (.str s) (.text (.chars s))
  | leaf {v : Json} {t : Text} (hscalar : v.type.isScalar = true) (h : Spelled v t) :
    Image v (.text (.chars t))
  | arr {items : List Json} {values : List Value} (h : Images items values) :
    Image (.arr items) (.list values)
  | obj {members : List (Text × Json)} {entries : List (Text × Value)}
    (h : MemberImages members entries) : Image (.obj members) (.struct entries)

/-- The items stand for the values one by one. -/
inductive Images : List Json → List Value → Prop
  | nil : Images [] []
  | cons {item : Json} {items : List Json} {value : Value} {values : List Value}
    (h : Image item value) (hrest : Images items values) : Images (item :: items) (value :: values)

/-- The members stand for entries of the same names in the same order. -/
inductive MemberImages : List (Text × Json) → List (Text × Value) → Prop
  | nil : MemberImages [] []
  | cons {name : Text} {item : Json} {members : List (Text × Json)} {value : Value}
    {entries : List (Text × Value)} (h : Image item value) (hrest : MemberImages members entries) :
    MemberImages ((name, item) :: members) ((name, value) :: entries)

end

mutual

/-- The value of a document has the document's structure. -/
theorem image_asValue : ∀ {v : Json}, v.Writable → Image v v.asValue
  | .null, _ => .leaf rfl .null
  | .bool true, _ => .leaf rfl .true
  | .bool false, _ => .leaf rfl .false
  | .int n, _ => .leaf rfl (.int n)
  | .float _, h => h.elim
  | .str s, _ => .str s
  | .arr _, h => .arr (images_asValues h)
  | .obj _, h => .obj (memberImages_asEntries h)

theorem images_asValues : ∀ {items : List Json}, AllWritable items → Images items (asValues items)
  | [], _ => .nil
  | _ :: _, h => .cons (image_asValue h.1) (images_asValues h.2)

theorem memberImages_asEntries : ∀ {members : List (Text × Json)}, MembersWritable members →
    MemberImages members (asEntries members)
  | [], _ => .nil
  | (_, _) :: _, h => .cons (image_asValue h.2.1) (memberImages_asEntries h.2.2)

end

end RequestCredentials.Json
