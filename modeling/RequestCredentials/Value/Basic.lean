import RequestCredentials.Encoding.Utf8
/-
  Values — what a location yields while it is unwrapped

  A value is a text, a list or a struct. The content of a text is held as code
  points or as bytes, whichever it came as, and two contents are the same when
  their UTF-8 bytes are. A struct is a sequence of entries in which a name may
  occur more than once; a name stands for its first entry.
-/

namespace RequestCredentials

/-- The content of a text value. -/
inductive Content where
  | chars (s : Text)
  | bytes (b : Bytes)
  deriving DecidableEq

namespace Content

/-- The UTF-8 bytes of the content. -/
def toBytes : Content → Except EncodeFault Bytes
  | .chars s => Utf8.encode s
  | .bytes b => .ok b

/-- The content as code points, unless it is bytes that are not UTF-8. -/
def toText? : Content → Option Text
  | .chars s => some s
  | .bytes b => (Utf8.decode b).toOption

/-- The two contents have the same bytes; the first is encoded before the second. -/
def same (a b : Content) : Except EncodeFault Bool := do
  let a ← a.toBytes
  let b ← b.toBytes
  return a == b

end Content

/-- The three forms of a value. -/
inductive Shape where
  | text
  | list
  | struct
  deriving DecidableEq

def Shape.name : Shape → String
  | .text => "text"
  | .list => "list"
  | .struct => "struct"

inductive Value where
  | text (c : Content)
  | list (items : List Value)
  | struct (entries : List (Text × Value))

namespace Value

def shape : Value → Shape
  | .text _ => .text
  | .list _ => .list
  | .struct _ => .struct

/-- The content of a text value. -/
def content? : Value → Option Content
  | .text c => some c
  | _ => none

/-- The contents of the items, when all of them are text. -/
def allText? (items : List Value) : Option (List Content) := items.mapM content?

/-- The value of the first entry of that name. -/
def entry? (name : Text) (entries : List (Text × Value)) : Option Value :=
  (entries.find? (·.1 = name)).map (·.2)

/-- The strings that a final value carries: a text carries itself, a list its text items, and bytes
that are not UTF-8 are left out. -/
def strings : Value → List Text
  | .text c => c.toText?.toList
  | .list items => (items.filterMap content?).filterMap Content.toText?
  | .struct _ => []

mutual

/-- The two values have the same shape, names and order, and the same contents. The comparison
ends at the first difference. -/
def same : Value → Value → Except EncodeFault Bool
  | .text a, .text b => a.same b
  | .list as, .list bs => sameItems as bs
  | .struct as, .struct bs => sameEntries as bs
  | _, _ => .ok false

def sameItems : List Value → List Value → Except EncodeFault Bool
  | [], [] => .ok true
  | a :: as, b :: bs => do
    if ← a.same b then sameItems as bs else return false
  | _, _ => .ok false

def sameEntries : List (Text × Value) → List (Text × Value) → Except EncodeFault Bool
  | [], [] => .ok true
  | (m, a) :: as, (n, b) :: bs => do
    if m ≠ n then return false
    else if ← a.same b then sameEntries as bs
    else return false
  | _, _ => .ok false

end

end Value

end RequestCredentials
