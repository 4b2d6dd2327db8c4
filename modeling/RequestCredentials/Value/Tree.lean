import RequestCredentials.Value.Basic
import RequestCredentials.Json.Basic
import RequestCredentials.Number.Literal
import RequestCredentials.Number.DigitLimit
/-
  Property trees

  The proxy hangs a tree of properties on each request: mappings and lists over
  texts, bytes, numbers, booleans and null. A leaf may also be a value that was
  unwrapped before. `Tree.asValue` gives the value of a tree: mappings become
  structs in their order, and a leaf that is not text becomes its text, spelled
  as in JSON.
-/

namespace RequestCredentials

inductive Tree where
  | null
  | bool (b : Bool)
  | int (n : Int)
  | float (x : Binary64)
  | text (s : Text)
  | bytes (b : Bytes)
  | list (items : List Tree)
  | dict (entries : List (Text × Tree))
  | value (v : Value)

/-- The text of a truth value. -/
def boolText (b : Bool) : Text := if b then "true" else "false"

/-- The text of null. -/
def nullText : Text := "null"

namespace Tree

/-- The tree under the first entry of that name. -/
def entry? (name : Text) (entries : List (Text × Tree)) : Option Tree :=
  (entries.find? (·.1 = name)).map (·.2)

/-- The entries with the tree under `name` replaced, or an entry added at the end. -/
def setEntry (name : Text) (tree : Tree) : List (Text × Tree) → List (Text × Tree)
  | [] => [(name, tree)]
  | (n, t) :: rest => if n = name then (n, tree) :: rest else (n, t) :: setEntry name tree rest

mutual

def asValue : Tree → Value
  | .null => .text (.chars nullText)
  | .bool b => .text (.chars (boolText b))
  | .int n => .text (.chars (Text.ofInt n))
  | .float x => .text (.chars x.plainText)
  | .text s => .text (.chars s)
  | .bytes b => .text (.bytes b)
  | .list items => .list (asValues items)
  | .dict entries => .struct (asEntries entries)
  | .value v => v

def asValues : List Tree → List Value
  | [] => []
  | tree :: rest => tree.asValue :: asValues rest

def asEntries : List (Text × Tree) → List (Text × Value)
  | [] => []
  | (name, tree) :: rest => (name, tree.asValue) :: asEntries rest

end

mutual

/-- The tree holds an integer that has too many digits to become text. -/
def holdsLongInteger : Tree → Bool
  | .int n => isLongInteger n
  | .list items => anyLongInteger items
  | .dict entries => anyLongIntegerIn entries
  | _ => false

def anyLongInteger : List Tree → Bool
  | [] => false
  | tree :: rest => tree.holdsLongInteger || anyLongInteger rest

def anyLongIntegerIn : List (Text × Tree) → Bool
  | [] => false
  | (_, tree) :: rest => tree.holdsLongInteger || anyLongIntegerIn rest

end

end Tree

namespace Json

mutual

/-- The value of a document: every member is kept, and a leaf that is not a string becomes its
text. -/
def asValue : Json → Value
  | .null => .text (.chars nullText)
  | .bool b => .text (.chars (boolText b))
  | .int n => .text (.chars (Text.ofInt n))
  | .float x => .text (.chars x.plainText)
  | .str s => .text (.chars s)
  | .arr items => .list (asValues items)
  | .obj members => .struct (asEntries members)

def asValues : List Json → List Value
  | [] => []
  | item :: rest => item.asValue :: asValues rest

def asEntries : List (Text × Json) → List (Text × Value)
  | [] => []
  | (name, item) :: rest => (name, item.asValue) :: asEntries rest

end

end Json

end RequestCredentials
