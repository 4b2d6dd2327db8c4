import RequestCredentials.Number.Binary64
/-
  JSON documents

  An object keeps its members in document order, repeated names included. Where
  a document is read as a configuration a name stands for one member only:
  `merged` keeps, at the place of a name's first member, the value of its last.
-/

namespace RequestCredentials

/-- A JSON document; a number is an integer unless it is written with a fraction or an exponent. -/
inductive Json where
  | null
  | bool (b : Bool)
  | int (n : Int)
  | float (x : Binary64)
  | str (s : Text)
  | arr (items : List Json)
  | obj (members : List (Text × Json))

/-- The types of documents. -/
inductive JsonType where
  | null
  | bool
  | int
  | float
  | str
  | arr
  | obj
  deriving DecidableEq

namespace JsonType

/-- The word for a type in messages. -/
def name : JsonType → String
  | null => "NoneType"
  | bool => "bool"
  | int => "int"
  | float => "float"
  | str => "str"
  | arr => "list"
  | obj => "dict"

/-- A type of documents that hold no text and no parts. -/
def isScalar : JsonType → Bool
  | null => true
  | bool => true
  | int => true
  | float => true
  | str => false
  | arr => false
  | obj => false

end JsonType

namespace Json

def type : Json → JsonType
  | .null => .null
  | .bool _ => .bool
  | .int _ => .int
  | .float _ => .float
  | .str _ => .str
  | .arr _ => .arr
  | .obj _ => .obj

/-- The member list with the value of `name` replaced, or the member added at the end. -/
def setMember (name : Text) (value : Json) : List (Text × Json) → List (Text × Json)
  | [] => [(name, value)]
  | (n, v) :: rest => if n = name then (n, value) :: rest else (n, v) :: setMember name value rest

/-- The value of the first member of that name. -/
def member? (name : Text) (members : List (Text × Json)) : Option Json :=
  (members.find? (·.1 = name)).map (·.2)

mutual

/-- The document with one member for each name in every object. -/
def merged : Json → Json
  | .arr items => .arr (mergedItems items)
  | .obj members => .obj (mergedMembers [] members)
  | .null => .null
  | .bool b => .bool b
  | .int n => .int n
  | .float x => .float x
  | .str s => .str s

def mergedItems : List Json → List Json
  | [] => []
  | item :: rest => item.merged :: mergedItems rest

/-- The members added one by one to those already `merged`. -/
def mergedMembers (before : List (Text × Json)) : List (Text × Json) → List (Text × Json)
  | [] => before
  | (name, value) :: rest => mergedMembers (setMember name value.merged before) rest

end

end Json

end RequestCredentials
