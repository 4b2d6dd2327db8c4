import RequestCredentials.Text.LowerCase
import RequestCredentials.Text.DecimalDigit
import RequestCredentials.Value.Tree
import RequestCredentials.Evaluation.Fault
import RequestCredentials.Operation.Basic
/-
  Requests, and the seeds captured from them

  A request shows its headers, its query parameters and a tree of properties.
  A header or parameter is captured as the first of the named ones that is
  there. A property is reached by a path: a name leads into a mapping, and
  decimal digits of any script lead to a place in a list. Null counts as not
  there.
-/

namespace RequestCredentials

structure Request where
  /-- Header names in lower case, each with its value. -/
  headers : List (Text × Text)
  query : List (Text × Text)
  properties : List (Text × Tree)

/-- The value of that name. -/
def valueOf? (name : Text) (fields : List (Text × Text)) : Option Text :=
  (fields.find? (·.1 = name)).map (·.2)

/-- The fields with the value of `name` replaced, or a field added at the end. -/
def setValue (name value : Text) : List (Text × Text) → List (Text × Text)
  | [] => [(name, value)]
  | (n, v) :: rest => if n = name then (n, value) :: rest else (n, v) :: setValue name value rest

/-- The place in a list that a path segment names; the digit limit holds. -/
def segmentPosition? (segment : Text) : Except Fault (Option Nat) :=
  match segment.decimalDigits? with
  | none => .ok none
  | some digits =>
    if digitLimit < digits.length then .error (.tooManyDigits digits.length)
    else .ok (some (valueOfDigits digits))

/-- The tree that a path leads to. -/
def Tree.walk : Tree → List Text → Except Fault (Option Tree)
  | tree, [] => .ok (some tree)
  | .dict entries, segment :: path =>
    match Tree.entry? segment entries with
    | none => .ok none
    | some tree => tree.walk path
  | .list items, segment :: path => do
    match ← segmentPosition? segment with
    | none => return none
    | some position =>
      match items[position]? with
      | none => return none
      | some tree => tree.walk path
  | _, _ :: _ => .ok none

namespace Request

/-- The value of a header, whose name is given in any case. -/
def header? (r : Request) (name : Text) : Option Text := valueOf? name.lower r.headers

/-- The value of a query parameter. -/
def parameter? (r : Request) (name : Text) : Option Text := valueOf? name r.query

/-- The property at a path, unless it is null. -/
def property? (r : Request) (path : List Text) : Except Fault (Option Tree) := do
  match ← (Tree.dict r.properties).walk path with
  | some .null => return none
  | found => return found

/-- The value of a property; every integer in it becomes text, so none may be too long. -/
def propertyValue (tree : Tree) : Except Fault Value :=
  if tree.holdsLongInteger then .error (.tooManyDigits none) else .ok tree.asValue

/-- The seed that a source yields for some arguments. -/
def seed? (r : Request) (source : Source) (args : List Text) : Except Fault (Option Value) :=
  match source with
  | .header => .ok ((args.findSome? r.header?).map fun s => .text (.chars s))
  | .query => .ok ((args.findSome? r.parameter?).map fun s => .text (.chars s))
  | .property => do
    match ← r.property? args with
    | none => return none
    | some tree => return some (← propertyValue tree)

end Request

end RequestCredentials
