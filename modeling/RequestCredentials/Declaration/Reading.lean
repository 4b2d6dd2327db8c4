import RequestCredentials.Declaration.Problem
import RequestCredentials.Operation.Basic
/-
  Reading operations, locations and credentials

  These functions turn parts of a document into what they declare. They look
  only at the members that they need, so they accept more than the grammar
  does: an object that holds several operations is taken as the first of
  decoding, lookup and alternation, a key goes before a position, and both may
  be anything. What declares nothing is a fault.

  A sequence is made up of the elements of a part: the items of an array, and
  also the names in an object and the characters of a string. Since a name or
  character declares no operation, only an empty object or string is accepted
  in the place of an array of operations.
-/

namespace RequestCredentials

/-- A part of a document that declares nothing. -/
inductive ReadingFault where
  | unknownOperation (part : Json)
  | unknownKind (part : Json)
  | unknownSource (part : Json)

def ReadingFault.message : ReadingFault → Text
  | unknownOperation part => "Unknown operation: " ++ part.literal
  | unknownKind part => part.literal ++ " is not a valid DecodeKind"
  | unknownSource part => part.literal ++ " is not a valid SelectorKind"

namespace Json

/-! ## Parts -/

/-- The text of a string, else none. -/
def text : Json → Text
  | .str s => s
  | _ => []

/-- The items of an array, else none. -/
def items : Json → List Json
  | .arr items => items
  | _ => []

/-- The texts of an array of strings. -/
def texts (part : Json) : List Text := part.items.map text

/-- The member of that name in an object. -/
def get? (name : Text) : Json → Option Json
  | .obj members => member? name members
  | _ => none

/-- The member of that name in an object, or an empty array. -/
def getOrEmpty (name : Text) (part : Json) : Json := (part.get? name).getD (.arr [])

/-! ## Operations -/

def toDecodeKind (part : Json) : Except ReadingFault DecodeKind :=
  match part with
  | .str s =>
    match DecodeKind.ofName? s with
    | some kind => .ok kind
    | none => .error (.unknownKind part)
  | _ => .error (.unknownKind part)

/-- The position of a lookup. -/
def toIndex : Json → Index
  | .int n => .int n
  | .float x => .float x
  | part => .other part

/-- The key of a lookup. -/
def toKey : Json → Selector
  | .str name => .key name
  | part => .otherKey part

/-- The selector of a lookup. -/
def toSelector? (part : Json) : Option Selector :=
  match part.get? "key" with
  | some key => some key.toKey
  | none => (part.get? "position").map fun position => .position position.toIndex

/-- The fault of a sequence that is a string or the first names of an object: its first element
declares nothing. -/
def faultOfElements : List Text → Except ReadingFault (List Operation)
  | [] => .ok []
  | element :: _ => .error (.unknownOperation (.str element))

/-- The characters of a text. -/
def characters (s : Text) : List Text := s.map fun c => [c]

mutual

def toOperation : Json → Except ReadingFault Operation
  | .obj members =>
    match member? "decode" members with
    | some part => part.toDecodeKind.map Operation.decode
    | none =>
      match member? "lookup" members with
      | some part =>
        match part.toSelector? with
        | some selector => .ok (.lookup selector)
        | none => .error (.unknownOperation (.obj members))
      | none =>
        match toAlternation? members with
        | some branches => branches.map Operation.alternation
        | none => .error (.unknownOperation (.obj members))
  | part => .error (.unknownOperation part)

/-- The branches in the first member that declares an alternation. -/
def toAlternation? : List (Text × Json) → Option (Except ReadingFault (List (List Operation)))
  | [] => none
  | (name, part) :: rest => if name = "or" then some part.toBranches else toAlternation? rest

def toBranches : Json → Except ReadingFault (List (List Operation))
  | .arr branches => toSequences branches
  | .str s => (characters s).mapM fun branch => faultOfElements (characters branch)
  | .obj members => members.mapM fun (name, _) => faultOfElements (characters name)
  | part => .error (.unknownOperation part)

def toOperations : Json → Except ReadingFault (List Operation)
  | .arr items => toOperationList items
  | .str s => faultOfElements (characters s)
  | .obj members => faultOfElements (members.map (·.1))
  | part => .error (.unknownOperation part)

def toOperationList : List Json → Except ReadingFault (List Operation)
  | [] => .ok []
  | item :: rest => do
    let op ← item.toOperation
    let ops ← toOperationList rest
    return op :: ops

def toSequences : List Json → Except ReadingFault (List (List Operation))
  | [] => .ok []
  | item :: rest => do
    let branch ← item.toOperations
    let branches ← toSequences rest
    return branch :: branches

end

/-! ## Locations and credentials -/

/-- The source of that name. -/
def toSource (part : Json) : Except ReadingFault Source :=
  match part with
  | .str s =>
    match Source.ofName? s with
    | some source => .ok source
    | none => .error (.unknownSource part)
  | _ => .error (.unknownSource part)

def toLocation (part : Json) : Except ReadingFault Location := do
  let source ← (part.getOrEmpty "selector").toSource
  let ops ← (part.getOrEmpty "ops").toOperations
  return ⟨source, (part.getOrEmpty "args").texts, ops⟩

def toCredential (part : Json) : Except ReadingFault Credential := do
  let locations ← (part.getOrEmpty "locations").items.mapM toLocation
  return ⟨(part.getOrEmpty "kind").text, (part.getOrEmpty "keys").texts, locations⟩

def toCredentials (document : Json) : Except ReadingFault (List Credential) :=
  (document.getOrEmpty "credentials").items.mapM toCredential

end Json

end RequestCredentials
