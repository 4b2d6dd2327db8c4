import RequestCredentials.Declaration.Problem
import RequestCredentials.Operation.Basic
/-
  The grammar of declarations

  A declaration is an object with a list of credentials. A credential has a
  kind, locations and, if it wants, keys; a location has a source, arguments
  and, if it wants, operations. Each check below gives the problems of one part
  of a document and of the parts inside it.

  An operation is an object with exactly one member: a decoding with its kind,
  a lookup with a key or with a position that is an integer and not negative,
  or an alternation between at least one sequence. An operation that is none of
  these is one problem, whatever is wrong inside it.
-/

namespace RequestCredentials

/-! ## Names -/

/-- The names that a decoding may have. -/
def decodeKindNames : List Text :=
  ["text", "base64", "base64url", "json", "protobuf_struct", "protobuf_metadata", "pairs"]

/-- The names that a source may have. -/
def sourceNames : List Text := ["header", "query_string", "property"]

/-! ## Operations -/

namespace Json

/-- The name of a decoding. -/
def isDecodeKind : Json → Bool
  | .str s => decodeKindNames.contains s
  | _ => false

def isString : Json → Bool
  | .str _ => true
  | _ => false

/-- An integer, in either spelling, that is not negative. -/
def isPosition : Json → Bool
  | .int n => 0 ≤ n
  | .float x => x.toInt?.isSome && !x.isNegative
  | _ => false

def isSelector : Json → Bool
  | .obj [(name, part)] =>
    if name = "key" then part.isString else if name = "position" then part.isPosition else false
  | _ => false

mutual

def isOperation : Json → Bool
  | .obj [(name, part)] =>
    if name = "decode" then part.isDecodeKind
    else if name = "lookup" then part.isSelector
    else if name = "or" then part.isBranches
    else false
  | _ => false

/-- A sequence of operations. -/
def isOperations : Json → Bool
  | .arr items => allOperations items
  | _ => false

/-- The branches of an alternation. -/
def isBranches : Json → Bool
  | .arr [] => false
  | .arr (branch :: rest) => branch.isOperations && allSequences rest
  | _ => false

def allOperations : List Json → Bool
  | [] => true
  | item :: rest => item.isOperation && allOperations rest

def allSequences : List Json → Bool
  | [] => true
  | item :: rest => item.isOperations && allSequences rest

end

end Json

/-! ## Checks -/

/-- A check of the part of a document at a path. -/
abbrev Check := List Text → Json → List Problem

namespace Check

/-- The problems of each item, at its position. -/
def each (check : Check) (path : List Text) (items : List Json) : List Problem :=
  items.zipIdx.flatMap fun (item, i) => check (path ++ [Text.ofNat i]) item

/-- An array; `least` says that it must not be empty. -/
def array (least : Bool) (check : Check) : Check := fun path part =>
  match part with
  | .arr items =>
    (if least ∧ items = [] then [⟨path, .tooShort part⟩] else []) ++ check.each path items
  | _ => [⟨path, .notOfType part .array⟩]

/-- A string; `least` says that it must not be empty. -/
def string (least : Bool) : Check := fun path part =>
  match part with
  | .str s => if least ∧ s = [] then [⟨path, .tooShort part⟩] else []
  | _ => [⟨path, .notOfType part .string⟩]

/-- One of some strings. -/
def oneOf (options : List Text) : Check := fun path part =>
  match part with
  | .str s => if options.contains s then [] else [⟨path, .notOneOf part options⟩]
  | _ => [⟨path, .notOneOf part options⟩]

/-- The names that are not among the known ones, in order. -/
def unknownNames (known : List Text) (members : List (Text × Json)) : List Text :=
  ((members.map (·.1)).filter (!known.contains ·)).mergeSort Text.le

/-- An object with the given members, some of them required, and no others. -/
def object (required : List Text) (known : List (Text × Check)) : Check := fun path part =>
  match part with
  | .obj members =>
    let missing := required.filter fun name => (Json.member? name members).isNone
    let unknown := unknownNames (known.map (·.1)) members
    missing.map (fun name => ⟨path, .missing name⟩) ++
      (if unknown = [] then [] else [⟨path, .additional unknown⟩]) ++
      known.flatMap fun (name, check) =>
        match Json.member? name members with
        | some member => check (path ++ [name]) member
        | none => []
  | _ => [⟨path, .notOfType part .object⟩]

def operation : Check := fun path part =>
  if part.isOperation then [] else [⟨path, .noForm part⟩]

def operations : Check := array false operation

def location : Check :=
  object ["selector", "args"]
    [("selector", oneOf sourceNames),
      ("args", array true (string true)), ("ops", operations)]

def credential : Check :=
  object ["kind", "locations"]
    [("kind", string true), ("keys", array false (string false)),
      ("locations", array true location)]

def declaration : Check := object ["credentials"] [("credentials", array false credential)]

end Check

/-- The problems of a whole document under a check. -/
def Json.problems (document : Json) (check : Check) : List Problem := check [] document

end RequestCredentials
