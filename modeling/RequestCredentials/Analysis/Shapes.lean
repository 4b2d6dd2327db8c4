import RequestCredentials.Value.Basic
import RequestCredentials.Operation.Basic
import RequestCredentials.Json.Literal
/-
  Shape analysis

  Before a configuration is used, the shapes that values can have are followed
  through each operation sequence, and a sequence is refused when a step of it
  can never succeed: a decoding that no text reaches, an alternation without
  branches, or, where the accepted keys are known, a lookup on text of a key
  that is not one of them. A lookup on text leaves the text as it is, so no
  accepted key could be found right after it; that a later decoding may change
  the text is left out of account.

  The analysis goes on after a faulty branch, so that all problems are told at
  once, and stops a sequence at its first problem.
-/

namespace RequestCredentials

/-- A set of shapes. -/
structure Shapes where
  text : Bool
  list : Bool
  struct : Bool
  deriving DecidableEq

namespace Shapes

def empty : Shapes := ⟨false, false, false⟩

def any : Shapes := ⟨true, true, true⟩

def onlyText : Shapes := ⟨true, false, false⟩

def onlyStruct : Shapes := ⟨false, false, true⟩

def has (s : Shapes) : Shape → Bool
  | .text => s.text
  | .list => s.list
  | .struct => s.struct

def union (s t : Shapes) : Shapes := ⟨s.text || t.text, s.list || t.list, s.struct || t.struct⟩

/-- The names of the shapes, in alphabetical order. -/
def names (s : Shapes) : List String :=
  ([Shape.list, .struct, .text].filter s.has).map Shape.name

end Shapes

/-- The shapes that a decoding can yield. -/
def DecodeKind.yields : DecodeKind → Shapes
  | text => .onlyText
  | base64 => .onlyText
  | base64url => .onlyText
  | json => .any
  | protobufStruct => .onlyStruct
  | protobufMetadata => .onlyStruct
  | pairs => .onlyStruct

/-- The shapes that a seed can have. -/
def Source.yields : Source → Shapes
  | header => .onlyText
  | query => .onlyText
  | property => .any

/-! ## Problems -/

/-- A step on the way to an operation: its index in a sequence, or a branch of the alternation
reached so far. -/
inductive PathStep where
  | index (n : Nat)
  | branch (n : Nat)
  deriving DecidableEq

def PathStep.message : PathStep → Text
  | index n => "." ++ Text.ofNat n
  | branch n => ".or." ++ Text.ofNat n

/-- Why an operation can never succeed. -/
inductive Hopeless where
  | neverText (kind : DecodeKind) (shapes : Shapes)
  | neverKey (selector : Selector) (keys : List Text)
  | noBranches

def Hopeless.message : Hopeless → Text
  | neverText kind shapes =>
    "decode " ++ Text.ofString kind.name ++ " can only receive " ++
      Text.join ", " (shapes.names.map Text.ofString) ++ ", never text"
  | neverKey selector keys =>
    "lookup " ++ selector.message ++ " on text can never match the declared keys " ++
      quotedList keys
  | noBranches => "alternation has no branches"

/-- An operation that can never succeed. -/
structure ShapeProblem where
  path : List PathStep
  cause : Hopeless

/-- The problem of a sequence that is found at `place`. -/
def ShapeProblem.message (place : Text) (p : ShapeProblem) : Text :=
  place ++ p.path.flatMap PathStep.message ++ ": " ++ p.cause.message

/-! ## Analysis -/

/-- The problems found, and the shapes that can come out; none come out of an operation that can
never succeed. -/
structure ShapeReport where
  problems : List ShapeProblem
  shapes : Shapes

/-- A lookup that can only see text, and only text that is no accepted key. -/
def missesKeys (keys : List Text) (shapes : Shapes) : Selector → Bool
  | .key name => keys ≠ [] && shapes == .onlyText && !keys.contains name
  | .position _ => false
  | .otherKey _ => keys ≠ [] && shapes == .onlyText

mutual

/-- Follows the shapes through the operation at `path`; the answer says whether to go on. -/
def Operation.report (keys : List Text) (path : List PathStep) (shapes : Shapes) :
    Operation → ShapeReport × Bool
  | .decode kind =>
    if shapes.text then (⟨[], kind.yields⟩, true)
    else (⟨[⟨path, .neverText kind shapes⟩], .empty⟩, false)
  | .lookup selector =>
    if missesKeys keys shapes selector then (⟨[⟨path, .neverKey selector keys⟩], .empty⟩, false)
    else (⟨[], if shapes = .onlyText then .onlyText else .any⟩, true)
  | .alternation [] => (⟨[⟨path, .noBranches⟩], .empty⟩, false)
  | .alternation (branch :: rest) => (branchReports keys path shapes 0 (branch :: rest), true)

/-- Follows the shapes through a sequence, the first operation of which has the given index. -/
def sequenceReport (keys : List Text) (path : List PathStep) (shapes : Shapes) (index : Nat) :
    List Operation → ShapeReport
  | [] => ⟨[], shapes⟩
  | op :: rest =>
    match op.report keys (path ++ [.index index]) shapes with
    | (first, true) =>
      let after := sequenceReport keys path first.shapes (index + 1) rest
      ⟨first.problems ++ after.problems, after.shapes⟩
    | (first, false) => first

/-- Follows the shapes through branches, the first of which has the given number; all that can
come out of one of them can come out. -/
def branchReports (keys : List Text) (path : List PathStep) (shapes : Shapes) (number : Nat) :
    List (List Operation) → ShapeReport
  | [] => ⟨[], .empty⟩
  | branch :: rest =>
    let first := sequenceReport keys (path ++ [.branch number]) shapes 0 branch
    let after := branchReports keys path shapes (number + 1) rest
    ⟨first.problems ++ after.problems, first.shapes.union after.shapes⟩

end

/-- The problems of a sequence that starts on the given shapes, and the shapes that can come out. -/
def shapeReport (keys : List Text) (shapes : Shapes) (ops : List Operation) : ShapeReport :=
  sequenceReport keys [] shapes 0 ops

end RequestCredentials
