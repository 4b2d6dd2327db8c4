import RequestCredentials.Declaration.Grammar
import RequestCredentials.Declaration.Refusal
/-
  Accepting declarations

  A declaration that breaks the grammar is refused with all its problems. One
  that follows it is read, and refused with all problems of all its locations
  if any of them can never yield anything. Locations and sequences of
  operations can be declared alone and are accepted in the same way.
-/

namespace RequestCredentials

/-- The problems of a sequence that starts on the given shapes, with the place of the sequence. -/
def hopelessAt (place : Text) (keys : List Text) (shapes : Shapes) (ops : List Operation) :
    List (Text × ShapeProblem) :=
  (shapeReport keys shapes ops).problems.map fun p => (place, p)

/-- The problems of a location. -/
def Location.hopeless (place : Text) (keys : List Text) (l : Location) :
    List (Text × ShapeProblem) :=
  hopelessAt (place ++ ".ops") keys l.source.yields l.ops

/-- The place of a location in a declaration. -/
def locationPlace (credential location : Nat) : Text :=
  "credentials." ++ Text.ofNat credential ++ ".locations." ++ Text.ofNat location

/-- The problems of a credential's locations. -/
def Credential.hopeless (number : Nat) (c : Credential) : List (Text × ShapeProblem) :=
  c.locations.zipIdx.flatMap fun (l, i) => l.hopeless (locationPlace number i) c.keys

/-- Refuses what has problems. -/
def unlessHopeless {α : Type} (subject : Subject) (problems : List (Text × ShapeProblem)) (a : α) :
    Except Refusal α :=
  if problems = [] then .ok a else .error (.hopeless subject problems)

/-- The subject read from a document, unless the document breaks the grammar. -/
def readChecked {α : Type} (subject : Subject) (name : Text) (check : Check)
    (read : Json → Except ReadingFault α) (document : Json) : Except Refusal α :=
  match document.problems check with
  | [] => (read document).mapError .unknownPart
  | problems => .error (.ungrammatical subject name problems)

/-- The credentials of a declaration; `name` is the document's name, if it has one. -/
def acceptCredentials (name : Text) (document : Json) : Except Refusal (List Credential) := do
  let credentials ← readChecked .credentials name Check.declaration Json.toCredentials document
  unlessHopeless .credentials (credentials.zipIdx.flatMap fun (c, i) => c.hopeless i) credentials

/-- A location that is declared alone. -/
def acceptLocation (document : Json) : Except Refusal Location := do
  let location ← readChecked .location [] Check.location Json.toLocation document
  unlessHopeless .location (location.hopeless "(root)" []) location

/-- A sequence of operations that is declared alone and starts on the given shapes. -/
def acceptOperations (shapes : Shapes) (document : Json) : Except Refusal (List Operation) := do
  let ops ← readChecked .operations [] Check.operations Json.toOperations document
  unlessHopeless .operations (hopelessAt "ops" [] shapes ops) ops

end RequestCredentials
