import RequestCredentials.Declaration.Problem
import RequestCredentials.Declaration.Reading
import RequestCredentials.Analysis.Shapes
import RequestCredentials.Json.Fault
/-
  Refusals — why a declaration is not accepted

  A declaration may break the grammar, hold operations that can never succeed,
  or lie in a file that cannot be read or is not JSON. A refusal lists all
  problems of its kind, or says what is wrong in one line. Where a problem cannot
  be told, it says that instead, and lists nothing.
-/

namespace RequestCredentials

/-- What is declared. -/
inductive Subject where
  | credentials
  | location
  | operations
  deriving DecidableEq

/-- What is said of a subject that breaks the grammar. -/
def Subject.title : Subject → String
  | credentials => "Invalid credentials config"
  | location => "Invalid location"
  | operations => "Invalid operations"

/-- What is said of a subject that can never yield anything. -/
def Subject.hopelessTitle : Subject → String
  | credentials => "Invalid credentials config"
  | location => "Pipeline can never succeed"
  | operations => "Pipeline can never succeed"

/-- Why a file cannot be read. -/
inductive FileFault where
  | notFound
  | notDirectory
  | isDirectory
  | nameTooLong
  deriving DecidableEq

/-- The number and the wording of a fault. -/
def FileFault.message : FileFault → String
  | notFound => "[Errno 2] No such file or directory"
  | notDirectory => "[Errno 20] Not a directory"
  | isDirectory => "[Errno 21] Is a directory"
  | nameTooLong => "[Errno 36] File name too long"

/-- Why a declaration is refused. -/
inductive Refusal where
  /-- It breaks the grammar; the document may have a name. -/
  | ungrammatical (subject : Subject) (document : Text) (problems : List Problem)
  /-- Some operations can never succeed; each problem comes with the place of its sequence. -/
  | hopeless (subject : Subject) (problems : List (Text × ShapeProblem))
  | unknownPart (fault : ReadingFault)
  | unreadable (path : Text) (fault : FileFault)
  | notJson (path : Text) (cause : Json.Malformed) (place : Json.Place)

namespace Refusal

/-- The problem as one line, where there are no several ones. -/
def headline : Refusal → Text
  | ungrammatical subject _ _ => Text.ofString subject.title
  | hopeless subject _ => Text.ofString subject.hopelessTitle
  | unknownPart fault => fault.message
  | unreadable path fault =>
    "Cannot read " ++ path ++ ": " ++ fault.message ++ ": " ++ path.quoted
  | notJson path cause place =>
    "Invalid JSON in " ++ path ++ ": " ++ (Json.Fault.malformed cause place).message

/-- The problems that a refusal lists, if they can be told. -/
def details : Refusal → Option (List Text)
  | ungrammatical _ document problems => Problem.messages document problems
  | hopeless _ problems => some (problems.map fun (place, p) => p.message place)
  | unknownPart _ => some []
  | unreadable _ _ => some []
  | notJson _ _ _ => some []

/-- The problems, or the headline if none are listed. -/
def errors (r : Refusal) : Option (List Text) :=
  r.details.map fun lines => if lines = [] then [r.headline] else lines

def message (r : Refusal) : Text :=
  match r.details with
  | none => digitLimitMessage none
  | some [] => r.headline
  | some lines => r.headline ++ ":\n" ++ Text.join "\n" lines

end Refusal

end RequestCredentials
