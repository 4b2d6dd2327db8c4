import RequestCredentials.Json.Literal
/-
  Problems of a declaration

  A problem is a complaint about one part of a document, which is given by the
  path that leads to it: names of members and positions of items. Problems are
  told in the order of their paths, compared part by part as text; those of one
  part stay in the order in which they were found.

  Most complaints show the part. One that holds an integer with too many digits
  cannot be shown, and then none of the problems is told.
-/

namespace RequestCredentials

/-- The types that a part may be required to have. -/
inductive PartType where
  | object
  | array
  | string
  deriving DecidableEq

def PartType.name : PartType → String
  | object => "object"
  | array => "array"
  | string => "string"

/-- What is wrong with a part of a document. -/
inductive Complaint where
  | notOfType (part : Json) (type : PartType)
  | missing (name : Text)
  | additional (names : List Text)
  | notOneOf (part : Json) (options : List Text)
  | tooShort (part : Json)
  /-- The part has none of the forms that it may have. -/
  | noForm (part : Json)

def Complaint.message : Complaint → Text
  | notOfType part type =>
    part.literal ++ " is not of type " ++ Text.quoted (Text.ofString type.name)
  | missing name => name.quoted ++ " is a required property"
  | additional names =>
    let verb : Text := if names.length = 1 then "was" else "were"
    "Additional properties are not allowed (" ++ Text.join ", " (names.map Text.quoted) ++ " " ++
      verb ++ " unexpected)"
  | notOneOf part options => part.literal ++ " is not one of " ++ quotedList options
  | tooShort part => part.literal ++ " should be non-empty"
  | noForm part => part.literal ++ " is not valid under any of the given schemas"

/-- The part of the document that a complaint shows. -/
def Complaint.shown? : Complaint → Option Json
  | notOfType part _ => some part
  | missing _ => none
  | additional _ => none
  | notOneOf part _ => some part
  | tooShort part => some part
  | noForm part => some part

/-- The complaint would show an integer that has too many digits to be written. -/
def Complaint.isUntold (c : Complaint) : Bool := c.shown?.any Json.holdsLongInteger

structure Problem where
  path : List Text
  complaint : Complaint

namespace Problem

/-- The path, or a word for the whole document. -/
def place (p : Problem) : Text :=
  match p.path with
  | [] => "(root)"
  | parts => Text.join "." parts

/-- The problem as it is told; the name of the document comes first if it has one. -/
def message (document : Text) (p : Problem) : Text :=
  let origin : Text := if document = [] then [] else document ++ ": "
  origin ++ p.place ++ ": " ++ p.complaint.message

/-- The problems in the order in which they are told. -/
def sort (problems : List Problem) : List Problem :=
  problems.mergeSort fun p q => dictionaryLe Text.le p.path q.path

/-- All problems of a document as they are told, if each of them can be told. -/
def messages (document : Text) (problems : List Problem) : Option (List Text) :=
  if problems.any fun p => p.complaint.isUntold then none
  else some ((sort problems).map (message document))

end Problem

end RequestCredentials
