import RequestCredentials.Json.Basic
import RequestCredentials.Number.DigitLimit
import RequestCredentials.Number.Literal
import RequestCredentials.Text.Quoted
/-
  The literal form of a JSON document

  Messages about a configuration show the offending part of it: texts between
  quotes, lists in brackets and mappings in braces, `True`, `False` and `None`
  for the constants, and numbers as their literals. A document that holds an
  integer with too many digits cannot be shown.
-/

namespace RequestCredentials

/-- Quoted texts in brackets. -/
def quotedList (texts : List Text) : Text :=
  "[" ++ Text.join ", " (texts.map Text.quoted) ++ "]"

namespace Json

mutual

def literal : Json → Text
  | .null => "None"
  | .bool true => "True"
  | .bool false => "False"
  | .int n => Text.ofInt n
  | .float x => x.literal
  | .str s => Text.quoted s
  | .arr items => "[" ++ Text.join ", " (literalItems items) ++ "]"
  | .obj members => "\x7b" ++ Text.join ", " (literalMembers members) ++ "\x7d"

def literalItems : List Json → List Text
  | [] => []
  | item :: rest => item.literal :: literalItems rest

def literalMembers : List (Text × Json) → List Text
  | [] => []
  | (name, value) :: rest =>
    (Text.quoted name ++ ": " ++ value.literal) :: literalMembers rest

end

/-- A document as it stands in a sentence: a string as it is, anything else as its literal. -/
def plainText : Json → Text
  | .str s => s
  | part => part.literal

mutual

/-- The document holds an integer that has too many digits to be written. -/
def holdsLongInteger : Json → Bool
  | .int n => isLongInteger n
  | .arr items => anyLongInteger items
  | .obj members => anyLongIntegerIn members
  | _ => false

def anyLongInteger : List Json → Bool
  | [] => false
  | item :: rest => item.holdsLongInteger || anyLongInteger rest

def anyLongIntegerIn : List (Text × Json) → Bool
  | [] => false
  | (_, value) :: rest => value.holdsLongInteger || anyLongIntegerIn rest

end

end Json

end RequestCredentials
