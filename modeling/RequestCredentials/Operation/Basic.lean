import RequestCredentials.Json.Literal
/-
  Operations and locations

  A location says where in a request a seed is captured and how it is unwrapped
  by a sequence of operations: a decoding, a lookup, or an alternation between
  sequences. A credential has a kind, the locations to try in order, and the
  keys that are accepted; without keys any value is.

  A declaration that is read unchecked may look up by a position that is no
  number or by a key that is no text. Such a lookup is kept as it was declared.
-/

namespace RequestCredentials

/-! ## Operations -/

/-- What a text is decoded as. -/
inductive DecodeKind where
  | text
  | base64
  | base64url
  | json
  | protobufStruct
  | protobufMetadata
  | pairs
  deriving DecidableEq

namespace DecodeKind

def name : DecodeKind → String
  | text => "text"
  | base64 => "base64"
  | base64url => "base64url"
  | json => "json"
  | protobufStruct => "protobuf_struct"
  | protobufMetadata => "protobuf_metadata"
  | pairs => "pairs"

def all : List DecodeKind :=
  [text, base64, base64url, json, protobufStruct, protobufMetadata, pairs]

/-- The kind of that name. -/
def ofName? (s : Text) : Option DecodeKind := all.find? fun k => Text.ofString k.name = s

end DecodeKind

/-- A position in a list or struct, as it is written in a configuration. -/
inductive Index where
  | int (n : Int)
  | float (x : Binary64)
  /-- No number, though a truth value counts as one. -/
  | other (part : Json)

namespace Index

def literal : Index → Text
  | int n => Text.ofInt n
  | float x => x.literal
  | other part => part.literal

/-- An index as it stands in a sentence. -/
def plainText : Index → Text
  | int n => Text.ofInt n
  | float x => x.literal
  | other part => part.plainText

/-- A position as a number. -/
inductive Number where
  | int (n : Int)
  | float (x : Binary64)
  deriving DecidableEq

/-- The number that an index stands for; false is zero and true is one. -/
def number : Index → Except JsonType Number
  | int n => .ok (.int n)
  | float x => .ok (.float x)
  | other (.bool b) => .ok (.int b.toNat)
  | other part => .error part.type

namespace Number

def isNegative : Number → Bool
  | int n => n < 0
  | float x => x.isNegative

def isZero : Number → Bool
  | int n => n = 0
  | float x => x.isZero

end Number

end Index

/-- What a lookup looks for: a key or a position. -/
inductive Selector where
  | key (name : Text)
  | position (index : Index)
  /-- A key that is no text. -/
  | otherKey (part : Json)

/-- A selector as it is named in messages. -/
def Selector.message : Selector → Text
  | .key name => "key " ++ name.quoted
  | .position index => "position " ++ index.plainText
  | .otherKey part => "key " ++ part.literal

/-- The selector holds an integer that has too many digits to be written. -/
def Selector.holdsLongInteger : Selector → Bool
  | .key _ => false
  | .position (.int n) => isLongInteger n
  | .position (.float _) => false
  | .position (.other part) => part.holdsLongInteger
  | .otherKey part => part.holdsLongInteger

inductive Operation where
  | decode (kind : DecodeKind)
  | lookup (selector : Selector)
  /-- The first branch that succeeds on the same value. -/
  | alternation (branches : List (List Operation))

/-! ## Locations and credentials -/

/-- The part of a request that a seed comes from. -/
inductive Source where
  | header
  | query
  | property
  deriving DecidableEq

namespace Source

def name : Source → String
  | header => "header"
  | query => "query_string"
  | property => "property"

def all : List Source := [header, query, property]

/-- The source of that name. -/
def ofName? (s : Text) : Option Source := all.find? fun source => Text.ofString source.name = s

end Source

/-- Where a seed is captured and how it is unwrapped. -/
structure Location where
  source : Source
  /-- The names of headers or parameters to try, or the path of a property. -/
  args : List Text
  ops : List Operation

/-- A location as it is named in messages. -/
def Location.label (l : Location) : Text :=
  Text.ofString l.source.name ++ ":" ++ Text.join "/" l.args

structure Credential where
  kind : Text
  keys : List Text
  locations : List Location

end RequestCredentials
