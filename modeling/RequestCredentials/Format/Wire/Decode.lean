import RequestCredentials.Format.Wire.Message
import RequestCredentials.Value.Tree
/-
  Values of wire messages

  The bytes of a struct or of metadata give a value when they hold a message
  in which no undefined field is found and every value message holds something. Maps
  become structs in increasing order of names, lists keep their order, and
  every leaf becomes its text.
-/

namespace RequestCredentials.Wire

/-- The messages that bytes are decoded as. -/
inductive Root where
  | struct
  | metadata
  deriving DecidableEq

/-- The full name of a message. -/
def Root.name : Root → String
  | struct => "google.protobuf.Struct"
  | metadata => "credloc.Metadata"

/-- Why bytes give no value. -/
inductive Fault where
  | malformed (root : Root) (cause : Malformed)
  | undefinedField (root : Root)
  | emptyValue
  deriving DecidableEq

def Malformed.message : Malformed → String
  | corrupt => "Wire format was corrupt"
  | badText => "String field had bad UTF-8"
  | tooDeep => "Exceeded upb_DecodeOptions_MaxDepth"

def Fault.message : Fault → Text
  | malformed root cause =>
    "Error parsing message with type '" ++ Text.ofString root.name ++ "': " ++ cause.message
  | undefinedField root => "unexpected fields for " ++ Text.ofString root.name
  | emptyValue => "value has no kind set"

namespace Kind

mutual

/-- The value of a value message, unless one inside it holds nothing. -/
def asValue? : Kind → Option Value
  | .unset => none
  | .null => some (.text (.chars nullText))
  | .number x => some (.text (.chars x.plainText))
  | .text s => some (.text (.chars s))
  | .bool b => some (.text (.chars (boolText b)))
  | .struct ⟨entries, _⟩ => (asEntries? entries).map Value.struct
  | .list ⟨items, _⟩ => (asItems? items).map Value.list

def asEntries? : List (Text × Parsed Kind) → Option (List (Text × Value))
  | [] => some []
  | (name, ⟨kind, _⟩) :: rest => do
    let value ← kind.asValue?
    let rest ← asEntries? rest
    return (name, value) :: rest

def asItems? : List (Parsed Kind) → Option (List Value)
  | [] => some []
  | ⟨kind, _⟩ :: rest => do
    let value ← kind.asValue?
    let rest ← asItems? rest
    return value :: rest

end

end Kind

/-- The value of a struct message. -/
def StructMessage.asValue? (m : StructMessage) : Option Value :=
  (Kind.asEntries? m.content).map Value.struct

/-- The value of a metadata message. -/
def MetadataMessage.asValue? (m : MetadataMessage) : Option Value :=
  (m.content.mapM fun (entry : Text × StructMessage) => do
    let value ← StructMessage.asValue? entry.2
    return (entry.1, value)).map Value.struct

/-- The value, unless the message met an undefined field or holds an empty value. -/
def accept (root : Root) (anyUnknown : Bool) (value : Option Value) : Except Fault Value :=
  if anyUnknown then .error (.undefinedField root)
  else match value with
    | some v => .ok v
    | none => .error .emptyValue

/-- The value of a struct on the wire. -/
def decodeStruct (input : Bytes) : Except Fault Value := do
  let m ← (readStruct input).mapError (Fault.malformed .struct)
  accept .struct (StructMessage.anyUnknown m markedLevels) (StructMessage.asValue? m)

/-- The value of metadata on the wire. -/
def decodeMetadata (input : Bytes) : Except Fault Value := do
  let m ← (readMetadata input).mapError (Fault.malformed .metadata)
  accept .metadata (MetadataMessage.anyUnknown m markedLevels) (MetadataMessage.asValue? m)

end RequestCredentials.Wire
