import RequestCredentials.Format.Wire.Field
import RequestCredentials.Encoding.Utf8
import RequestCredentials.Number.Binary64
/-
  Dynamic messages on the wire

  A struct maps names to values, a value is null, a number, a text, a truth
  value, a struct or a list, and a list holds values. Metadata maps names to
  structs. An entry of a map is a message of its own, with the name in field 1
  and the value in field 2.

  Fields are merged into a message one after another. A map keeps the last
  entry of each name; entries stand in increasing order of names. Of the fields
  of a value the last one counts, but a struct or a list is merged into one of
  the same kind that it follows. A field that the message does not define, in
  number or in form, marks the message it stands in. If it stands in an entry
  it marks the message that holds the map, and the entry is left out.

  Each message inside another takes one level, an entry included, and there are
  `depthLimit` levels. The functions recurse on the levels that remain. The
  marks are looked for in the outermost messages only (`markedLevels`).
-/

namespace RequestCredentials.Wire

/-- What was read into a message, and whether it met a field that the message does not define. -/
structure Parsed (α : Type) where
  content : α
  hasUnknown : Bool

/-- What a value message holds; one without any defined field holds nothing. -/
inductive Kind where
  | unset
  | null
  | number (x : Binary64)
  | text (s : Text)
  | bool (b : Bool)
  | struct (message : Parsed (List (Text × Parsed Kind)))
  | list (message : Parsed (List (Parsed Kind)))

/-- A value message. -/
abbrev ValueMessage := Parsed Kind

/-- A struct message. -/
abbrev StructMessage := Parsed (List (Text × ValueMessage))

/-- A list message. -/
abbrev ListMessage := Parsed (List ValueMessage)

/-- A metadata message. -/
abbrev MetadataMessage := Parsed (List (Text × StructMessage))

/-- Why bytes do not hold a message. -/
inductive Malformed where
  | corrupt
  | badText
  | tooDeep
  deriving DecidableEq

/-- The number of messages that may stand inside one another, the outermost not counted. -/
def depthLimit : Nat := 100

/-! ## Merging -/

/-- The entries with the one of that name replaced, or an entry added, in the order of names. -/
def setEntry {α : Type} (name : Text) (a : α) : List (Text × α) → List (Text × α)
  | [] => [(name, a)]
  | (n, b) :: rest =>
    if name < n then (name, a) :: (n, b) :: rest
    else if n < name then (n, b) :: setEntry name a rest
    else (name, a) :: rest

/-- The text of a text field. -/
def readText (bytes : Bytes) : Except Malformed Text :=
  (Utf8.decode bytes).mapError fun _ => .badText

/-- Merges the fields of a message one by one; a malformed field counts after those before it. The
field with the number `textNumber` holds text, which is checked even where it goes on after the end
of the message. -/
def mergeFields {α : Type} (textNumber : Option Nat) (levels : Nat)
    (step : α → Field → Except Malformed α) (start : α) (part : Part) : Except Malformed α := do
  let (read, ending) := fields levels part
  let message ← read.foldlM step start
  match ending with
  | .complete => return message
  | .malformed => throw .corrupt
  | .overrun number bytes =>
    if textNumber = some number then
      let _ ← readText bytes
    throw .corrupt

namespace Parsed

/-- The message with new content. -/
def put {α : Type} (m : Parsed α) (a : α) : Parsed α := ⟨a, m.hasUnknown⟩

/-- The message marked by a field that it does not define. -/
def marked {α : Type} (m : Parsed α) : Parsed α := ⟨m.content, true⟩

end Parsed

/-- Merges one field into a map entry; `mergeValue` merges a part into the entry's value. -/
def entryStep {α : Type} (mergeValue : α → Part → Except Malformed α) (m : Parsed (Text × α)) :
    Field → Except Malformed (Parsed (Text × α))
  | ⟨1, .delimited part⟩ => do
    let name ← readText part.bytes
    return m.put (name, m.content.2)
  | ⟨2, .delimited part⟩ => do
    let value ← mergeValue m.content.2 part
    return m.put (m.content.1, value)
  | _ => return m.marked

/-- The number of the field that holds the name in an entry. -/
def entryName : Nat := 1

/-- The map with an entry added; one that met an undefined field only marks it. -/
def addEntry {α : Type} (m : Parsed (List (Text × α))) (entry : Parsed (Text × α)) :
    Parsed (List (Text × α)) :=
  if entry.hasUnknown then m.marked
  else m.put (setEntry entry.content.1 entry.content.2 m.content)

/-- The struct in a value, an empty one if there is none. -/
def Kind.asStruct : Kind → StructMessage
  | .struct m => m
  | _ => ⟨[], false⟩

/-- The list in a value, an empty one if there is none. -/
def Kind.asList : Kind → ListMessage
  | .list m => m
  | _ => ⟨[], false⟩

/-- A value without any field. -/
def noValue : ValueMessage := ⟨.unset, false⟩

/-- The number of the field that holds the text in a value. -/
def valueText : Nat := 3

mutual

/-- Merges the fields of a struct, inside which `depth` levels remain. -/
def mergeStruct (depth : Nat) (start : StructMessage) (part : Part) :
    Except Malformed StructMessage :=
  mergeFields none depth (fun m field => match field with
    | ⟨1, .delimited entry⟩ => match depth with
      | 0 => throw .tooDeep
      | depth + 1 => do
        let entry ← mergeFields (some entryName) depth (entryStep fun value part =>
          match depth with
          | 0 => throw .tooDeep
          | depth + 1 => mergeValue depth value part) ⟨([], noValue), false⟩ entry
        return addEntry m entry
    | _ => return m.marked) start part

/-- Merges the fields of a value, inside which `depth` levels remain. -/
def mergeValue (depth : Nat) (start : ValueMessage) (part : Part) :
    Except Malformed ValueMessage :=
  mergeFields (some valueText) depth (fun m field => match field with
    | ⟨1, .varint _⟩ => return m.put .null
    | ⟨2, .fixed64 bits⟩ => return m.put (.number (Binary64.ofBits bits))
    | ⟨3, .delimited text⟩ => do return m.put (.text (← readText text.bytes))
    | ⟨4, .varint n⟩ => return m.put (.bool (n != 0))
    | ⟨5, .delimited struct⟩ => match depth with
      | 0 => throw .tooDeep
      | depth + 1 => do return m.put (.struct (← mergeStruct depth m.content.asStruct struct))
    | ⟨6, .delimited list⟩ => match depth with
      | 0 => throw .tooDeep
      | depth + 1 => do return m.put (.list (← mergeList depth m.content.asList list))
    | _ => return m.marked) start part

/-- Merges the fields of a list, inside which `depth` levels remain. -/
def mergeList (depth : Nat) (start : ListMessage) (part : Part) : Except Malformed ListMessage :=
  mergeFields none depth (fun m field => match field with
    | ⟨1, .delimited value⟩ => match depth with
      | 0 => throw .tooDeep
      | depth + 1 => do
        let value ← mergeValue depth noValue value
        return m.put (m.content ++ [value])
    | _ => return m.marked) start part

end

/-- Merges the fields of metadata, inside which `depth` levels remain. -/
def mergeMetadata (depth : Nat) (start : MetadataMessage) (part : Part) :
    Except Malformed MetadataMessage :=
  mergeFields none depth (fun m field => match field with
    | ⟨1, .delimited entry⟩ => match depth with
      | 0 => throw .tooDeep
      | depth + 1 => do
        let entry ← mergeFields (some entryName) depth (entryStep fun struct part =>
          match depth with
          | 0 => throw .tooDeep
          | depth + 1 => mergeStruct depth struct part) ⟨([], ⟨[], false⟩), false⟩ entry
        return addEntry m entry
    | _ => return m.marked) start part

/-- The struct that an input holds. -/
def readStruct (input : Bytes) : Except Malformed StructMessage :=
  mergeStruct depthLimit ⟨[], false⟩ ⟨input, []⟩

/-- The metadata that an input holds. -/
def readMetadata (input : Bytes) : Except Malformed MetadataMessage :=
  mergeMetadata depthLimit ⟨[], false⟩ ⟨input, []⟩

/-! ## Undefined fields -/

/-- How many levels of messages are searched for undefined fields, the outermost message being the
first. Here an entry is no level: its value is one level inside the message that holds the map. -/
def markedLevels : Nat := 63

namespace Kind

mutual

/-- A message inside the value, in one of so many levels, met a field that it does not define. -/
def hasUnknown : Kind → (levels : Nat) → Bool
  | .struct ⟨entries, marked⟩, levels + 1 => marked || entriesHaveUnknown entries levels
  | .list ⟨items, marked⟩, levels + 1 => marked || itemsHaveUnknown items levels
  | _, _ => false

def entriesHaveUnknown : List (Text × Parsed Kind) → (levels : Nat) → Bool
  | (_, ⟨kind, marked⟩) :: rest, levels + 1 =>
    marked || kind.hasUnknown levels || entriesHaveUnknown rest (levels + 1)
  | _, _ => false

def itemsHaveUnknown : List (Parsed Kind) → (levels : Nat) → Bool
  | ⟨kind, marked⟩ :: rest, levels + 1 =>
    marked || kind.hasUnknown levels || itemsHaveUnknown rest (levels + 1)
  | _, _ => false

end

end Kind

/-- The struct or a message inside it, in one of so many levels, met a field that it does not
define. -/
def StructMessage.anyUnknown (m : StructMessage) : (levels : Nat) → Bool
  | 0 => false
  | levels + 1 => m.hasUnknown || Kind.entriesHaveUnknown m.content levels

/-- The metadata or a message inside it, in one of so many levels, met a field that it does not
define. -/
def MetadataMessage.anyUnknown (m : MetadataMessage) : (levels : Nat) → Bool
  | 0 => false
  | levels + 1 => m.hasUnknown || m.content.any fun entry => StructMessage.anyUnknown entry.2 levels

end RequestCredentials.Wire
