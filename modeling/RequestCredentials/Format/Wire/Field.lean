import RequestCredentials.Scan
import RequestCredentials.Text.Basic
/-
  Wire fields

  A message on the wire is a sequence of fields. Each starts with a tag, which
  holds the field's number and the form of its payload: a variable-length
  number, eight or four bytes, a sequence of bytes with its length in front, or
  a group of fields up to an end tag. What the payload means is up to the
  message it stands in.

  `fields` reads a message's fields up to its end or up to the first one that
  is malformed. A group is passed over as a whole: its fields may have the
  number zero, and the groups open in it at once may not be more than the
  levels that remain inside the message.
-/

namespace RequestCredentials.Wire

/-- Part of an input. -/
structure Part where
  bytes : Bytes
  /-- What follows these bytes up to the end of the input, in pieces. -/
  after : List Bytes
  deriving DecidableEq

/-- What a field carries. -/
inductive Payload where
  | varint (n : Nat)
  | fixed64 (n : Nat)
  | delimited (part : Part)
  | group
  | fixed32 (n : Nat)
  deriving DecidableEq

structure Field where
  number : Nat
  payload : Payload
  deriving DecidableEq

/-- How the fields of a message end. -/
inductive Ending where
  | complete
  | malformed
  /-- The last field has its length in front, and its bytes go on after the end of the message. -/
  | overrun (number : Nat) (bytes : Bytes)
  deriving DecidableEq

/-! ## Numbers -/

/-- A variable-length number of at most `limit` bytes, and how many bytes it takes. Each byte
carries seven bits, the lowest first, and says whether another follows. -/
def varint? : (limit : Nat) → Bytes → Option (Nat × Nat)
  | 0, _ => none
  | _ + 1, [] => none
  | limit + 1, b :: rest =>
    if b < 0x80 then some (b.toNat, 1)
    else (varint? limit rest).map fun (n, extent) => (b.toNat - 0x80 + 0x80 * n, extent + 1)

/-- The number that `count` bytes spell, the lowest first. -/
def fixed? (count : Nat) (bytes : Bytes) : Option Nat :=
  if bytes.length < count then none
  else some ((bytes.take count).foldr (fun b n => b.toNat + 0x100 * n) 0)

/-- The field number and payload form of a tag, and how many bytes it takes. -/
def tag? (bytes : Bytes) : Option ((Nat × Nat) × Nat) :=
  match varint? 5 bytes with
  | some (n, extent) => if n < 0x100000000 then some ((n / 8, n % 8), extent) else none
  | none => none

/-- The payload form that starts a group. -/
def groupStart : Nat := 3

/-- The payload form that ends a group. -/
def groupEnd : Nat := 4

/-! ## Fields -/

/-- A payload of the given form, other than a group, at the front of a part, and how many bytes it
takes. -/
def payload? (form : Nat) (part : Part) : Option (Payload × Nat) :=
  match form with
  | 0 => (varint? 10 part.bytes).map fun (n, extent) => (.varint (n % 0x10000000000000000), extent)
  | 1 => (fixed? 8 part.bytes).map fun n => (.fixed64 n, 8)
  | 2 => do
    let (length, extent) ← varint? 5 part.bytes
    let body := part.bytes.drop extent
    if length < 0x80000000 ∧ length ≤ body.length then
      some (.delimited ⟨body.take length, body.drop length :: part.after⟩, extent + length)
    else none
  | 5 => (fixed? 4 part.bytes).map fun n => (.fixed32 n, 4)
  | _ => none

/-- How many bytes it takes to close the open groups, the innermost of which is named first; at most
`limit` may be open at once. The first `skip` bytes are passed over. -/
def groupExtent? (limit : Nat) (openGroups : List Nat) : (skip : Nat) → Bytes → Option Nat
  | _, [] => none
  | skip + 1, _ :: rest => (groupExtent? limit openGroups skip rest).map (· + 1)
  | 0, b :: rest =>
    match tag? (b :: rest) with
    | none => none
    | some ((number, form), extent) =>
      if form = groupStart then
        if openGroups.length < limit then
          (groupExtent? limit (number :: openGroups) (extent - 1) rest).map (· + 1)
        else none
      else if form = groupEnd then
        match openGroups with
        | [] => none
        | innermost :: outer =>
          if number ≠ innermost then none
          else if outer = [] then some extent
          else (groupExtent? limit outer (extent - 1) rest).map (· + 1)
      else match payload? form ⟨(b :: rest).drop extent, []⟩ with
        | none => none
        | some (_, size) => (groupExtent? limit openGroups (extent + size - 1) rest).map (· + 1)

/-- The field at the front of a part of a message, inside which `levels` levels remain, and how many
bytes it takes. -/
def field? (levels : Nat) (part : Part) : Option (Field × Nat) :=
  match tag? part.bytes with
  | none => none
  | some ((number, form), extent) =>
    let body := part.bytes.drop extent
    if number = 0 then none
    else if form = groupStart then
      if levels = 0 then none
      else (groupExtent? levels [number] 0 body).map fun size => (⟨number, .group⟩, extent + size)
    else (payload? form ⟨body, part.after⟩).map fun (payload, size) =>
      (⟨number, payload⟩, extent + size)

/-- How a message ends that goes on with this part, in which no field can be read. -/
def brokenEnding (levels : Nat) (part : Part) : Ending :=
  match field? levels ⟨part.bytes ++ part.after.flatten, []⟩ with
  | some (⟨number, .delimited payload⟩, _) => .overrun number payload.bytes
  | _ => .malformed

/-- Reads the next field of a message that is followed by `after`. -/
def fieldStep (levels : Nat) (after : List Bytes) (b : UInt8) (rest : Bytes) : Step Field Ending :=
  match field? levels ⟨b :: rest, after⟩ with
  | some (field, extent) => .item field (extent - 1)
  | none => .stop (brokenEnding levels ⟨b :: rest, after⟩)

/-- The fields of a message, inside which `levels` levels remain, and how they end. -/
def fields (levels : Nat) (message : Part) : List Field × Ending :=
  let s := scan (fieldStep levels message.after) message.bytes
  (s.items, match s.stopped with
    | none => .complete
    | some (_, ending) => ending)

end RequestCredentials.Wire
