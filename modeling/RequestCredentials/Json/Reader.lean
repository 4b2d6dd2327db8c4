import RequestCredentials.Scan
import RequestCredentials.Json.Number
/-
  Reading JSON documents

  The reader goes through a document from left to right with a stack of the
  arrays and objects that are still open. What may stand next is the reader's
  state; a finished value is handed to the innermost open array or object
  (`deliver`), so that reading a value in any surroundings is one step from
  "a value must start" to "the value has been delivered".

  Between tokens, spaces, tabs, line feeds and carriage returns are passed
  over. `NaN`, `Infinity` and `-Infinity` are numbers. Two escapes that form a
  surrogate pair stand for one code point; any other escaped surrogate stands
  for itself.
-/

namespace RequestCredentials.Json

/-! ## Strings -/

/-- Why the reading of a string stops. A fault stands so many code points after the one at hand. -/
inductive StringStop where
  | closed
  | fault (cause : Malformed) (offset : Nat)
  | unterminated

/-- The code point that a one-letter escape stands for. -/
def escapedPoint? (c : CodePoint) : Option CodePoint :=
  if c = '"' ∨ c = '\\' ∨ c = '/' then some c
  else if c = 'b' then some 0x08
  else if c = 'f' then some 0x0C
  else if c = 'n' then some 0x0A
  else if c = 'r' then some 0x0D
  else if c = 't' then some 0x09
  else none

/-- The code point that four hexadecimal digits spell; a fifth code point must follow them. -/
def escapedUnit? : Text → Option CodePoint
  | a :: b :: c :: d :: _ :: _ => do
    let a ← a.hexDigit?
    let b ← b.hexDigit?
    let c ← c.hexDigit?
    let d ← d.hexDigit?
    return CodePoint.ofNat (a * 0x1000 + b * 0x100 + c * 0x10 + d)
  | _ => none

/-- The low surrogate whose escape stands at the front. -/
def escapedLow? : Text → Option CodePoint
  | c :: u :: rest =>
    if c = '\\' ∧ u = 'u' then (escapedUnit? rest).filter (·.isLowSurrogate) else none
  | _ => none

/-- What stands after a backslash. -/
def escapeStep : Text → Step CodePoint StringStop
  | [] => .stop .unterminated
  | c :: rest =>
    if c = 'u' then
      match escapedUnit? rest with
      | none => .stop (.fault .badUnicodeEscape 1)
      | some unit =>
        if unit.isHighSurrogate then
          match escapedLow? (rest.drop 4) with
          | some low => .item (CodePoint.joinSurrogates unit low) 11
          | none => .item unit 5
        else .item unit 5
    else match escapedPoint? c with
      | some p => .item p 1
      | none => .stop (.fault .badEscape 0)

/-- One code point of a string. -/
def stringStep (c : CodePoint) (rest : Text) : Step CodePoint StringStop :=
  if c = '"' then .stop .closed
  else if c = '\\' then escapeStep rest
  else if c.val < 0x20 then .stop (.fault .controlCharacter 0)
  else .item c 0

/-- Why a document cannot be read, the place given by its position alone. -/
inductive ReadFault where
  | malformed (cause : Malformed) (index : Nat)
  | tooManyDigits (count : Nat)

/-- The string whose opening quote is at `pos` and followed by `rest`, and how many code points it
takes up to its closing quote. -/
def readString (pos : Nat) (rest : Text) : Except ReadFault (Text × Nat) :=
  let body := scan stringStep rest
  match body.stopped with
  | some (n, .closed) => .ok (body.items, n + 1)
  | some (n, .fault cause offset) => .error (.malformed cause (pos + 1 + n + offset))
  | some (_, .unterminated) => .error (.malformed .unterminated pos)
  | none => .error (.malformed .unterminated pos)

/-! ## Documents -/

/-- An array or object that waits for a value; what it holds so far stands in reverse. -/
inductive Frame where
  | array (items : List Json)
  | object (members : List (Text × Json)) (name : Text)

/-- What may stand next, inside the open arrays and objects. -/
inductive State where
  /-- A value. -/
  | value (frames : List Frame)
  /-- A value, or the end of an array that holds none. -/
  | firstElement (frames : List Frame)
  /-- A name, or the end of an object that holds no member. -/
  | firstName (frames : List Frame)
  /-- A name. -/
  | name (members : List (Text × Json)) (frames : List Frame)
  /-- The colon after a name. -/
  | colon (members : List (Text × Json)) (name : Text) (frames : List Frame)
  /-- A comma, or the end of an array. -/
  | afterElement (items : List Json) (frames : List Frame)
  /-- A comma, or the end of an object. -/
  | afterMember (members : List (Text × Json)) (frames : List Frame)
  /-- Nothing more. -/
  | done (document : Json)

/-- The state once a value is complete. -/
def deliver (v : Json) : List Frame → State
  | [] => .done v
  | .array items :: frames => .afterElement (v :: items) frames
  | .object members name :: frames => .afterMember ((name, v) :: members) frames

def isBlank (c : CodePoint) : Bool :=
  c = CodePoint.ofChar ' ' || c = CodePoint.ofChar '\t' || c = CodePoint.ofChar '\n' ||
    c = CodePoint.ofChar '\r'

/-- The words that are values. -/
def words : List (Text × Json) :=
  [("null", .null), ("true", .bool true), ("false", .bool false), ("NaN", .float .nan),
    ("Infinity", .float (.infinite false)), ("-Infinity", .float (.infinite true))]

/-- A value that starts with `c` at `pos`: the next state, and how many code points of `rest` are
taken. -/
def startValue (frames : List Frame) (pos : Nat) (c : CodePoint) (rest : Text) :
    Except ReadFault (State × Nat) :=
  if c = '"' then do
    let (s, extent) ← readString pos rest
    return (deliver (.str s) frames, extent)
  else if c = '[' then .ok (.firstElement frames, 0)
  else if c = '\x7b' then .ok (.firstName frames, 0)
  else match words.find? fun w => w.1.isPrefixOf (c :: rest) with
    | some (word, v) => .ok (deliver v frames, word.length - 1)
    | none => match NumberText.read? (c :: rest) with
      | some (number, extent) => match number.value with
        | .ok v => .ok (deliver v frames, extent - 1)
        | .error count => .error (.tooManyDigits count)
      | none => .error (.malformed .noValue pos)

/-- A member's name that starts with `c` at `pos`. -/
def startName (members : List (Text × Json)) (frames : List Frame) (pos : Nat) (c : CodePoint)
    (rest : Text) : Except ReadFault (State × Nat) :=
  if c = '"' then do
    let (s, extent) ← readString pos rest
    return (.colon members s frames, extent)
  else .error (.malformed .noName pos)

/-- The state after the token that starts with `c` at `pos`, and how many code points of `rest` the
token takes. -/
def advance (state : State) (pos : Nat) (c : CodePoint) (rest : Text) :
    Except ReadFault (State × Nat) :=
  if isBlank c then .ok (state, 0)
  else match state with
    | .value frames => startValue frames pos c rest
    | .firstElement frames =>
      if c = ']' then .ok (deliver (.arr []) frames, 0)
      else startValue (.array [] :: frames) pos c rest
    | .firstName frames =>
      if c = '\x7d' then .ok (deliver (.obj []) frames, 0) else startName [] frames pos c rest
    | .name members frames => startName members frames pos c rest
    | .colon members name frames =>
      if c = ':' then .ok (.value (.object members name :: frames), 0)
      else .error (.malformed .noColon pos)
    | .afterElement items frames =>
      if c = ']' then .ok (deliver (.arr items.reverse) frames, 0)
      else if c = ',' then .ok (.value (.array items :: frames), 0)
      else .error (.malformed .noComma pos)
    | .afterMember members frames =>
      if c = '\x7d' then .ok (deliver (.obj members.reverse) frames, 0)
      else if c = ',' then .ok (.name members frames, 0)
      else .error (.malformed .noComma pos)
    | .done _ => .error (.malformed .extraData pos)

/-- The document, when the text ends at `pos` in this state. -/
def finish (pos : Nat) : State → Except ReadFault Json
  | .value _ => .error (.malformed .noValue pos)
  | .firstElement _ => .error (.malformed .noValue pos)
  | .firstName _ => .error (.malformed .noName pos)
  | .name _ _ => .error (.malformed .noName pos)
  | .colon _ _ _ => .error (.malformed .noColon pos)
  | .afterElement _ _ => .error (.malformed .noComma pos)
  | .afterMember _ _ => .error (.malformed .noComma pos)
  | .done document => .ok document

/-- Reads on in a state, passing over the first `skip` code points. -/
def readFrom (state : State) : (skip pos : Nat) → Text → Except ReadFault Json
  | _, pos, [] => finish pos state
  | skip + 1, pos, _ :: rest => readFrom state skip (pos + 1) rest
  | 0, pos, c :: rest =>
    match advance state pos c rest with
    | .ok (next, extra) => readFrom next extra (pos + 1) rest
    | .error fault => .error fault

/-- The document that a text holds. -/
def read (document : Text) : Except Fault Json :=
  match readFrom (.value []) 0 0 document with
  | .ok v => .ok v
  | .error (.malformed cause index) => .error (.malformed cause (Place.ofIndex document index))
  | .error (.tooManyDigits count) => .error (.tooManyDigits count)

/-- The document that a text file holds; a byte order mark is refused. -/
def readFile (document : Text) : Except Fault Json :=
  if document.head? = some 0xFEFF then .error (.malformed .byteOrderMark (Place.ofIndex document 0))
  else read document

end RequestCredentials.Json
