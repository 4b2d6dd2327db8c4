import RequestCredentials.Evaluation.Failure
/-
  Lookups

      value           by key                          by position
      text            itself if equal to the key      itself if the position is 0
      list of text    the first item equal to it      the item there
      other list      not defined                     the item there
      struct          the value of its first entry    the value of the entry there

  Texts are equal when their bytes are; names of entries are compared as text.
  No lookup by a negative position is defined. What is not found or not defined
  is a failure that names the selector, so the lookup breaks down if a number in
  the selector has too many digits to be written.
-/

namespace RequestCredentials

/-- The text is the content, byte for byte. -/
def Content.spells (c : Content) (name : Text) : Except EncodeFault Bool := c.same (.chars name)

/-- The first content that spells the name. -/
def findSpelling (name : Text) : List Content → Except EncodeFault (Option Content)
  | [] => .ok none
  | c :: rest => do
    if ← c.spells name then return some c else findSpelling name rest

/-- The found value, or a failure that says the selector is absent. -/
def foundOr (selector : Selector) : Option Value → Except Failure Value
  | some v => .ok v
  | none => .error (.absent selector)

/-- The value under a key. -/
def Value.lookupKey (v : Value) (name : Text) : Answer :=
  let selector := Selector.key name
  match v with
  | .text c =>
    match c.spells name with
    | .ok true => .ok (.ok v)
    | .ok false => .ok (.error (.absent selector))
    | .error fault => .error (.unencodable fault)
  | .list items =>
    match Value.allText? items with
    | none => .ok (.error (.illegalLookup selector .mixedList))
    | some contents =>
      match findSpelling name contents with
      | .ok found => .ok (foundOr selector (found.map Value.text))
      | .error fault => .error (.unencodable fault)
  | .struct entries => .ok (foundOr selector (Value.entry? name entries))

/-- The value at a position that is not negative; the selector is named if there is none. -/
def valueAt (selector : Selector) (position : Index.Number) (values : List Value) : Answer :=
  match position with
  | .int n => .ok (foundOr selector values[n.toNat]?)
  | .float x =>
    if x.lessThan values.length then .error .fractionalIndex
    else .ok (.error (.absent selector))

/-- The value at a position. -/
def Value.lookupPosition (v : Value) (index : Index) : Answer :=
  let selector := Selector.position index
  match index.number with
  | .error type => .error (.unorderedIndex type)
  | .ok position =>
    if position.isNegative then .ok (.error (.illegalLookup selector (.shape v.shape)))
    else match v with
      | .text _ => .ok (if position.isZero then .ok v else .error (.absent selector))
      | .list items => valueAt selector position items
      | .struct entries => valueAt selector position (entries.map (·.2))

/-- The value under a key that is no text: no entry has it, and no text can be compared with it. -/
def Value.lookupOtherKey (v : Value) (part : Json) : Answer :=
  let selector := Selector.otherKey part
  let compare (c : Content) : Answer :=
    match c.toBytes with
    | .ok _ => .error (.unencodableKey part.type)
    | .error fault => .error (.unencodable fault)
  match v with
  | .text c => compare c
  | .list items =>
    match Value.allText? items with
    | none => .ok (.error (.illegalLookup selector .mixedList))
    | some [] => .ok (.error (.absent selector))
    | some (c :: _) => compare c
  | .struct _ => .ok (.error (.absent selector))

/-- The answer of a lookup by a selector that is written into its failures. -/
def naming (selector : Selector) : Answer → Answer
  | .ok (.error failure) =>
    if selector.holdsLongInteger then .error (.tooManyDigits none) else .ok (.error failure)
  | answer => answer

theorem naming_eq_ok {selector : Selector} {answer : Answer} {w : Value} :
    naming selector answer = .ok (.ok w) ↔ answer = .ok (.ok w) := by
  match answer with
  | .ok (.ok v) => rfl
  | .ok (.error failure) => by_cases h : selector.holdsLongInteger <;> simp [naming, h]
  | .error fault => rfl

theorem naming_eq_failure {selector : Selector} {answer : Answer} {failure : Failure} :
    naming selector answer = .ok (.error failure) ↔
      selector.holdsLongInteger = false ∧ answer = .ok (.error failure) := by
  match answer with
  | .ok (.ok v) => simp [naming]
  | .ok (.error failure') => by_cases h : selector.holdsLongInteger <;> simp [naming, h]
  | .error fault => simp [naming]

/-- The part of a value that a selector selects. -/
def Value.lookup (v : Value) : Selector → Answer
  | .key name => v.lookupKey name
  | .position index => naming (.position index) (v.lookupPosition index)
  | .otherKey part => naming (.otherKey part) (v.lookupOtherKey part)

/-- The value contains the target: a lookup of it as a key succeeds. -/
def Value.contains (v : Value) (target : Text) : Except Fault Bool := do
  let answer ← v.lookupKey target
  return answer.toOption.isSome

end RequestCredentials
