import RequestCredentials.Proofs.Declaration.Written
/-
  The schema of operations

  The schema says of each part of a document which of some forms it has: one
  value of a list, a string, an integer with a minimum, an array with a least
  length and a schema for its items, an object with required members, schemas
  for its members and no others, or exactly one of several forms. A definition
  may refer to definitions, itself included; it does so only below an array, so
  that what it accepts is determined by what it accepts of smaller parts.

  `Definition.schema` is the schema as it is written down, and `Resolves` says
  that a verdict on all documents gives each reference the meaning of the
  definition it names.

  What is proved:
    1. `resolves_grammar` — the grammar gives every reference its meaning;
    2. `Resolves.operations_eq` — nothing else does;
    3. `operations_agree` — a document has no problem as a sequence exactly when
       it is what is written for operations that can be declared, these are what
       it is read as, and the schema accepts the same documents.
-/

namespace RequestCredentials

/-! ## Schemas -/

/-- The definitions that a schema may refer to. -/
inductive Definition where
  | operation
  | operations
  deriving DecidableEq

/-- A schema of parts of a document. -/
inductive Schema where
  | reference (definition : Definition)
  /-- Exactly one of the forms. -/
  | oneOf (forms : List Schema)
  | enum (values : List Text)
  | string
  | integer (minimum : Int)
  | array (least : Nat) (items : Schema)
  /-- The required members are there, every member is known, and known members have their schema. -/
  | object (required : List Text) (properties : List (Text × Schema))

/-- A verdict on every document, for each definition. -/
abbrev Verdict := Definition → Json → Bool

/-- The number that a part is if it is an integer, in either spelling. -/
def Json.integer? : Json → Option Int
  | .int n => some n
  | .float x => x.toInt?
  | _ => none

/-- An object is a mapping: no name occurs twice. -/
def Json.distinctNames (members : List (Text × Json)) : Bool := (members.map (·.1)).Nodup

namespace Schema

mutual

/-- The schema accepts the part, where `valid` says what references accept. -/
def accepts (valid : Verdict) : Schema → Json → Bool
  | .reference definition, part => valid definition part
  | .oneOf forms, part => countAccepting valid forms part == 1
  | .enum values, part => match part with
    | .str s => values.contains s
    | _ => false
  | .string, part => part.isString
  | .integer minimum, part => match part.integer? with
    | some n => minimum ≤ n
    | none => false
  | .array least items, part => match part with
    | .arr parts => least ≤ parts.length && parts.all (items.accepts valid)
    | _ => false
  | .object required properties, part => match part with
    | .obj members =>
      Json.distinctNames members && required.all (fun name => (Json.member? name members).isSome) &&
        members.all (fun member => properties.any (·.1 == member.1)) &&
        acceptsMembers valid properties members
    | _ => false

/-- The number of forms that accept the part. -/
def countAccepting (valid : Verdict) : List Schema → Json → Nat
  | [], _ => 0
  | form :: rest, part =>
    (if form.accepts valid part then 1 else 0) + countAccepting valid rest part

/-- Each member that is there has its schema. -/
def acceptsMembers (valid : Verdict) : List (Text × Schema) → List (Text × Json) → Bool
  | [], _ => true
  | (name, schema) :: rest, members =>
    (match Json.member? name members with
      | some part => schema.accepts valid part
      | none => true) && acceptsMembers valid rest members

end

end Schema

/-- The branches of an alternation. -/
def Schema.branches : Schema := .array 1 (.reference .operations)

/-- The selector of a lookup. -/
def Schema.selector : Schema :=
  .oneOf [.object ["key"] [("key", .string)], .object ["position"] [("position", .integer 0)]]

/-- The name of a decoding. -/
def Schema.decodeKind : Schema :=
  .enum ["text", "base64", "base64url", "json", "protobuf_struct", "protobuf_metadata", "pairs"]

def Definition.schema : Definition → Schema
  | .operations => .array 0 (.reference .operation)
  | .operation => .oneOf
    [.object ["decode"] [("decode", .decodeKind)], .object ["lookup"] [("lookup", .selector)],
      .object ["or"] [("or", .branches)]]

/-- The verdict gives every reference the meaning of the definition that it names. -/
def Resolves (valid : Verdict) : Prop :=
  ∀ (definition : Definition) (part : Json), valid definition part =
    definition.schema.accepts valid part

/-- The verdict of the grammar. -/
def grammar : Verdict
  | .operation, part => part.isOperation
  | .operations, part => part.isOperations

/-! ## Forms with one member -/

section
variable {valid : Verdict}

open Schema

/-- A form with one member, which is required, accepts the objects that have this member only. -/
theorem accepts_single (name : Text) (schema : Schema) (part : Json) :
    (Schema.object [name] [(name, schema)]).accepts valid part =
      match part with
      | .obj [(n, value)] => decide (n = name) && schema.accepts valid value
      | _ => false := by
  cases part with
  | obj members =>
    match members with
    | [] => simp [accepts, Json.member?]
    | [(n, value)] =>
      by_cases h : n = name
      · simp [accepts, acceptsMembers, Json.distinctNames, Json.member_single, h]
      · simp [accepts, Json.member_single, h]
    | (m, v) :: (n, w) :: rest =>
      -- Two members that are both known would have the same name.
      by_cases hm : name = m
      · by_cases hn : name = n
        · simp [accepts, Json.distinctNames, ← hm, ← hn]
        · simp [accepts, hn]
      · simp [accepts, hm]
  | _ => simp [accepts]

theorem accepts_decodeKind (part : Json) :
    Schema.decodeKind.accepts valid part = part.isDecodeKind := by
  cases part <;> rfl

theorem accepts_string (part : Json) : Schema.string.accepts valid part = part.isString := by
  rw [accepts]

theorem accepts_position (part : Json) :
    (Schema.integer 0).accepts valid part = part.isPosition := by
  cases part with
  | float x =>
    rw [accepts, Json.integer?, Json.isPosition]
    cases hx : x.toInt? with
    | none => rfl
    | some n =>
      have hsign := Binary64.isNegative_eq_false_iff hx
      cases hneg : x.isNegative <;> simp [hneg] at hsign ⊢ <;> exact hsign
  | _ => rfl

theorem accepts_selector (part : Json) : Schema.selector.accepts valid part = part.isSelector := by
  rw [Schema.selector, accepts, countAccepting, countAccepting, countAccepting, accepts_single,
    accepts_single]
  match part with
  | .obj [(name, value)] =>
    have hnames : ("key" : Text) ≠ "position" := by decide
    simp only [accepts_string, accepts_position, Json.isSelector]
    by_cases hkey : name = "key"
    · by_cases h : value.isString <;> simp [hkey, hnames, h]
    · by_cases hposition : name = "position"
      · by_cases h : value.isPosition <;> simp [hposition, hnames.symm, h]
      · simp [hkey, hposition]
  | .obj [] | .obj (_ :: _ :: _) | .null | .bool _ | .int _ | .float _ | .str _ | .arr _ => rfl

/-- The schema of operations accepts what the grammar does, if it does so for branches. -/
theorem accepts_operation {part : Json}
    (h : ∀ name value, part = .obj [(name, value)] →
      Schema.branches.accepts valid value = value.isBranches) :
    Definition.operation.schema.accepts valid part = part.isOperation := by
  rw [Definition.schema, accepts, countAccepting, countAccepting, countAccepting, countAccepting,
    accepts_single, accepts_single, accepts_single]
  match part with
  | .obj [(name, value)] =>
    have hlookup : ("lookup" : Text) ≠ "decode" := by decide
    have hor : ("or" : Text) ≠ "decode" ∧ ("or" : Text) ≠ "lookup" := by decide
    simp only [accepts_decodeKind, accepts_selector, h name value rfl, Json.isOperation]
    by_cases hd : name = "decode"
    · by_cases hv : value.isDecodeKind <;> simp [hd, hlookup.symm, hor.1.symm, hv]
    · by_cases hl : name = "lookup"
      · by_cases hv : value.isSelector <;> simp [hl, hlookup, hor.2.symm, hv]
      · by_cases ho : name = "or"
        · by_cases hv : value.isBranches <;> simp [ho, hor, hv]
        · simp [hd, hl, ho]
  | .obj [] | .obj (_ :: _ :: _) | .null | .bool _ | .int _ | .float _ | .str _ | .arr _ => rfl

end

/-! ## References -/

mutual

theorem Resolves.operation_eq {valid : Verdict} (h : Resolves valid) : ∀ part : Json,
    valid .operation part = part.isOperation
  | .obj [(name, value)] => by
    rw [h, accepts_operation]
    intro _ _ hyp
    obtain ⟨rfl⟩ := hyp
    exact h.branches_eq value
  | .obj [] | .obj (_ :: _ :: _) | .null | .bool _ | .int _ | .float _ | .str _ | .arr _ => by
    rw [h, accepts_operation (by simp)]

theorem Resolves.branches_eq {valid : Verdict} (h : Resolves valid) : ∀ part : Json,
    Schema.branches.accepts valid part = part.isBranches
  | .arr [] => rfl
  | .arr (branch :: rest) => by
    simp [Schema.branches, Schema.accepts, Json.isBranches, h.operations_eq branch,
      h.all_operations_eq rest]
  | .null | .bool _ | .int _ | .float _ | .str _ | .obj _ => rfl

theorem Resolves.operations_eq {valid : Verdict} (h : Resolves valid) : ∀ part : Json,
    valid .operations part = part.isOperations
  | .arr items => by
    rw [h, Definition.schema]
    simp [Schema.accepts, Json.isOperations, h.all_operation_eq items]
  | .null | .bool _ | .int _ | .float _ | .str _ | .obj _ => by
    rw [h]
    rfl

theorem Resolves.all_operation_eq {valid : Verdict} (h : Resolves valid) : ∀ items : List Json,
    (items.all fun item => valid .operation item) = Json.allOperations items
  | [] => rfl
  | item :: rest => by
    rw [List.all_cons, h.operation_eq item, h.all_operation_eq rest, Json.allOperations]

theorem Resolves.all_operations_eq {valid : Verdict} (h : Resolves valid) : ∀ items : List Json,
    (items.all fun item => valid .operations item) = Json.allSequences items
  | [] => rfl
  | item :: rest => by
    rw [List.all_cons, h.operations_eq item, h.all_operations_eq rest, Json.allSequences]

end

theorem all_isOperation (items : List Json) :
    items.all Json.isOperation = Json.allOperations items := by
  induction items with
  | nil => rfl
  | cons item rest ih => rw [List.all_cons, ih, Json.allOperations]

theorem all_isOperations (items : List Json) :
    items.all Json.isOperations = Json.allSequences items := by
  induction items with
  | nil => rfl
  | cons item rest ih => rw [List.all_cons, ih, Json.allSequences]

/-- The verdict of the grammar gives every reference its meaning, so there is one that does. -/
theorem resolves_grammar : Resolves grammar := by
  intro definition part
  cases definition with
  | operation =>
    rw [accepts_operation]
    · rfl
    · intro _ value _
      match value with
      | .arr [] => rfl
      | .arr (branch :: rest) =>
        simp [Schema.branches, Schema.accepts, Json.isBranches, grammar, ← all_isOperations]
      | .null | .bool _ | .int _ | .float _ | .str _ | .obj _ => rfl
  | operations =>
    cases part with
    | arr items =>
      simp [Definition.schema, Schema.accepts, grammar, Json.isOperations, ← all_isOperation]
    | _ => rfl

/-! ## Checks -/

theorem Check.each_eq_nil {check : Check} {accepted : Json → Prop}
    (h : ∀ path item, check path item = [] ↔ accepted item) (path : List Text)
    (items : List Json) : check.each path items = [] ↔ ∀ item ∈ items, accepted item := by
  simp only [Check.each, List.flatMap_eq_nil_iff, h]
  constructor
  · intro hall item hitem
    obtain ⟨i, hi⟩ := List.getElem?_of_mem hitem
    exact hall (item, i) (List.mk_mem_zipIdx_iff_getElem?.mpr hi)
  · intro hall hyp hi
    obtain ⟨item, i⟩ := hyp
    exact hall item (List.mem_of_getElem? (List.mk_mem_zipIdx_iff_getElem?.mp hi))

theorem Check.operation_eq_nil (path : List Text) (part : Json) :
    Check.operation path part = [] ↔ part.isOperation := by
  rw [Check.operation]
  split <;> simp_all

theorem Check.operations_eq_nil {path : List Text} {part : Json} :
    Check.operations path part = [] ↔ part.isOperations := by
  cases part with
  | arr items =>
    have heach := Check.each_eq_nil Check.operation_eq_nil path items
    simpa [Check.operations, Check.array, Json.isOperations, ← all_isOperation] using heach
  | _ => simp [Check.operations, Check.array, Json.isOperations]

/-- **Grammar, schema and reading agree.** A document has no problem as a sequence of operations
exactly when it is what is written for operations that can be declared; it is then read as these
operations; and the schema, whatever verdict gives its references their meaning, accepts exactly the
documents without problems. -/
theorem operations_agree (document : Json) :
    (document.problems Check.operations = [] ↔
      ∃ ops, AllDeclarable ops ∧ Json.ofOperations ops = document) ∧
    (∀ ops, AllDeclarable ops → Json.ofOperations ops = document →
      document.toOperations = .ok ops) ∧
    ∀ valid, Resolves valid →
      (valid .operations document = true ↔ document.problems Check.operations = []) := by
  have hproblems : document.problems Check.operations = [] ↔ document.isOperations :=
    Check.operations_eq_nil
  refine ⟨hproblems.trans Json.isOperations_iff, ?_, ?_⟩
  · intro ops hops hyp
    subst hyp
    exact Json.toOperations_ofOperations hops
  · intro valid hvalid
    rw [hvalid.operations_eq, hproblems]

/-- An alternation in an alternation, with the negative zero as a position. -/
def nestedOperations : List Operation :=
  [.alternation [[.decode .json, .lookup (.position (.float (.finite true 0 0)))],
    [.alternation [[], [.lookup (.key [])]]]]]

theorem operations_agree_nested :
    AllDeclarable nestedOperations ∧ Resolves grammar ∧
      (Json.ofOperations nestedOperations).problems Check.operations = [] ∧
      (Json.ofOperations nestedOperations).toOperations = .ok nestedOperations ∧
      grammar .operations (Json.ofOperations nestedOperations) = true := by
  have hzero : (Binary64.finite true 0 0).toInt? = some 0 := by
    simp only [Binary64.toInt?, Nat.zero_mul, Nat.zero_mod, Nat.zero_div, if_true]
    rfl
  have hops : AllDeclarable nestedOperations := by
    simp [nestedOperations, AllDeclarable, AllDeclarableIn, Operation.Declarable,
      Selector.Declarable, Index.Declarable, hzero]
  obtain ⟨hiff, hread, hschema⟩ := operations_agree (Json.ofOperations nestedOperations)
  have hproblems := hiff.mpr ⟨nestedOperations, hops, rfl⟩
  exact ⟨hops, resolves_grammar, hproblems, hread nestedOperations hops rfl,
    (hschema grammar resolves_grammar).mpr hproblems⟩

end RequestCredentials
