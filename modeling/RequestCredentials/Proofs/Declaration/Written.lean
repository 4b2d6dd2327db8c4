import RequestCredentials.Declaration.Grammar
import RequestCredentials.Declaration.Reading
import RequestCredentials.Proofs.Except
/-
  Operations as they are declared

  `ofOperation` writes an operation as the object that declares it. Not every
  operation can be declared: a position has to be an integer that is not
  negative, though it may be spelled as a float, a key has to be text, and an
  alternation needs a branch (`Declarable`).

  What is proved:
    1. `toOperations_ofOperations` — what is written for operations that can be
       declared is read back as these operations;
    2. `isOperations_iff` — the grammar of sequences is made up of what is
       written for operations that can be declared, and of nothing else.
-/

namespace RequestCredentials

/-! ## Writing -/

namespace Json

def ofIndex : Index → Json
  | .int n => .int n
  | .float x => .float x
  | .other part => part

def ofSelector : Selector → Json
  | .key name => .obj [("key", .str name)]
  | .position index => .obj [("position", ofIndex index)]
  | .otherKey part => .obj [("key", part)]

mutual

def ofOperation : Operation → Json
  | .decode kind => .obj [("decode", .str (Text.ofString kind.name))]
  | .lookup selector => .obj [("lookup", ofSelector selector)]
  | .alternation branches => .obj [("or", .arr (ofSequences branches))]

def ofOperationList : List Operation → List Json
  | [] => []
  | op :: rest => ofOperation op :: ofOperationList rest

def ofSequences : List (List Operation) → List Json
  | [] => []
  | branch :: rest => .arr (ofOperationList branch) :: ofSequences rest

end

/-- A sequence as the array of its operations. -/
def ofOperations (ops : List Operation) : Json := .arr (ofOperationList ops)

end Json

/-! ## Operations that can be declared -/

/-- An integer, in either spelling, that is not negative. -/
def Index.Declarable : Index → Prop
  | .int n => 0 ≤ n
  | .float x => ∃ n, x.toInt? = some n ∧ 0 ≤ n
  | .other _ => False

def Selector.Declarable : Selector → Prop
  | .key _ => True
  | .position index => index.Declarable
  | .otherKey _ => False

mutual

/-- Every position is an integer that is not negative, every key is text, and every alternation,
however deep, has a branch. -/
def Operation.Declarable : Operation → Prop
  | .decode _ => True
  | .lookup selector => selector.Declarable
  | .alternation branches => branches ≠ [] ∧ AllDeclarableIn branches

def AllDeclarable : List Operation → Prop
  | [] => True
  | op :: rest => op.Declarable ∧ AllDeclarable rest

def AllDeclarableIn : List (List Operation) → Prop
  | [] => True
  | branch :: rest => AllDeclarable branch ∧ AllDeclarableIn rest

end

/-! ## Names of decodings -/

theorem DecodeKind.ofName_name (kind : DecodeKind) :
    DecodeKind.ofName? (Text.ofString kind.name) = some kind := by
  cases kind <;> rfl

/-- The grammar names the decodings that there are. -/
theorem mem_decodeKindNames {s : Text} :
    s ∈ decodeKindNames ↔ ∃ kind : DecodeKind, Text.ofString kind.name = s := by
  have hnames : decodeKindNames = DecodeKind.all.map fun kind => Text.ofString kind.name := rfl
  have hall : ∀ kind, kind ∈ DecodeKind.all := by
    intro kind
    cases kind <;> decide
  simp [hnames, hall]

/-! ## Positions -/

/-- A multiple of the smallest positive number that is an integer is zero only if it is the
multiple zero. -/
theorem Binary64.units_div_eq_zero_iff {significand exponent : Nat}
    (h : significand * Nat.pow 2 exponent % Nat.pow 2 1074 = 0) :
    significand * Nat.pow 2 exponent / Nat.pow 2 1074 = 0 ↔ significand = 0 := by
  have hpow : ∀ n, 0 < Nat.pow 2 n := fun n => Nat.two_pow_pos n
  rw [Nat.div_eq_zero_iff_lt (hpow 1074)]
  constructor
  · intro hlt
    rw [Nat.mod_eq_of_lt hlt] at h
    exact (Nat.mul_eq_zero.mp h).resolve_right (Nat.ne_of_gt (hpow exponent))
  · intro hyp
    subst hyp
    rw [Nat.zero_mul]
    exact hpow 1074

/-- An integer is not negative exactly when the float that spells it is not less than zero; the
negative zero is an integer that is not negative. -/
theorem Binary64.isNegative_eq_false_iff {x : Binary64} {n : Int} (h : x.toInt? = some n) :
    x.isNegative = false ↔ 0 ≤ n := by
  cases x with
  | nan => cases h
  | infinite negative => cases h
  | finite negative significand exponent =>
    simp only [Binary64.toInt?] at h
    split at h
    · next hdvd =>
      have hzero := Binary64.units_div_eq_zero_iff hdvd
      rw [Option.some.injEq] at h
      subst h
      generalize significand * Nat.pow 2 exponent / Nat.pow 2 1074 = units at hzero
      cases negative with
      | false => simp [Binary64.isNegative]
      | true =>
        simp only [Binary64.isNegative, Bool.true_and, bne_eq_false_iff_eq, ← hzero, if_true]
        omega
    · cases h

theorem Json.isPosition_iff {part : Json} :
    part.isPosition ↔ part.toIndex.Declarable := by
  cases part with
  | int n => simp [Json.isPosition, Json.toIndex, Index.Declarable]
  | float x =>
    simp only [Json.isPosition, Json.toIndex, Index.Declarable, Bool.and_eq_true,
      Option.isSome_iff_exists, Bool.not_eq_true']
    constructor
    · intro hyp
      obtain ⟨⟨n, hn⟩, hx⟩ := hyp
      exact ⟨n, hn, (Binary64.isNegative_eq_false_iff hn).mp hx⟩
    · intro hyp
      obtain ⟨n, hn, h⟩ := hyp
      exact ⟨⟨n, hn⟩, (Binary64.isNegative_eq_false_iff hn).mpr h⟩
  | _ => simp [Json.isPosition, Json.toIndex, Index.Declarable]

theorem Json.ofIndex_toIndex (part : Json) : ofIndex part.toIndex = part := by
  cases part <;> rfl

theorem Json.toIndex_ofIndex {index : Index} (h : index.Declarable) :
    (ofIndex index).toIndex = index := by
  cases index with
  | int n => rfl
  | float x => rfl
  | other part => exact h.elim

namespace Json

/-! ## Reading what was written -/

theorem member_single (name n : Text) (part : Json) :
    member? name [(n, part)] = if n = name then some part else none := by
  by_cases h : n = name <;> simp [member?, h]

theorem toSelector_ofSelector {selector : Selector} (h : selector.Declarable) :
    (ofSelector selector).toSelector? = some selector := by
  cases selector with
  | key name => simp [ofSelector, toSelector?, get?, member_single, toKey]
  | position index =>
    have hnames : ("position" : Text) ≠ "key" := by decide
    simp [ofSelector, toSelector?, get?, member_single, hnames, toIndex_ofIndex h]
  | otherKey part => exact h.elim

mutual

theorem toOperation_ofOperation : ∀ op : Operation, op.Declarable →
    (ofOperation op).toOperation = .ok op
  | .decode kind, _ => by
    simp [ofOperation, toOperation, member_single, toDecodeKind, DecodeKind.ofName_name, Except.map]
  | .lookup selector, h => by
    have hnames : ("lookup" : Text) ≠ "decode" := by decide
    simp [ofOperation, toOperation, member_single, hnames, toSelector_ofSelector h]
  | .alternation branches, h => by
    have hdecode : ("or" : Text) ≠ "decode" := by decide
    have hlookup : ("or" : Text) ≠ "lookup" := by decide
    simp [ofOperation, toOperation, member_single, hdecode, hlookup, toAlternation?, toBranches,
      toSequences_ofSequences branches h.2, Except.map]

theorem toOperationList_ofOperationList : ∀ ops : List Operation, AllDeclarable ops →
    toOperationList (ofOperationList ops) = .ok ops
  | [], _ => rfl
  | op :: rest, h => by
    rw [ofOperationList, toOperationList, toOperation_ofOperation op h.1,
      toOperationList_ofOperationList rest h.2]
    rfl

theorem toSequences_ofSequences : ∀ branches : List (List Operation), AllDeclarableIn branches →
    toSequences (ofSequences branches) = .ok branches
  | [], _ => rfl
  | branch :: rest, h => by
    rw [ofSequences, toSequences, toOperations, toOperationList_ofOperationList branch h.1,
      toSequences_ofSequences rest h.2]
    rfl

end

/-- What is written for operations that can be declared is read back as these operations. -/
theorem toOperations_ofOperations {ops : List Operation} (h : AllDeclarable ops) :
    (ofOperations ops).toOperations = .ok ops :=
  toOperationList_ofOperationList ops h

/-! ## The grammar -/

theorem isDecodeKind_iff {part : Json} :
    part.isDecodeKind ↔ ∃ kind : DecodeKind, Json.str (Text.ofString kind.name) = part := by
  cases part with
  | str s =>
    simp only [isDecodeKind, List.contains_iff_mem, mem_decodeKindNames, Json.str.injEq]
  | _ => simp [isDecodeKind]

theorem isString_iff {part : Json} : part.isString ↔ ∃ s, Json.str s = part := by
  cases part <;> simp [isString]

theorem isSelector_iff {part : Json} :
    part.isSelector ↔ ∃ selector : Selector, selector.Declarable ∧ ofSelector selector = part := by
  constructor
  · intro h
    match part with
    | .obj [(name, value)] =>
      simp only [isSelector] at h
      split at h
      · next hname =>
        subst hname
        obtain ⟨s, rfl⟩ := isString_iff.mp h
        exact ⟨.key s, trivial, rfl⟩
      split at h
      · next hname =>
        subst hname
        refine ⟨.position value.toIndex, isPosition_iff.mp h, ?_⟩
        rw [ofSelector, ofIndex_toIndex]
      · cases h
  · intro hyp
    obtain ⟨selector, h, rfl⟩ := hyp
    cases selector with
    | key name => rfl
    | position index =>
      have hnames : ("position" : Text) ≠ "key" := by decide
      rw [Selector.Declarable, ← toIndex_ofIndex h, ← isPosition_iff] at h
      simp [ofSelector, isSelector, hnames, h]
    | otherKey part => exact h.elim

mutual

theorem isOperation_ofOperation : ∀ op : Operation, op.Declarable → (ofOperation op).isOperation
  | .decode kind, _ => by
    simp [ofOperation, isOperation, isDecodeKind_iff]
  | .lookup selector, h => by
    have hnames : ("lookup" : Text) ≠ "decode" := by decide
    have hselector : (ofSelector selector).isSelector := isSelector_iff.mpr ⟨selector, h, rfl⟩
    simp [ofOperation, isOperation, hnames, hselector]
  | .alternation [], h => absurd rfl h.1
  | .alternation (branch :: rest), h => by
    have hdecode : ("or" : Text) ≠ "decode" := by decide
    have hlookup : ("or" : Text) ≠ "lookup" := by decide
    simp [ofOperation, ofSequences, isOperation, hdecode, hlookup, isBranches, isOperations,
      allOperations_ofOperationList branch h.2.1, allSequences_ofSequences rest h.2.2]

theorem allOperations_ofOperationList : ∀ ops : List Operation, AllDeclarable ops →
    allOperations (ofOperationList ops)
  | [], _ => rfl
  | op :: rest, h => by
    rw [ofOperationList, allOperations, isOperation_ofOperation op h.1,
      allOperations_ofOperationList rest h.2]
    rfl

theorem allSequences_ofSequences : ∀ branches : List (List Operation), AllDeclarableIn branches →
    allSequences (ofSequences branches)
  | [], _ => rfl
  | branch :: rest, h => by
    rw [ofSequences, allSequences, isOperations, allOperations_ofOperationList branch h.1,
      allSequences_ofSequences rest h.2]
    rfl

end

mutual

theorem exists_ofOperation : ∀ part : Json, part.isOperation →
    ∃ op : Operation, op.Declarable ∧ ofOperation op = part
  | .obj [(name, part)], h => by
    simp only [isOperation] at h
    split at h
    · next hname =>
      subst hname
      obtain ⟨kind, rfl⟩ := isDecodeKind_iff.mp h
      exact ⟨.decode kind, trivial, rfl⟩
    split at h
    · next hname =>
      subst hname
      obtain ⟨selector, hselector, rfl⟩ := isSelector_iff.mp h
      exact ⟨.lookup selector, hselector, rfl⟩
    split at h
    · next hname =>
      subst hname
      obtain ⟨branches, hnonempty, hbranches, rfl⟩ := exists_ofBranches part h
      exact ⟨.alternation branches, ⟨hnonempty, hbranches⟩, rfl⟩
    · cases h

theorem exists_ofBranches : ∀ part : Json, part.isBranches →
    ∃ branches : List (List Operation), branches ≠ [] ∧ AllDeclarableIn branches ∧
      Json.arr (ofSequences branches) = part
  | .arr (branch :: rest), h => by
    rw [isBranches, Bool.and_eq_true] at h
    obtain ⟨ops, hops, rfl⟩ := exists_ofOperations branch h.1
    obtain ⟨branches, hbranches, rfl⟩ := exists_ofSequences rest h.2
    exact ⟨ops :: branches, List.cons_ne_nil _ _, ⟨hops, hbranches⟩, rfl⟩

theorem exists_ofOperations : ∀ part : Json, part.isOperations →
    ∃ ops : List Operation, AllDeclarable ops ∧ ofOperations ops = part
  | .arr items, h => by
    obtain ⟨ops, hops, rfl⟩ := exists_ofOperationList items h
    exact ⟨ops, hops, rfl⟩

theorem exists_ofOperationList : ∀ items : List Json, allOperations items →
    ∃ ops : List Operation, AllDeclarable ops ∧ ofOperationList ops = items
  | [], _ => ⟨[], trivial, rfl⟩
  | item :: rest, h => by
    rw [allOperations, Bool.and_eq_true] at h
    obtain ⟨op, hop, rfl⟩ := exists_ofOperation item h.1
    obtain ⟨ops, hops, rfl⟩ := exists_ofOperationList rest h.2
    exact ⟨op :: ops, ⟨hop, hops⟩, rfl⟩

theorem exists_ofSequences : ∀ items : List Json, allSequences items →
    ∃ branches : List (List Operation), AllDeclarableIn branches ∧ ofSequences branches = items
  | [], _ => ⟨[], trivial, rfl⟩
  | item :: rest, h => by
    rw [allSequences, Bool.and_eq_true] at h
    obtain ⟨ops, hops, rfl⟩ := exists_ofOperations item h.1
    obtain ⟨branches, hbranches, rfl⟩ := exists_ofSequences rest h.2
    exact ⟨ops :: branches, ⟨hops, hbranches⟩, rfl⟩

end

/-- The grammar of sequences is made up of what is written for operations that can be declared. -/
theorem isOperations_iff {part : Json} :
    part.isOperations ↔ ∃ ops : List Operation, AllDeclarable ops ∧ ofOperations ops = part := by
  constructor
  · exact exists_ofOperations part
  · intro hyp
    obtain ⟨ops, h, rfl⟩ := hyp
    exact allOperations_ofOperationList ops h

end Json

end RequestCredentials
