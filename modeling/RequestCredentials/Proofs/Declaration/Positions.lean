import RequestCredentials.Evaluation.Run
import RequestCredentials.Proofs.Declaration.Accepted
/-
  Positions that can be declared

  The grammar accepts an integer in either spelling as a position, and the
  position stays as it is spelled. A lookup compares it with the number of
  parts, which is the same for both spellings, and then takes the part there,
  which is not done with a float. What is not there is told with the position,
  and an integer with too many digits cannot be told.

  What is proved:
    1. `apply_position` — a lookup by a position that is a natural number breaks
       down in one of two ways, or finds what is there and nothing else;
    2. `StandsIn.declarable` — every operation in a sequence that can be
       declared, however deep, can be declared;
    3. `acceptOperations_eq_ok` — what is accepted as a sequence of operations;
    4. `accepted_position_iff` — what the lookups by accepted positions do.
-/

namespace RequestCredentials

/-! ## Floats that are natural numbers -/

/-- A float that is a natural number is a multiple of one, and has a sign only if it is zero. -/
theorem Binary64.toInt_eq_natCast {x : Binary64} {n : Nat} (h : x.toInt? = some (n : Int)) :
    ∃ negative significand exponent, x = .finite negative significand exponent ∧
      significand * Nat.pow 2 exponent / Nat.pow 2 1074 = n ∧ (significand = 0 ↔ n = 0) ∧
      (negative = true → n = 0) := by
  cases x with
  | nan => cases h
  | infinite negative => cases h
  | finite negative significand exponent =>
    simp only [Binary64.toInt?] at h
    split at h
    · next hdvd =>
      have hzero := Binary64.units_div_eq_zero_iff hdvd
      rw [Option.some.injEq] at h
      refine ⟨negative, significand, exponent, rfl, ?_⟩
      generalize significand * Nat.pow 2 exponent / Nat.pow 2 1074 = units at h hzero ⊢
      cases negative with
      | false =>
        obtain rfl : units = n := Int.natCast_inj.mp h
        exact ⟨rfl, hzero.symm, fun hsign => absurd hsign Bool.false_ne_true⟩
      | true =>
        have hneg : -(units : Int) = n := by simpa using h
        obtain ⟨rfl, rfl⟩ : units = 0 ∧ n = 0 := by omega
        exact ⟨rfl, hzero.symm, fun _ => rfl⟩
    · cases h

section
variable {x : Binary64} {n : Nat}

theorem Binary64.isNegative_of_natCast (h : x.toInt? = some (n : Int)) : x.isNegative = false :=
  (Binary64.isNegative_eq_false_iff h).mpr (Int.natCast_nonneg n)

theorem Binary64.isZero_iff (h : x.toInt? = some (n : Int)) : x.isZero ↔ n = 0 := by
  obtain ⟨negative, significand, exponent, rfl, -, hzero, -⟩ := Binary64.toInt_eq_natCast h
  rw [Binary64.isZero, beq_iff_eq, hzero]

theorem Binary64.lessThan_iff (h : x.toInt? = some (n : Int)) (m : Nat) :
    x.lessThan m ↔ n < m := by
  obtain ⟨negative, significand, exponent, rfl, hunits, hzero, hsign⟩ :=
    Binary64.toInt_eq_natCast h
  cases negative with
  | false =>
    have hpow : ∀ k, 0 < Nat.pow 2 k := fun k => Nat.two_pow_pos k
    rw [← hunits, Nat.div_lt_iff_lt_mul (hpow 1074)]
    simp only [Binary64.lessThan, Bool.false_eq_true, if_false, decide_eq_true_eq]
  | true =>
    obtain rfl : n = 0 := hsign rfl
    simp [Binary64.lessThan, hzero.mpr rfl, Nat.pos_iff_ne_zero]

end

/-! ## What a position selects -/

/-- The integer that an index is, in either spelling. -/
def Index.integer? : Index → Option Int
  | .int n => some n
  | .float x => x.toInt?
  | .other _ => none

theorem Index.declarable_iff {index : Index} :
    index.Declarable ↔ ∃ n : Nat, index.integer? = some (n : Int) := by
  cases index with
  | int k =>
    simp only [Index.Declarable, Index.integer?, Option.some.injEq]
    exact ⟨Int.eq_ofNat_of_zero_le, fun hyp => hyp.elim fun n hn => hn ▸ Int.natCast_nonneg n⟩
  | float x =>
    simp only [Index.Declarable, Index.integer?]
    constructor
    · intro hyp
      obtain ⟨k, hk, hpos⟩ := hyp
      obtain ⟨n, rfl⟩ := Int.eq_ofNat_of_zero_le hpos
      exact ⟨n, hk⟩
    · intro hyp
      obtain ⟨n, hn⟩ := hyp
      exact ⟨n, hn, Int.natCast_nonneg n⟩
  | other part => simp [Index.Declarable, Index.integer?]

/-- The parts that positions count in a list or struct. -/
def Value.parts : Value → List Value
  | .text _ => []
  | .list items => items
  | .struct entries => entries.map (·.2)

/-- What stands at a position: a text itself at zero, an item of a list, the value of an entry. -/
def Value.part? (v : Value) (n : Nat) : Option Value :=
  match v with
  | .text _ => if n = 0 then some v else none
  | .list _ => v.parts[n]?
  | .struct _ => v.parts[n]?

/-- The ways in which a lookup by a position breaks down, though the position is the natural
number `n`. -/
inductive BreaksDownAt (v : Value) (n : Nat) : Index → Fault → Prop
  /-- There is a part, and it is not taken by a float. -/
  | spelledAsFloat {x : Binary64} (inside : n < v.parts.length) :
    BreaksDownAt v n (.float x) .fractionalIndex
  /-- There is no part, and the position is not written. -/
  | unwritten (long : isLongInteger n) (absent : v.part? n = none) :
    BreaksDownAt v n (.int n) (.tooManyDigits none)

theorem BreaksDownAt.fault_unique {v : Value} {n : Nat} {index : Index} {fault fault' : Fault}
    (h : BreaksDownAt v n index fault) (h' : BreaksDownAt v n index fault') : fault = fault' := by
  cases h <;> cases h' <;> rfl

theorem valueAt_int (selector : Selector) (n : Nat) (values : List Value) :
    valueAt selector (.int n) values = .ok (foundOr selector values[n]?) := by
  rw [valueAt, Int.toNat_natCast]

theorem valueAt_float {x : Binary64} {n : Nat} (h : x.toInt? = some (n : Int))
    (selector : Selector) (values : List Value) :
    valueAt selector (.float x) values =
      if n < values.length then .error .fractionalIndex else .ok (foundOr selector values[n]?) := by
  simp only [valueAt, Binary64.lessThan_iff h]
  split
  · rfl
  · next hout => rw [List.getElem?_eq_none (Nat.le_of_not_lt hout), foundOr]

theorem lookupPosition_int (n : Nat) (v : Value) :
    v.lookupPosition (.int n) = .ok (foundOr (.position (.int n)) (v.part? n)) := by
  have hneg : (Index.Number.int n).isNegative = false :=
    decide_eq_false (Int.not_lt.mpr (Int.natCast_nonneg n))
  simp only [Value.lookupPosition, Index.number, hneg, Bool.false_eq_true, if_false]
  cases v with
  | text c => by_cases hn : n = 0 <;> simp [Index.Number.isZero, Value.part?, foundOr, hn]
  | list items => exact valueAt_int _ n items
  | struct entries => exact valueAt_int _ n _

theorem lookupPosition_float {x : Binary64} {n : Nat} (h : x.toInt? = some (n : Int)) (v : Value) :
    v.lookupPosition (.float x) =
      if n < v.parts.length then .error .fractionalIndex
      else .ok (foundOr (.position (.float x)) (v.part? n)) := by
  have hneg : (Index.Number.float x).isNegative = false := Binary64.isNegative_of_natCast h
  simp only [Value.lookupPosition, Index.number, hneg, Bool.false_eq_true, if_false]
  cases v with
  | text c => by_cases hn : n = 0 <;>
      simp [Index.Number.isZero, Binary64.isZero_iff h, Value.part?, Value.parts, foundOr, hn]
  | list items => exact valueAt_float h _ items
  | struct entries => exact valueAt_float h _ _

/-- What is found is found whatever the selector, and what is not is told unless it cannot be. -/
theorem naming_foundOr (selector : Selector) (found : Option Value) :
    naming selector (.ok (foundOr selector found)) =
      if selector.holdsLongInteger ∧ found = none then .error (.tooManyDigits none)
      else .ok (foundOr selector found) := by
  cases found with
  | some v => simp [naming, foundOr]
  | none => by_cases h : selector.holdsLongInteger <;> simp [naming, foundOr, h]

/-- A lookup by a position that is a natural number breaks down in one of two ways, or finds what is
there and nothing else. -/
theorem apply_position {index : Index} {n : Nat} (h : index.integer? = some (n : Int)) (v : Value) :
    (∃ fault, BreaksDownAt v n index fault ∧
      (Operation.lookup (.position index)).apply v = .error (.brokeDown .lookup fault)) ∨
    (¬ (∃ fault, BreaksDownAt v n index fault) ∧
      (Operation.lookup (.position index)).apply v = foundOr (.position index) (v.part? n)) := by
  cases index with
  | int k =>
    obtain rfl : k = n := Option.some.inj h
    rw [Operation.apply, Value.lookup, lookupPosition_int, naming_foundOr]
    split
    · next hlong => exact .inl ⟨_, .unwritten hlong.1 hlong.2, rfl⟩
    · next hshort =>
      refine .inr ⟨?_, rfl⟩
      rintro ⟨_, hbreaks⟩
      cases hbreaks with
      | unwritten long absent => exact hshort ⟨long, absent⟩
  | float x =>
    rw [Operation.apply, Value.lookup, lookupPosition_float h]
    split
    · next hin => exact .inl ⟨_, .spelledAsFloat hin, rfl⟩
    · next hout =>
      refine .inr ⟨?_, ?_⟩
      · rintro ⟨_, hbreaks⟩
        cases hbreaks with
        | spelledAsFloat inside => exact hout inside
      · rw [naming_foundOr]
        rfl
  | other part => cases h

theorem foundOr_ne_brokeDown {selector : Selector} {found : Option Value} {step : OperationKind}
    {fault : Fault} : foundOr selector found ≠ .error (.brokeDown step fault) := by
  cases found <;> simp [foundOr]

section
variable {index : Index} {n : Nat}

theorem apply_position_found (h : index.integer? = some (n : Int)) (v : Value) :
    (Operation.lookup (.position index)).apply v = foundOr (.position index) (v.part? n) ↔
      ¬ ∃ fault, BreaksDownAt v n index fault := by
  rcases apply_position h v with ⟨fault, hbreaks, happly⟩ | ⟨hworks, happly⟩
  · rw [happly]
    exact iff_of_false (fun heq => foundOr_ne_brokeDown heq.symm) (not_not_intro ⟨fault, hbreaks⟩)
  · exact iff_of_true happly hworks

theorem apply_position_brokeDown (h : index.integer? = some (n : Int)) (v : Value)
    (step : OperationKind) (fault : Fault) :
    (Operation.lookup (.position index)).apply v = .error (.brokeDown step fault) ↔
      step = .lookup ∧ BreaksDownAt v n index fault := by
  rcases apply_position h v with ⟨fault', hbreaks, happly⟩ | ⟨hworks, happly⟩
  · rw [happly]
    constructor
    · intro heq
      cases heq
      exact ⟨rfl, hbreaks⟩
    · intro hyp
      obtain ⟨rfl, hbreaks'⟩ := hyp
      rw [hbreaks.fault_unique hbreaks']
  · rw [happly]
    exact iff_of_false foundOr_ne_brokeDown fun hyp => hworks ⟨fault, hyp.2⟩

end

/-! ## Operations in a sequence -/

/-- The operation is one of the sequence, or stands in a branch of an alternation of it, however
deep. -/
inductive StandsIn (op : Operation) : List Operation → Prop
  | here {ops : List Operation} (member : op ∈ ops) : StandsIn op ops
  | inBranch {ops branch : List Operation} {branches : List (List Operation)}
    (alternation : .alternation branches ∈ ops) (member : branch ∈ branches)
    (deeper : StandsIn op branch) : StandsIn op ops

theorem allDeclarable_iff {ops : List Operation} :
    AllDeclarable ops ↔ ∀ op ∈ ops, op.Declarable := by
  induction ops with
  | nil => simp [AllDeclarable]
  | cons op rest ih => rw [AllDeclarable, ih, List.forall_mem_cons]

theorem allDeclarableIn_iff {branches : List (List Operation)} :
    AllDeclarableIn branches ↔ ∀ branch ∈ branches, AllDeclarable branch := by
  induction branches with
  | nil => simp [AllDeclarableIn]
  | cons branch rest ih => rw [AllDeclarableIn, ih, List.forall_mem_cons]

theorem StandsIn.declarable {op : Operation} {ops : List Operation} (h : StandsIn op ops)
    (hops : AllDeclarable ops) : op.Declarable := by
  induction h with
  | here member => exact allDeclarable_iff.mp hops op member
  | inBranch alternation member _ ih =>
    have hbranches := (allDeclarable_iff.mp hops _ alternation).2
    exact ih (allDeclarableIn_iff.mp hbranches _ member)

/-! ## Accepted operations -/

/-- A sequence is accepted when it is written for operations that can be declared, none of which is
hopeless on the shapes that it starts on. -/
theorem acceptOperations_eq_ok {shapes : Shapes} {document : Json} {ops : List Operation} :
    acceptOperations shapes document = .ok ops ↔
      AllDeclarable ops ∧ Json.ofOperations ops = document ∧
        (shapeReport [] shapes ops).problems = [] := by
  have hhopeless : ∀ ops', hopelessAt "ops" [] shapes ops' = [] ↔
      (shapeReport [] shapes ops').problems = [] := fun _ => List.map_eq_nil_iff
  constructor
  · intro h
    obtain ⟨read, hread, hcheck⟩ := bind_eq_ok.mp h
    have hproblems : document.problems Check.operations = [] := by
      by_contra hne
      rw [readChecked_eq_error hne] at hread
      cases hread
    obtain ⟨written, hdeclarable, rfl⟩ :=
      Json.isOperations_iff.mp (Check.operations_eq_nil.mp hproblems)
    rw [readChecked_eq_ok hproblems (Json.toOperations_ofOperations hdeclarable)] at hread
    cases hread
    rw [unlessHopeless] at hcheck
    split at hcheck
    · next hnil =>
      cases hcheck
      exact ⟨hdeclarable, rfl, (hhopeless _).mp hnil⟩
    · cases hcheck
  · intro hyp
    obtain ⟨hops, rfl, hhopeful⟩ := hyp
    have hproblems : (Json.ofOperations ops).problems Check.operations = [] :=
      Check.operations_eq_nil.mpr (Json.isOperations_iff.mpr ⟨ops, hops, rfl⟩)
    rw [acceptOperations, readChecked_eq_ok hproblems (Json.toOperations_ofOperations hops)]
    exact if_pos ((hhopeless ops).mpr hhopeful)

/-- **Accepted positions.** In an accepted sequence, which is the document itself, every position
that is looked up is a natural number `n`. On every value the lookup finds what stands at `n` and is
absent where nothing does, unless it breaks down; and it breaks down exactly where there is a part
and the position is spelled as a float, or there is none and the position has too many digits. -/
theorem accepted_position_iff {shapes : Shapes} {document : Json} {ops : List Operation}
    (h : acceptOperations shapes document = .ok ops) :
    Json.ofOperations ops = document ∧
    ∀ index, StandsIn (.lookup (.position index)) ops →
      ∃ n : Nat, index.integer? = some (n : Int) ∧ ∀ v : Value,
        ((Operation.lookup (.position index)).apply v = foundOr (.position index) (v.part? n) ↔
          ¬ ∃ fault, BreaksDownAt v n index fault) ∧
        ∀ step fault, (Operation.lookup (.position index)).apply v =
            .error (.brokeDown step fault) ↔
          step = .lookup ∧ BreaksDownAt v n index fault := by
  obtain ⟨hdeclarable, hdocument, -⟩ := acceptOperations_eq_ok.mp h
  refine ⟨hdocument, fun index hstands => ?_⟩
  obtain ⟨n, hn⟩ := Index.declarable_iff.mp (hstands.declarable hdeclarable)
  exact ⟨n, hn, fun v => ⟨apply_position_found hn v, apply_position_brokeDown hn v⟩⟩

/-- The second item of a list, if there is one, or else the list. -/
def secondItem : List Operation := [.alternation [[.lookup (.position (.int 1))], []]]

theorem accepted_position_iff_secondItem :
    acceptOperations .any (Json.ofOperations secondItem) = .ok secondItem ∧
      StandsIn (.lookup (.position (.int 1))) secondItem ∧
      (Operation.lookup (.position (.int 1))).apply
        (.list [.text (.chars "a"), .text (.chars "b")]) = .ok (.text (.chars "b")) := by
  have hops : AllDeclarable secondItem := by
    simp [secondItem, AllDeclarable, AllDeclarableIn, Operation.Declarable, Selector.Declarable,
      Index.Declarable]
  have haccept : acceptOperations .any (Json.ofOperations secondItem) = .ok secondItem :=
    acceptOperations_eq_ok.mpr ⟨hops, rfl, rfl⟩
  have hstands : StandsIn (.lookup (.position (.int 1))) secondItem :=
    .inBranch (.head _) (.head _) (.here (.head _))
  obtain ⟨n, hn, hlookup⟩ := (accepted_position_iff haccept).2 _ hstands
  obtain rfl : 1 = n := Int.natCast_inj.mp (Option.some.inj hn)
  refine ⟨haccept, hstands, (hlookup _).1.mpr ?_⟩
  intro hyp
  obtain ⟨fault, hbreaks⟩ := hyp
  cases hbreaks with
  | unwritten long absent => cases absent

/-- Zero as a float is accepted as a position, and a list that has an item there breaks it down. -/
theorem accepted_float_position :
    acceptOperations .any
        (.arr [.obj [("lookup", .obj [("position", .float (.finite false 0 0))])]]) =
      .ok [.lookup (.position (.float (.finite false 0 0)))] ∧
    (Operation.lookup (.position (.float (.finite false 0 0)))).apply
        (.list [.text (.chars "a")]) = .error (.brokeDown .lookup .fractionalIndex) := by
  have hzero : (Index.float (.finite false 0 0)).integer? = some ((0 : Nat) : Int) := by
    simp only [Index.integer?, Binary64.toInt?, Nat.zero_mul, Nat.zero_mod, Nat.zero_div, if_true]
    rfl
  have hops : AllDeclarable [.lookup (.position (.float (.finite false 0 0)))] := by
    rw [AllDeclarable, Operation.Declarable, Selector.Declarable, Index.declarable_iff]
    exact ⟨⟨0, hzero⟩, trivial⟩
  refine ⟨acceptOperations_eq_ok.mpr ⟨hops, rfl, rfl⟩, ?_⟩
  exact (apply_position_brokeDown hzero _ _ _).mpr ⟨rfl, .spelledAsFloat Nat.zero_lt_one⟩

end RequestCredentials
