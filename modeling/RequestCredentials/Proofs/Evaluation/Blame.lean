import RequestCredentials.Evaluation.Run
import RequestCredentials.Proofs.Except
/-
  Blame — which operation the failure of a sequence comes from

  A sequence fails at the first operation that fails, and its failure is that
  operation's own. What the failure can be depends on the operation alone: a
  decoding names its kind, a lookup its selector, and an alternation holds the
  failures of all its branches, each of them run on the value that reached the
  alternation. The failures of branches come from operations in the same way, so
  the tree of failures has the shape of the tree of operations.

  What is proved:
    1. `FailsAt.run_take`, `FailsAt.place_unique` — a sequence goes no further
       than the operation that fails, so there is one place where it fails;
    2. `firstSuccess_eq_error` — the failures of an alternation are those of its
       branches, in order;
    3. `run_eq_error_iff` — a sequence fails with a failure exactly when the
       failure is blamed on one of its operations.
-/

namespace RequestCredentials

/-! ## The place of a failure -/

/-- The operations before place `i` take `v` to `w`, and the operation `op` at that place fails
on `w`. -/
structure FailsAt (v : Value) (ops : List Operation) (i : Nat) (op : Operation) (w : Value)
    (failure : Failure) : Prop where
  reached : run v (ops.take i) = .ok w
  stands : ops[i]? = some op
  fails : op.apply w = .error failure

theorem run_cons_error {v : Value} {op : Operation} {failure : Failure}
    (h : op.apply v = .error failure) (rest : List Operation) :
    run v (op :: rest) = .error failure := by
  rw [run, h]

theorem run_cons_ok {v w : Value} {op : Operation} (h : op.apply v = .ok w)
    (rest : List Operation) : run v (op :: rest) = run w rest := by
  rw [run, h]

section
variable {v w w' : Value} {ops : List Operation} {op op' : Operation} {i j : Nat}
  {failure failure' : Failure}

theorem FailsAt.run_take (h : FailsAt v ops i op w failure) (hij : i < j) :
    run v (ops.take j) = .error failure := by
  obtain ⟨hi, hop⟩ := List.getElem?_eq_some_iff.mp h.stands
  have hcut : ops.take j = ops.take i ++ op :: (ops.drop (i + 1)).take (j - (i + 1)) := by
    have hback : (ops.drop i).take (j - i) = op :: (ops.drop (i + 1)).take (j - (i + 1)) := by
      rw [List.drop_eq_getElem_cons hi, hop, show j - i = j - (i + 1) + 1 by omega,
        List.take_succ_cons]
    calc ops.take j = ops.take (i + (j - i)) := by rw [Nat.add_sub_cancel' (Nat.le_of_lt hij)]
      _ = ops.take i ++ (ops.drop i).take (j - i) := List.take_add
      _ = ops.take i ++ op :: (ops.drop (i + 1)).take (j - (i + 1)) := by rw [hback]
  rw [hcut, run_append, h.reached]
  exact run_cons_error h.fails _

theorem FailsAt.run_eq (h : FailsAt v ops i op w failure) : run v ops = .error failure := by
  obtain ⟨hi, _⟩ := List.getElem?_eq_some_iff.mp h.stands
  have hrun := h.run_take hi
  rwa [List.take_length] at hrun

/-- A sequence fails at one place: behind it nothing is reached any more. -/
theorem FailsAt.place_unique (h : FailsAt v ops i op w failure)
    (h' : FailsAt v ops j op' w' failure') : j = i := by
  rcases Nat.lt_trichotomy j i with hlt | heq | hgt
  · have hrun := h'.run_take hlt
    rw [h.reached] at hrun
    cases hrun
  · exact heq
  · have hrun := h.run_take hgt
    rw [h'.reached] at hrun
    cases hrun

theorem FailsAt.cons (hop : op'.apply v = .ok w') (h : FailsAt w' ops i op w failure) :
    FailsAt v (op' :: ops) (i + 1) op w failure where
  reached := by rw [List.take_succ_cons, run_cons_ok hop, h.reached]
  stands := by rw [List.getElem?_cons_succ, h.stands]
  fails := h.fails

theorem FailsAt.head (h : op.apply v = .error failure) (rest : List Operation) :
    FailsAt v (op :: rest) 0 op v failure where
  reached := rfl
  stands := rfl
  fails := h

end

/-! ## Branches -/

/-- An alternation fails when all its branches do, with their failures in order. -/
theorem firstSuccess_eq_error {w : Value} {branches : List (List Operation)}
    {failures : List Failure} :
    firstSuccess w branches = .error failures ↔
      List.Forall₂ (fun branch failure => run w branch = .error failure) branches failures := by
  induction branches generalizing failures with
  | nil =>
    rw [firstSuccess, List.forall₂_nil_left_iff, Except.error.injEq]
    exact eq_comm
  | cons branch rest ih =>
    rw [firstSuccess, List.forall₂_cons_left_iff]
    cases hbranch : run w branch with
    | ok u => simp
    | error failure =>
      simp only [mapError_eq_error, ih, Except.error.injEq]
      constructor
      · intro hyp
        obtain ⟨rest', hrest, rfl⟩ := hyp
        exact ⟨failure, rest', rfl, hrest, rfl⟩
      · intro hyp
        obtain ⟨_, rest', rfl, hrest, rfl⟩ := hyp
        exact ⟨rest', hrest, rfl⟩

theorem apply_alternation_eq_error {w : Value} {branches : List (List Operation)}
    {failure : Failure} :
    (Operation.alternation branches).apply w = .error failure ↔
      ∃ failures, firstSuccess w branches = .error failures ∧ failure = .exhausted failures := by
  rw [Operation.apply]
  cases firstSuccess w branches with
  | ok u => simp
  | error failures => simp [eq_comm]

theorem firstSuccess_isError {w : Value} {branches : List (List Operation)} :
    (∃ failures, firstSuccess w branches = .error failures) ↔
      ∀ branch ∈ branches, ∃ failure, run w branch = .error failure := by
  induction branches with
  | nil => simp [firstSuccess]
  | cons branch rest ih =>
    rw [List.forall_mem_cons, ← ih, firstSuccess]
    cases hbranch : run w branch with
    | ok u => simp
    | error failure =>
      simp only [mapError_eq_error, Except.error.injEq, exists_eq', true_and]
      constructor
      · intro hyp
        obtain ⟨_, failures, h, _⟩ := hyp
        exact ⟨failures, h⟩
      · intro hyp
        obtain ⟨failures, h⟩ := hyp
        exact ⟨_, failures, h, rfl⟩

/-! ## Blame -/

mutual

/-- The failure is one that the operation can have on a value. -/
inductive Dictates : Operation → Value → Failure → Prop
  | undecodable (w : Value) (kind : DecodeKind) (cause : DecodeCause) :
    Dictates (.decode kind) w (.undecodable kind cause)
  | decodeBrokeDown (w : Value) (kind : DecodeKind) (fault : Fault) :
    Dictates (.decode kind) w (.brokeDown .decode fault)
  | absent (w : Value) (selector : Selector) : Dictates (.lookup selector) w (.absent selector)
  | illegalLookup (w : Value) (selector : Selector) (found : Unfit) :
    Dictates (.lookup selector) w (.illegalLookup selector found)
  | lookupBrokeDown (w : Value) (selector : Selector) (fault : Fault) :
    Dictates (.lookup selector) w (.brokeDown .lookup fault)
  /-- There is one failure for each branch, and it is that of the branch on the same value. -/
  | exhausted (w : Value) (branches : List (List Operation)) (failures : List Failure)
    (one_each : failures.length = branches.length)
    (blamed : ∀ (j : Nat) (branch : List Operation) (failure : Failure),
      branches[j]? = some branch → failures[j]? = some failure → Blames w branch failure) :
    Dictates (.alternation branches) w (.exhausted failures)

/-- The failure of a sequence on a value comes from the operation at one place and no other, and is
one that this operation can have there. -/
inductive Blames : Value → List Operation → Failure → Prop
  | at_place {v : Value} {ops : List Operation} {failure : Failure} (i : Nat) (op : Operation)
    (w : Value) (fails : FailsAt v ops i op w failure)
    (only : ∀ j op' w' failure', FailsAt v ops j op' w' failure' → j = i)
    (dictated : Dictates op w failure) : Blames v ops failure

end

theorem Blames.run_eq {v : Value} {ops : List Operation} {failure : Failure}
    (h : Blames v ops failure) : run v ops = .error failure := by
  cases h with
  | at_place i op w fails only dictated => exact fails.run_eq

theorem FailsAt.blames {v w : Value} {ops : List Operation} {i : Nat} {op : Operation}
    {failure : Failure} (h : FailsAt v ops i op w failure) (dictated : Dictates op w failure) :
    Blames v ops failure :=
  .at_place i op w h (fun _ _ _ _ h' => h.place_unique h') dictated

theorem Blames.cons {v w : Value} {op : Operation} {rest : List Operation} {failure : Failure}
    (hop : op.apply v = .ok w) (h : Blames w rest failure) : Blames v (op :: rest) failure := by
  cases h with
  | at_place i op' w' fails only dictated => exact (fails.cons hop).blames dictated

theorem decode_dictates {w : Value} {kind : DecodeKind} {failure : Failure}
    (h : settle .decode (w.decode kind) = .error failure) : Dictates (.decode kind) w failure := by
  cases w with
  | text c =>
    simp only [Value.decode] at h
    cases hc : c.toBytes with
    | ok data =>
      rw [hc] at h
      obtain ⟨cause, _, rfl⟩ := mapError_eq_error.mp h
      exact .undecodable _ kind cause
    | error fault =>
      rw [hc] at h
      cases h
      exact .decodeBrokeDown _ kind _
  | list items =>
    cases h
    exact .undecodable _ kind _
  | struct entries =>
    cases h
    exact .undecodable _ kind _

theorem foundOr_eq_error {selector : Selector} {found : Option Value} {failure : Failure}
    (h : foundOr selector found = .error failure) : failure = .absent selector := by
  cases found with
  | none =>
    cases h
    rfl
  | some v => cases h

/-- A failure of a lookup names the selector: it is absent, or not defined on the value. -/
def Names (selector : Selector) (failure : Failure) : Prop :=
  failure = .absent selector ∨ ∃ found, failure = .illegalLookup selector found

theorem lookupKey_names {v : Value} {name : Text} {failure : Failure}
    (h : v.lookupKey name = .ok (.error failure)) : Names (.key name) failure := by
  cases v with
  | text c =>
    simp only [Value.lookupKey] at h
    split at h <;> cases h
    exact .inl rfl
  | list items =>
    simp only [Value.lookupKey] at h
    split at h
    · cases h
      exact .inr ⟨_, rfl⟩
    · split at h
      · rw [Except.ok.injEq] at h
        exact .inl (foundOr_eq_error h)
      · cases h
  | struct entries =>
    rw [Value.lookupKey, Except.ok.injEq] at h
    exact .inl (foundOr_eq_error h)

theorem valueAt_names {selector : Selector} {position : Index.Number} {values : List Value}
    {failure : Failure} (h : valueAt selector position values = .ok (.error failure)) :
    failure = .absent selector := by
  cases position with
  | int n =>
    rw [valueAt, Except.ok.injEq] at h
    exact foundOr_eq_error h
  | float x =>
    simp only [valueAt] at h
    split at h <;> cases h
    rfl

theorem lookupPosition_names {v : Value} {index : Index} {failure : Failure}
    (h : v.lookupPosition index = .ok (.error failure)) : Names (.position index) failure := by
  simp only [Value.lookupPosition] at h
  split at h
  · cases h
  split at h
  · cases h
    exact .inr ⟨_, rfl⟩
  cases v with
  | text c =>
    simp only at h
    split at h <;> cases h
    exact .inl rfl
  | list items => exact .inl (valueAt_names h)
  | struct entries => exact .inl (valueAt_names h)

theorem lookupOtherKey_names {v : Value} {part : Json} {failure : Failure}
    (h : v.lookupOtherKey part = .ok (.error failure)) : Names (.otherKey part) failure := by
  cases v with
  | text c =>
    simp only [Value.lookupOtherKey] at h
    split at h <;> cases h
  | list items =>
    simp only [Value.lookupOtherKey] at h
    split at h
    · cases h
      exact .inr ⟨_, rfl⟩
    · cases h
      exact .inl rfl
    · split at h <;> cases h
  | struct entries =>
    cases h
    exact .inl rfl

theorem lookup_names {v : Value} {selector : Selector} {failure : Failure}
    (h : v.lookup selector = .ok (.error failure)) : Names selector failure := by
  cases selector with
  | key name => exact lookupKey_names h
  | position index => exact lookupPosition_names (naming_eq_failure.mp h).2
  | otherKey part => exact lookupOtherKey_names (naming_eq_failure.mp h).2

theorem lookup_dictates {w : Value} {selector : Selector} {failure : Failure}
    (h : settle .lookup (w.lookup selector) = .error failure) :
    Dictates (.lookup selector) w failure := by
  cases hanswer : w.lookup selector with
  | ok result =>
    rw [hanswer] at h
    obtain rfl : result = .error failure := h
    rcases lookup_names hanswer with rfl | ⟨found, rfl⟩
    · exact .absent w selector
    · exact .illegalLookup w selector found
  | error fault =>
    rw [hanswer] at h
    cases h
    exact .lookupBrokeDown w selector fault

/-! ## Whole runs -/

mutual

theorem Operation.apply_dictates : ∀ (op : Operation) (w : Value) (failure : Failure),
    op.apply w = .error failure → Dictates op w failure
  | .decode kind, w, failure, h => decode_dictates h
  | .lookup selector, w, failure, h => lookup_dictates h
  | .alternation branches, w, failure, h => by
    obtain ⟨failures, hfailures, rfl⟩ := apply_alternation_eq_error.mp h
    have hlength := (firstSuccess_eq_error.mp hfailures).length_eq
    exact .exhausted w branches failures hlength.symm
      (branches_blamed branches w failures hfailures)

/-- The first operation either fails, and the failure is its own, or is passed. -/
theorem run_blames : ∀ (ops : List Operation) (v : Value) (failure : Failure),
    run v ops = .error failure → Blames v ops failure
  | [], v, failure, h => by cases h
  | op :: rest, v, failure, h => by
    cases hop : op.apply v with
    | ok w =>
      rw [run_cons_ok hop] at h
      exact (run_blames rest w failure h).cons hop
    | error failure' =>
      rw [run_cons_error hop] at h
      cases h
      exact (FailsAt.head hop rest).blames (Operation.apply_dictates op v failure hop)

/-- Every branch is run on the value that reached the alternation, not on what an earlier branch
made of it. -/
theorem branches_blamed : ∀ (branches : List (List Operation)) (w : Value)
    (failures : List Failure), firstSuccess w branches = .error failures →
    ∀ (j : Nat) (branch : List Operation) (failure : Failure),
      branches[j]? = some branch → failures[j]? = some failure → Blames w branch failure
  | [], w, failures, h, j, branch, failure, hbranch, hfailure => by cases hbranch
  | first :: rest, w, failures, h, j, branch, failure, hbranch, hfailure => by
    obtain ⟨head, tail, hhead, htail, rfl⟩ :=
      List.forall₂_cons_left_iff.mp (firstSuccess_eq_error.mp h)
    cases j with
    | zero =>
      obtain rfl : first = branch := by simpa using hbranch
      obtain rfl : head = failure := by simpa using hfailure
      exact run_blames first w head hhead
    | succ j =>
      exact branches_blamed rest w tail (firstSuccess_eq_error.mpr htail) j branch failure
        (by simpa using hbranch) (by simpa using hfailure)

end

/-- **A failure pinpoints its operation.** A sequence fails with a failure exactly when the failure
comes from the operation at one place of it, the only one where it fails, and is one that this
operation can have; for an alternation it holds the failure of each branch on the same value, which
comes from an operation of the branch in the same way. An alternation fails only if no branch
succeeds, and never breaks down. -/
theorem run_eq_error_iff (v : Value) (ops : List Operation) (failure : Failure) :
    (run v ops = .error failure ↔ Blames v ops failure) ∧
    ∀ (w : Value) (branches : List (List Operation)),
      ((∃ failure, (Operation.alternation branches).apply w = .error failure) ↔
        ∀ branch ∈ branches, ∃ failure, run w branch = .error failure) ∧
      ∀ step fault, (Operation.alternation branches).apply w ≠ .error (.brokeDown step fault) := by
  refine ⟨⟨run_blames ops v failure, Blames.run_eq⟩, fun w branches => ⟨?_, ?_⟩⟩
  · rw [← firstSuccess_isError]
    constructor
    · intro hyp
      obtain ⟨_, h⟩ := hyp
      obtain ⟨failures, hfailures, _⟩ := apply_alternation_eq_error.mp h
      exact ⟨failures, hfailures⟩
    · intro hyp
      obtain ⟨failures, hfailures⟩ := hyp
      exact ⟨_, apply_alternation_eq_error.mpr ⟨failures, hfailures, rfl⟩⟩
  · intro step fault h
    obtain ⟨failures, _, hbroke⟩ := apply_alternation_eq_error.mp h
    cases hbroke

end RequestCredentials
