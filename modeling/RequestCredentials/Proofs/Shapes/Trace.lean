import RequestCredentials.Analysis.Shapes
import RequestCredentials.Evaluation.Run
import Mathlib.Data.List.Nodup
/-
  Traces — what a run hands to its operations, and what the analysis holds there

  A run hands a value to an operation when it applies the operation to it; an
  alternation hands its own value on to its branches until one of them
  succeeds. `handovers` lists the operations that a run reaches, by their
  paths, each with the value it is handed. `shapeVisits` lists the operations
  that the analysis looks at, each with the shapes that it holds there.

  What is proved:
    1. `mem_sequenceHandovers`, `mem_branchHandovers` — an operation is reached
       with the result of those before it, a branch when those before it have
       failed;
    2. `sequenceReport_visited` — the analysis complains only of operations
       that it looks at;
    3. `shapeVisits_functional` — it looks at no operation twice, so that a
       path has at most one set of shapes.
-/

namespace RequestCredentials

/-- An operation that a run reaches, and the value that it is handed. -/
structure Handover where
  path : List PathStep
  value : Value

/-- An operation that the analysis looks at, and the shapes that it holds there. -/
structure Visit where
  path : List PathStep
  shapes : Shapes

/-! ## Runs -/

mutual

/-- What is handed over when the operation at `path` is applied to a value. -/
def Operation.handovers (path : List PathStep) (v : Value) : Operation → List Handover
  | .decode _ => [⟨path, v⟩]
  | .lookup _ => [⟨path, v⟩]
  | .alternation branches => ⟨path, v⟩ :: branchHandovers path v 0 branches

/-- What is handed over in a sequence, the first operation of which has the given index. -/
def sequenceHandovers (path : List PathStep) (v : Value) (index : Nat) :
    List Operation → List Handover
  | [] => []
  | op :: rest =>
    op.handovers (path ++ [.index index]) v ++
      match op.apply v with
      | .ok w => sequenceHandovers path w (index + 1) rest
      | .error _ => []

/-- What is handed over in branches, the first of which has the given number: a branch is tried
when those before it have failed. -/
def branchHandovers (path : List PathStep) (v : Value) (number : Nat) :
    List (List Operation) → List Handover
  | [] => []
  | branch :: rest =>
    sequenceHandovers (path ++ [.branch number]) v 0 branch ++
      match run v branch with
      | .ok _ => []
      | .error _ => branchHandovers path v (number + 1) rest

end

/-- What a run of the operations on a value hands over. -/
def handovers (v : Value) (ops : List Operation) : List Handover := sequenceHandovers [] v 0 ops

/-! ## Analyses -/

mutual

/-- What the analysis looks at when it follows the shapes through the operation at `path`. -/
def Operation.visits (keys : List Text) (path : List PathStep) (shapes : Shapes) :
    Operation → List Visit
  | .decode _ => [⟨path, shapes⟩]
  | .lookup _ => [⟨path, shapes⟩]
  | .alternation branches => ⟨path, shapes⟩ :: branchVisits keys path shapes 0 branches

/-- What the analysis looks at in a sequence, up to its first problem. -/
def sequenceVisits (keys : List Text) (path : List PathStep) (shapes : Shapes) (index : Nat) :
    List Operation → List Visit
  | [] => []
  | op :: rest =>
    op.visits keys (path ++ [.index index]) shapes ++
      match op.report keys (path ++ [.index index]) shapes with
      | (first, true) => sequenceVisits keys path first.shapes (index + 1) rest
      | (_, false) => []

/-- What the analysis looks at in branches, all of which it follows. -/
def branchVisits (keys : List Text) (path : List PathStep) (shapes : Shapes) (number : Nat) :
    List (List Operation) → List Visit
  | [] => []
  | branch :: rest =>
    sequenceVisits keys (path ++ [.branch number]) shapes 0 branch ++
      branchVisits keys path shapes (number + 1) rest

end

/-- What the analysis of the operations looks at. -/
def shapeVisits (keys : List Text) (shapes : Shapes) (ops : List Operation) : List Visit :=
  sequenceVisits keys [] shapes 0 ops

/-! ## Reaching operations -/

/-- An operation of a sequence is reached with the result of those before it. -/
theorem mem_sequenceHandovers {path : List PathStep} {h : Handover} :
    ∀ {ops : List Operation} {v : Value} {index : Nat},
    h ∈ sequenceHandovers path v index ops ↔ ∃ before op after w, ops = before ++ op :: after ∧
      run v before = .ok w ∧ h ∈ op.handovers (path ++ [.index (index + before.length)]) w
  | [], v, index => by simp [sequenceHandovers]
  | op :: rest, v, index => by
    rw [sequenceHandovers, List.mem_append]
    constructor
    · intro hyp
      rcases hyp with hh | hh
      · exact ⟨[], op, rest, v, rfl, rfl, hh⟩
      · cases hw : op.apply v with
        | error failure => simp [hw] at hh
        | ok w =>
          simp only [hw] at hh
          obtain ⟨before, op', after, u, rfl, hr, hh⟩ := mem_sequenceHandovers.mp hh
          refine ⟨op :: before, op', after, u, rfl, ?_, ?_⟩
          · simp only [run, hw, hr]
          · rwa [List.length_cons, Nat.add_comm before.length, ← Nat.add_assoc]
    · intro hyp
      obtain ⟨before, op', after, u, ho, hr, hh⟩ := hyp
      cases before with
      | nil =>
        cases ho
        cases hr
        exact .inl hh
      | cons b before =>
        cases ho
        rw [run] at hr
        refine .inr ?_
        cases hw : op.apply v with
        | error failure => simp [hw] at hr
        | ok w =>
          simp only [hw] at hr ⊢
          refine mem_sequenceHandovers.mpr ⟨before, op', after, u, rfl, hr, ?_⟩
          rwa [List.length_cons, Nat.add_comm before.length, ← Nat.add_assoc] at hh

/-- A branch is tried when those before it have failed. -/
theorem mem_branchHandovers {path : List PathStep} {v : Value} {h : Handover} :
    ∀ {branches : List (List Operation)} {number : Nat},
    h ∈ branchHandovers path v number branches ↔
      ∃ before branch after, branches = before ++ branch :: after ∧
        (∀ b ∈ before, ∃ failure, run v b = .error failure) ∧
        h ∈ sequenceHandovers (path ++ [.branch (number + before.length)]) v 0 branch
  | [], number => by simp [branchHandovers]
  | branch :: rest, number => by
    rw [branchHandovers, List.mem_append]
    constructor
    · intro hyp
      rcases hyp with hh | hh
      · exact ⟨[], branch, rest, rfl, by simp, hh⟩
      · cases hf : run v branch with
        | ok w => simp [hf] at hh
        | error failure =>
          simp only [hf] at hh
          obtain ⟨before, branch', after, rfl, hb, hh⟩ := mem_branchHandovers.mp hh
          refine ⟨branch :: before, branch', after, rfl, ?_, ?_⟩
          · intro b hm
            rcases List.mem_cons.mp hm with he | hm
            · exact ⟨failure, he ▸ hf⟩
            · exact hb b hm
          · rwa [List.length_cons, Nat.add_comm before.length, ← Nat.add_assoc]
    · intro hyp
      obtain ⟨before, branch', after, ho, hb, hh⟩ := hyp
      cases before with
      | nil =>
        cases ho
        exact .inl hh
      | cons b before =>
        cases ho
        obtain ⟨failure, hf⟩ := hb branch List.mem_cons_self
        refine .inr ?_
        simp only [hf]
        refine mem_branchHandovers.mpr ⟨before, branch', after, rfl,
          fun c hc => hb c (List.mem_cons_of_mem _ hc), ?_⟩
        rwa [List.length_cons, Nat.add_comm before.length, ← Nat.add_assoc] at hh

/-- The path of the problem is that of one of the visits. -/
def ShapeProblem.IsVisited (visits : List Visit) (p : ShapeProblem) : Prop :=
  ∃ s, ⟨p.path, s⟩ ∈ visits

mutual

/-- The analysis complains only of operations that it looks at. -/
theorem Operation.report_visited (keys : List Text) : ∀ (op : Operation) (path : List PathStep)
    (s : Shapes), ∀ p ∈ (op.report keys path s).1.problems, p.IsVisited (op.visits keys path s)
  | .decode kind, path, s => by
    intro p hp
    simp only [Operation.report] at hp
    split at hp
    · simp at hp
    · cases List.mem_singleton.mp hp
      exact ⟨s, List.mem_singleton_self _⟩
  | .lookup selector, path, s => by
    intro p hp
    simp only [Operation.report] at hp
    split at hp
    · cases List.mem_singleton.mp hp
      exact ⟨s, List.mem_singleton_self _⟩
    · simp at hp
  | .alternation [], path, s => by
    intro p hp
    cases List.mem_singleton.mp hp
    exact ⟨s, List.mem_cons_self⟩
  | .alternation (branch :: rest), path, s => by
    intro p hp
    obtain ⟨t, ht⟩ := branchReports_visited keys (branch :: rest) path s 0 p hp
    exact ⟨t, List.mem_cons_of_mem _ ht⟩

theorem sequenceReport_visited (keys : List Text) : ∀ (ops : List Operation)
    (path : List PathStep) (s : Shapes) (index : Nat),
    ∀ p ∈ (sequenceReport keys path s index ops).problems,
      p.IsVisited (sequenceVisits keys path s index ops)
  | [], _, _, _ => by simp [sequenceReport]
  | op :: rest, path, s, index => by
    intro p hp
    have ho := op.report_visited keys (path ++ [.index index]) s p
    rw [sequenceReport] at hp
    rw [sequenceVisits]
    obtain ⟨⟨first, goesOn⟩, hf⟩ : ∃ r, op.report keys (path ++ [.index index]) s = r := ⟨_, rfl⟩
    cases goesOn with
    | true =>
      simp only [hf] at hp ho ⊢
      rcases List.mem_append.mp hp with hp | hp
      · obtain ⟨t, ht⟩ := ho hp
        exact ⟨t, List.mem_append_left _ ht⟩
      · obtain ⟨t, ht⟩ := sequenceReport_visited keys rest path first.shapes (index + 1) p hp
        exact ⟨t, List.mem_append_right _ ht⟩
    | false =>
      simp only [hf] at hp ho ⊢
      obtain ⟨t, ht⟩ := ho hp
      exact ⟨t, List.mem_append_left _ ht⟩

theorem branchReports_visited (keys : List Text) : ∀ (branches : List (List Operation))
    (path : List PathStep) (s : Shapes) (number : Nat),
    ∀ p ∈ (branchReports keys path s number branches).problems,
      p.IsVisited (branchVisits keys path s number branches)
  | [], _, _, _ => by simp [branchReports]
  | branch :: rest, path, s, number => by
    intro p hp
    simp only [branchReports, branchVisits] at hp ⊢
    rcases List.mem_append.mp hp with hp | hp
    · obtain ⟨t, ht⟩ := sequenceReport_visited keys branch _ s 0 p hp
      exact ⟨t, List.mem_append_left _ ht⟩
    · obtain ⟨t, ht⟩ := branchReports_visited keys rest path s (number + 1) p hp
      exact ⟨t, List.mem_append_right _ ht⟩

end

/-! ## Paths of visits -/

mutual

theorem Operation.visits_path (keys : List Text) : ∀ (op : Operation) (path : List PathStep)
    (shapes : Shapes), ∀ x ∈ op.visits keys path shapes, path <+: x.path
  | .decode _, path, shapes => by
    intro x hx
    simp only [Operation.visits, List.mem_singleton] at hx
    subst hx
    exact List.prefix_rfl
  | .lookup _, path, shapes => by
    intro x hx
    simp only [Operation.visits, List.mem_singleton] at hx
    subst hx
    exact List.prefix_rfl
  | .alternation branches, path, shapes => by
    intro x hx
    simp only [Operation.visits, List.mem_cons] at hx
    rcases hx with rfl | hx
    · exact List.prefix_rfl
    · obtain ⟨n, _, hn⟩ := branchVisits_path keys branches path shapes 0 x hx
      exact (List.prefix_append _ _).trans hn

/-- The visits of a sequence stand below its operations, none of which comes before `index`. -/
theorem sequenceVisits_path (keys : List Text) : ∀ (ops : List Operation) (path : List PathStep)
    (shapes : Shapes) (index : Nat), ∀ x ∈ sequenceVisits keys path shapes index ops,
    ∃ n, index ≤ n ∧ path ++ [.index n] <+: x.path
  | [], _, _, _ => by simp [sequenceVisits]
  | op :: rest, path, shapes, index => by
    intro x hx
    simp only [sequenceVisits, List.mem_append] at hx
    rcases hx with hx | hx
    · exact ⟨index, Nat.le_refl _, op.visits_path keys _ _ x hx⟩
    · split at hx
      · obtain ⟨n, hn, hp⟩ := sequenceVisits_path keys rest path _ (index + 1) x hx
        exact ⟨n, by omega, hp⟩
      · simp at hx

theorem branchVisits_path (keys : List Text) : ∀ (branches : List (List Operation))
    (path : List PathStep) (shapes : Shapes) (number : Nat),
    ∀ x ∈ branchVisits keys path shapes number branches,
    ∃ n, number ≤ n ∧ path ++ [.branch n] <+: x.path
  | [], _, _, _ => by simp [branchVisits]
  | branch :: rest, path, shapes, number => by
    intro x hx
    simp only [branchVisits, List.mem_append] at hx
    rcases hx with hx | hx
    · obtain ⟨n, _, hp⟩ := sequenceVisits_path keys branch _ shapes 0 x hx
      exact ⟨number, Nat.le_refl _, (List.prefix_append _ _).trans hp⟩
    · obtain ⟨n, hn, hp⟩ := branchVisits_path keys rest path shapes (number + 1) x hx
      exact ⟨n, by omega, hp⟩

end

theorem step_unique {path place : List PathStep} {a b : PathStep} (ha : path ++ [a] <+: place)
    (hb : path ++ [b] <+: place) : a = b := by
  obtain ⟨s, rfl⟩ := ha
  rw [List.append_assoc] at hb
  have h : [b] <+: [a] ++ s := (List.prefix_append_right_inj path).mp hb
  simp only [List.singleton_append, List.cons_prefix_cons] at h
  exact h.1.symm

theorem not_step_prefix_self (path : List PathStep) (a : PathStep) : ¬ path ++ [a] <+: path := by
  intro h
  have hl := h.length_le
  rw [List.length_append, List.length_singleton] at hl
  omega

/-- No two of the visits are of one operation. -/
def Distinct (visits : List Visit) : Prop := visits.Pairwise fun x y => x.path ≠ y.path

mutual

theorem Operation.visits_distinct (keys : List Text) : ∀ (op : Operation) (path : List PathStep)
    (shapes : Shapes), Distinct (op.visits keys path shapes)
  | .decode _, _, _ => List.pairwise_singleton _ _
  | .lookup _, _, _ => List.pairwise_singleton _ _
  | .alternation branches, path, shapes => by
    simp only [Operation.visits]
    refine List.pairwise_cons.mpr ⟨?_, branchVisits_distinct keys branches path shapes 0⟩
    -- What is visited in a branch stands below the alternation, not at it.
    intro x hx heq
    obtain ⟨n, _, hn⟩ := branchVisits_path keys branches path shapes 0 x hx
    rw [← heq] at hn
    exact not_step_prefix_self path _ hn

theorem sequenceVisits_distinct (keys : List Text) : ∀ (ops : List Operation)
    (path : List PathStep) (shapes : Shapes) (index : Nat),
    Distinct (sequenceVisits keys path shapes index ops)
  | [], _, _, _ => List.Pairwise.nil
  | op :: rest, path, shapes, index => by
    simp only [sequenceVisits]
    refine List.pairwise_append.mpr ⟨op.visits_distinct keys _ _, ?_, ?_⟩
    · split
      · exact sequenceVisits_distinct keys rest path _ (index + 1)
      · exact List.Pairwise.nil
    · -- A place below two operations of the sequence would make their indices equal.
      intro x hx y hy heq
      split at hy
      · have hx := op.visits_path keys _ _ x hx
        obtain ⟨n, hn, hy⟩ := sequenceVisits_path keys rest path _ (index + 1) y hy
        rw [heq] at hx
        have hi : PathStep.index index = .index n := step_unique hx hy
        simp only [PathStep.index.injEq] at hi
        omega
      · simp at hy

theorem branchVisits_distinct (keys : List Text) : ∀ (branches : List (List Operation))
    (path : List PathStep) (shapes : Shapes) (number : Nat),
    Distinct (branchVisits keys path shapes number branches)
  | [], _, _, _ => List.Pairwise.nil
  | branch :: rest, path, shapes, number => by
    simp only [branchVisits]
    refine List.pairwise_append.mpr ⟨sequenceVisits_distinct keys branch _ shapes 0,
      branchVisits_distinct keys rest path shapes (number + 1), ?_⟩
    intro x hx y hy heq
    obtain ⟨m, _, hx⟩ := sequenceVisits_path keys branch _ shapes 0 x hx
    obtain ⟨n, hn, hy⟩ := branchVisits_path keys rest path shapes (number + 1) y hy
    have hx := (List.prefix_append _ _).trans hx
    rw [heq] at hx
    have hb : PathStep.branch number = .branch n := step_unique hx hy
    simp only [PathStep.branch.injEq] at hb
    omega

end

/-- The analysis holds one set of shapes at an operation. -/
theorem shapeVisits_functional {keys : List Text} {shapes : Shapes} {ops : List Operation}
    {path : List PathStep} {s t : Shapes} (hs : ⟨path, s⟩ ∈ shapeVisits keys shapes ops)
    (ht : ⟨path, t⟩ ∈ shapeVisits keys shapes ops) : t = s := by
  have hd : Distinct (shapeVisits keys shapes ops) := sequenceVisits_distinct keys ops [] shapes 0
  have h : Visit.mk path t = Visit.mk path s :=
    List.inj_on_of_nodup_map (List.pairwise_map.mpr hd) ht hs rfl
  exact congrArg Visit.shapes h

end RequestCredentials
