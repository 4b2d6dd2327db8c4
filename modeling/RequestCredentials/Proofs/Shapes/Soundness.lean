import RequestCredentials.Proofs.Evaluation.Success
import RequestCredentials.Proofs.Shapes.Trace
/-
  Soundness of the shape analysis

  A set of shapes stands for the values that have one of them. The analysis is
  sound for a run when each operation that the run reaches is looked at with a
  set that holds the shape of the value handed over, and the shapes that the
  analysis says can come out hold the shape of the result.

  The analysis ends a sequence at an operation that it thinks hopeless. Two of
  the three reasons for that are reasons of the run too: a decoding that no
  text reaches and an alternation without branches have no result. The third,
  a key that is not among the accepted ones, is not: the lookup may succeed,
  and only the search for an accepted key after it is in vain. So soundness is
  stated for analyses that give no such reason (`MissesNoKey`).

  What is proved:
    1. `Operation.report_sound`, `sequenceReport_sound`, `branchReports_sound`
       — soundness for an operation, a sequence and branches at any place;
    2. `shapeReport_sound` — soundness for whole runs, and the failure of every
       run for which the analysis says that nothing can come out.
-/

namespace RequestCredentials

/-- None of the problems is a key that is not among the accepted ones. -/
def MissesNoKey (problems : List ShapeProblem) : Prop :=
  ∀ p ∈ problems, ∀ selector keys, p.cause ≠ .neverKey selector keys

theorem missesNoKey_append {first second : List ShapeProblem} :
    MissesNoKey (first ++ second) ↔ MissesNoKey first ∧ MissesNoKey second := by
  simp only [MissesNoKey, List.mem_append]
  constructor
  · intro h
    exact ⟨fun p hp => h p (.inl hp), fun p hp => h p (.inr hp)⟩
  · intro h p hp
    rcases hp with hp | hp
    · exact h.1 p hp
    · exact h.2 p hp

/-- Every operation that is handed a value is visited with the shape of that value. -/
def Covers (visits : List Visit) (handed : List Handover) : Prop :=
  ∀ h ∈ handed, ∃ s : Shapes, ⟨h.path, s⟩ ∈ visits ∧ s.has h.value.shape

theorem covers_nil (visits : List Visit) : Covers visits [] := by simp [Covers]

theorem Covers.append {visits visits' : List Visit} {handed handed' : List Handover}
    (h : Covers visits handed) (h' : Covers visits' handed') :
    Covers (visits ++ visits') (handed ++ handed') := by
  intro x hx
  rcases List.mem_append.mp hx with hx | hx
  · obtain ⟨s, hs, hx⟩ := h x hx
    exact ⟨s, List.mem_append_left _ hs, hx⟩
  · obtain ⟨s, hs, hx⟩ := h' x hx
    exact ⟨s, List.mem_append_right _ hs, hx⟩

theorem Covers.cons {visits : List Visit} {handed : List Handover} {path : List PathStep}
    {s : Shapes} {v : Value} (hv : s.has v.shape) (h : Covers visits handed) :
    Covers (⟨path, s⟩ :: visits) (⟨path, v⟩ :: handed) := by
  intro x hx
  rcases List.mem_cons.mp hx with rfl | hx
  · exact ⟨s, List.mem_cons_self, hv⟩
  · obtain ⟨t, ht, hx⟩ := h x hx
    exact ⟨t, List.mem_cons_of_mem _ ht, hx⟩

/-! ## Sets of shapes -/

theorem Shapes.has_union {s t : Shapes} {x : Shape} :
    (s.union t).has x = (s.has x || t.has x) := by cases x <;> rfl

theorem Shapes.not_has_empty (x : Shape) : ¬ Shapes.empty.has x := by cases x <;> simp [has, empty]

theorem Shapes.eq_onlyText {s : Shapes} {x : Shape} (h : s = .onlyText) (hx : s.has x) :
    x = .text := by
  subst h
  cases x <;> simp [has, onlyText] at hx ⊢

/-! ## Single operations -/

/-- A lookup leaves a text as it is, and where other values can come nothing is excluded. -/
theorem lookup_shape {s : Shapes} {v w : Value} {selector : Selector} (hv : s.has v.shape)
    (h : v.lookup selector = .ok (.ok w)) :
    (if s = .onlyText then Shapes.onlyText else .any).has w.shape := by
  split
  · next hs =>
    have hv := Shapes.eq_onlyText hs hv
    cases v with
    | text c => rw [lookup_text_ok h]; rfl
    | list items => simp [Value.shape] at hv
    | struct entries => simp [Value.shape] at hv
  · exact Shapes.has_any _

/-- What the analysis says of one operation holds when the operation is applied: it is no hopeless
one, and the result has a shape that can come out. -/
def Operation.Foretold (keys : List Text) (path : List PathStep) (s : Shapes) (v : Value)
    (op : Operation) : Prop :=
  ∀ w, op.apply v = .ok w → ∃ report, op.report keys path s = (report, true) ∧
    report.shapes.has w.shape

theorem decode_foretold (keys : List Text) (path : List PathStep) {s : Shapes} {v : Value}
    (kind : DecodeKind) (hv : s.has v.shape) : (Operation.decode kind).Foretold keys path s v := by
  intro w hw
  obtain ⟨c, data, rfl, _, hw⟩ := decode_eq_ok.mp (settle_eq_ok.mp hw)
  have ht : s.text = true := hv
  exact ⟨_, by simp [Operation.report, ht]; rfl, DecodeKind.yields_decodeBytes hw⟩

theorem lookup_foretold (keys : List Text) (path : List PathStep) {s : Shapes} {v : Value}
    (selector : Selector) (hv : s.has v.shape)
    (hk : MissesNoKey ((Operation.lookup selector).report keys path s).1.problems) :
    (Operation.lookup selector).Foretold keys path s v := by
  intro w hw
  have hw := settle_eq_ok.mp hw
  simp only [Operation.report] at hk ⊢
  split at hk
  · exact absurd rfl (hk _ (List.mem_singleton_self _) selector keys)
  · next hm => exact ⟨_, by rw [if_neg hm], lookup_shape hv hw⟩

/-! ## Sequences and branches -/

theorem sequenceReport_head (keys : List Text) (op : Operation) (rest : List Operation)
    (path : List PathStep) (s : Shapes) (index : Nat)
    (hk : MissesNoKey (sequenceReport keys path s index (op :: rest)).problems) :
    MissesNoKey (op.report keys (path ++ [.index index]) s).1.problems := by
  simp only [sequenceReport] at hk
  split at hk
  · next h => rw [h]; exact (missesNoKey_append.mp hk).1
  · next h => rw [h]; exact hk

mutual

theorem Operation.report_sound (keys : List Text) : ∀ (op : Operation) (path : List PathStep)
    (s : Shapes) (v : Value), s.has v.shape →
    MissesNoKey (op.report keys path s).1.problems →
    Covers (op.visits keys path s) (op.handovers path v) ∧ op.Foretold keys path s v
  | .decode kind, path, s, v, hv, _ =>
    ⟨Covers.cons hv (covers_nil _), decode_foretold keys path kind hv⟩
  | .lookup selector, path, s, v, hv, hk =>
    ⟨Covers.cons hv (covers_nil _), lookup_foretold keys path selector hv hk⟩
  | .alternation [], path, s, v, hv, _ => by
    refine ⟨Covers.cons hv (covers_nil _), ?_⟩
    intro w hw
    simp [Operation.apply, firstSuccess] at hw
  | .alternation (branch :: rest), path, s, v, hv, hk => by
    obtain ⟨hc, hr⟩ := branchReports_sound keys (branch :: rest) path s 0 v hv hk
    refine ⟨Covers.cons hv hc, ?_⟩
    intro w hw
    refine ⟨_, rfl, hr w ?_⟩
    simp only [Operation.apply] at hw
    split at hw <;> simp_all

theorem sequenceReport_sound (keys : List Text) : ∀ (ops : List Operation)
    (path : List PathStep) (s : Shapes) (index : Nat) (v : Value), s.has v.shape →
    MissesNoKey (sequenceReport keys path s index ops).problems →
    Covers (sequenceVisits keys path s index ops) (sequenceHandovers path v index ops) ∧
      ∀ w, run v ops = .ok w → (sequenceReport keys path s index ops).shapes.has w.shape
  | [], path, s, index, v, hv, _ => by
    refine ⟨covers_nil _, ?_⟩
    intro w hw
    cases hw
    exact hv
  | op :: rest, path, s, index, v, hv, hk => by
    have hko := sequenceReport_head keys op rest path s index hk
    obtain ⟨hco, hfo⟩ := op.report_sound keys (path ++ [.index index]) s v hv hko
    simp only [sequenceVisits, sequenceHandovers, run]
    cases ha : op.apply v with
    | error failure => exact ⟨hco.append (covers_nil _), by simp⟩
    | ok w =>
      -- An operation that succeeds was not thought hopeless, so the analysis goes on as well.
      obtain ⟨report, hr, hw⟩ := hfo w ha
      simp only [sequenceReport, hr] at hk ⊢
      obtain ⟨hca, hra⟩ := sequenceReport_sound keys rest path report.shapes (index + 1) w hw
        (missesNoKey_append.mp hk).2
      exact ⟨hco.append hca, hra⟩

theorem branchReports_sound (keys : List Text) : ∀ (branches : List (List Operation))
    (path : List PathStep) (s : Shapes) (number : Nat) (v : Value), s.has v.shape →
    MissesNoKey (branchReports keys path s number branches).problems →
    Covers (branchVisits keys path s number branches) (branchHandovers path v number branches) ∧
      ∀ w, firstSuccess v branches = .ok w →
        (branchReports keys path s number branches).shapes.has w.shape
  | [], path, s, number, v, _, _ => by
    refine ⟨covers_nil _, ?_⟩
    intro w hw
    simp [firstSuccess] at hw
  | branch :: rest, path, s, number, v, hv, hk => by
    simp only [branchReports] at hk ⊢
    obtain ⟨hkb, hkr⟩ := missesNoKey_append.mp hk
    obtain ⟨hcb, hrb⟩ := sequenceReport_sound keys branch (path ++ [.branch number]) s 0 v hv hkb
    obtain ⟨hcr, hrr⟩ := branchReports_sound keys rest path s (number + 1) v hv hkr
    simp only [branchVisits, branchHandovers, firstSuccess, Shapes.has_union, Bool.or_eq_true]
    cases hb : run v branch with
    | ok u =>
      -- The later branches are handed nothing, although the analysis looks at them.
      refine ⟨hcb.append (covers_nil _), ?_⟩
      intro w hw
      cases hw
      exact .inl (hrb u hb)
    | error failure =>
      refine ⟨hcb.append hcr, ?_⟩
      intro w hw
      exact .inr (hrr w (mapError_eq_ok.mp hw))

end

/-! ## Whole runs -/

/-- **Soundness of the analysis.** Let a run start on a value whose shape is among the given ones,
and let the analysis complain of no key. Then each operation that is handed a value is visited with
one set of shapes, and the value has one of them; the result has a shape that can come out; and a
run from which nothing can come out fails. -/
theorem shapeReport_sound (keys : List Text) (shapes : Shapes) (ops : List Operation) (v : Value)
    (hv : shapes.has v.shape) (hk : MissesNoKey (shapeReport keys shapes ops).problems) :
    (∀ h ∈ handovers v ops, ∃ s : Shapes, s.has h.value.shape ∧
      ∀ t, ⟨h.path, t⟩ ∈ shapeVisits keys shapes ops ↔ t = s) ∧
    (∀ w, run v ops = .ok w → (shapeReport keys shapes ops).shapes.has w.shape) ∧
    ((shapeReport keys shapes ops).shapes = .empty → ∃ failure, run v ops = .error failure) := by
  obtain ⟨hc, hr⟩ := sequenceReport_sound keys ops [] shapes 0 v hv hk
  refine ⟨?_, hr, ?_⟩
  · intro h hh
    obtain ⟨s, hs, hh⟩ := hc h hh
    exact ⟨s, hh, fun t => ⟨shapeVisits_functional hs, fun ht => ht ▸ hs⟩⟩
  · intro he
    cases hw : run v ops with
    | error failure => exact ⟨failure, rfl⟩
    | ok w => exact absurd (he ▸ hr w hw) (Shapes.not_has_empty _)

/-- Data in pairs, or a text in Base64 that must be the key. -/
def pairsOrKey : List Operation :=
  [.alternation [[.decode .pairs, .lookup (.position (.int 0))],
    [.decode .base64, .lookup (.key "k")]]]

/-- The analysis holds the text that the lookup in the second branch is handed, and the text that
comes out. -/
theorem shapeReport_sound_pairsOrKey :
    Shapes.onlyText.has (Value.text (.chars "aw==")).shape ∧
      MissesNoKey (shapeReport ["k"] .onlyText pairsOrKey).problems ∧
      (∃ s : Shapes, s.has .text ∧ ∀ t, ⟨[.index 0, .branch 1, .index 1], t⟩ ∈
        shapeVisits ["k"] .onlyText pairsOrKey ↔ t = s) ∧
      (shapeReport ["k"] .onlyText pairsOrKey).shapes.has .text := by
  have hk : MissesNoKey (shapeReport ["k"] .onlyText pairsOrKey).problems := by
    have h : (shapeReport ["k"] .onlyText pairsOrKey).problems = [] := rfl
    simp [MissesNoKey, h]
  obtain ⟨hc, hr, _⟩ := shapeReport_sound ["k"] .onlyText pairsOrKey (.text (.chars "aw==")) rfl hk
  have hh : ⟨[.index 0, .branch 1, .index 1], .text (.bytes [0x6B])⟩ ∈
      handovers (.text (.chars "aw==")) pairsOrKey := by
    have h : handovers (.text (.chars "aw==")) pairsOrKey =
        [⟨[.index 0], .text (.chars "aw==")⟩,
          ⟨[.index 0, .branch 0, .index 0], .text (.chars "aw==")⟩,
          ⟨[.index 0, .branch 1, .index 0], .text (.chars "aw==")⟩,
          ⟨[.index 0, .branch 1, .index 1], .text (.bytes [0x6B])⟩] := rfl
    simp [h]
  exact ⟨rfl, hk, hc _ hh, hr (.text (.bytes [0x6B])) rfl⟩

end RequestCredentials
