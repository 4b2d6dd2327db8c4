import RequestCredentials.Proofs.Shapes.Soundness
import RequestCredentials.Proofs.Evaluation.Alike
import RequestCredentials.Proofs.Encoding.Encodable
/-
  Dismissed lookups — when a key that is not accepted is rightly refused

  Where the accepted keys are known, the analysis dismisses a lookup that can
  only see text if its key is not one of them: the text that passes is the key
  itself, which no accepted key is. But the text that passes is not yet the
  final value. What follows may decode it, and the key of a dismissed lookup
  may well be the Base64 of an accepted one.

  What is proved:
    1. `dismissal_splits` — a dismissed lookup stands in the sequence, and
       those before it let only text out, as far as the analysis knows;
    2. `onlyText_arrives` — nothing but text gets to a dismissed lookup, unless
       a lookup in an alternation before it is dismissed too;
    3. `dismissal_right_iff` — a sequence is rightly refused exactly when what
       follows the lookup makes nothing acceptable of its key, and of no part
       of a list or struct that the analysis did not expect there;
    4. `dismissal_right_of_undecoded` — it is rightly refused when nothing that
       follows decodes, which is the case that the refusal has in mind.
-/

namespace RequestCredentials

variable {keys : List Text} {ops : List Operation} {i : Nat} {selector : Selector}

/-- The operations yield no credential on the value: they fail, or their result carries no string
for the keys. -/
def Fruitless (keys : List Text) (ops : List Operation) (v : Value) : Prop :=
  ∀ w, run v ops = .ok w → acceptedString? keys w = .ok none

/-- The analysis of a sequence that starts on text dismisses the lookup at `i`. -/
def Dismisses (keys : List Text) (ops : List Operation) (i : Nat) (selector : Selector) : Prop :=
  ⟨[.index i], .neverKey selector keys⟩ ∈ (shapeReport keys .onlyText ops).problems

/-! ## Fruitless sequences -/

theorem fruitless_append {first second : List Operation} {v : Value} :
    Fruitless keys (first ++ second) v ↔
      ∀ w, run v first = .ok w → Fruitless keys second w := by
  simp only [Fruitless, run_append]
  cases run v first with
  | ok w => simp
  | error failure => simp

theorem fruitless_lookup {rest : List Operation} {v : Value} :
    Fruitless keys (.lookup selector :: rest) v ↔
      ∀ w, v.lookup selector = .ok (.ok w) → Fruitless keys rest w := by
  simp only [Fruitless, run, Operation.apply, ← @settle_eq_ok .lookup]
  cases settle .lookup (v.lookup selector) with
  | ok w => simp
  | error failure => simp

theorem fruitless_congr {v w : Value} (h : Value.Alike v w) :
    Fruitless keys ops v ↔ Fruitless keys ops w := by
  have hrun := run_alike ops h
  unfold Fruitless
  generalize run v ops = result, run w ops = result' at hrun ⊢
  cases hrun with
  | ok hr => simp [acceptedString_alike hr]
  | error failure => simp

theorem fruitless_of_spells {d : Content} {name : Text} (h : d.spells name = .ok true) :
    Fruitless keys ops (.text d) ↔ Fruitless keys ops (.text (.chars name)) :=
  -- No operation sees more of a text than its bytes.
  fruitless_congr (.text (Content.alike_of_spells h))

/-! ## Dismissed lookups -/

theorem Operation.report_neverKey {op : Operation} {path : List PathStep} {s : Shapes}
    {declared : List Text}
    (h : ⟨path, .neverKey selector declared⟩ ∈ (op.report keys path s).1.problems) :
    op = .lookup selector ∧ missesKeys keys s selector := by
  cases op with
  | decode kind =>
    simp only [Operation.report] at h
    split at h <;> simp at h
  | lookup selector' =>
    simp only [Operation.report] at h
    split at h
    · next hm =>
      simp only [List.mem_singleton, ShapeProblem.mk.injEq, Hopeless.neverKey.injEq] at h
      obtain ⟨_, rfl, _⟩ := h
      exact ⟨rfl, hm⟩
    · simp at h
  | alternation branches =>
    cases branches with
    | nil => simp [Operation.report] at h
    | cons branch rest =>
      -- The problems of a branch are told of places below the alternation.
      obtain ⟨t, ht⟩ := branchReports_visited keys (branch :: rest) path s 0 _ h
      obtain ⟨n, _, hn⟩ := branchVisits_path keys (branch :: rest) path s 0 _ ht
      exact absurd hn (not_step_prefix_self path _)

/-- A dismissed operation of a sequence is a lookup there that misses the keys, on the shapes that
come out of the operations before it. -/
theorem sequenceReport_neverKey (path : List PathStep) {declared : List Text} :
    ∀ {ops : List Operation} {s : Shapes} {index : Nat},
    ⟨path ++ [.index i], .neverKey selector declared⟩ ∈
      (sequenceReport keys path s index ops).problems →
    ∃ before after, ops = before ++ .lookup selector :: after ∧ index + before.length = i ∧
      missesKeys keys (sequenceReport keys path s index before).shapes selector
  | [], s, index, h => by simp [sequenceReport] at h
  | op :: rest, s, index, h => by
    obtain ⟨⟨first, goesOn⟩, hf⟩ : ∃ r, op.report keys (path ++ [.index index]) s = r := ⟨_, rfl⟩
    by_cases hfirst : ⟨path ++ [.index i], .neverKey selector declared⟩ ∈ first.problems
    · have ho := hfirst
      rw [show first = (op.report keys (path ++ [.index index]) s).1 by rw [hf]] at ho
      obtain ⟨t, ht⟩ := op.report_visited keys _ s _ ho
      have hi : PathStep.index index = .index i :=
        step_unique (op.visits_path keys _ s _ ht) List.prefix_rfl
      cases hi
      obtain ⟨rfl, hm⟩ := Operation.report_neverKey ho
      exact ⟨[], rest, rfl, rfl, hm⟩
    · cases goesOn with
      | false => simp [sequenceReport, hf, hfirst] at h
      | true =>
        simp only [sequenceReport, hf, List.mem_append, hfirst, false_or] at h
        obtain ⟨before, after, rfl, hi, hm⟩ := sequenceReport_neverKey path h
        refine ⟨op :: before, after, rfl, ?_, ?_⟩
        · rw [List.length_cons]
          omega
        · simpa only [sequenceReport, hf] using hm

theorem Dismisses.place (h : Dismisses keys ops i selector) :
    ops = ops.take i ++ .lookup selector :: ops.drop (i + 1) ∧
      missesKeys keys (shapeReport keys .onlyText (ops.take i)).shapes selector := by
  obtain ⟨before, after, rfl, hi, hm⟩ := sequenceReport_neverKey [] h
  have hi : i = before.length := by omega
  subst hi
  simpa [List.drop_append, shapeReport] using hm

theorem of_missesKeys {s : Shapes} (h : missesKeys keys s selector) :
    keys ≠ [] ∧ s = .onlyText := by
  cases selector <;> simp_all [missesKeys]

theorem lookup_text_missesKeys {s : Shapes} {c : Content} {w : Value}
    (hm : missesKeys keys s selector) (h : (Value.text c).lookup selector = .ok (.ok w)) :
    ∃ name, selector = .key name ∧ name ∉ keys ∧ c.spells name = .ok true := by
  cases selector with
  | position index => simp [missesKeys] at hm
  | otherKey part =>
    simp only [Value.lookup, naming_eq_ok, Value.lookupOtherKey] at h
    split at h <;> simp at h
  | key name =>
    refine ⟨name, rfl, by simp_all [missesKeys], ?_⟩
    simp only [Value.lookup, Value.lookupKey] at h
    split at h <;> simp_all

/-! ## What gets to a dismissed lookup -/

/-- The operations before the one at `i` turn some text into the value. -/
def Arrives (ops : List Operation) (i : Nat) (v : Value) : Prop :=
  ∃ c, run (.text c) (ops.take i) = .ok v

/-- A sequence is fruitless when what follows the dismissed lookup is, on all that the lookup finds
in the values that get there. -/
theorem dismissal_splits (h : Dismisses keys ops i selector) :
    (∀ c, Fruitless keys ops (.text c)) ↔ ∀ v w, Arrives ops i v →
      v.lookup selector = .ok (.ok w) → Fruitless keys (ops.drop (i + 1)) w := by
  calc (∀ c, Fruitless keys ops (.text c))
      ↔ ∀ c, Fruitless keys (ops.take i ++ .lookup selector :: ops.drop (i + 1)) (.text c) := by
        rw [← h.place.1]
    _ ↔ ∀ c v, run (.text c) (ops.take i) = .ok v → ∀ w, v.lookup selector = .ok (.ok w) →
          Fruitless keys (ops.drop (i + 1)) w := by
        simp only [fruitless_append, fruitless_lookup]
    _ ↔ _ := by
        refine ⟨?_, fun hyp c v hv w hw => hyp v w ⟨c, hv⟩ hw⟩
        intro hyp v w harrives hw
        obtain ⟨c, hv⟩ := harrives
        exact hyp c v hv w hw

/-- Nothing but text gets to a dismissed lookup, if none in an alternation before it is dismissed:
the analysis gives up the results of a branch that it dismisses. -/
theorem onlyText_arrives (h : Dismisses keys ops i selector)
    (hk : MissesNoKey (shapeReport keys .onlyText (ops.take i)).problems) {v : Value}
    (hv : Arrives ops i v) : v.shape = .text := by
  obtain ⟨c, hv⟩ := hv
  have hout := (sequenceReport_sound keys (ops.take i) [] .onlyText 0 (.text c) rfl hk).2 v hv
  exact Shapes.eq_onlyText (of_missesKeys h.place.2).2 hout

/-- A JSON list that is written as in the key, or Base64; then a lookup. -/
def listOrBase64 : List Operation :=
  [.alternation [[.lookup (.key "[]"), .decode .json], [.decode .base64]], .lookup (.key "k")]

/-- By the first branch, whose lookup is dismissed too, a list gets to the second lookup. -/
example : Dismisses ["a"] listOrBase64 1 (.key "k") ∧ Arrives listOrBase64 1 (.list []) := by
  have h : (shapeReport ["a"] .onlyText listOrBase64).problems =
    [⟨[.index 0, .branch 0, .index 0], .neverKey (.key "[]") ["a"]⟩,
      ⟨[.index 1], .neverKey (.key "k") ["a"]⟩] := rfl
  refine ⟨by simp [Dismisses, h], .chars "[]", rfl⟩

/-! ## Rightly refused sequences -/

/-- What follows the lookup yields no credential on its key, if the key gets there as a text. -/
def FruitlessOnKey (keys : List Text) (ops : List Operation) (i : Nat) (selector : Selector) :
    Prop :=
  ∀ name d, selector = .key name → Arrives ops i (.text d) → d.spells name = .ok true →
    Fruitless keys (ops.drop (i + 1)) (.text (.chars name))

/-- What follows the lookup yields no credential on the parts that it finds in lists and structs
that get there. -/
def FruitlessOnParts (keys : List Text) (ops : List Operation) (i : Nat) (selector : Selector) :
    Prop :=
  ∀ v w, Arrives ops i v → v.shape ≠ .text → v.lookup selector = .ok (.ok w) →
    Fruitless keys (ops.drop (i + 1)) w

/-- Of the texts that get to a dismissed lookup, only its key matters to what follows. -/
theorem fruitlessOnKey_iff (h : Dismisses keys ops i selector) :
    FruitlessOnKey keys ops i selector ↔ ∀ d w, Arrives ops i (.text d) →
      (Value.text d).lookup selector = .ok (.ok w) → Fruitless keys (ops.drop (i + 1)) w := by
  constructor
  · intro hyp d w hd hw
    obtain ⟨name, hs, _, hspells⟩ := lookup_text_missesKeys h.place.2 hw
    rw [lookup_text_ok hw, fruitless_of_spells hspells]
    exact hyp name d hs hd hspells
  · intro hyp name d hs hd hspells
    have hw : (Value.text d).lookup selector = .ok (.ok (.text d)) := by
      simp [hs, Value.lookup, Value.lookupKey, hspells]
    rw [← fruitless_of_spells hspells]
    exact hyp d (.text d) hd hw

/-- **When a dismissal is right.** A sequence in which a lookup is dismissed yields no credential on
any text exactly when what follows the lookup yields none on its key, and none on a part of a list
or struct. Lists and structs do not get there, if no lookup in an alternation before it is dismissed
too. -/
theorem dismissal_right_iff (h : Dismisses keys ops i selector) :
    ((∀ c, Fruitless keys ops (.text c)) ↔
      FruitlessOnKey keys ops i selector ∧ FruitlessOnParts keys ops i selector) ∧
    (MissesNoKey (shapeReport keys .onlyText (ops.take i)).problems →
      FruitlessOnParts keys ops i selector) := by
  rw [dismissal_splits h, fruitlessOnKey_iff h]
  refine ⟨⟨?_, ?_⟩, ?_⟩
  · intro hyp
    exact ⟨fun d w => hyp (.text d) w, fun v w hv _ => hyp v w hv⟩
  · intro hyp v w hv hw
    obtain ⟨htext, hparts⟩ := hyp
    by_cases hshape : v.shape = .text
    · cases v with
      | text d => exact htext d w hv hw
      | list items => simp [Value.shape] at hshape
      | struct entries => simp [Value.shape] at hshape
    · exact hparts v w hv hshape hw
  · intro hk v w hv hshape
    exact absurd (onlyText_arrives h hk hv) hshape

/-- A token whose audience is looked up by a key that is not accepted. -/
def audienceOfToken : List Operation := [.decode .base64url, .lookup (.key "aud")]

/-- The lookup ends the sequence, and the key itself is no accepted one. -/
theorem dismissal_right_iff_audience :
    Dismisses ["test"] audienceOfToken 1 (.key "aud") ∧
      ∀ c, Fruitless ["test"] audienceOfToken (.text c) := by
  have hd : Dismisses ["test"] audienceOfToken 1 (.key "aud") := by
    have h : (shapeReport ["test"] .onlyText audienceOfToken).problems =
      [⟨[.index 1], .neverKey (.key "aud") ["test"]⟩] := rfl
    simp [Dismisses, h]
  have hk : MissesNoKey (shapeReport ["test"] .onlyText (audienceOfToken.take 1)).problems := by
    have h : (shapeReport ["test"] .onlyText (audienceOfToken.take 1)).problems = [] := rfl
    simp [MissesNoKey, h]
  obtain ⟨hiff, hparts⟩ := dismissal_right_iff hd
  refine ⟨hd, hiff.mpr ⟨?_, hparts hk⟩⟩
  intro name d hs _ _ w hw
  cases hs
  cases hw
  rfl

/-- The key that is looked up is the Base64 of the letter a, and is decoded after the lookup. -/
def letterAfterLookup : List Operation := [.lookup (.key "YQ"), .decode .base64]

/-- The lookup is dismissed, for the key is not the letter, and yet the sequence yields the
letter. -/
theorem dismissal_wrong_letter :
    Dismisses ["a"] letterAfterLookup 0 (.key "YQ") ∧
      run (.text (.chars "YQ")) letterAfterLookup = .ok (.text (.bytes [0x61])) ∧
      acceptedString? ["a"] (.text (.bytes [0x61])) = .ok (some "a") ∧
      ¬ ∀ c, Fruitless ["a"] letterAfterLookup (.text c) := by
  have hd : Dismisses ["a"] letterAfterLookup 0 (.key "YQ") := by
    have h : (shapeReport ["a"] .onlyText letterAfterLookup).problems =
      [⟨[.index 0], .neverKey (.key "YQ") ["a"]⟩] := rfl
    simp [Dismisses, h]
  have hrun : run (.text (.chars "YQ")) letterAfterLookup = .ok (.text (.bytes [0x61])) := rfl
  have hfound : acceptedString? ["a"] (.text (.bytes [0x61])) = .ok (some "a") := rfl
  refine ⟨hd, hrun, hfound, ?_⟩
  intro hyp
  have hnone := hyp (.chars "YQ") _ hrun
  rw [hfound] at hnone
  simp at hnone

/-! ## Sequences that decode nothing after the lookup -/

mutual

/-- The operation decodes, itself or in a branch. -/
def Operation.decodes : Operation → Bool
  | .decode _ => true
  | .lookup _ => false
  | .alternation branches => anyBranchDecodes branches

def anyDecodes : List Operation → Bool
  | [] => false
  | op :: rest => op.decodes || anyDecodes rest

def anyBranchDecodes : List (List Operation) → Bool
  | [] => false
  | branch :: rest => anyDecodes branch || anyBranchDecodes rest

end

mutual

theorem Operation.apply_text_undecoded : ∀ {op : Operation} {c : Content} {w : Value},
    op.decodes = false → op.apply (.text c) = .ok w → w = .text c
  | .decode _, c, w, hd, _ => by simp [Operation.decodes] at hd
  | .lookup selector, c, w, _, h => lookup_text_ok (settle_eq_ok.mp h)
  | .alternation branches, c, w, hd, h => by
    simp only [Operation.apply] at h
    split at h
    · next hu =>
      cases h
      exact firstSuccess_text_undecoded hd hu
    · simp at h

theorem run_text_undecoded : ∀ {ops : List Operation} {c : Content} {w : Value},
    anyDecodes ops = false → run (.text c) ops = .ok w → w = .text c
  | [], c, w, _, h => by
    cases h
    rfl
  | op :: rest, c, w, hd, h => by
    simp only [anyDecodes, Bool.or_eq_false_iff] at hd
    simp only [run] at h
    split at h
    · next hu =>
      cases Operation.apply_text_undecoded hd.1 hu
      exact run_text_undecoded hd.2 h
    · simp at h

theorem firstSuccess_text_undecoded : ∀ {branches : List (List Operation)} {c : Content}
    {w : Value}, anyBranchDecodes branches = false →
    firstSuccess (.text c) branches = .ok w → w = .text c
  | [], c, w, _, h => by simp [firstSuccess] at h
  | branch :: rest, c, w, hd, h => by
    simp only [anyBranchDecodes, Bool.or_eq_false_iff] at hd
    simp only [firstSuccess] at h
    split at h
    · next hu =>
      cases h
      exact run_text_undecoded hd.1 hu
    · exact firstSuccess_text_undecoded hd.2 (mapError_eq_ok.mp h)

end

theorem spells_unique {c : Content} {m n : Text} (hm : c.spells m = .ok true)
    (hn : c.spells n = .ok true) : m = n := by
  have h := (Content.alike_of_spells hm).toText_eq
  rw [(Content.alike_of_spells hn).toText_eq] at h
  simpa [Content.toText?] using h.symm

theorem keyedString_text_other {c : Content} {name : Text} (hc : c.spells name = .ok true)
    (hn : name ∉ keys) (he : ∀ key ∈ keys, key.Encodable) :
    keyedString? (.text c) keys = .ok none := by
  have hce : c.Encodable := (spells_isOk.mp ⟨true, hc⟩).1
  induction keys with
  | nil => rfl
  | cons key rest ih =>
    obtain ⟨hkey, hrest⟩ := List.forall_mem_cons.mp he
    obtain ⟨answer, hanswer⟩ := spells_isOk.mpr ⟨hce, hkey⟩
    cases answer with
    | true =>
      have hsame : name = key := spells_unique hc hanswer
      exact absurd (hsame ▸ List.mem_cons_self) hn
    | false =>
      have hnone := ih (fun hmem => hn (List.mem_cons_of_mem _ hmem)) hrest
      simpa [keyedString?, Value.lookupKey, hanswer, bind, Except.bind] using hnone

/-- A sequence in which a lookup is dismissed is rightly refused, if nothing after it decodes: what
passes the lookup is its key, and stays so. The accepted keys must have bytes to be compared with
it, and no lookup in an alternation before it may be dismissed. -/
theorem dismissal_right_of_undecoded (h : Dismisses keys ops i selector)
    (hk : MissesNoKey (shapeReport keys .onlyText (ops.take i)).problems)
    (he : ∀ key ∈ keys, key.Encodable) (hd : anyDecodes (ops.drop (i + 1)) = false) (c : Content) :
    Fruitless keys ops (.text c) := by
  refine (dismissal_splits h).mpr ?_ c
  intro v w hv hw u hu
  cases v with
  | text d =>
    obtain ⟨name, _, hn, hspells⟩ := lookup_text_missesKeys h.place.2 hw
    rw [lookup_text_ok hw] at hu
    rw [run_text_undecoded hd hu]
    rw [acceptedString?, if_neg (of_missesKeys h.place.2).1]
    exact keyedString_text_other hspells hn he
  | list items => exact absurd (onlyText_arrives h hk hv) (by simp [Value.shape])
  | struct entries => exact absurd (onlyText_arrives h hk hv) (by simp [Value.shape])

end RequestCredentials
