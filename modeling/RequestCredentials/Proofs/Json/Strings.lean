import RequestCredentials.Json.Reader
import RequestCredentials.Proofs.Encoding.RoundTrip
import RequestCredentials.Proofs.Json.Spelling
/-
  Reading strings back

  A step of the string reader takes exactly one written form. The one form that
  depends on what follows is the escape of a high surrogate, which forms a pair
  with the escape of a low one; the forms of other code points never look like
  such an escape.

  What is proved:
    1. `PointForm.stringStep_eq` — a step reads a form of a code point;
    2. `readString_eq` — a string is read back from any of its forms.
-/

namespace RequestCredentials.Json

/-! ## Escaped units -/

theorem HexDigit.hexDigit?_eq {n : Nat} {c : CodePoint} (h : HexDigit n c) :
    c.hexDigit? = some n := by
  have hlower : ∀ i : Fin 16,
      ("0123456789abcdef" : Text)[i.val]?.bind CodePoint.hexDigit? = some i.val := by decide
  have hupper : ∀ i : Fin 16,
      ("0123456789ABCDEF" : Text)[i.val]?.bind CodePoint.hexDigit? = some i.val := by decide
  rcases h with h | h
  · obtain ⟨hn, -⟩ := List.getElem?_eq_some_iff.mp h
    have hdigit := hlower ⟨n, hn⟩
    rwa [h, Option.bind_some] at hdigit
  · obtain ⟨hn, -⟩ := List.getElem?_eq_some_iff.mp h
    have hdigit := hupper ⟨n, hn⟩
    rwa [h, Option.bind_some] at hdigit

section
variable {c : CodePoint} {digits after : Text}

theorem UnitForm.length_eq (h : UnitForm c digits) : digits.length = 4 := by
  cases h
  rfl

theorem UnitForm.escapedUnit?_eq (h : UnitForm c digits) (hafter : after ≠ []) :
    escapedUnit? (digits ++ after) = some c := by
  cases h with
  | digits hx hy hz hw hc =>
    obtain ⟨d, rest, rfl⟩ := List.exists_cons_of_ne_nil hafter
    simp only [List.cons_append, List.nil_append, escapedUnit?, hx.hexDigit?_eq, hy.hexDigit?_eq,
      hz.hexDigit?_eq, hw.hexDigit?_eq, Option.bind_eq_bind, Option.bind_some, ← hc]
    exact congrArg some (Utf8.ofNat_val c)

theorem UnitForm.escapedLow?_eq (h : UnitForm c digits) (hafter : after ≠ []) :
    escapedLow? (('\\' : CodePoint) :: ('u' : CodePoint) :: (digits ++ after)) =
      if c.isLowSurrogate then some c else none := by
  rw [escapedLow?, if_pos ⟨rfl, rfl⟩, h.escapedUnit?_eq hafter, Option.filter_some]

end

/-! ## Forms of code points -/

namespace PointForm

variable {c : CodePoint} {form after : Text}

theorem escapedLow?_eq_none (h : PointForm c form) (hc : c.isLowSurrogate = false)
    (hafter : after ≠ []) : escapedLow? (form ++ after) = none := by
  cases h with
  | literal hrange hquote hbackslash =>
    obtain ⟨d, rest, rfl⟩ := List.exists_cons_of_ne_nil hafter
    rw [List.cons_append, List.nil_append, escapedLow?, if_neg fun h => hbackslash h.1]
  | @letter l _ h =>
    have hletters : letterEscapes.all fun e => e.1 ≠ CodePoint.ofChar 'u' := by decide
    have hletter : l ≠ CodePoint.ofChar 'u' := of_decide_eq_true (List.all_eq_true.mp hletters _ h)
    exact if_neg fun hu => hletter hu.2
  | unit h =>
    rw [List.cons_append, List.cons_append, h.escapedLow?_eq hafter, if_neg (by simp [hc])]
  | @pair _ high _ digits _ hhigh hlow h h' hval =>
    -- The escape in front is the one of the high half.
    have hhigh' : high.isLowSurrogate = false := by
      simp only [CodePoint.isHighSurrogate, CodePoint.isLowSurrogate, Bool.and_eq_true,
        Bool.and_eq_false_iff, decide_eq_true_eq, decide_eq_false_iff_not] at hhigh ⊢
      omega
    rw [List.cons_append, List.cons_append, List.append_assoc, h.escapedLow?_eq (by simp),
      if_neg (by simp [hhigh'])]

/-- A step reads a form of a code point, unless it is the first half of a pair. -/
theorem stringStep_eq (h : PointForm c form) (hafter : after ≠ [])
    (hpair : c.isHighSurrogate = true → escapedLow? after = none) :
    ∃ first tail, form = first :: tail ∧
      stringStep first (tail ++ after) = .item c tail.length := by
  cases h with
  | literal hrange hquote hbackslash =>
    refine ⟨c, [], rfl, ?_⟩
    rw [stringStep, if_neg hquote, if_neg hbackslash, if_neg (by omega)]
    rfl
  | @letter l _ h =>
    have hletters : letterEscapes.all fun e => e.1 ≠ CodePoint.ofChar 'u' ∧
        escapedPoint? e.1 = some e.2 := by decide
    obtain ⟨hu, hpoint⟩ := of_decide_eq_true (List.all_eq_true.mp hletters _ h)
    refine ⟨_, _, rfl, ?_⟩
    rw [stringStep, if_neg (by decide), if_pos rfl, List.cons_append, escapeStep, if_neg hu, hpoint]
    rfl
  | @unit _ digits h =>
    refine ⟨_, _, rfl, ?_⟩
    rw [stringStep, if_neg (by decide), if_pos rfl, List.cons_append, escapeStep, if_pos rfl,
      h.escapedUnit?_eq hafter, List.length_cons, h.length_eq]
    -- A high surrogate is joined with an escaped low one behind it, if there is any.
    by_cases hhigh : c.isHighSurrogate = true
    · have hdrop : (digits ++ after).drop 4 = after := by rw [← h.length_eq, List.drop_left]
      simp only [if_pos hhigh, hdrop, hpair hhigh]
    · simp only [if_neg hhigh]
  | @pair _ high low digits digits' hhigh hlow h h' hval =>
    refine ⟨_, _, rfl, ?_⟩
    have hdrop :
        (digits ++ (('\\' : CodePoint) :: ('u' : CodePoint) :: (digits' ++ after))).drop 4 =
          ('\\' : CodePoint) :: ('u' : CodePoint) :: (digits' ++ after) := by
      rw [← h.length_eq, List.drop_left]
    have hjoin : CodePoint.joinSurrogates high low = c := by
      rw [CodePoint.joinSurrogates, ← hval, Utf8.ofNat_val]
    rw [stringStep, if_neg (by decide), if_pos rfl, List.cons_append, escapeStep, if_pos rfl,
      List.append_assoc, List.cons_append, List.cons_append, h.escapedUnit?_eq (by simp)]
    simp only [if_pos hhigh, hdrop, h'.escapedLow?_eq hafter, if_pos hlow, hjoin, List.length_cons,
      List.length_append, h.length_eq, h'.length_eq]

end PointForm

/-! ## Strings -/

section
variable {s body rest : Text}

theorem TextForm.escapedLow?_eq_none (h : TextForm s body)
    (hs : ∀ d ∈ s.head?, d.isLowSurrogate = false) :
    escapedLow? (body ++ ('"' : CodePoint) :: rest) = none := by
  cases h with
  | nil =>
    cases rest with
    | nil => rfl
    | cons c rest =>
      rw [List.nil_append, escapedLow?, if_neg]
      intro hyp
      exact absurd hyp.1 (by decide)
  | cons hc hs' =>
    rw [List.append_assoc]
    exact hc.escapedLow?_eq_none (hs _ rfl) (by simp)

theorem scanFrom_stringStep (h : TextForm s body) (hs : NoSplitPair s) (pos : Nat) :
    scanFrom stringStep 0 pos (body ++ ('"' : CodePoint) :: rest) =
      ⟨s, some (pos + body.length, .closed)⟩ := by
  induction h generalizing pos with
  | nil => rfl
  | @cons c s form body hc htext ih =>
    have hpair : c.isHighSurrogate = true →
        escapedLow? (body ++ ('"' : CodePoint) :: rest) = none := by
      intro hhigh
      apply htext.escapedLow?_eq_none
      intro d hd
      have hnot := List.IsChain.rel_head? hs hd
      simpa [hhigh] using hnot
    obtain ⟨first, tail, rfl, hstep⟩ := hc.stringStep_eq (by simp) hpair
    rw [List.append_assoc, List.cons_append, scanFrom_item hstep, ih (List.IsChain.tail hs)]
    simp only [List.length_cons, List.length_append]
    congr 3
    omega

/-- A string is read back from any of its forms. -/
theorem readString_eq (h : TextForm s body) (hs : NoSplitPair s) (pos : Nat) :
    readString pos (body ++ ('"' : CodePoint) :: rest) = .ok (s, body.length + 1) := by
  rw [readString, scan, scanFrom_stringStep h hs, Nat.zero_add]

end

end RequestCredentials.Json
