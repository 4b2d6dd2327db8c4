import RequestCredentials.Evaluation.Selection
import RequestCredentials.Proofs.Except
import Mathlib.Data.List.TakeWhile
/-
  Encodable text — a text has bytes exactly when it holds no surrogate, and a
  content can be compared with a name exactly when both have bytes.
-/

namespace RequestCredentials

/-- No code point of the text is a surrogate. -/
def Text.Encodable (s : Text) : Prop := ∀ c ∈ s, CodePoint.isSurrogate c = false

/-- Content that is held as bytes has them; content that is held as text must be encodable. -/
def Content.Encodable : Content → Prop
  | .chars s => s.Encodable
  | .bytes _ => True

theorem firstSurrogates_eq_none {s : Text} :
    Utf8.firstSurrogates? s = none ↔ Text.Encodable s := by
  have h : s.dropWhile (!CodePoint.isSurrogate ·) = [] ↔ Text.Encodable s := by
    simp [List.dropWhile_eq_nil_iff, Text.Encodable]
  rw [← h, Utf8.firstSurrogates?]
  split <;> simp_all

theorem encode_isOk {s : Text} : (∃ bytes, Utf8.encode s = .ok bytes) ↔ s.Encodable := by
  rw [← firstSurrogates_eq_none, Utf8.encode]
  split <;> simp_all

theorem toBytes_isOk {c : Content} : (∃ bytes, c.toBytes = .ok bytes) ↔ c.Encodable := by
  cases c with
  | chars s => exact encode_isOk
  | bytes b => simp [Content.toBytes, Content.Encodable]

theorem spells_isOk {c : Content} {name : Text} :
    (∃ answer, c.spells name = .ok answer) ↔ c.Encodable ∧ name.Encodable := by
  rw [← toBytes_isOk, ← encode_isOk]
  simp only [Content.spells, Content.same, bind_eq_ok]
  constructor
  · intro hyp
    obtain ⟨_, a, ha, b, hb, _⟩ := hyp
    exact ⟨⟨a, ha⟩, b, hb⟩
  · intro hyp
    obtain ⟨⟨a, ha⟩, b, hb⟩ := hyp
    exact ⟨_, a, ha, b, hb, rfl⟩

end RequestCredentials
