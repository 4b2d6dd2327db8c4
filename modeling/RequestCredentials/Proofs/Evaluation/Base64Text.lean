import RequestCredentials.Proofs.Format.Base64Canonical
import RequestCredentials.Proofs.Evaluation.Success
import RequestCredentials.Proofs.Encoding.RoundTrip
/-
  Base64 texts

  A text is decoded from its UTF-8 bytes, so it does not matter whether it is
  held as code points or as bytes. The characters in which the alphabets differ
  are ASCII, and a text that holds none of them has none of them among its bytes.

  What is proved:
    1. `base64_accepts_iff` — which texts are decoded, and to which bytes;
    2. `base64_round_trip` — an encoding is decoded to the bytes that it was
       made from, and a text in the common characters is decoded alike in both
       alphabets.
-/

namespace RequestCredentials

open Base64

/-- The kind of decoding that reads the symbols of an alphabet. -/
def Base64.Alphabet.kind : Alphabet → DecodeKind
  | .standard => .base64
  | .url => .base64url

theorem decode_kind_eq_ok {a : Alphabet} {v w : Value} :
    v.decode a.kind = .ok (.ok w) ↔
      ∃ c data raw, v = .text c ∧ c.toBytes = .ok data ∧ Base64.decode a data = .ok raw ∧
        w = .text (.bytes raw) := by
  have hbytes (data : Bytes) : decodeBytes a.kind data = .ok w ↔
      ∃ raw, Base64.decode a data = .ok raw ∧ w = .text (.bytes raw) := by
    cases a <;>
      simp only [Alphabet.kind, decodeBytes, bind_eq_ok, mapError_eq_ok, pure, Except.pure,
        Except.ok.injEq, eq_comm (a := w)]
  simp only [RequestCredentials.decode_eq_ok, hbytes, exists_and_left]

theorem Utf8.toNat_encodePoint (c : CodePoint) :
    ∀ b ∈ encodePoint c, b.toNat = c.val ∨ 0x80 ≤ b.toNat := by
  have hc := c.isLt
  simp only [encodePoint]
  split_ifs <;>
    simp only [List.forall_mem_cons, List.not_mem_nil, false_implies, implies_true, and_true,
      UInt8.toNat_ofNat'] <;> omega

/-- The content is made up of characters that are in both alphabets or in none. -/
def Content.Common : Content → Prop
  | .chars s => ∀ c ∈ s, c.val ∉ differing
  | .bytes b => Base64.Common b

theorem Content.Common.toBytes {c : Content} {data : Bytes} (h : c.Common)
    (hdata : c.toBytes = .ok data) : Base64.Common data := by
  cases c with
  | bytes b =>
    cases hdata
    exact h
  | chars s =>
    obtain ⟨-, rfl⟩ := Utf8.encode_eq_ok.mp hdata
    intro b hb
    obtain ⟨c, hc, hb⟩ := List.mem_flatMap.mp hb
    rcases Utf8.toNat_encodePoint c b hb with hsame | hhigh
    · rw [hsame]
      exact h c hc
    · simp only [differing, List.mem_cons, List.not_mem_nil, or_false]
      omega

/-! ## What is accepted -/

/-- **What is accepted as Base64.** Decoding succeeds exactly on the texts whose bytes are the
encoding of some bytes, of which padding may be left out, or, where the encoding takes no padding,
the encoding with surplus padding behind it; and it gives those bytes. -/
theorem base64_accepts_iff (a : Alphabet) (v w : Value) :
    (v.decode a.kind = .ok (.ok w) ↔
      ∃ c data raw, v = .text c ∧ c.toBytes = .ok data ∧ w = .text (.bytes raw) ∧
        (Shortened a raw data ∨ Overpadded a raw data)) ∧
    ∀ raw data, Overpadded a raw data → ¬ Shortened a raw data := by
  refine ⟨?_, ?_⟩
  · simp only [decode_kind_eq_ok, decode_eq_ok_iff, and_comm, and_left_comm]
  · intro raw data h hshort
    obtain ⟨missing, hmissing⟩ := hshort
    obtain ⟨-, -, surplus, hpos, -, rfl⟩ := h
    have hlength := congrArg List.length hmissing
    simp only [List.length_append, List.length_replicate] at hlength
    omega

/-- Two padding symbols behind a full group are accepted, though its encoding has none. -/
theorem base64_accepts_surplus :
    (Value.text (.chars "YWJj==")).decode .base64 =
        .ok (.ok (.text (.bytes [0x61, 0x62, 0x63]))) ∧
      Content.toBytes (.chars "YWJj==") = .ok [0x59, 0x57, 0x4A, 0x6A, 0x3D, 0x3D] ∧
      ¬ Shortened .standard [0x61, 0x62, 0x63] [0x59, 0x57, 0x4A, 0x6A, 0x3D, 0x3D] := by
  refine ⟨rfl, rfl, ?_⟩
  intro hyp
  obtain ⟨missing, h⟩ := hyp
  have hlength := congrArg List.length h
  simp [encode] at hlength

/-! ## Both alphabets -/

theorem decode_kind_common {c : Content} (h : c.Common) {w : Value} :
    (Value.text c).decode Alphabet.url.kind = .ok (.ok w) ↔
      (Value.text c).decode Alphabet.standard.kind = .ok (.ok w) := by
  -- Both kinds do the same with the bytes of the text, so only the reading of these counts.
  have hsame : ∀ data, c.toBytes = .ok data →
      Base64.decode .url data = Base64.decode .standard data :=
    fun data hdata => decode_url_eq_standard (h.toBytes hdata)
  rw [decode_kind_eq_ok, decode_kind_eq_ok]
  constructor
  · intro hyp
    obtain ⟨_, data, raw, ⟨⟩, hdata, hraw, hw⟩ := hyp
    exact ⟨c, data, raw, rfl, hdata, hsame data hdata ▸ hraw, hw⟩
  · intro hyp
    obtain ⟨_, data, raw, ⟨⟩, hdata, hraw, hw⟩ := hyp
    exact ⟨c, data, raw, rfl, hdata, hsame data hdata ▸ hraw, hw⟩

/-- **Round trip.** The encoding of any bytes in either alphabet, padding left out or not, is
decoded to these bytes; and a text without the characters in which the alphabets differ is decoded
to the same bytes in both, or in neither. -/
theorem base64_round_trip :
    (∀ (a : Alphabet) (raw data : Bytes) (c : Content), Shortened a raw data →
      c.toBytes = .ok data → (Value.text c).decode a.kind = .ok (.ok (.text (.bytes raw)))) ∧
    ∀ (c : Content) (w : Value), c.Common →
      ((Value.text c).decode .base64url = .ok (.ok w) ↔
        (Value.text c).decode .base64 = .ok (.ok w)) := by
  refine ⟨?_, fun c w hc => decode_kind_common hc⟩
  intro a raw data c hdata hc
  exact decode_kind_eq_ok.mpr ⟨c, data, raw, rfl, hc, decode_eq_ok_iff.mpr (.inl hdata), rfl⟩

theorem base64_round_trip_halfPadded :
    Shortened .url [0xFB, 0xFF] [0x2D, 0x5F, 0x38] ∧ Content.Common (.chars "YQ=") ∧
      (Value.text (.chars "-_8")).decode .base64url = .ok (.ok (.text (.bytes [0xFB, 0xFF]))) ∧
      (Value.text (.chars "YQ=")).decode .base64url = .ok (.ok (.text (.bytes [0x61]))) := by
  have hshort : Shortened .url [0xFB, 0xFF] [0x2D, 0x5F, 0x38] := ⟨1, rfl⟩
  have hcommon : Content.Common (.chars "YQ=") := by
    have hall : List.all ("YQ=" : Text) (fun c => c.val ∉ differing) = true := by decide
    intro c hc
    simpa using List.all_eq_true.mp hall c hc
  obtain ⟨hreads, halike⟩ := base64_round_trip
  have hhalf := hreads .standard [0x61] [0x59, 0x51, 0x3D] (.chars "YQ=") ⟨1, rfl⟩ rfl
  exact ⟨hshort, hcommon, hreads .url _ _ _ hshort rfl, (halike _ _ hcommon).mpr hhalf⟩

end RequestCredentials
