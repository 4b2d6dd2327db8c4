import RequestCredentials.Encoding.Detect
import RequestCredentials.Proofs.Encoding.RoundTrip
/-
  ASCII documents

  A text of ASCII characters other than NUL is written as one byte for each of
  them. None of these bytes is zero or belongs to a byte order mark, so a
  document in them is taken for UTF-8 and read back as that text.
-/

namespace RequestCredentials

/-- An ASCII character other than NUL. -/
def CodePoint.isAscii (c : CodePoint) : Bool := 0 < c.val && c.val < 0x80

namespace Text

/-- The text is made up of ASCII characters other than NUL. -/
def Ascii (t : Text) : Prop := ∀ c ∈ t, c.isAscii = true

variable {c : CodePoint} {t u : Text}

theorem Ascii.append (h : t.Ascii) (h' : u.Ascii) : Ascii (t ++ u) := by
  intro c hc
  rcases List.mem_append.mp hc with hc | hc
  · exact h c hc
  · exact h' c hc

theorem Ascii.cons (hc : c.isAscii = true) (h : t.Ascii) : Ascii (c :: t) := by
  intro d hd
  rcases List.mem_cons.mp hd with rfl | hd
  · exact hc
  · exact h d hd

theorem Ascii.of_all (h : t.all CodePoint.isAscii = true) : t.Ascii := List.all_eq_true.mp h

theorem Ascii.bounds (h : t.Ascii) (hc : c ∈ t) : 0 < c.val ∧ c.val < 0x80 := by
  have hascii := h c hc
  rwa [CodePoint.isAscii, Bool.and_eq_true, decide_eq_true_eq, decide_eq_true_eq] at hascii

theorem Ascii.encodable (h : t.Ascii) : t.Encodable := by
  intro c hc
  have hbounds := h.bounds hc
  exact Utf8.isSurrogate_eq_false_iff.mpr (by omega)

theorem Ascii.encode_eq (h : t.Ascii) :
    Utf8.encode t = .ok (t.map fun c => UInt8.ofNat c.val) := by
  have hpoint : ∀ c ∈ t, Utf8.encodePoint c = [UInt8.ofNat c.val] := by
    intro c hc
    exact if_pos (h.bounds hc).2
  rw [Utf8.encode_eq_ok, Utf8.encodeWithSurrogates, List.flatMap_congr hpoint]
  exact ⟨h.encodable, List.flatMap_pure_eq_map (fun c : CodePoint => UInt8.ofNat c.val) t⟩

/-! ## Reading -/

theorem Ascii.decodeWithSurrogates_eq (h : t.Ascii) :
    Utf8.decodeWithSurrogates (t.map fun c => UInt8.ofNat c.val) = .ok t := by
  have hscan : ∀ pos, scanFrom Utf8.decodeStepWithSurrogates 0 pos
      (t.map fun c => UInt8.ofNat c.val) = ⟨t, none⟩ := by
    induction t with
    | nil => exact fun pos => rfl
    | cons c t ih =>
      intro pos
      have hbound := (h.bounds List.mem_cons_self).2
      have hbyte : UInt8.ofNat c.val < 0x80 := by
        rw [UInt8.lt_iff_toNat_lt, Utf8.toNat_ofNat (by omega)]
        exact hbound
      have hpoint : CodePoint.ofNat (UInt8.ofNat c.val).toNat = c := by
        rw [Utf8.toNat_ofNat (by omega), Utf8.ofNat_val]
      have hstep : Utf8.decodeStepWithSurrogates (UInt8.ofNat c.val)
          ([] ++ t.map fun c => UInt8.ofNat c.val) = .item c 0 := by
        rw [Utf8.decodeStepWithSurrogates, Utf8.decodeStep, if_pos hbyte, hpoint]
      have htail := ih fun d hd => h d (List.mem_cons_of_mem c hd)
      rw [List.map_cons, ← List.nil_append (t.map _), scanFrom_item hstep, htail]
  rw [Utf8.decodeWithSurrogates, scan, hscan, Scan.decoded]

theorem ofZeros_eq_utf8 {bytes : Bytes} (h : ∀ b ∈ bytes, b ≠ 0) :
    Encoding.ofZeros bytes = .utf8 := by
  rw [Encoding.ofZeros.eq_def]
  split
  · rw [if_neg (h _ (by simp)), if_neg (h _ (by simp))]
  · rw [if_neg (h _ (by simp)), if_neg (h _ (by simp))]
  · rfl

/-- A document in ASCII is read as the text that was written. -/
theorem Ascii.decodeDocument_eq (h : t.Ascii) :
    Encoding.decodeDocument (t.map fun c => UInt8.ofNat c.val) = .ok t := by
  have hbytes : ∀ b ∈ t.map (fun c => UInt8.ofNat c.val), 0 < b.toNat ∧ b.toNat < 0x80 := by
    intro b hb
    obtain ⟨c, hc, rfl⟩ := List.mem_map.mp hb
    have hbounds := h.bounds hc
    rw [Utf8.toNat_ofNat (by omega)]
    exact hbounds
  have hread := h.decodeWithSurrogates_eq
  generalize t.map (fun c => UInt8.ofNat c.val) = bytes at hbytes hread ⊢
  -- A byte order mark starts with zero or with a byte past 0x7F.
  have hmark : ∀ (b : UInt8) (rest : Bytes), bytes = b :: rest → 0 < b.toNat ∧ b.toNat < 0x80 :=
    fun b rest heq => hbytes b (heq ▸ List.mem_cons_self)
  rw [Encoding.decodeDocument.eq_def]
  split
  · exact absurd (hmark _ _ rfl) (by decide)
  · exact absurd (hmark _ _ rfl) (by decide)
  · exact absurd (hmark _ _ rfl) (by decide)
  · exact absurd (hmark _ _ rfl) (by decide)
  · exact absurd (hmark _ _ rfl) (by decide)
  · have hnonzero : ∀ b ∈ bytes, b ≠ 0 := by
      rintro b hb rfl
      exact absurd (hbytes 0 hb) (by decide)
    rw [ofZeros_eq_utf8 hnonzero]
    exact hread

end Text

end RequestCredentials
