import RequestCredentials.Proofs.Encoding.Encodable
/-
  UTF-8 reads back exactly what it writes

  Every code point that is no surrogate has one form, of one to four bytes, and
  a step reads that form and no other: longer spellings, surrogates and numbers
  past the last code point are kept out by what may follow a lead byte. So a
  text and its bytes determine each other.

  What is proved:
    1. `decodeStep_encodePoint`, `encodePoint_of_decodeStep` — a step reads a
       code point exactly from the bytes that it is written as;
    2. `decode_eq_ok_iff` — some bytes are read as a text exactly when the text
       is written as those bytes.
-/

namespace RequestCredentials

/-! ## Scans -/

/-- A scan goes on behind an item that a step has read. -/
theorem scanFrom_item {σ α ε : Type} {step : σ → List σ → Step α ε} {first : σ}
    {front rest : List σ} {a : α} (h : step first (front ++ rest) = .item a front.length)
    (pos : Nat) :
    scanFrom step 0 pos (first :: (front ++ rest)) =
      ⟨a :: (scanFrom step 0 (pos + 1 + front.length) rest).items,
        (scanFrom step 0 (pos + 1 + front.length) rest).stopped⟩ := by
  have hskip : scanFrom step front.length (pos + 1) (front ++ rest) =
      scanFrom step 0 (pos + 1 + front.length) rest := by
    rw [scanFrom_skip step front.length (pos + 1) (front ++ rest) (by simp), List.drop_left]
  rw [scanFrom, h]
  simp only [hskip]

namespace Utf8

/-! ## Bytes and code points as numbers -/

theorem toNat_ofNat {n : Nat} (h : n < 0x100) : (UInt8.ofNat n).toNat = n :=
  UInt8.toNat_ofNat_of_lt h

theorem val_ofNat {n : Nat} (h : n < 0x110000) : (CodePoint.ofNat n).val = n := by
  rw [CodePoint.ofNat, dif_pos h]

theorem ofNat_val (c : CodePoint) : CodePoint.ofNat c.val = c := by
  rw [CodePoint.ofNat, dif_pos c.isLt]

theorem isSurrogate_eq_false_iff {c : CodePoint} :
    c.isSurrogate = false ↔ c.val < 0xD800 ∨ 0xE000 ≤ c.val := by
  simp only [CodePoint.isSurrogate, Bool.and_eq_false_iff, decide_eq_false_iff_not]
  omega

theorem isContinuation_iff {b : UInt8} :
    isContinuation b = true ↔ 0x80 ≤ b.toNat ∧ b.toNat < 0xC0 := by
  simp [isContinuation, UInt8.le_iff_toNat_le, UInt8.lt_iff_toNat_lt]

theorem secondByte_iff {lead b : UInt8} :
    secondByte false lead b = true ↔
      (0x80 ≤ b.toNat ∧ b.toNat < 0xC0) ∧ (lead.toNat = 0xE0 → 0xA0 ≤ b.toNat) ∧
        (lead.toNat = 0xED → b.toNat < 0xA0) ∧ (lead.toNat = 0xF0 → 0x90 ≤ b.toNat) ∧
        (lead.toNat = 0xF4 → b.toNat < 0x90) := by
  simp only [secondByte, Bool.not_false, Bool.and_true, decide_eq_true_eq, ← UInt8.toNat_inj,
    Bool.ite_eq_true_distrib, isContinuation_iff, Bool.and_eq_true, UInt8.le_iff_toNat_le,
    UInt8.lt_iff_toNat_lt, UInt8.reduceToNat]
  split_ifs <;> omega

/-! ## Continuation bytes -/

section
variable {lead : UInt8} {second : UInt8 → Bool} {c : CodePoint} {extra seen value : Nat}
  {bytes : Bytes}

theorem readContinuations_zero_eq_item :
    readContinuations lead second 0 seen value bytes = .item c extra ↔
      CodePoint.ofNat value = c ∧ seen = extra := by
  simp [readContinuations]

theorem readContinuations_succ_eq_item {wanted : Nat} :
    readContinuations lead second (wanted + 1) seen value bytes = .item c extra ↔
      ∃ b rest, bytes = b :: rest ∧ (if seen = 0 then second b else isContinuation b) = true ∧
        readContinuations lead second wanted (seen + 1) (value * 0x40 + payload b) rest =
          .item c extra := by
  cases bytes with
  | nil => simp [readContinuations]
  | cons b rest =>
    rw [readContinuations]
    by_cases hb : (if seen = 0 then second b else isContinuation b) = true
    · rw [if_pos hb]
      constructor
      · intro h
        exact ⟨b, rest, rfl, hb, h⟩
      · intro hyp
        obtain ⟨_, _, ⟨rfl, rfl⟩, -, h⟩ := hyp
        exact h
    · rw [if_neg hb]
      constructor
      · intro h
        cases h
      · intro hyp
        obtain ⟨_, _, ⟨rfl, rfl⟩, h, -⟩ := hyp
        exact absurd h hb

end

/-! ## Writing what was read -/

section
variable {b x y z : UInt8} {n : Nat}

theorem encodePoint_two (hb : 0xC2 ≤ b.toNat ∧ b.toNat < 0xE0) (hx : isContinuation x)
    (hn : n = (b.toNat - 0xC0) * 0x40 + payload x) :
    (CodePoint.ofNat n).isSurrogate = false ∧ encodePoint (CodePoint.ofNat n) = [b, x] := by
  rw [isContinuation_iff] at hx
  rw [payload] at hn
  rw [isSurrogate_eq_false_iff, encodePoint, val_ofNat (by omega), if_neg (by omega),
    if_pos (by omega)]
  simp only [List.cons.injEq, ← UInt8.toNat_inj, UInt8.toNat_ofNat', and_true]
  omega

theorem encodePoint_three (hb : 0xE0 ≤ b.toNat ∧ b.toNat < 0xF0) (hx : secondByte false b x)
    (hy : isContinuation y)
    (hn : n = ((b.toNat - 0xE0) * 0x40 + payload x) * 0x40 + payload y) :
    (CodePoint.ofNat n).isSurrogate = false ∧ encodePoint (CodePoint.ofNat n) = [b, x, y] := by
  rw [secondByte_iff] at hx
  rw [isContinuation_iff] at hy
  rw [payload, payload] at hn
  rw [isSurrogate_eq_false_iff, encodePoint, val_ofNat (by omega), if_neg (by omega),
    if_neg (by omega), if_pos (by omega)]
  simp only [List.cons.injEq, ← UInt8.toNat_inj, UInt8.toNat_ofNat', and_true]
  omega

theorem encodePoint_four (hb : 0xF0 ≤ b.toNat ∧ b.toNat < 0xF5) (hx : secondByte false b x)
    (hy : isContinuation y) (hz : isContinuation z)
    (hn : n = (((b.toNat - 0xF0) * 0x40 + payload x) * 0x40 + payload y) * 0x40 + payload z) :
    (CodePoint.ofNat n).isSurrogate = false ∧
      encodePoint (CodePoint.ofNat n) = [b, x, y, z] := by
  rw [secondByte_iff] at hx
  rw [isContinuation_iff] at hy hz
  rw [payload, payload, payload] at hn
  rw [isSurrogate_eq_false_iff, encodePoint, val_ofNat (by omega), if_neg (by omega),
    if_neg (by omega), if_neg (by omega)]
  simp only [List.cons.injEq, ← UInt8.toNat_inj, UInt8.toNat_ofNat', and_true]
  omega

end

/-- The code point that a step reads is no surrogate, and it is written as the bytes that the step
took up. -/
theorem encodePoint_of_decodeStep {b : UInt8} {bytes : Bytes} {c : CodePoint} {extra : Nat}
    (h : decodeStep false b bytes = .item c extra) :
    ∃ front rest, bytes = front ++ rest ∧ front.length = extra ∧
      c.isSurrogate = false ∧ encodePoint c = b :: front := by
  simp only [decodeStep, UInt8.lt_iff_toNat_lt, UInt8.reduceToNat] at h
  split at h
  · next hb =>
    -- One byte is its own code point.
    cases h
    have hc := val_ofNat (show b.toNat < 0x110000 by omega)
    refine ⟨[], bytes, rfl, rfl, isSurrogate_eq_false_iff.mpr (by omega), ?_⟩
    rw [encodePoint, hc, if_pos hb, UInt8.ofNat_toNat]
  split at h
  · -- A continuation byte leads nothing, and neither do the leads of overlong pairs.
    cases h
  split at h
  · simp only [readContinuations_succ_eq_item, readContinuations_zero_eq_item, if_true] at h
    obtain ⟨x, rest, rfl, hx, rfl, rfl⟩ := h
    have hx : isContinuation x := isContinuation_iff.mpr (secondByte_iff.mp hx).1
    exact ⟨[x], rest, rfl, rfl, encodePoint_two (by omega) hx rfl⟩
  split at h
  · simp only [readContinuations_succ_eq_item, readContinuations_zero_eq_item, if_true,
      Nat.zero_add, Nat.reduceEqDiff, if_false] at h
    obtain ⟨x, _, rfl, hx, y, rest, rfl, hy, rfl, rfl⟩ := h
    exact ⟨[x, y], rest, rfl, rfl, encodePoint_three (by omega) hx hy rfl⟩
  split at h
  · simp only [readContinuations_succ_eq_item, readContinuations_zero_eq_item, if_true,
      Nat.zero_add, Nat.reduceAdd, Nat.reduceEqDiff, if_false] at h
    obtain ⟨x, _, rfl, hx, y, _, rfl, hy, z, rest, rfl, hz, rfl, rfl⟩ := h
    exact ⟨[x, y, z], rest, rfl, rfl, encodePoint_four (by omega) hx hy hz rfl⟩
  · -- A lead past 0xF4 would start a number past the last code point.
    cases h

/-! ## Reading what was written -/

section
variable {c : CodePoint}

theorem decodeStep_two (h : 0x80 ≤ c.val ∧ c.val < 0x800) (rest : Bytes) :
    decodeStep false (UInt8.ofNat (0xC0 + c.val / 0x40))
      (UInt8.ofNat (0x80 + c.val % 0x40) :: rest) = .item c 1 := by
  have hb := toNat_ofNat (show 0xC0 + c.val / 0x40 < 0x100 by omega)
  have hx := toNat_ofNat (show 0x80 + c.val % 0x40 < 0x100 by omega)
  simp only [decodeStep, UInt8.lt_iff_toNat_lt, hb, UInt8.reduceToNat]
  rw [if_neg (by omega), if_neg (by omega), if_pos (by omega)]
  simp only [readContinuations_succ_eq_item, readContinuations_zero_eq_item]
  refine ⟨_, _, rfl, ?_, ?_, trivial⟩
  · simp only [if_true, secondByte_iff, hb, hx]
    omega
  · rw [payload, hx, Fin.ext_iff, val_ofNat (by omega)]
    omega

theorem decodeStep_three (hc : c.isSurrogate = false) (h : 0x800 ≤ c.val ∧ c.val < 0x10000)
    (rest : Bytes) :
    decodeStep false (UInt8.ofNat (0xE0 + c.val / 0x1000))
      (UInt8.ofNat (0x80 + c.val / 0x40 % 0x40) :: UInt8.ofNat (0x80 + c.val % 0x40) :: rest) =
        .item c 2 := by
  -- The second byte has a bound of its own after 0xE0 and 0xED; it holds since the code point needs
  -- three bytes and is no surrogate.
  rw [isSurrogate_eq_false_iff] at hc
  have hb := toNat_ofNat (show 0xE0 + c.val / 0x1000 < 0x100 by omega)
  have hx := toNat_ofNat (show 0x80 + c.val / 0x40 % 0x40 < 0x100 by omega)
  have hy := toNat_ofNat (show 0x80 + c.val % 0x40 < 0x100 by omega)
  simp only [decodeStep, UInt8.lt_iff_toNat_lt, hb, UInt8.reduceToNat]
  rw [if_neg (by omega), if_neg (by omega), if_neg (by omega), if_pos (by omega)]
  simp only [readContinuations_succ_eq_item, readContinuations_zero_eq_item]
  refine ⟨_, _, rfl, ?_, _, _, rfl, ?_, ?_, trivial⟩
  · simp only [if_true, secondByte_iff, hb, hx]
    omega
  · simp only [Nat.zero_add, Nat.reduceEqDiff, if_false, isContinuation_iff, hy]
    omega
  · rw [payload, payload, hx, hy, Fin.ext_iff, val_ofNat (by omega)]
    omega

theorem decodeStep_four (h : 0x10000 ≤ c.val) (rest : Bytes) :
    decodeStep false (UInt8.ofNat (0xF0 + c.val / 0x40000))
      (UInt8.ofNat (0x80 + c.val / 0x1000 % 0x40) :: UInt8.ofNat (0x80 + c.val / 0x40 % 0x40) ::
        UInt8.ofNat (0x80 + c.val % 0x40) :: rest) = .item c 3 := by
  -- After 0xF0 and 0xF4 the second byte is bounded by the need for four bytes and by the last code
  -- point.
  have hlast := c.isLt
  have hb := toNat_ofNat (show 0xF0 + c.val / 0x40000 < 0x100 by omega)
  have hx := toNat_ofNat (show 0x80 + c.val / 0x1000 % 0x40 < 0x100 by omega)
  have hy := toNat_ofNat (show 0x80 + c.val / 0x40 % 0x40 < 0x100 by omega)
  have hz := toNat_ofNat (show 0x80 + c.val % 0x40 < 0x100 by omega)
  simp only [decodeStep, UInt8.lt_iff_toNat_lt, hb, UInt8.reduceToNat]
  rw [if_neg (by omega), if_neg (by omega), if_neg (by omega), if_neg (by omega),
    if_pos (by omega)]
  simp only [readContinuations_succ_eq_item, readContinuations_zero_eq_item]
  refine ⟨_, _, rfl, ?_, _, _, rfl, ?_, _, _, rfl, ?_, ?_, trivial⟩
  · simp only [if_true, secondByte_iff, hb, hx]
    omega
  · simp only [Nat.zero_add, Nat.reduceEqDiff, if_false, isContinuation_iff, hy]
    omega
  · simp only [Nat.zero_add, Nat.reduceAdd, Nat.reduceEqDiff, if_false, isContinuation_iff, hz]
    omega
  · rw [payload, payload, payload, hx, hy, hz, Fin.ext_iff, val_ofNat (by omega)]
    omega

end

/-- A step reads the bytes of a code point that is no surrogate, whatever follows them. -/
theorem decodeStep_encodePoint {c : CodePoint} (hc : c.isSurrogate = false) (rest : Bytes) :
    ∃ b front, encodePoint c = b :: front ∧
      decodeStep false b (front ++ rest) = .item c front.length := by
  simp only [encodePoint]
  split
  · next h =>
    have hb := toNat_ofNat (show c.val < 0x100 by omega)
    refine ⟨_, _, rfl, ?_⟩
    simp only [decodeStep, UInt8.lt_iff_toNat_lt, hb, UInt8.reduceToNat]
    rw [if_pos h, List.length_nil, Step.item.injEq, Fin.ext_iff, val_ofNat c.isLt]
    exact ⟨rfl, rfl⟩
  split
  · exact ⟨_, _, rfl, decodeStep_two (by omega) rest⟩
  split
  · exact ⟨_, _, rfl, decodeStep_three hc (by omega) rest⟩
  · exact ⟨_, _, rfl, decodeStep_four (by omega) rest⟩

/-! ## Whole texts -/

theorem scanFrom_encodeWithSurrogates {s : Text} (h : s.Encodable) (pos : Nat) :
    scanFrom (decodeStep false) 0 pos (encodeWithSurrogates s) = ⟨s, none⟩ := by
  induction s generalizing pos with
  | nil => rfl
  | cons c s ih =>
    obtain ⟨b, front, hc, hstep⟩ :=
      decodeStep_encodePoint (h c List.mem_cons_self) (encodeWithSurrogates s)
    have hs : encodeWithSurrogates (c :: s) = b :: (front ++ encodeWithSurrogates s) := by
      rw [encodeWithSurrogates, List.flatMap_cons, hc]
      rfl
    rw [hs, scanFrom_item hstep, ih fun d hd => h d (List.mem_cons_of_mem c hd)]

/-- The items of a scan that meets no fault are written as the bytes that were scanned. The
recursion is on what is left behind the first item. -/
theorem encodeWithSurrogates_of_scanFrom : ∀ (bytes : Bytes) (pos : Nat) (s : Text),
    scanFrom (decodeStep false) 0 pos bytes = ⟨s, none⟩ →
    s.Encodable ∧ encodeWithSurrogates s = bytes
  | [], pos, s, h => by
    cases h
    exact ⟨by simp [Text.Encodable], rfl⟩
  | b :: bytes, pos, s, h => by
    cases hstep : decodeStep false b bytes with
    | stop reason => simp [scanFrom, hstep] at h
    | item c extra =>
      obtain ⟨front, rest, rfl, rfl, hc, hb⟩ := encodePoint_of_decodeStep hstep
      rw [scanFrom_item hstep, Scan.mk.injEq] at h
      obtain ⟨rfl, hstopped⟩ := h
      obtain ⟨hs, hrest⟩ := encodeWithSurrogates_of_scanFrom rest (pos + 1 + front.length) _
        (by rw [← hstopped])
      constructor
      · intro d hd
        rcases List.mem_cons.mp hd with rfl | hd
        · exact hc
        · exact hs d hd
      · rw [encodeWithSurrogates, List.flatMap_cons, hb, ← encodeWithSurrogates, hrest]
        rfl
termination_by bytes => bytes.length

theorem encode_eq_ok {s : Text} {bytes : Bytes} :
    encode s = .ok bytes ↔ s.Encodable ∧ encodeWithSurrogates s = bytes := by
  rw [← firstSurrogates_eq_none, encode]
  split
  · next h => simp [h]
  · next h => simp [h]

theorem decode_eq_ok {bytes : Bytes} {s : Text} :
    decode bytes = .ok s ↔ scan (decodeStep false) bytes = ⟨s, none⟩ := by
  rw [decode, Scan.decoded]
  cases scan (decodeStep false) bytes with
  | mk items stopped => cases stopped <;> simp

theorem decode_eq_ok_iff {bytes : Bytes} {s : Text} :
    decode bytes = .ok s ↔ encode s = .ok bytes := by
  rw [decode_eq_ok, encode_eq_ok]
  constructor
  · intro h
    exact encodeWithSurrogates_of_scanFrom bytes 0 s h
  · intro hyp
    obtain ⟨hs, rfl⟩ := hyp
    exact scanFrom_encodeWithSurrogates hs 0

end Utf8

end RequestCredentials
