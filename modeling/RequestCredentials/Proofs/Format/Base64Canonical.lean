import RequestCredentials.Proofs.Format.Base64Symbols
import RequestCredentials.Proofs.Except
/-
  Which data is Base64

  What is decoded is compared with its own encoding, the padding of both left
  out, so the symbols of the data are those of the bytes that it stands for. Only
  the padding is free. Behind symbols that fill no group of four it may be left
  out in part or as a whole. Behind full groups any padding is passed over,
  unless a single padding symbol is left over there; and padding never stands
  alone.

  What is proved:
    1. `decode_eq_ok_iff` — data stands for bytes exactly when it is their
       encoding, with padding left out or with surplus padding;
    2. `decode_url_eq_standard` — data without the characters in which the
       alphabets differ is decoded alike in both.
-/

namespace RequestCredentials.Base64

/-! ## Steps of a decoding -/

/-- The padding that fills up data to groups of four symbols. -/
theorem padded_eq_ok {data d : Bytes} :
    padded data = .ok d ↔
      data.length % 4 ≠ 1 ∧ d = data ++ List.replicate ((4 - data.length % 4) % 4) pad := by
  rw [padded]
  have hlt := Nat.mod_lt data.length (show 4 > 0 by omega)
  split
  · next h => simp [h, eq_comm]
  · next h => simp [h]
  · next h0 h1 =>
    have hpos : data.length % 4 ≠ 0 := h0
    rw [Except.ok.injEq, Nat.mod_eq_of_lt (show 4 - data.length % 4 < 4 by omega), eq_comm]
    exact (and_iff_right h1).symm

theorem checkPadding_replicate {a : Alphabet} {count n : Nat} (pads : Nat)
    (h : count % 4 + pads < 4) :
    checkPadding a count pads (List.replicate n pad) = .ok () ↔
      count % 4 = 0 ∨ 2 ≤ count % 4 ∧ count % 4 + pads + n = 4 := by
  induction n generalizing pads with
  | zero =>
    rw [List.replicate_zero, checkPadding]
    split
    · next h0 => simp [h0]
    · next h1 => simp [h1]
    · next h0 h1 =>
      have hlow : count % 4 ≠ 0 ∧ count % 4 ≠ 1 := ⟨h0, h1⟩
      refine iff_of_false (by simp) ?_
      omega
  | succ n ih =>
    rw [List.replicate_succ, checkPadding, if_pos rfl]
    split
    · next hfew =>
      rw [ih pads h]
      omega
    split
    · next hmore =>
      rw [ih (pads + 1) (by omega)]
      omega
    · next hlast =>
      cases n with
      | zero => simp; omega
      | succ n => simp [List.replicate_succ]; omega

theorem takeWhile_symbols (a : Alphabet) (raw : Bytes) (n : Nat) :
    (symbols a raw ++ List.replicate n pad).takeWhile (· ≠ pad) = symbols a raw := by
  rw [List.takeWhile_append_of_pos (by simpa using symbols_ne_pad a raw)]
  simp

theorem dropWhile_symbols (a : Alphabet) (raw : Bytes) (n : Nat) :
    (symbols a raw ++ List.replicate n pad).dropWhile (· ≠ pad) = List.replicate n pad := by
  rw [List.dropWhile_append_of_pos (by simpa using symbols_ne_pad a raw)]
  simp

theorem head_symbols {a : Alphabet} {raw : Bytes} {n : Nat} :
    (symbols a raw ++ List.replicate n pad).head? = some pad ↔ raw = [] ∧ n ≠ 0 := by
  cases raw with
  | nil => cases n <;> simp [symbols, sextets, List.replicate_succ]
  | cons x raw =>
    have hlength := length_symbols a (x :: raw)
    have hpads := padCount_lt (x :: raw).length
    have hne := symbols_ne_pad a (x :: raw)
    cases hs : symbols a (x :: raw) with
    | nil =>
      rw [hs, List.length_nil] at hlength
      rw [List.length_cons] at hlength hpads
      omega
    | cons b rest =>
      rw [hs] at hne
      simpa using hne b (by simp)

theorem decodePadded_symbols {a : Alphabet} {raw r : Bytes} {n : Nat} :
    decodePadded a (symbols a raw ++ List.replicate n pad) = .ok r ↔
      (raw = [] → n = 0) ∧ (padCount raw.length = 0 ∨ n = padCount raw.length) ∧ r = raw := by
  have hlength := length_symbols a raw
  have hpads := padCount_lt raw.length
  rw [symbols, List.length_map] at hlength
  have hfits := checkPadding_replicate (a := a) (n := n) 0
    (show (sextets raw).length % 4 + 0 < 4 by omega)
  rw [decodePadded, takeWhile_symbols, dropWhile_symbols, mapM_sextet_symbols]
  simp only [guard_eq_ok, head_symbols, bind_eq_ok, ofSextets_sextets, ne_eq, not_and_not_right]
  constructor
  · intro hyp
    obtain ⟨hhead, ⟨⟩, hcheck, h⟩ := hyp
    cases h
    rw [hfits] at hcheck
    exact ⟨hhead, by omega, rfl⟩
  · intro hyp
    obtain ⟨hhead, hcount, rfl⟩ := hyp
    exact ⟨hhead, (), hfits.mpr (by omega), rfl⟩

theorem holdsStandardSymbol_symbols (raw : Bytes) (n : Nat) :
    holdsStandardSymbol (symbols .url raw ++ List.replicate n pad) = false := by
  rw [holdsStandardSymbol, List.any_eq_false]
  intro b hb
  rw [Bool.or_eq_true, decide_eq_true_eq, decide_eq_true_eq]
  rcases List.mem_append.mp hb with hb | hb
  · obtain ⟨m, hm, rfl⟩ := List.mem_map.mp hb
    exact Alphabet.url_symbol_not_standard m (sextets_lt raw m hm)
  · rw [List.eq_of_mem_replicate hb]
    decide

/-! ## Whole data -/

/-- Data is decoded to some bytes exactly when it is their symbols with padding behind them that
completes no more than a group, or that stands behind full groups. -/
theorem decode_eq_ok {a : Alphabet} {data raw : Bytes} :
    decode a data = .ok raw ↔
      ∃ n, data = symbols a raw ++ List.replicate n pad ∧
        (n ≤ padCount raw.length ∨ raw ≠ [] ∧ padCount raw.length = 0 ∧ n % 4 ≠ 1) := by
  have hlength := length_symbols a raw
  have hpads := padCount_lt raw.length
  simp only [decode, guard_eq_ok, bind_eq_ok, padded_eq_ok]
  constructor
  · intro hyp
    obtain ⟨-, d, ⟨hdata, rfl⟩, r, hr, hsame, h⟩ := hyp
    cases h
    rw [not_not, unpadded_encode] at hsame
    obtain ⟨n, hn⟩ := exists_unpadded data
    rw [← hsame] at hn
    rw [hn, List.append_assoc, List.replicate_append_replicate, decodePadded_symbols,
      List.length_append, List.length_replicate] at hr
    rw [hn, List.length_append, List.length_replicate] at hdata
    refine ⟨n, hn, ?_⟩
    rcases eq_or_ne raw [] with rfl | hraw
    · have hnone := hr.1 rfl
      left
      omega
    · have hfit := hr.2.1
      by_cases hzero : padCount raw.length = 0
      · exact .inr ⟨hraw, hzero, by omega⟩
      · left
        omega
  · intro hyp
    obtain ⟨n, rfl, hn⟩ := hyp
    have hmod : (symbols a raw ++ List.replicate n pad).length % 4 ≠ 1 := by
      rw [List.length_append, List.length_replicate]
      omega
    refine ⟨?_, _, ⟨hmod, rfl⟩, raw, ?_, ?_, rfl⟩
    · intro hyp
      obtain ⟨rfl, hstandard⟩ := hyp
      rw [holdsStandardSymbol_symbols] at hstandard
      cases hstandard
    · rw [List.append_assoc, List.replicate_append_replicate, decodePadded_symbols,
        List.length_append, List.length_replicate]
      refine ⟨?_, by omega, rfl⟩
      intro hraw
      subst hraw
      have hnone : n = 0 := by simpa [padCount] using hn
      simp [hnone, symbols, sextets]
    · rw [not_not, unpadded_encode, unpadded_append, unpadded_of_ne_pad (symbols_ne_pad a raw)]

/-- The data is the encoding of the bytes, padding at its end left out or not. -/
def Shortened (a : Alphabet) (raw data : Bytes) : Prop :=
  ∃ missing, data ++ List.replicate missing pad = encode a raw

/-- The data is the encoding of bytes that fill groups of four symbols, with padding behind it. -/
def Overpadded (a : Alphabet) (raw data : Bytes) : Prop :=
  raw ≠ [] ∧ raw.length % 3 = 0 ∧
    ∃ surplus, 0 < surplus ∧ surplus % 4 ≠ 1 ∧ data = encode a raw ++ List.replicate surplus pad

theorem shortened_iff {a : Alphabet} {raw data : Bytes} :
    Shortened a raw data ↔
      ∃ n ≤ padCount raw.length, data = symbols a raw ++ List.replicate n pad := by
  constructor
  · intro hyp
    obtain ⟨missing, h⟩ := hyp
    obtain ⟨n, hn⟩ := exists_unpadded data
    have hsame := congrArg unpadded h
    rw [unpadded_append, unpadded_encode] at hsame
    rw [hsame] at hn
    have hlength := congrArg List.length h
    rw [hn, encode_eq] at hlength
    simp only [List.length_append, List.length_replicate] at hlength
    exact ⟨n, by omega, hn⟩
  · intro hyp
    obtain ⟨n, hn, rfl⟩ := hyp
    refine ⟨padCount raw.length - n, ?_⟩
    rw [List.append_assoc, List.replicate_append_replicate, Nat.add_sub_cancel' hn, encode_eq]

theorem overpadded_iff {a : Alphabet} {raw data : Bytes} :
    Overpadded a raw data ↔ raw ≠ [] ∧ padCount raw.length = 0 ∧
      ∃ n, 0 < n ∧ n % 4 ≠ 1 ∧ data = symbols a raw ++ List.replicate n pad := by
  rw [Overpadded, padCount_eq_zero]
  refine and_congr_right fun _ => and_congr_right fun h => ?_
  rw [encode_eq, padCount_eq_zero.mpr h, List.replicate_zero, List.append_nil]

/-- Data stands for bytes exactly when it is their encoding, with padding left out or with surplus
padding. -/
theorem decode_eq_ok_iff {a : Alphabet} {data raw : Bytes} :
    decode a data = .ok raw ↔ Shortened a raw data ∨ Overpadded a raw data := by
  rw [decode_eq_ok, shortened_iff, overpadded_iff]
  constructor
  · intro hyp
    obtain ⟨n, hdata, hn | ⟨hraw, hzero, hn⟩⟩ := hyp
    · exact .inl ⟨n, hn, hdata⟩
    · rcases Nat.eq_zero_or_pos n with rfl | hpos
      · exact .inl ⟨0, Nat.zero_le _, hdata⟩
      · exact .inr ⟨hraw, hzero, n, hpos, hn, hdata⟩
  · intro hyp
    rcases hyp with ⟨n, hn, hdata⟩ | ⟨hraw, hzero, n, -, hn, hdata⟩
    · exact ⟨n, hdata, .inl hn⟩
    · exact ⟨n, hdata, .inr ⟨hraw, hzero, hn⟩⟩

/-! ## The alphabets -/

/-- The characters that only one of the alphabets has. -/
def differing : List Nat := [0x2B, 0x2F, 0x2D, 0x5F]

/-- The bytes are in the symbols that both alphabets have, the padding symbol or foreign. -/
def Common (data : Bytes) : Prop := ∀ b ∈ data, b.toNat ∉ differing

section
variable {data : Bytes}

theorem sextet_common {b : UInt8} (h : b.toNat ∉ differing) :
    Alphabet.url.sextet? b = Alphabet.standard.sextet? b := by
  simp only [differing, List.mem_cons, List.not_mem_nil, or_false, not_or] at h
  simp [Alphabet.sextet?, Alphabet.lastSymbols, ← UInt8.toNat_inj, h]

theorem symbol_common {a : Alphabet} {n : Nat} (hn : n < 64) (h : (a.symbol n).toNat ∉ differing) :
    Alphabet.url.symbol n = Alphabet.standard.symbol n := by
  revert n
  cases a <;> decide

theorem mapM_sextet_common (h : Common data) :
    data.mapM Alphabet.url.sextet? = data.mapM Alphabet.standard.sextet? := by
  induction data with
  | nil => rfl
  | cons b data ih =>
    obtain ⟨hb, hdata⟩ := List.forall_mem_cons.mp h
    rw [List.mapM_cons, List.mapM_cons, sextet_common hb, ih hdata]

theorem checkPadding_common (h : Common data) (count pads : Nat) :
    checkPadding .url count pads data = checkPadding .standard count pads data := by
  induction data generalizing pads with
  | nil => rfl
  | cons b data ih =>
    obtain ⟨hb, hdata⟩ := List.forall_mem_cons.mp h
    rw [checkPadding, checkPadding, sextet_common hb, ih hdata, ih hdata]

theorem decodePadded_common (h : Common data) :
    decodePadded .url data = decodePadded .standard data := by
  have hsymbols : Common (data.takeWhile (· ≠ pad)) := fun b hb =>
    h b ((List.takeWhile_prefix _).subset hb)
  have hrest : Common (data.dropWhile (· ≠ pad)) := fun b hb =>
    h b ((List.dropWhile_suffix _).subset hb)
  simp only [decodePadded, mapM_sextet_common hsymbols, checkPadding_common hrest]

theorem Common.append_pads (h : Common data) (n : Nat) :
    Common (data ++ List.replicate n pad) := by
  intro b hb
  rcases List.mem_append.mp hb with hb | hb
  · exact h b hb
  · rw [List.eq_of_mem_replicate hb]
    decide

theorem symbols_common {a : Alphabet} {raw : Bytes} (h : Common (symbols a raw)) :
    symbols .url raw = symbols .standard raw := by
  apply List.map_congr_left
  intro n hn
  exact symbol_common (sextets_lt raw n hn) (h _ (List.mem_map_of_mem hn))

theorem symbols_eq_common (h : Common data) (raw : Bytes) :
    symbols .url raw = data ↔ symbols .standard raw = data := by
  constructor
  · intro hyp
    subst hyp
    exact (symbols_common h).symm
  · intro hyp
    subst hyp
    exact symbols_common h

theorem decode_url_eq_standard (h : Common data) : decode .url data = decode .standard data := by
  have hstandard : holdsStandardSymbol data = false := by
    rw [holdsStandardSymbol, List.any_eq_false]
    intro b hb
    have hcommon := h b hb
    rw [differing, List.mem_cons, List.mem_cons, not_or, not_or] at hcommon
    simpa [Alphabet.lastSymbols, ← UInt8.toNat_inj] using ⟨hcommon.1, hcommon.2.1⟩
  have hunpadded : Common (unpadded data) := fun b hb =>
    h b ((List.rdropWhile_prefix _ _).subset hb)
  have hstep : ∀ d, padded data = .ok d →
      decodePadded .url d = decodePadded .standard d := by
    intro d hd
    rw [(padded_eq_ok.mp hd).2]
    exact decodePadded_common (h.append_pads _)
  simp only [decode, hstandard, Bool.false_eq_true, and_false, if_false, unpadded_encode, ne_eq,
    symbols_eq_common hunpadded]
  cases hd : padded data with
  | error fault => rfl
  | ok d =>
    change (decodePadded .url d >>= _) = (decodePadded .standard d >>= _)
    rw [hstep d hd]

end

end RequestCredentials.Base64
