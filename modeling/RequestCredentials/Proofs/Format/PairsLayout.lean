import RequestCredentials.Format.Pairs
import RequestCredentials.Proofs.Encoding.RoundTrip
import Mathlib.Data.List.Forall2
/-
  The layout of a pairs buffer

  Each reader of a pairs buffer looks at what stands behind an offset. It
  succeeds exactly when its bytes stand there: a number as its four bytes, a
  table of lengths as their numbers one after another, a terminated string as
  the string and a zero byte, the pairs as their names and values with
  terminators. The readers are given offsets that they compute from what they
  have read, and so the offsets agree with what stands before them.

  What is proved:
    1. `numberAt_eq_ok`, `readLengths_eq_ok`, `readTerminated_eq_ok`,
       `readPairs_eq_ok` — what each reader accepts, at any offset;
    2. `decode_eq_ok_layout` — a buffer is accepted exactly when it is the one
       that is written for some names and values, the names read as UTF-8.
-/

namespace RequestCredentials.Pairs

/-! ## Parts of a buffer -/

/-- The lengths of names and values. -/
def lengthsOf (raw : List (Bytes × Bytes)) : List (Nat × Nat) :=
  raw.map fun (name, value) => (name.length, value.length)

/-- Lengths as numbers, one after another. -/
def table (lengths : List (Nat × Nat)) : Bytes :=
  lengths.flatMap fun (name, value) => numberBytes name ++ numberBytes value

/-- Names and values, each with its terminator. -/
def body (raw : List (Bytes × Bytes)) : Bytes :=
  raw.flatMap fun (name, value) => name ++ [0] ++ value ++ [0]

/-- The lengths can be written as 32-bit numbers. -/
def LengthsFit (lengths : List (Nat × Nat)) : Prop :=
  ∀ l ∈ lengths, l.1 < 0x100000000 ∧ l.2 < 0x100000000

/-- The bytes of a name are UTF-8 for the text, and the value is kept as it is. -/
def ReadAs (raw : Bytes × Bytes) (pair : Text × Bytes) : Prop :=
  Utf8.decode raw.1 = .ok pair.1 ∧ raw.2 = pair.2

theorem table_cons (name value : Nat) (lengths : List (Nat × Nat)) :
    table ((name, value) :: lengths) =
      numberBytes name ++ (numberBytes value ++ table lengths) := by
  rw [table, List.flatMap_cons, ← table, List.append_assoc]

theorem body_cons (name value : Bytes) (raw : List (Bytes × Bytes)) :
    body ((name, value) :: raw) = name ++ 0 :: (value ++ 0 :: body raw) := by
  simp [body]

theorem lengthsFit_cons {pair : Bytes × Bytes} {raw : List (Bytes × Bytes)} :
    LengthsFit (lengthsOf (pair :: raw)) ↔
      (pair.1.length < 0x100000000 ∧ pair.2.length < 0x100000000) ∧ LengthsFit (lengthsOf raw) :=
  List.forall_mem_cons

theorem length_numberBytes (n : Nat) : (numberBytes n).length = 4 := rfl

theorem length_table (lengths : List (Nat × Nat)) :
    (table lengths).length = 8 * lengths.length := by
  induction lengths with
  | nil => rfl
  | cons l lengths ih =>
    rw [table_cons, List.length_append, List.length_append, length_numberBytes,
      length_numberBytes, ih, List.length_cons]
    omega

theorem length_body (raw : List (Bytes × Bytes)) :
    (body raw).length = bodyLength (lengthsOf raw) := by
  induction raw with
  | nil => rfl
  | cons pair raw ih =>
    rw [body_cons, lengthsOf, List.map_cons, bodyLength, ← lengthsOf, ← ih]
    simp only [List.length_append, List.length_cons]
    omega

theorem encodeBytes_eq (raw : List (Bytes × Bytes)) :
    encodeBytes raw = numberBytes raw.length ++ (table (lengthsOf raw) ++ body raw) := by
  simp [encodeBytes, table, lengthsOf, body, List.flatMap_map]

/-! ## Readers -/

section
variable {data : Bytes}

/-- What stands behind the bytes at an offset stands at the offset behind them. -/
theorem drop_behind {offset : Nat} {front rest : Bytes} (h : data.drop offset = front ++ rest) :
    data.drop (offset + front.length) = rest := by
  rw [← List.drop_drop, h, List.drop_left]

/-- What stands behind a terminated string stands at the offset behind its terminator. -/
theorem drop_terminated {offset : Nat} {bytes rest : Bytes}
    (h : data.drop offset = bytes ++ 0 :: rest) : data.drop (offset + bytes.length + 1) = rest := by
  have hcons := drop_behind h
  rw [← List.drop_drop, hcons, List.drop_succ_cons, List.drop_zero]

theorem numberAt_eq_ok {offset n : Nat} :
    numberAt data offset = .ok n ↔
      n < 0x100000000 ∧ ∃ rest, data.drop offset = numberBytes n ++ rest := by
  rw [numberAt]
  constructor
  · intro h
    split at h
    · next a b c d rest hdata =>
      cases h
      have ha := a.toNat_lt
      have hb := b.toNat_lt
      have hc := c.toNat_lt
      have hd := d.toNat_lt
      refine ⟨by omega, rest, ?_⟩
      rw [hdata, numberBytes]
      simp only [List.cons_append, List.nil_append, List.cons.injEq, ← UInt8.toNat_inj,
        UInt8.toNat_ofNat', and_true]
      omega
    · cases h
  · intro hyp
    obtain ⟨hn, rest, hdata⟩ := hyp
    rw [hdata, numberBytes]
    simp only [List.cons_append, List.nil_append, UInt8.toNat_ofNat', Except.ok.injEq]
    omega

theorem readLengths_eq_ok {count offset : Nat} {lengths : List (Nat × Nat)} :
    readLengths data offset count = .ok lengths ↔
      lengths.length = count ∧ LengthsFit lengths ∧
        ∃ rest, data.drop offset = table lengths ++ rest := by
  induction count generalizing offset lengths with
  | zero =>
    simp only [readLengths, Except.ok.injEq, List.length_eq_zero_iff]
    constructor
    · intro hyp
      subst hyp
      exact ⟨rfl, by simp [LengthsFit], data.drop offset, rfl⟩
    · intro hyp
      obtain ⟨rfl, -⟩ := hyp
      rfl
  | succ count ih =>
    simp only [readLengths, bind_eq_ok, numberAt_eq_ok, ih]
    constructor
    · intro hyp
      obtain ⟨name, ⟨hn, _, hname⟩, value, ⟨hv, _, hvalue⟩, lengths, ⟨hl, hfit, rest, hrest⟩,
        h⟩ := hyp
      cases h
      -- What is left behind a number is what the next reading starts on.
      refine ⟨by simp [hl], List.forall_mem_cons.mpr ⟨⟨hn, hv⟩, hfit⟩, rest, ?_⟩
      rw [table_cons, hname, ← drop_behind hname, length_numberBytes, hvalue,
        ← drop_behind hvalue, length_numberBytes, Nat.add_assoc, hrest]
      simp only [List.append_assoc]
    · intro hyp
      obtain ⟨hl, hfit, rest, hdata⟩ := hyp
      match lengths, hl with
      | (name, value) :: lengths, hl =>
        obtain ⟨⟨hn, hv⟩, hfit⟩ := List.forall_mem_cons.mp hfit
        rw [table_cons, List.append_assoc, List.append_assoc] at hdata
        have hvalue := drop_behind hdata
        have hrest := drop_behind hvalue
        rw [length_numberBytes] at hvalue hrest
        rw [length_numberBytes, Nat.add_assoc] at hrest
        -- Each reading is given the offset behind the numbers before it.
        exact ⟨name, ⟨hn, _, hdata⟩, value, ⟨hv, _, hvalue⟩, lengths,
          ⟨by simpa using hl, hfit, rest, hrest⟩, rfl⟩

theorem readTerminated_eq_ok {offset length : Nat} {bytes : Bytes} :
    readTerminated data offset length = .ok bytes ↔
      bytes.length = length ∧ ∃ rest, data.drop offset = bytes ++ 0 :: rest := by
  rw [readTerminated, ← List.getElem?_drop]
  constructor
  · intro h
    split at h
    · cases h
    · next b hb =>
      obtain ⟨hlength, hb⟩ := List.getElem?_eq_some_iff.mp hb
      split at h
      · next hzero =>
        cases h
        refine ⟨by rw [List.length_take]; omega, (data.drop offset).drop (length + 1), ?_⟩
        rw [← hzero, ← hb, ← List.drop_eq_getElem_cons hlength, List.take_append_drop]
      · cases h
  · intro hyp
    obtain ⟨rfl, rest, hdata⟩ := hyp
    simp [hdata]

theorem readPairs_eq_ok {lengths : List (Nat × Nat)} {offset : Nat}
    {pairs : List (Text × Bytes)} :
    readPairs data offset lengths = .ok pairs ↔
      ∃ raw, lengthsOf raw = lengths ∧ List.Forall₂ ReadAs raw pairs ∧
        ∃ rest, data.drop offset = body raw ++ rest := by
  induction lengths generalizing offset pairs with
  | nil =>
    simp only [readPairs, Except.ok.injEq, lengthsOf, List.map_eq_nil_iff]
    constructor
    · intro hyp
      subst hyp
      exact ⟨[], rfl, .nil, data.drop offset, rfl⟩
    · intro hyp
      obtain ⟨raw, rfl, hread, -⟩ := hyp
      cases hread
      rfl
  | cons l lengths ih =>
    obtain ⟨nameLength, valueLength⟩ := l
    simp only [readPairs, bind_eq_ok, readTerminated_eq_ok, mapError_eq_ok, ih]
    constructor
    · intro hyp
      obtain ⟨name, ⟨rfl, _, hname⟩, value, ⟨rfl, _, hvalue⟩, text, htext, pairs, ⟨raw, rfl,
        hread, rest, hrest⟩, h⟩ := hyp
      cases h
      refine ⟨(name, value) :: raw, rfl, .cons ⟨htext, rfl⟩ hread, rest, ?_⟩
      rw [body_cons, hname, ← drop_terminated hname, hvalue, ← drop_terminated hvalue, hrest]
      simp only [List.append_assoc, List.cons_append]
    · intro hyp
      obtain ⟨raw, hraw, hread, rest, hdata⟩ := hyp
      match raw, hread with
      | (name, value) :: raw, .cons (b := (text, _)) ⟨htext, hsame⟩ hread =>
        obtain ⟨hlengths, rfl⟩ := List.cons.inj hraw
        obtain ⟨rfl, rfl⟩ := Prod.mk.inj hlengths
        obtain rfl := hsame
        simp only [body_cons, List.append_assoc, List.cons_append] at hdata
        have hvalue := drop_terminated hdata
        exact ⟨name, ⟨rfl, _, hdata⟩, value, ⟨rfl, _, hvalue⟩, text, htext, _,
          ⟨raw, rfl, hread, rest, drop_terminated hvalue⟩, rfl⟩

/-! ## Whole buffers -/

theorem length_encodeBytes (raw : List (Bytes × Bytes)) :
    (encodeBytes raw).length = 4 * (1 + 2 * raw.length) + bodyLength (lengthsOf raw) := by
  rw [encodeBytes_eq, List.length_append, List.length_append, length_numberBytes, length_table,
    length_body, lengthsOf, List.length_map]
  omega

theorem two_mul_le_bodyLength (lengths : List (Nat × Nat)) :
    2 * lengths.length ≤ bodyLength lengths := by
  induction lengths with
  | nil => rfl
  | cons l lengths ih =>
    rw [bodyLength, List.length_cons]
    omega

theorem decode_eq_ok {pairs : List (Text × Bytes)} :
    decode data = .ok pairs ↔
      ¬ data.length < 4 ∧ ∃ count, numberAt data 0 = .ok count ∧
        ¬ data.length < leastLength count ∧ ∃ lengths, readLengths data 4 count = .ok lengths ∧
          ¬ data.length ≠ 4 * (1 + 2 * count) + bodyLength lengths ∧
            readPairs data (4 * (1 + 2 * count)) lengths = .ok pairs := by
  simp only [decode, guard_eq_ok, bind_eq_ok]

/-- A buffer is accepted exactly when it is the one that is written for some names and values, and
the pairs are what the names and values are read as. -/
theorem decode_eq_ok_layout {pairs : List (Text × Bytes)} :
    decode data = .ok pairs ↔
      ∃ raw, raw.length < 0x100000000 ∧ LengthsFit (lengthsOf raw) ∧ List.Forall₂ ReadAs raw pairs ∧
        encodeBytes raw = data := by
  rw [decode_eq_ok]
  simp only [numberAt_eq_ok, readLengths_eq_ok, readPairs_eq_ok]
  constructor
  · intro hyp
    obtain ⟨-, _, ⟨hcount, _, hnumber⟩, -, _, ⟨rfl, hfit, _, htable⟩, hlength, raw, rfl, hread,
      rest, hbody⟩ := hyp
    have hraw : (lengthsOf raw).length = raw.length := by rw [lengthsOf, List.length_map]
    -- The number, the table and the body follow one another from the start of the buffer.
    have hwhole : data = encodeBytes raw ++ rest := by
      have hbehind := drop_behind htable
      rw [length_table, show 4 + 8 * (lengthsOf raw).length = 4 * (1 + 2 * (lengthsOf raw).length)
        by omega, hbody] at hbehind
      have htail := drop_behind hnumber
      rw [length_numberBytes, Nat.zero_add, htable, ← hbehind] at htail
      rw [List.drop_zero, ← htail, hraw] at hnumber
      rw [hnumber, encodeBytes_eq]
      simp only [List.append_assoc]
    -- The lengths account for every byte, so nothing is left behind the last pair.
    have hrest : rest = [] := by
      have htotal := congrArg List.length hwhole
      rw [List.length_append, length_encodeBytes, ← hraw] at htotal
      exact List.length_eq_zero_iff.mp (by omega)
    exact ⟨raw, hraw ▸ hcount, hfit, hread, by rw [hwhole, hrest, List.append_nil]⟩
  · intro hyp
    obtain ⟨raw, hcount, hfit, hread, rfl⟩ := hyp
    have hraw : (lengthsOf raw).length = raw.length := by rw [lengthsOf, List.length_map]
    have hlength := length_encodeBytes raw
    have hleast := two_mul_le_bodyLength (lengthsOf raw)
    have hnumber : (encodeBytes raw).drop 0 =
        numberBytes raw.length ++ (table (lengthsOf raw) ++ body raw) := by
      rw [List.drop_zero, encodeBytes_eq]
    have htable := drop_behind hnumber
    have hbody := drop_behind htable
    rw [length_numberBytes, Nat.zero_add] at htable hbody
    rw [length_table, hraw, show 4 + 8 * raw.length = 4 * (1 + 2 * raw.length) by omega] at hbody
    refine ⟨by omega, raw.length, ⟨hcount, _, hnumber⟩, ?_, lengthsOf raw,
      ⟨hraw, hfit, _, htable⟩, not_not_intro hlength, raw, rfl, hread, [], ?_⟩
    · rw [leastLength]
      omega
    · rw [hbody, List.append_nil]

end

end RequestCredentials.Pairs
