import RequestCredentials.Proofs.Format.PairsLayout
/-
  Pairs buffers are canonical

  The pairs that a buffer is read as determine the buffer: it is the one that
  is written for them. In the other direction all pairs whose names are UTF-8
  come back from their buffer, as long as their number and their lengths can be
  written. Nothing else is asked of names and values: they may be empty, occur
  twice and hold zero bytes, since only the lengths say where they end.

  What is proved:
    1. `decode_canonical` — a buffer is accepted exactly when it is what is
       written for the pairs, and no other buffer is read as the same pairs;
    2. `decode_encode` — pairs that can be written are read back in order, each
       name as its text and each value as its bytes.
-/

namespace RequestCredentials

namespace Pairs

/-! ## What can be written -/

/-- A pair that was read, its name held as text and its value as bytes. -/
def held (pair : Text × Bytes) : Content × Content := (.chars pair.1, .bytes pair.2)

/-- The number of pairs and the lengths of their bytes can be written as 32-bit numbers. -/
def Fits (pairs : List (Content × Content)) : Prop :=
  pairs.length < 0x100000000 ∧ ∀ pair ∈ pairs, ∀ raw, pairBytes pair = .ok raw →
    raw.1.length < 0x100000000 ∧ raw.2.length < 0x100000000

theorem pairBytes_eq_ok {pair : Content × Content} {raw : Bytes × Bytes} :
    pairBytes pair = .ok raw ↔ pair.1.toBytes = .ok raw.1 ∧ pair.2.toBytes = .ok raw.2 := by
  simp only [pairBytes, bind_eq_ok]
  constructor
  · intro hyp
    obtain ⟨name, hname, value, hvalue, h⟩ := hyp
    cases h
    exact ⟨hname, hvalue⟩
  · intro hyp
    obtain ⟨hname, hvalue⟩ := hyp
    exact ⟨raw.1, hname, raw.2, hvalue, rfl⟩

theorem pairBytes_held {pair : Text × Bytes} {raw : Bytes × Bytes} :
    pairBytes (held pair) = .ok raw ↔ ReadAs raw pair := by
  rw [pairBytes_eq_ok, held, ReadAs, Utf8.decode_eq_ok_iff, Content.toBytes, Content.toBytes,
    Except.ok.injEq, eq_comm (a := pair.2)]

theorem numbersFit_iff {raw : List (Bytes × Bytes)} :
    numbersFit raw = true ↔ raw.length < 0x100000000 ∧ LengthsFit (lengthsOf raw) := by
  rw [LengthsFit, lengthsOf, List.forall_mem_map]
  simp [numbersFit]

theorem encode_eq_ok {pairs : List (Content × Content)} {data : Bytes} :
    encode pairs = .ok data ↔
      ∃ raw, List.Forall₂ (fun pair r => pairBytes pair = .ok r) pairs raw ∧
        numbersFit raw = true ∧ encodeBytes raw = data := by
  simp only [encode, bind_eq_ok, mapError_eq_ok, mapM_eq_ok]
  refine exists_congr fun raw => and_congr_right fun _ => ?_
  by_cases h : numbersFit raw = true <;> simp [h, pure, Except.pure, throw, throwThe,
    MonadExceptOf.throw]

theorem fits_iff {pairs : List (Content × Content)} {raw : List (Bytes × Bytes)}
    (h : List.Forall₂ (fun pair r => pairBytes pair = .ok r) pairs raw) :
    Fits pairs ↔ numbersFit raw = true := by
  rw [Fits, h.length_eq, numbersFit_iff]
  apply and_congr_right
  intro _
  induction h with
  | nil => simp [LengthsFit, lengthsOf]
  | cons hraw _ ih =>
    rw [List.forall_mem_cons, lengthsFit_cons, ih (by simp_all; omega), hraw]
    simp

/-- The bytes of pairs that were read are those that they were read from. -/
theorem forall₂_pairBytes_held {pairs : List (Text × Bytes)} {raw : List (Bytes × Bytes)} :
    List.Forall₂ (fun pair r => pairBytes pair = .ok r) (pairs.map held) raw ↔
      List.Forall₂ ReadAs raw pairs := by
  simp only [List.forall₂_map_left_iff, pairBytes_held]
  exact ⟨List.Forall₂.flip, List.Forall₂.flip⟩

/-! ## From buffers to pairs -/

theorem decode_eq_ok_iff_encode {data : Bytes} {pairs : List (Text × Bytes)} :
    decode data = .ok pairs ↔ Fits (pairs.map held) ∧ encode (pairs.map held) = .ok data := by
  rw [decode_eq_ok_layout, encode_eq_ok]
  constructor
  · intro hyp
    obtain ⟨raw, hcount, hlengths, hread, hdata⟩ := hyp
    have hraw := forall₂_pairBytes_held.mpr hread
    have hfits := numbersFit_iff.mpr ⟨hcount, hlengths⟩
    exact ⟨(fits_iff hraw).mpr hfits, raw, hraw, hfits, hdata⟩
  · intro hyp
    obtain ⟨-, raw, hraw, hfits, hdata⟩ := hyp
    obtain ⟨hcount, hlengths⟩ := numbersFit_iff.mp hfits
    exact ⟨raw, hcount, hlengths, forall₂_pairBytes_held.mp hraw, hdata⟩

/-- **Buffers are canonical.** A buffer is accepted exactly when it is what is written for the
pairs, and it is the only buffer that is read as them: no byte of it can be changed, left out or
added. -/
theorem decode_canonical (data : Bytes) (pairs : List (Text × Bytes)) :
    (decode data = .ok pairs ↔ Fits (pairs.map held) ∧ encode (pairs.map held) = .ok data) ∧
      ∀ other, decode data = .ok pairs → decode other = .ok pairs → other = data := by
  refine ⟨decode_eq_ok_iff_encode, ?_⟩
  intro other h hother
  have hwritten := (decode_eq_ok_iff_encode.mp h).2
  have hsame := (decode_eq_ok_iff_encode.mp hother).2
  rw [hwritten, Except.ok.injEq] at hsame
  exact hsame.symm

/-- One pair without a name, whose value is a zero byte. -/
def zeroByte : Bytes := [1, 0, 0, 0, 0, 0, 0, 0, 1, 0, 0, 0, 0, 0, 0]

theorem decode_canonical_zeroByte :
    decode zeroByte = .ok [([], [0])] ∧ encode [held ([], [0])] = .ok zeroByte ∧
      ∀ other, decode other = .ok [([], [0])] → other = zeroByte := by
  have h : decode zeroByte = .ok [([], [0])] := rfl
  obtain ⟨hiff, honly⟩ := decode_canonical zeroByte [([], [0])]
  exact ⟨h, (hiff.mp h).2, fun other hother => honly other h hother⟩

/-! ## From pairs to buffers -/

/-- A name is text that has bytes, or bytes that are UTF-8. -/
def IsName : Content → Prop
  | .chars s => s.Encodable
  | .bytes b => ∃ s, Utf8.decode b = .ok s

/-- The name came back as its text, and the value as its bytes. -/
def CameBack (pair : Content × Content) (back : Text × Bytes) : Prop :=
  pair.1.toText? = some back.1 ∧ pair.2.toBytes = .ok back.2

theorem IsName.reads {c : Content} (h : IsName c) :
    ∃ bytes s, c.toBytes = .ok bytes ∧ Utf8.decode bytes = .ok s ∧ c.toText? = some s := by
  cases c with
  | chars s =>
    obtain ⟨bytes, hbytes⟩ := encode_isOk.mpr h
    exact ⟨bytes, s, hbytes, Utf8.decode_eq_ok_iff.mpr hbytes, rfl⟩
  | bytes b =>
    obtain ⟨s, hs⟩ := h
    exact ⟨b, s, rfl, hs, by rw [Content.toText?, hs]; rfl⟩

theorem exists_readAs {pairs : List (Content × Content)}
    (h : ∀ pair ∈ pairs, IsName pair.1 ∧ pair.2.Encodable) :
    ∃ raw back, List.Forall₂ (fun pair r => pairBytes pair = .ok r) pairs raw ∧
      List.Forall₂ ReadAs raw back ∧ List.Forall₂ CameBack pairs back := by
  induction pairs with
  | nil => exact ⟨[], [], .nil, .nil, .nil⟩
  | cons pair pairs ih =>
    obtain ⟨⟨hname, hvalue⟩, hpairs⟩ := List.forall_mem_cons.mp h
    obtain ⟨raw, back, hraw, hread, hback⟩ := ih hpairs
    obtain ⟨name, s, hbytes, hs, htext⟩ := hname.reads
    obtain ⟨value, hvalue⟩ := toBytes_isOk.mpr hvalue
    exact ⟨(name, value) :: raw, (s, value) :: back,
      .cons (pairBytes_eq_ok.mpr ⟨hbytes, hvalue⟩) hraw, .cons ⟨hs, rfl⟩ hread,
      .cons ⟨htext, hvalue⟩ hback⟩

/-- **Round trip.** Pairs that can be written have a buffer, and it is read back as the same pairs
in the same order, each name as its text and each value as its bytes. -/
theorem decode_encode (pairs : List (Content × Content)) (hfits : Fits pairs)
    (hpairs : ∀ pair ∈ pairs, IsName pair.1 ∧ pair.2.Encodable) :
    ∃ data back, encode pairs = .ok data ∧ decode data = .ok back ∧
      List.Forall₂ CameBack pairs back := by
  obtain ⟨raw, back, hraw, hread, hback⟩ := exists_readAs hpairs
  have hnumbers := (fits_iff hraw).mp hfits
  obtain ⟨hcount, hlengths⟩ := numbersFit_iff.mp hnumbers
  exact ⟨encodeBytes raw, back, encode_eq_ok.mpr ⟨raw, hraw, hnumbers, rfl⟩,
    decode_eq_ok_layout.mpr ⟨raw, hcount, hlengths, hread, rfl⟩, hback⟩

/-- A name that occurs twice, once as text and once as bytes, and one that is empty. -/
def repeatedName : List (Content × Content) :=
  [(.chars "k\x00", .bytes []), (.bytes [0x6B, 0], .bytes [0xFF, 0]), (.chars [], .chars "é")]

theorem decode_encode_repeatedName :
    Fits repeatedName ∧ (∀ pair ∈ repeatedName, IsName pair.1 ∧ pair.2.Encodable) ∧
      ∃ data back, encode repeatedName = .ok data ∧ decode data = .ok back ∧
        List.Forall₂ CameBack repeatedName back := by
  have hraw : List.Forall₂ (fun pair r => pairBytes pair = .ok r) repeatedName
      [([0x6B, 0], []), ([0x6B, 0], [0xFF, 0]), ([], [0xC3, 0xA9])] :=
    .cons rfl (.cons rfl (.cons rfl .nil))
  have hfits : Fits repeatedName := (fits_iff hraw).mpr rfl
  have hpairs : ∀ pair ∈ repeatedName, IsName pair.1 ∧ pair.2.Encodable := by
    simp only [repeatedName, List.forall_mem_cons]
    exact ⟨⟨encode_isOk.mp ⟨_, rfl⟩, trivial⟩, ⟨⟨_, rfl⟩, trivial⟩,
      ⟨encode_isOk.mp ⟨_, rfl⟩, encode_isOk.mp ⟨_, rfl⟩⟩, by simp⟩
  exact ⟨hfits, hpairs, decode_encode repeatedName hfits hpairs⟩

end Pairs

end RequestCredentials
