import RequestCredentials.Format.Base64
import Mathlib.Data.List.DropRight
/-
  Base64 symbols

  Three bytes are four groups of six bits, and each group has one symbol in an
  alphabet. One or two bytes at the end make two or three groups, the last one
  filled up with zero bits, so that the groups of any bytes determine the bytes.
  No symbol is the padding symbol: what stands in front of the padding of an
  encoding are the symbols, and they say how much padding follows.

  What is proved:
    1. `encode_eq` — an encoding is the symbols of the groups and then padding;
    2. `mapM_sextet_symbols`, `ofSextets_sextets` — the symbols stand for the
       groups, and the groups for the bytes;
    3. `unpadded_encode`, `exists_unpadded` — data is what is left without its
       padding, followed by padding; for an encoding this is the symbols.
-/

namespace RequestCredentials.Base64

/-! ## Symbols -/

namespace Alphabet

variable (a : Alphabet)

theorem sextet_symbol : ∀ n < 64, a.sextet? (a.symbol n) = some n := by
  cases a <;> decide

theorem symbol_ne_pad : ∀ n < 64, a.symbol n ≠ pad := by
  cases a <;> decide

theorem url_symbol_not_standard : ∀ n < 64,
    ¬ (url.symbol n = standard.lastSymbols.1 ∨ url.symbol n = standard.lastSymbols.2) := by
  decide

end Alphabet

/-! ## Groups of six bits -/

/-- The groups of six bits that bytes fill, the last one filled up with zero bits. -/
def sextets : Bytes → List Nat
  | [] => []
  | [x] => [x.toNat / 4, x.toNat % 4 * 16]
  | [x, y] => [x.toNat / 4, x.toNat % 4 * 16 + y.toNat / 16, y.toNat % 16 * 4]
  | x :: y :: z :: rest =>
    x.toNat / 4 :: (x.toNat % 4 * 16 + y.toNat / 16) :: (y.toNat % 16 * 4 + z.toNat / 64) ::
      z.toNat % 64 :: sextets rest

theorem sextets_lt (raw : Bytes) : ∀ n ∈ sextets raw, n < 64 := by
  fun_induction sextets raw with
  | case1 => simp
  | case2 x =>
    have hx := x.toNat_lt
    simp only [List.forall_mem_cons, List.not_mem_nil, false_implies, implies_true, and_true]
    omega
  | case3 x y =>
    have hx := x.toNat_lt
    have hy := y.toNat_lt
    simp only [List.forall_mem_cons, List.not_mem_nil, false_implies, implies_true, and_true]
    omega
  | case4 x y z rest ih =>
    have hx := x.toNat_lt
    have hy := y.toNat_lt
    have hz := z.toNat_lt
    simp only [List.forall_mem_cons]
    exact ⟨by omega, by omega, by omega, by omega, ih⟩

/-- The groups of six bits make up the bytes that fill them. -/
theorem ofSextets_sextets (raw : Bytes) : ofSextets (sextets raw) = raw := by
  fun_induction sextets raw with
  | case1 => rfl
  | case2 x =>
    have hx := x.toNat_lt
    simp only [ofSextets, List.cons.injEq, and_true, ← UInt8.toNat_inj, UInt8.toNat_ofNat']
    omega
  | case3 x y =>
    have hx := x.toNat_lt
    have hy := y.toNat_lt
    simp only [ofSextets, List.cons.injEq, and_true, ← UInt8.toNat_inj, UInt8.toNat_ofNat']
    omega
  | case4 x y z rest ih =>
    have hx := x.toNat_lt
    have hy := y.toNat_lt
    have hz := z.toNat_lt
    simp only [ofSextets, List.cons.injEq, ih, and_true, ← UInt8.toNat_inj, UInt8.toNat_ofNat']
    omega

/-- The symbols of the groups that bytes fill. -/
def symbols (a : Alphabet) (raw : Bytes) : Bytes := (sextets raw).map a.symbol

theorem symbols_ne_pad (a : Alphabet) (raw : Bytes) : ∀ b ∈ symbols a raw, b ≠ pad := by
  intro b hb
  obtain ⟨n, hn, rfl⟩ := List.mem_map.mp hb
  exact a.symbol_ne_pad n (sextets_lt raw n hn)

theorem mapM_sextet_map (a : Alphabet) {ns : List Nat} (h : ∀ n ∈ ns, n < 64) :
    (ns.map a.symbol).mapM a.sextet? = some ns := by
  induction ns with
  | nil => rfl
  | cons n ns ih =>
    obtain ⟨hn, hns⟩ := List.forall_mem_cons.mp h
    rw [List.map_cons, List.mapM_cons, a.sextet_symbol n hn, ih hns]
    rfl

theorem mapM_sextet_symbols (a : Alphabet) (raw : Bytes) :
    (symbols a raw).mapM a.sextet? = some (sextets raw) :=
  mapM_sextet_map a (sextets_lt raw)

/-! ## Padding -/

/-- The number of padding symbols that fill up the symbols of `length` bytes. -/
def padCount (length : Nat) : Nat := (3 - length % 3) % 3

theorem padCount_lt (length : Nat) : padCount length < 3 := Nat.mod_lt _ (by omega)

theorem padCount_eq_zero {length : Nat} : padCount length = 0 ↔ length % 3 = 0 := by
  rw [padCount]
  omega

theorem padCount_add_three (length : Nat) : padCount (length + 3) = padCount length := by
  rw [padCount, Nat.add_mod_right, padCount]

/-- With the padding there are four symbols for each three bytes that are begun. -/
theorem length_symbols (a : Alphabet) (raw : Bytes) :
    (symbols a raw).length + padCount raw.length = 4 * ((raw.length + 2) / 3) := by
  rw [symbols, List.length_map]
  fun_induction sextets raw with
  | case4 x y z rest ih =>
    simp only [List.length_cons, padCount_add_three]
    omega
  | _ => simp only [List.length_cons, List.length_nil, padCount]

theorem encode_eq (a : Alphabet) (raw : Bytes) :
    encode a raw = symbols a raw ++ List.replicate (padCount raw.length) pad := by
  fun_induction sextets raw with
  | case1 => rfl
  | case2 x => rfl
  | case3 x y => rfl
  | case4 x y z rest ih =>
    rw [encode, ih, List.length_cons, List.length_cons, List.length_cons, padCount_add_three]
    rfl

theorem unpadded_eq (data : Bytes) : unpadded data = data.rdropWhile (· = pad) := rfl

/-- Padding behind data goes with the padding at its end. -/
theorem unpadded_append (data : Bytes) (n : Nat) :
    unpadded (data ++ List.replicate n pad) = unpadded data := by
  induction n with
  | zero => rw [List.replicate_zero, List.append_nil]
  | succ n ih =>
    rw [List.replicate_succ', ← List.append_assoc, unpadded_eq,
      List.rdropWhile_concat_pos _ _ _ (by simp), ← unpadded_eq, ih]

theorem unpadded_of_ne_pad {data : Bytes} (h : ∀ b ∈ data, b ≠ pad) : unpadded data = data := by
  rw [unpadded_eq, List.rdropWhile_eq_self_iff]
  intro hdata
  simpa using h _ (List.getLast_mem hdata)

theorem exists_unpadded (data : Bytes) : ∃ n, data = unpadded data ++ List.replicate n pad := by
  have hpads : ∀ b ∈ data.rtakeWhile (· = pad), b = pad := by
    intro b hb
    simpa using List.mem_rtakeWhile_imp hb
  refine ⟨(data.rtakeWhile (· = pad)).length, ?_⟩
  rw [← List.eq_replicate_of_mem hpads, unpadded_eq, List.rdropWhile_append_rtakeWhile]

theorem unpadded_encode (a : Alphabet) (raw : Bytes) : unpadded (encode a raw) = symbols a raw := by
  rw [encode_eq, unpadded_append, unpadded_of_ne_pad (symbols_ne_pad a raw)]

end RequestCredentials.Base64
