import RequestCredentials.Json.Number
import RequestCredentials.Number.DigitLimit
/-
  Integers in documents

  The decimal text of a natural number is made up of digits, starts with a zero
  for zero alone, and spells the number. So the reader takes an integer exactly
  up to the end of its text, unless digits, a fraction or an exponent follow.

  What is proved:
    1. `decimalValue_ofNat`, `head_ofNat_ne_zero` — the digits of a number;
    2. `read_ofInt`, `value_ofInt` — an integer is read back from its text.
-/

namespace RequestCredentials

/-! ## Digits -/

namespace Text

theorem isDigit_of_mem_ofNat {n : Nat} {c : CodePoint} (h : c ∈ ofNat n) : c.isDigit = true := by
  obtain ⟨d, hd, rfl⟩ := List.mem_map.mp h
  have hdigit : d.isDigit = true := Nat.isDigit_of_mem_toDigits (by decide) (by decide) hd
  simp only [Char.isDigit, Bool.and_eq_true, decide_eq_true_eq, UInt32.le_iff_toNat_le] at hdigit
  have hrange : 0x30 ≤ d.toNat ∧ d.toNat ≤ 0x39 := hdigit
  rw [CodePoint.isDigit, Bool.and_eq_true]
  exact ⟨decide_eq_true hrange.1, decide_eq_true hrange.2⟩

theorem ofNat_ne_nil (n : Nat) : ofNat n ≠ [] := by
  rw [ofNat, Ne, List.map_eq_nil_iff]
  exact Nat.toDigits_ne_nil

theorem exists_cons_ofNat (n : Nat) :
    ∃ c digits, ofNat n = c :: digits ∧ c.isDigit = true := by
  obtain ⟨c, digits, hdigits⟩ := List.exists_cons_of_ne_nil (ofNat_ne_nil n)
  exact ⟨c, digits, hdigits, isDigit_of_mem_ofNat (hdigits ▸ List.mem_cons_self)⟩

theorem decimalValue_ofNat (n : Nat) : decimalValue (ofNat n) = n := by
  rw [decimalValue, ofNat, List.foldl_map]
  exact Nat.ofDigitChars_ten_toDigits

theorem ofNat_of_ten_le {n : Nat} (h : 10 ≤ n) :
    ofNat n = ofNat (n / 10) ++ [CodePoint.ofChar (n % 10).digitChar] := by
  rw [ofNat, Nat.toDigits_of_base_le (by decide) h, List.map_append]
  rfl

/-- Only zero is written with a leading zero. -/
theorem head_ofNat_ne_zero {n : Nat} (h : 0 < n) :
    (ofNat n).head? ≠ some (CodePoint.ofChar '0') := by
  induction n using Nat.strongRecOn with
  | ind n ih =>
    by_cases hn : 10 ≤ n
    · have hhead := ih (n / 10) (by omega) (by omega)
      obtain ⟨c, digits, hdigits⟩ := List.exists_cons_of_ne_nil (ofNat_ne_nil (n / 10))
      rw [hdigits, List.head?_cons] at hhead
      rw [ofNat_of_ten_le hn, hdigits, List.cons_append, List.head?_cons]
      exact hhead
    · have hdigits : ∀ d : Fin 10, 0 < d.val →
          CodePoint.ofChar d.val.digitChar ≠ CodePoint.ofChar '0' := by decide
      rw [ofNat, Nat.toDigits_of_lt_base (by omega), List.map_singleton, List.head?_cons, Ne,
        Option.some.injEq]
      exact hdigits ⟨n, by omega⟩ h

/-- An integer starts with a digit or a minus sign, and a digit is among its first two code
points. -/
theorem exists_cons_ofInt (n : Int) : ∃ c tail, ofInt n = c :: tail ∧
    (c.isDigit = true ∨ c = CodePoint.ofChar '-') ∧
    ∀ rest, ((c :: (tail ++ rest)).take 2).any CodePoint.isDigit = true := by
  cases n with
  | ofNat n =>
    obtain ⟨c, digits, h, hc⟩ := exists_cons_ofNat n
    refine ⟨c, digits, h, .inl hc, fun rest => ?_⟩
    rw [List.take_succ_cons, List.any_cons, hc, Bool.true_or]
  | negSucc n =>
    obtain ⟨c, digits, h, hc⟩ := exists_cons_ofNat (n + 1)
    refine ⟨_, _, rfl, .inr rfl, fun rest => ?_⟩
    rw [h, List.cons_append, List.take_succ_cons, List.take_succ_cons, List.any_cons, List.any_cons,
      hc, Bool.true_or, Bool.or_true]

end Text

/-! ## Reading -/

namespace Json

/-- Nothing that could belong to a number stands at the front. -/
def EndsNumber (rest : Text) : Prop :=
  ∀ c ∈ rest.head?, c.isDigit = false ∧ c ≠ CodePoint.ofChar '.' ∧ c ≠ CodePoint.ofChar 'e' ∧
    c ≠ CodePoint.ofChar 'E'

theorem EndsNumber.takeWhile {rest : Text} (h : EndsNumber rest) :
    rest.takeWhile (·.isDigit) = [] := by
  cases rest with
  | nil => rfl
  | cons c tail => rw [List.takeWhile_cons_of_neg (by simp [(h c rfl).1])]

namespace NumberText

theorem readWhole_ofNat (n : Nat) {rest : Text} (h : EndsNumber rest) :
    readWhole (Text.ofNat n ++ rest) = Text.ofNat n := by
  obtain ⟨c, digits, hdigits, hc⟩ := Text.exists_cons_ofNat n
  rcases Nat.eq_zero_or_pos n with rfl | hpos
  · rfl
  · have hhead := Text.head_ofNat_ne_zero hpos
    have hall : ∀ d ∈ Text.ofNat n, d.isDigit = true := fun d hd => Text.isDigit_of_mem_ofNat hd
    rw [hdigits] at hhead hall ⊢
    rw [List.head?_cons, Ne, Option.some.injEq] at hhead
    have htail : (digits ++ rest).takeWhile (·.isDigit) = digits := by
      rw [List.takeWhile_append_of_pos fun d hd => hall d (List.mem_cons_of_mem c hd),
        h.takeWhile, List.append_nil]
    rw [List.cons_append, readWhole, if_neg hhead, if_pos hc, htail]

theorem readFraction_ends {rest : Text} (h : EndsNumber rest) : readFraction rest = [] := by
  cases rest with
  | nil => rfl
  | cons c tail => rw [readFraction, if_neg (h c rfl).2.1]

theorem readExponent_ends {rest : Text} (h : EndsNumber rest) : readExponent rest = none := by
  cases rest with
  | nil => rfl
  | cons c tail =>
    obtain ⟨-, -, he, hE⟩ := h c rfl
    rw [readExponent.eq_def]
    exact if_neg (by simp [he, hE])

theorem read_ofInt (n : Int) {rest : Text} (h : EndsNumber rest) :
    read? (Text.ofInt n ++ rest) =
      some (⟨decide (n < 0), Text.ofNat n.natAbs, [], none⟩, (Text.ofInt n).length) := by
  have hminus : ∀ m : Nat, (Text.ofNat m ++ rest).head? ≠ some (CodePoint.ofChar '-') := by
    intro m
    obtain ⟨c, digits, hdigits, hc⟩ := Text.exists_cons_ofNat m
    rw [hdigits, List.cons_append, List.head?_cons, Ne, Option.some.injEq]
    intro heq
    rw [heq] at hc
    exact absurd hc (by decide)
  cases n with
  | ofNat m =>
    have hneg : decide ((m : Int) < 0) = false := by simp
    simp only [read?, Text.ofInt, Int.ofNat_eq_natCast, Int.natAbs_natCast, hminus m, hneg,
      decide_false, if_false, List.drop_zero, readWhole_ofNat m h,
      Text.ofNat_ne_nil m, Nat.zero_add, List.drop_left, readFraction_ends h, if_true, Nat.add_zero,
      readExponent_ends h]
  | negSucc m =>
    have hneg : decide (Int.negSucc m < 0) = true := by simp
    simp only [read?, Text.ofInt, Int.natAbs_negSucc, List.cons_append, List.head?_cons, hneg,
      decide_true, if_true, List.drop_succ_cons, List.drop_zero, readWhole_ofNat (m + 1) h,
      Text.ofNat_ne_nil (m + 1), if_false, Nat.add_comm 1, List.drop_left, readFraction_ends h,
      Nat.add_zero, readExponent_ends h, Nat.succ_eq_add_one, List.length_cons]

theorem value_ofInt {n : Int} (h : isLongInteger n = false) :
    value ⟨decide (n < 0), Text.ofNat n.natAbs, [], none⟩ = .ok (.int n) := by
  have hvalue : (if n < 0 then -(n.natAbs : Int) else (n.natAbs : Int)) = n := by
    split <;> omega
  rw [isLongInteger, decide_eq_false_iff_not] at h
  simp only [value, and_self, if_true, if_neg h, Text.decimalValue_ofNat, decide_eq_true_eq, hvalue]

end NumberText

end Json

end RequestCredentials
