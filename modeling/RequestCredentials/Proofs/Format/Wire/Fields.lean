import RequestCredentials.Format.Wire.Message
import RequestCredentials.Proofs.Encoding.RoundTrip
/-
  Reading fields back

  A variable-length number is written in groups of seven bits; more groups than
  it needs may be written, up to the limit of its place. A field that is read at
  the front of a part is merged first, and the fields behind it are merged into
  the outcome (`mergeFields_cons`), so a message is merged field by field.

  What is proved:
    1. `VarintField.field?_eq`, `DelimitedField.field?_eq` — a field is read from
       any of its forms;
    2. `mergeFields_cons` — merging goes field by field.
-/

namespace RequestCredentials.Wire

/-! ## Forms -/

/-- A number in groups of seven bits, the lowest first. -/
inductive VarintForm : Nat → Bytes → Prop
  | last {b : UInt8} (hb : b.toNat < 0x80) : VarintForm b.toNat [b]
  | more {b : UInt8} {n : Nat} {bytes : Bytes} (hb : 0x80 ≤ b.toNat) (h : VarintForm n bytes) :
    VarintForm (b.toNat - 0x80 + 0x80 * n) (b :: bytes)

/-- The form of a payload that is a number. -/
def varintPayload : Nat := 0

/-- The form of a payload with its length in front. -/
def delimitedPayload : Nat := 2

/-- The tag of a field. -/
structure TagForm (number form : Nat) (bytes : Bytes) : Prop where
  spells : VarintForm (8 * number + form) bytes
  short : bytes.length ≤ 5

/-- A field that carries a number. -/
inductive VarintField (number n : Nat) : Bytes → Prop
  | mk {tag value : Bytes} (htag : TagForm number varintPayload tag) (hvalue : VarintForm n value)
    (hshort : value.length ≤ 10) : VarintField number n (tag ++ value)

/-- A field that carries bytes, with their number in front. -/
inductive DelimitedField (number : Nat) (payload : Bytes) : Bytes → Prop
  | mk {tag length : Bytes} (htag : TagForm number delimitedPayload tag)
    (hlength : VarintForm payload.length length) (hshort : length.length ≤ 5)
    (hbound : payload.length < 0x80000000) :
    DelimitedField number payload (tag ++ (length ++ payload))

/-! ## Reading numbers and tags -/

theorem VarintForm.varint?_eq {n : Nat} {bytes : Bytes} (h : VarintForm n bytes) {limit : Nat}
    (hlimit : bytes.length ≤ limit) (rest : Bytes) :
    varint? limit (bytes ++ rest) = some (n, bytes.length) := by
  induction h generalizing limit with
  | last hb =>
    obtain ⟨limit, rfl⟩ : ∃ k, limit = k + 1 := ⟨limit - 1, by simp at hlimit; omega⟩
    rw [List.singleton_append, varint?, if_pos (UInt8.lt_iff_toNat_lt.mpr hb)]
    rfl
  | @more b n bytes hb _ ih =>
    obtain ⟨limit, rfl⟩ : ∃ k, limit = k + 1 := ⟨limit - 1, by simp at hlimit; omega⟩
    have hnot : ¬ b < 0x80 := by
      rw [UInt8.lt_iff_toNat_lt]
      exact Nat.not_lt.mpr hb
    have hrest := ih (Nat.le_of_succ_le_succ hlimit)
    rw [List.cons_append, varint?, if_neg hnot, hrest]
    rfl

theorem VarintForm.ne_nil {n : Nat} {bytes : Bytes} (h : VarintForm n bytes) : bytes ≠ [] := by
  cases h <;> exact List.cons_ne_nil _ _

section
variable {number form n levels : Nat} {bytes payload rest : Bytes} {after : List Bytes}

theorem TagForm.tag?_eq (h : TagForm number form bytes) (hform : form < 8)
    (hnumber : number < 0x20000000) (rest : Bytes) :
    tag? (bytes ++ rest) = some ((number, form), bytes.length) := by
  rw [tag?, h.spells.varint?_eq h.short rest]
  have hdiv : (8 * number + form) / 8 = number := by omega
  have hmod : (8 * number + form) % 8 = form := by omega
  simp only [if_pos (show 8 * number + form < 0x100000000 by omega), hdiv, hmod]

theorem TagForm.field?_eq (h : TagForm number form bytes) (hform : form < 8)
    (hgroup : form ≠ groupStart) (hnumber : 0 < number ∧ number < 0x20000000) :
    field? levels ⟨bytes ++ rest, after⟩ =
      (payload? form ⟨rest, after⟩).map fun (payload, size) =>
        (⟨number, payload⟩, bytes.length + size) := by
  rw [field?, h.tag?_eq hform hnumber.2]
  simp only [if_neg (show number ≠ 0 by omega), if_neg hgroup, List.drop_left]

theorem VarintField.field?_eq (h : VarintField number n bytes)
    (hnumber : 0 < number ∧ number < 0x20000000) (hn : n < 0x10000000000000000) :
    field? levels ⟨bytes ++ rest, after⟩ = some (⟨number, .varint n⟩, bytes.length) := by
  cases h with
  | mk htag hvalue hshort =>
    rw [List.append_assoc, htag.field?_eq (by decide) (by decide) hnumber, varintPayload, payload?,
      hvalue.varint?_eq hshort]
    simp only [Option.map_some, Nat.mod_eq_of_lt hn, List.length_append]

theorem DelimitedField.field?_eq (h : DelimitedField number payload bytes)
    (hnumber : 0 < number ∧ number < 0x20000000) :
    field? levels ⟨bytes ++ rest, after⟩ =
      some (⟨number, .delimited ⟨payload, rest :: after⟩⟩, bytes.length) := by
  cases h with
  | @mk tag length htag hlength hshort hbound =>
    have hpayload : payload? delimitedPayload ⟨length ++ (payload ++ rest), after⟩ =
        some (.delimited ⟨payload, rest :: after⟩, length.length + payload.length) := by
      rw [delimitedPayload, payload?, hlength.varint?_eq hshort]
      simp only [Option.bind_eq_bind, Option.bind_some, List.drop_left, List.take_left]
      rw [if_pos ⟨hbound, by simp⟩]
    rw [List.append_assoc, List.append_assoc, htag.field?_eq (by decide) (by decide) hnumber,
      hpayload, Option.map_some, List.length_append, List.length_append]

theorem VarintField.ne_nil (h : VarintField number n bytes) : bytes ≠ [] := by
  cases h with
  | mk htag => simp [htag.spells.ne_nil]

theorem DelimitedField.ne_nil (h : DelimitedField number payload bytes) : bytes ≠ [] := by
  cases h with
  | mk htag => simp [htag.spells.ne_nil]

end

/-! ## Merging field by field -/

/-- What a scan finds does not depend on the position at which it starts. -/
theorem scanFrom_pos {σ α ε : Type} (step : σ → List σ → Step α ε) (skip pos pos' : Nat)
    (s : List σ) :
    (scanFrom step skip pos s).items = (scanFrom step skip pos' s).items ∧
      (scanFrom step skip pos s).stopped.map (·.2) =
        (scanFrom step skip pos' s).stopped.map (·.2) := by
  induction s generalizing skip pos pos' with
  | nil => cases skip <;> exact ⟨rfl, rfl⟩
  | cons a s ih =>
    cases skip with
    | succ skip => exact ih skip (pos + 1) (pos' + 1)
    | zero =>
      rw [scanFrom, scanFrom]
      cases step a s with
      | stop reason => exact ⟨rfl, rfl⟩
      | item item extra =>
        obtain ⟨hitems, hstopped⟩ := ih extra (pos + 1) (pos' + 1)
        exact ⟨congrArg (item :: ·) hitems, hstopped⟩

section
variable {α : Type} {textNumber : Option Nat} {levels : Nat}
  {step : α → Field → Except Malformed α} {start : α} {front rest : Bytes} {after : List Bytes}
  {field : Field}

theorem fields_cons (hfront : front ≠ [])
    (h : field? levels ⟨front ++ rest, after⟩ = some (field, front.length)) :
    fields levels ⟨front ++ rest, after⟩ =
      (field :: (fields levels ⟨rest, after⟩).1, (fields levels ⟨rest, after⟩).2) := by
  obtain ⟨b, front, rfl⟩ := List.exists_cons_of_ne_nil hfront
  have hstep : fieldStep levels after b (front ++ rest) = .item field front.length := by
    rw [List.cons_append] at h
    rw [fieldStep, h]
    rfl
  -- Where a broken field stands is not told, only how the message ends.
  obtain ⟨hitems, hstopped⟩ := scanFrom_pos (fieldStep levels after) 0 (0 + 1 + front.length) 0 rest
  simp only [fields, scan, List.cons_append, scanFrom_item hstep, hitems]
  generalize (scanFrom (fieldStep levels after) 0 (0 + 1 + front.length) rest).stopped = stopped
    at hstopped ⊢
  generalize (scanFrom (fieldStep levels after) 0 0 rest).stopped = stopped' at hstopped ⊢
  rcases stopped with _ | ⟨pos, ending⟩ <;> rcases stopped' with _ | ⟨pos', ending'⟩ <;>
    cases hstopped <;> rfl

theorem mergeFields_cons (hfront : front ≠ [])
    (h : field? levels ⟨front ++ rest, after⟩ = some (field, front.length)) :
    mergeFields textNumber levels step start ⟨front ++ rest, after⟩ =
      step start field >>= fun m => mergeFields textNumber levels step m ⟨rest, after⟩ := by
  simp only [mergeFields, fields_cons hfront h, List.foldlM_cons, bind_assoc]

end

end RequestCredentials.Wire
