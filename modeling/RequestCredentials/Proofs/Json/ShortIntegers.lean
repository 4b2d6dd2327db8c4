import RequestCredentials.Json.Literal
import RequestCredentials.Json.Reader
import RequestCredentials.Proofs.Except
import RequestCredentials.Proofs.Json.Integers
import Mathlib.Data.List.Induction
import Mathlib.Data.List.TakeWhile
import Mathlib.Data.Nat.Digits.Defs
/-
  Short integers — what is read can be written

  The digit limit holds in both directions: an integer with more digits is not
  read, and none is written. So a document that was read can be shown in every
  message.

  What is proved:
    1. `NumberText.value_isWritable` — a number that is read has no more digits
       than can be written;
    2. `advance_isWritable`, `readFrom_isWritable` — one token, and then a whole
       reading, leaves only such numbers in a document;
    3. `readFile_isWritable` — and so does merging members of the same name.
-/

namespace RequestCredentials

/-! ## Digits -/

namespace Text

/-- Digits spell less than the power of ten that has one more of them. -/
theorem decimalValue_lt {digits : Text} (h : ∀ c ∈ digits, c.isDigit = true) :
    decimalValue digits < 10 ^ digits.length := by
  induction digits using List.reverseRecOn with
  | nil => simp [decimalValue]
  | append_singleton digits c ih =>
    obtain ⟨hdigits, hc⟩ := List.forall_mem_append.mp h
    have hlast := hc c (List.mem_singleton_self c)
    rw [CodePoint.isDigit, Bool.and_eq_true, decide_eq_true_eq, decide_eq_true_eq] at hlast
    have hvalue : decimalValue (digits ++ [c]) = 10 * decimalValue digits + (c.val - 0x30) := by
      simp [decimalValue]
    rw [hvalue, List.length_append, List.length_singleton, pow_succ]
    have := ih hdigits
    omega

end Text

namespace Json

/-- The document can be written: no integer in it has too many digits. -/
def IsWritable (document : Json) : Prop := document.holdsLongInteger = false

theorem anyLongInteger_eq_false {items : List Json} :
    anyLongInteger items = false ↔ ∀ item ∈ items, item.IsWritable := by
  induction items with
  | nil => simp [anyLongInteger]
  | cons item rest ih => simp [anyLongInteger, IsWritable, ih]

theorem anyLongIntegerIn_eq_false {members : List (Text × Json)} :
    anyLongIntegerIn members = false ↔ ∀ member ∈ members, member.2.IsWritable := by
  induction members with
  | nil => simp [anyLongIntegerIn]
  | cons member rest ih => simp [anyLongIntegerIn, IsWritable, ih]

theorem isWritable_arr {items : List Json} :
    (Json.arr items).IsWritable ↔ ∀ item ∈ items, item.IsWritable := by
  rw [IsWritable, holdsLongInteger, anyLongInteger_eq_false]

theorem isWritable_obj {members : List (Text × Json)} :
    (Json.obj members).IsWritable ↔ ∀ member ∈ members, member.2.IsWritable := by
  rw [IsWritable, holdsLongInteger, anyLongIntegerIn_eq_false]

/-! ## Numbers -/

namespace NumberText

theorem isDigit_of_mem_readWhole {s : Text} {c : CodePoint} (h : c ∈ readWhole s) :
    c.isDigit = true := by
  cases s with
  | nil => cases h
  | cons d rest =>
    rw [readWhole] at h
    split at h
    · next hzero =>
      rw [List.mem_singleton.mp h, hzero]
      decide
    · split at h
      · next hdigit =>
        rcases List.mem_cons.mp h with rfl | h
        · exact hdigit
        · exact List.mem_takeWhile_imp h
      · cases h

theorem read_whole {s : Text} {number : NumberText} {extent : Nat}
    (h : read? s = some (number, extent)) : ∀ c ∈ number.whole, c.isDigit = true := by
  intro c hc
  simp only [read?, Option.ite_none_left_eq_some] at h
  obtain ⟨-, h⟩ := h
  generalize readExponent _ = exponent at h
  cases exponent with
  | none =>
    cases h
    exact isDigit_of_mem_readWhole hc
  | some found =>
    cases h
    exact isDigit_of_mem_readWhole hc

theorem value_isWritable {number : NumberText} {v : Json}
    (hdigits : ∀ c ∈ number.whole, c.isDigit = true) (h : number.value = .ok v) :
    v.IsWritable := by
  rw [value] at h
  split at h
  · split at h
    · cases h
    · next hlimit =>
      cases h
      have hlt := (Text.decimalValue_lt hdigits).trans_le
        (Nat.pow_le_pow_right (by decide) (Nat.not_lt.mp hlimit))
      have hlength : (Text.ofNat (Text.decimalValue number.whole)).length ≤ digitLimit := by
        rw [Text.ofNat, List.length_map]
        exact Nat.toDigits_length 10 _ digitLimit (by decide) hlt
      have habs : ∀ n : Nat, (if number.negative then -(n : Int) else n).natAbs = n := by
        intro n
        split <;> simp
      rw [IsWritable, holdsLongInteger, isLongInteger, habs, decide_eq_false_iff_not]
      exact Nat.not_lt.mpr hlength
  · cases h
    rfl

end NumberText

/-! ## Reading -/

/-- What is read so far can be written. -/
def Frame.IsWritable : Frame → Prop
  | .array items => ∀ item ∈ items, item.IsWritable
  | .object members _ => ∀ member ∈ members, member.2.IsWritable

/-- What is read so far can be written, in every open array and object. -/
def State.IsWritable : State → Prop
  | .value frames => ∀ f ∈ frames, f.IsWritable
  | .firstElement frames => ∀ f ∈ frames, f.IsWritable
  | .firstName frames => ∀ f ∈ frames, f.IsWritable
  | .name members frames =>
    (∀ member ∈ members, member.2.IsWritable) ∧ ∀ f ∈ frames, f.IsWritable
  | .colon members _ frames =>
    (∀ member ∈ members, member.2.IsWritable) ∧ ∀ f ∈ frames, f.IsWritable
  | .afterElement items frames =>
    (∀ item ∈ items, item.IsWritable) ∧ ∀ f ∈ frames, f.IsWritable
  | .afterMember members frames =>
    (∀ member ∈ members, member.2.IsWritable) ∧ ∀ f ∈ frames, f.IsWritable
  | .done document => document.IsWritable

theorem deliver_isWritable {v : Json} {frames : List Frame} (hv : v.IsWritable)
    (h : ∀ f ∈ frames, f.IsWritable) : (deliver v frames).IsWritable := by
  cases frames with
  | nil => exact hv
  | cons frame frames =>
    obtain ⟨hframe, hframes⟩ := List.forall_mem_cons.mp h
    cases frame with
    | array items => exact ⟨List.forall_mem_cons.mpr ⟨hv, hframe⟩, hframes⟩
    | object members name => exact ⟨List.forall_mem_cons.mpr ⟨hv, hframe⟩, hframes⟩

section
variable {frames : List Frame} {members : List (Text × Json)} {state next : State}
  {pos extra : Nat} {c : CodePoint} {rest : Text}

theorem startValue_isWritable (h : ∀ f ∈ frames, f.IsWritable)
    (hnext : startValue frames pos c rest = .ok (next, extra)) : next.IsWritable := by
  rw [startValue] at hnext
  split at hnext
  · obtain ⟨⟨s, extent⟩, -, hs⟩ := bind_eq_ok.mp hnext
    cases hs
    exact deliver_isWritable rfl h
  · split at hnext
    · cases hnext
      exact h
    · split at hnext
      · cases hnext
        exact h
      · split at hnext
        · next word v hword =>
          cases hnext
          have hwords : ∀ w ∈ words, w.2.IsWritable := by
            simp only [words, List.forall_mem_cons]
            exact ⟨rfl, rfl, rfl, rfl, rfl, rfl, by simp⟩
          exact deliver_isWritable (hwords _ (List.mem_of_find?_eq_some hword)) h
        · split at hnext
          · next number extent hnumber =>
            split at hnext
            · next v hv =>
              cases hnext
              exact deliver_isWritable
                (NumberText.value_isWritable (NumberText.read_whole hnumber) hv) h
            · cases hnext
          · cases hnext

theorem startName_isWritable (hmembers : ∀ member ∈ members, member.2.IsWritable)
    (h : ∀ f ∈ frames, f.IsWritable)
    (hnext : startName members frames pos c rest = .ok (next, extra)) : next.IsWritable := by
  rw [startName] at hnext
  split at hnext
  · obtain ⟨⟨s, extent⟩, -, hs⟩ := bind_eq_ok.mp hnext
    cases hs
    exact ⟨hmembers, h⟩
  · cases hnext

/-- One token keeps what is read so far writable. -/
theorem advance_isWritable (h : state.IsWritable)
    (hnext : advance state pos c rest = .ok (next, extra)) : next.IsWritable := by
  unfold advance at hnext
  split at hnext
  · cases hnext
    exact h
  · cases state with
    | value frames => exact startValue_isWritable h hnext
    | firstElement frames =>
      simp only at hnext
      split at hnext
      · cases hnext
        exact deliver_isWritable rfl h
      · refine startValue_isWritable (List.forall_mem_cons.mpr ⟨?_, h⟩) hnext
        intro item hitem
        cases hitem
    | firstName frames =>
      simp only at hnext
      split at hnext
      · cases hnext
        exact deliver_isWritable rfl h
      · exact startName_isWritable (by simp) h hnext
    | name members frames => exact startName_isWritable h.1 h.2 hnext
    | colon members name frames =>
      simp only at hnext
      split at hnext
      · cases hnext
        exact List.forall_mem_cons.mpr h
      · cases hnext
    | afterElement items frames =>
      simp only at hnext
      split at hnext
      · cases hnext
        exact deliver_isWritable (isWritable_arr.mpr (by simpa using h.1)) h.2
      · split at hnext
        · cases hnext
          exact List.forall_mem_cons.mpr h
        · cases hnext
    | afterMember members frames =>
      simp only at hnext
      split at hnext
      · cases hnext
        refine deliver_isWritable (isWritable_obj.mpr fun member hmember => ?_) h.2
        exact h.1 member (List.mem_reverse.mp hmember)
      · split at hnext
        · cases hnext
          exact h
        · cases hnext
    | done document => cases hnext

end

theorem readFrom_isWritable {state : State} {skip pos : Nat} {text : Text} {document : Json}
    (h : state.IsWritable) (hread : readFrom state skip pos text = .ok document) :
    document.IsWritable := by
  induction text generalizing state skip pos with
  | nil =>
    rw [readFrom] at hread
    cases state <;> cases hread
    exact h
  | cons c rest ih =>
    cases skip with
    | succ skip => exact ih h hread
    | zero =>
      rw [readFrom] at hread
      split at hread
      · next next extra hnext => exact ih (advance_isWritable h hnext) hread
      · cases hread

/-! ## Merging -/

theorem setMember_isWritable {name : Text} {value : Json} {members : List (Text × Json)}
    (hvalue : value.IsWritable) (h : ∀ member ∈ members, member.2.IsWritable) :
    ∀ member ∈ setMember name value members, member.2.IsWritable := by
  induction members with
  | nil => exact List.forall_mem_singleton.mpr hvalue
  | cons member members ih =>
    obtain ⟨hmember, hmembers⟩ := List.forall_mem_cons.mp h
    rw [setMember]
    split
    · exact List.forall_mem_cons.mpr ⟨hvalue, hmembers⟩
    · exact List.forall_mem_cons.mpr ⟨hmember, ih hmembers⟩

mutual

theorem merged_isWritable : ∀ {document : Json}, document.IsWritable → document.merged.IsWritable
  | .arr items, h => isWritable_arr.mpr (mergedItems_isWritable items (isWritable_arr.mp h))
  | .obj members, h =>
    isWritable_obj.mpr (mergedMembers_isWritable members (by simp) (isWritable_obj.mp h))
  | .null, h | .bool _, h | .int _, h | .float _, h | .str _, h => h

theorem mergedItems_isWritable : ∀ items : List Json, (∀ item ∈ items, item.IsWritable) →
    ∀ item ∈ mergedItems items, item.IsWritable
  | [], _ => by simp [mergedItems]
  | item :: rest, h => by
    obtain ⟨hitem, hrest⟩ := List.forall_mem_cons.mp h
    rw [mergedItems]
    exact List.forall_mem_cons.mpr ⟨merged_isWritable hitem, mergedItems_isWritable rest hrest⟩

theorem mergedMembers_isWritable {before : List (Text × Json)} : ∀ members : List (Text × Json),
    (∀ member ∈ before, member.2.IsWritable) → (∀ member ∈ members, member.2.IsWritable) →
    ∀ member ∈ mergedMembers before members, member.2.IsWritable
  | [], hbefore, _ => by rwa [mergedMembers]
  | (name, value) :: rest, hbefore, h => by
    obtain ⟨hvalue, hrest⟩ := List.forall_mem_cons.mp h
    rw [mergedMembers]
    exact mergedMembers_isWritable rest
      (setMember_isWritable (merged_isWritable hvalue) hbefore) hrest

end

/-- What a file holds can be written. -/
theorem readFile_isWritable {text : Text} {document : Json}
    (h : readFile text = .ok document) : document.merged.IsWritable := by
  rw [readFile] at h
  split at h
  · cases h
  · rw [read] at h
    split at h
    · next v hread =>
      cases h
      exact merged_isWritable (readFrom_isWritable (by simp [State.IsWritable]) hread)
    · cases h
    · cases h

end Json

end RequestCredentials
