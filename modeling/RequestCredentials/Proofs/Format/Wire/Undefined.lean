import RequestCredentials.Proofs.Format.Wire.Kept
/-
  Undefined fields

  Decoding is meant to reject a message in which any field is not defined. It
  does so where the field is found in what the message keeps (`Found`). A field
  is passed over in an entry whose name comes again, in a struct or list that a
  later field of the value replaces, and below the levels that are searched.

  What is proved:
    1. `Found.anyUndefined` — whatever is found is an undefined field;
    2. `undefined_rejected_iff` — which messages are rejected for one;
    3. `undefined_passed_over` — some that hold one are decoded.
-/

namespace RequestCredentials.Wire

/-! ## Undefined fields -/

mutual

/-- Some field, here or in a message inside, is not defined by the message it stands in. -/
def Outline.hasUndefined : Outline → Bool
  | .undefined => true
  | .message _ fields => anyUndefined fields
  | _ => false

def anyUndefined : List Outline → Bool
  | [] => false
  | field :: rest => field.hasUndefined || anyUndefined rest

end

theorem anyUndefined_iff {fields : List Outline} :
    anyUndefined fields = true ↔ ∃ field ∈ fields, field.hasUndefined = true := by
  induction fields with
  | nil => simp [anyUndefined]
  | cons field rest ih => simp [anyUndefined, ih]

theorem anyUndefined_of_contents {fields : List Outline}
    (h : anyUndefined (contents fields) = true) : anyUndefined fields = true := by
  obtain ⟨field, hmem, hundefined⟩ := anyUndefined_iff.mp h
  obtain ⟨outer, houter, hmem⟩ := List.mem_flatMap.mp hmem
  refine anyUndefined_iff.mpr ⟨outer, houter, ?_⟩
  cases outer with
  | message type inner => exact anyUndefined_iff.mpr ⟨field, hmem, hundefined⟩
  | _ => cases hmem

theorem Kept.anyUndefined {type type' : MessageType} {fields fields' : List Outline}
    (hkept : Kept type fields type' fields') (h : Wire.anyUndefined fields' = true) :
    Wire.anyUndefined fields = true := by
  cases hkept with
  | @entry root front back entry type hlast =>
    have hentry : Outline.hasUndefined (.message type entry) = true := anyUndefined_of_contents h
    exact anyUndefined_iff.mpr ⟨_, List.mem_append_right _ List.mem_cons_self, hentry⟩
  | item hitem => exact anyUndefined_iff.mpr ⟨_, hitem, h⟩
  | struct | list =>
    obtain ⟨field, hmem, hundefined⟩ := anyUndefined_iff.mp (anyUndefined_of_contents h)
    exact anyUndefined_iff.mpr ⟨field, (List.rtakeWhile_suffix _ _).subset hmem, hundefined⟩

/-- Whatever is found is an undefined field on the wire. -/
theorem Found.anyUndefined {levels : Nat} {type : MessageType} {fields : List Outline}
    (h : Found levels type fields) : Wire.anyUndefined fields = true := by
  induction levels generalizing type fields with
  | zero => cases h
  | succ levels ih =>
    rcases h with (hmem | ⟨-, hmem⟩) | ⟨type', fields', hkept, hfound⟩
    · exact anyUndefined_iff.mpr ⟨_, hmem, rfl⟩
    · exact anyUndefined_of_contents (anyUndefined_iff.mpr ⟨_, hmem, rfl⟩)
    · exact hkept.anyUndefined (ih hfound)

/-! ## Decoding -/

/-- The value of a message on the wire. -/
def decode : Root → Bytes → Except Fault Value
  | .struct => decodeStruct
  | .metadata => decodeMetadata

theorem accept_eq_undefinedField_iff {root : Root} {anyUnknown : Bool} {value : Option Value} :
    accept root anyUnknown value = .error (.undefinedField root) ↔ anyUnknown = true := by
  cases anyUnknown <;> cases value <;> simp [accept]

theorem accept_eq_error_iff {root : Root} {anyUnknown : Bool} {value : Option Value} :
    (∃ fault, accept root anyUnknown value = .error fault) ↔
      anyUnknown = true ∨ accept root anyUnknown value = .error .emptyValue := by
  cases anyUnknown <;> cases value <;> simp [accept]

theorem decode_eq_accept (root : Root) {input : Bytes} {fields : List Outline}
    (h : outline depthLimit (.map root) ⟨input, []⟩ = .ok fields) :
    ∃ anyUnknown value, decode root input = accept root anyUnknown value ∧
      (anyUnknown = true ↔ Found markedLevels (.map root) fields) := by
  cases root with
  | struct =>
    have hread : readStruct input = .ok (addAllToStruct ⟨[], false⟩ fields) := by
      rw [readStruct_eq_outline, h]
      rfl
    refine ⟨_, StructMessage.asValue? (addAllToStruct ⟨[], false⟩ fields), ?_,
      (anyUnknown_iff markedLevels).1 fields⟩
    rw [decode, decodeStruct, hread]
    rfl
  | metadata =>
    have hread : readMetadata input = .ok (addAllToMetadata ⟨[], false⟩ fields) := by
      rw [readMetadata_eq_outline, h]
      rfl
    refine ⟨_, MetadataMessage.asValue? (addAllToMetadata ⟨[], false⟩ fields), ?_,
      anyUnknown_metadata_iff markedLevels fields⟩
    rw [decode, decodeMetadata, hread]
    rfl

theorem decode_eq_malformed (root : Root) {input : Bytes} {cause : Malformed}
    (h : outline depthLimit (.map root) ⟨input, []⟩ = .error cause) :
    decode root input = .error (.malformed root cause) := by
  cases root with
  | struct =>
    rw [decode, decodeStruct, readStruct_eq_outline, h]
    rfl
  | metadata =>
    rw [decode, decodeMetadata, readMetadata_eq_outline, h]
    rfl

/-- **Where undefined fields count.** Of the messages that can be read, those are rejected for
undefined fields in which one is found: it stands in one of the outermost levels, and in a message
that is kept. Only an empty value is another reason to reject one. -/
theorem undefined_rejected_iff (root : Root) {input : Bytes} {fields : List Outline}
    (hread : outline depthLimit (.map root) ⟨input, []⟩ = .ok fields) :
    (decode root input = .error (.undefinedField root) ↔ Found markedLevels (.map root) fields) ∧
    (Found markedLevels (.map root) fields → anyUndefined fields = true) ∧
    ((∃ fault, decode root input = .error fault) ↔
      Found markedLevels (.map root) fields ∨ decode root input = .error .emptyValue) := by
  obtain ⟨anyUnknown, value, hdecode, hfound⟩ := decode_eq_accept root hread
  rw [hdecode, ← hfound]
  refine ⟨accept_eq_undefinedField_iff, ?_, accept_eq_error_iff⟩
  exact fun h => (hfound.mp h).anyUndefined

/-- An entry whose value is a text and an undefined field. -/
def sampleUndefined : Bytes :=
  [0x0A, 0x0A, 0x0A, 0x01, 0x61, 0x12, 0x05, 0x1A, 0x01, 0x78, 0x48, 0x01]

theorem undefined_rejected_iff_value :
    decode .struct sampleUndefined = .error (.undefinedField .struct) := by
  have hread : outline depthLimit (.map .struct) ⟨sampleUndefined, []⟩ =
      .ok [.message (.entry .struct) [.text "a", .message .value [.text "x", .undefined]]] := rfl
  have hkept : Kept (.map .struct) [.message (.entry .struct) [.text "a", .message .value
      [.text "x", .undefined]]] .value [.text "x", .undefined] :=
    @Kept.entry .struct [] [] _ _ fun _ _ hmem => nomatch hmem
  have hmarked : Marked .value [.text "x", .undefined] := .inl (by simp)
  exact (undefined_rejected_iff .struct hread).1.mpr (.inr ⟨_, _, hkept, .inl hmarked⟩)

/-- An entry whose value is a struct with an undefined field, and then a text. -/
def sampleReplaced : Bytes :=
  [0x0A, 0x0C, 0x0A, 0x01, 0x61, 0x12, 0x07, 0x2A, 0x02, 0x48, 0x01, 0x1A, 0x01, 0x78]

/-- A value that holds a list of a single value. -/
def listOf (value : Bytes) : Bytes :=
  [0x32, UInt8.ofNat (value.length + 2), 0x0A, UInt8.ofNat value.length] ++ value

/-- A struct of a single entry whose value has 129 bytes. -/
def entryOfLong (value : Bytes) : Bytes :=
  [0x0A, 0x87, 0x01, 0x0A, 0x01, 0x61, 0x12, 0x81, 0x01] ++ value

/-- A text and an undefined field in a value on the sixty-fourth level. -/
def sampleDeep : Bytes := entryOfLong (Nat.repeat listOf 31 [0x1A, 0x01, 0x78, 0x48, 0x01])

/-- The input can be read, and some field in it is undefined. -/
def holdsUndefined (root : Root) (input : Bytes) : Bool :=
  match outline depthLimit (.map root) ⟨input, []⟩ with
  | .ok fields => anyUndefined fields
  | .error _ => false

/-- An undefined field is passed over where a later field replaces the struct it stands in, and
where it stands too deep. -/
theorem undefined_passed_over :
    (holdsUndefined .struct sampleReplaced = true ∧
      decode .struct sampleReplaced = .ok (.struct [("a", .text (.chars "x"))])) ∧
    holdsUndefined .struct sampleDeep = true ∧ (decode .struct sampleDeep).isOk = true := by
  refine ⟨⟨rfl, rfl⟩, ?_, ?_⟩
  · decide +kernel
  · decide +kernel

end RequestCredentials.Wire
