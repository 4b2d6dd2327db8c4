import RequestCredentials.Evaluation.Run
import RequestCredentials.Analysis.Shapes
import RequestCredentials.Proofs.Except
/-
  Successful operations — what the result of an operation says of its input

  Only a text is decoded, and what it is decoded to has one of the shapes that
  the kind of decoding yields (`DecodeKind.yields_decodeBytes`). A lookup in a text
  finds nothing but the text (`lookup_text_ok`).
-/

namespace RequestCredentials

theorem settle_eq_ok {step : OperationKind} {a : Answer} {w : Value} :
    settle step a = .ok w ↔ a = .ok (.ok w) := by
  cases a <;> simp [settle]

/-! ## Decoding -/

theorem StructMessage.shape_of_asValue {m : Wire.StructMessage} {w : Value}
    (h : Wire.StructMessage.asValue? m = some w) : w.shape = .struct := by
  obtain ⟨entries, _, rfl⟩ := Option.map_eq_some_iff.mp h
  rfl

theorem MetadataMessage.shape_of_asValue {m : Wire.MetadataMessage} {w : Value}
    (h : Wire.MetadataMessage.asValue? m = some w) : w.shape = .struct := by
  obtain ⟨entries, _, rfl⟩ := Option.map_eq_some_iff.mp h
  rfl

theorem accept_eq_ok {root : Wire.Root} {anyUnknown : Bool} {value : Option Value} {w : Value} :
    Wire.accept root anyUnknown value = .ok w ↔ anyUnknown = false ∧ value = some w := by
  cases anyUnknown <;> cases value <;> simp [Wire.accept]

theorem decodeStruct_shape {data : Bytes} {w : Value} (h : Wire.decodeStruct data = .ok w) :
    w.shape = .struct := by
  obtain ⟨m, _, h⟩ := bind_eq_ok.mp h
  exact StructMessage.shape_of_asValue (accept_eq_ok.mp h).2

theorem decodeMetadata_shape {data : Bytes} {w : Value} (h : Wire.decodeMetadata data = .ok w) :
    w.shape = .struct := by
  obtain ⟨m, _, h⟩ := bind_eq_ok.mp h
  exact MetadataMessage.shape_of_asValue (accept_eq_ok.mp h).2

theorem Shapes.has_any (s : Shape) : Shapes.any.has s := by cases s <;> rfl

/-- What bytes are decoded to has a shape that the kind yields. -/
theorem DecodeKind.yields_decodeBytes {kind : DecodeKind} {data : Bytes} {w : Value}
    (h : decodeBytes kind data = .ok w) : kind.yields.has w.shape := by
  cases kind with
  | text => cases h; rfl
  | base64 => obtain ⟨raw, _, h⟩ := bind_eq_ok.mp h; cases h; rfl
  | base64url => obtain ⟨raw, _, h⟩ := bind_eq_ok.mp h; cases h; rfl
  | json => exact Shapes.has_any _
  | protobufStruct => rw [decodeStruct_shape (mapError_eq_ok.mp h)]; rfl
  | protobufMetadata => rw [decodeMetadata_shape (mapError_eq_ok.mp h)]; rfl
  | pairs => obtain ⟨pairs, _, h⟩ := bind_eq_ok.mp h; cases h; rfl

theorem decode_eq_ok {v w : Value} {kind : DecodeKind} :
    v.decode kind = .ok (.ok w) ↔
      ∃ c data, v = .text c ∧ c.toBytes = .ok data ∧ decodeBytes kind data = .ok w := by
  cases v with
  | text c =>
    simp only [Value.decode]
    cases hc : c.toBytes with
    | ok data => simp [hc, mapError_eq_ok]
    | error fault => simp [hc]
  | list items => simp [Value.decode]
  | struct entries => simp [Value.decode]

/-! ## Lookups -/

/-- A lookup in a text finds nothing but the text. -/
theorem lookup_text_ok {c : Content} {selector : Selector} {w : Value}
    (h : (Value.text c).lookup selector = .ok (.ok w)) : w = .text c := by
  cases selector with
  | key name =>
    simp only [Value.lookup, Value.lookupKey] at h
    split at h <;> simp at h
    exact h.symm
  | position index =>
    simp only [Value.lookup, naming_eq_ok, Value.lookupPosition] at h
    split at h
    · simp at h
    · split at h
      · simp at h
      · split at h <;> simp at h
        exact h.symm
  | otherKey part =>
    simp only [Value.lookup, naming_eq_ok, Value.lookupOtherKey] at h
    split at h <;> simp at h

end RequestCredentials
