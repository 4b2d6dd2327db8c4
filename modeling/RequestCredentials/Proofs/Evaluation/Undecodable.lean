import RequestCredentials.Evaluation.Decoding
import RequestCredentials.Proofs.Encoding.Encodable
import RequestCredentials.Proofs.Format.PairsBounds
/-
  Failures of decoding

  Whatever bytes are decoded, the answer is a value or a failure that names the
  kind of decoding and a cause of that kind: any bytes are text, Base64 and
  pairs buffers have their own faults, a JSON document fails by its encoding, by
  its grammar or because it holds a single scalar, and a message fails as the
  message that it was read as. A pairs buffer is never read outside its bounds,
  which would be no answer at all. What stands before the decoding is the one
  step that has no answer: a text that holds a surrogate has no bytes.

  What is proved:
    1. `decodeBytes_failsWith` — bytes that are not decoded fail with a cause of
       the kind;
    2. `decode_answers_iff` — a decoding has an answer exactly on the values that
       are no text or a text with bytes.
-/

namespace RequestCredentials

/-! ## Causes -/

/-- The fault is one of reading the given message. -/
def Wire.Fault.Concerns (root : Wire.Root) : Wire.Fault → Prop
  | .malformed r _ => r = root
  | .undefinedField r => r = root
  | .emptyValue => True

namespace DecodeKind

/-- The cause is one that bytes can have when they are decoded as the kind. -/
inductive FailsWith : DecodeKind → DecodeCause → Prop
  | base64 (fault : Base64.Fault) : FailsWith .base64 (.base64 fault)
  | base64url (fault : Base64.Fault) : FailsWith .base64url (.base64 fault)
  | encoding (fault : DecodeFault) : FailsWith .json (.encoding fault)
  | json (fault : Json.Fault) : FailsWith .json (.json fault)
  | scalarDocument {found : JsonType} (scalar : found.isScalar = true) :
    FailsWith .json (.scalarDocument found)
  | struct {fault : Wire.Fault} (concerns : fault.Concerns .struct) :
    FailsWith .protobufStruct (.wire fault)
  | metadata {fault : Wire.Fault} (concerns : fault.Concerns .metadata) :
    FailsWith .protobufMetadata (.wire fault)
  /-- The buffer was not read outside its bounds. -/
  | pairs {fault : Pairs.Fault} (inside : ∀ offset, fault ≠ .outside offset) :
    FailsWith .pairs (.pairs fault)

/-- The cause is one that the value can have when it is decoded as the kind. -/
inductive Reports (kind : DecodeKind) : Value → DecodeCause → Prop
  | notText {v : Value} (shape : v.shape ≠ .text) : Reports kind v (.notText v.shape)
  | undecodable {c : Content} {cause : DecodeCause} (fails : kind.FailsWith cause) :
    Reports kind (.text c) cause

end DecodeKind

/-! ## Bytes -/

theorem accept_concerns {root : Wire.Root} {anyUnknown : Bool} {value : Option Value}
    {fault : Wire.Fault} (h : Wire.accept root anyUnknown value = .error fault) :
    fault.Concerns root := by
  simp only [Wire.accept] at h
  split at h
  · cases h
    rfl
  · split at h <;> cases h
    trivial

theorem decodeStruct_concerns {data : Bytes} {fault : Wire.Fault}
    (h : Wire.decodeStruct data = .error fault) : fault.Concerns .struct := by
  rcases bind_eq_error.mp h with hread | ⟨m, -, haccept⟩
  · obtain ⟨cause, -, rfl⟩ := mapError_eq_error.mp hread
    rfl
  · exact accept_concerns haccept

theorem decodeMetadata_concerns {data : Bytes} {fault : Wire.Fault}
    (h : Wire.decodeMetadata data = .error fault) : fault.Concerns .metadata := by
  rcases bind_eq_error.mp h with hread | ⟨m, -, haccept⟩
  · obtain ⟨cause, -, rfl⟩ := mapError_eq_error.mp hread
    rfl
  · exact accept_concerns haccept

theorem decodeJson_failsWith {data : Bytes} {cause : DecodeCause}
    (h : decodeJson data = .error cause) : DecodeKind.FailsWith .json cause := by
  simp only [decodeJson, bind_eq_error, mapError_eq_error] at h
  rcases h with ⟨fault, -, rfl⟩ | ⟨document, -, ⟨fault, -, rfl⟩ | ⟨json, -, hscalar⟩⟩
  · exact .encoding fault
  · exact .json fault
  · split at hscalar
    · next hscalar' =>
      cases hscalar
      exact .scalarDocument hscalar'
    · cases hscalar

theorem decodeBytes_failsWith {kind : DecodeKind} {data : Bytes} {cause : DecodeCause}
    (h : decodeBytes kind data = .error cause) : kind.FailsWith cause := by
  cases kind with
  | text => cases h
  | base64 =>
    simp only [decodeBytes, bind_eq_error, mapError_eq_error] at h
    obtain ⟨fault, -, rfl⟩ | ⟨raw, -, ⟨⟩⟩ := h
    exact .base64 fault
  | base64url =>
    simp only [decodeBytes, bind_eq_error, mapError_eq_error] at h
    obtain ⟨fault, -, rfl⟩ | ⟨raw, -, ⟨⟩⟩ := h
    exact .base64url fault
  | json => exact decodeJson_failsWith h
  | protobufStruct =>
    obtain ⟨fault, hfault, rfl⟩ := mapError_eq_error.mp h
    exact .struct (decodeStruct_concerns hfault)
  | protobufMetadata =>
    obtain ⟨fault, hfault, rfl⟩ := mapError_eq_error.mp h
    exact .metadata (decodeMetadata_concerns hfault)
  | pairs =>
    simp only [decodeBytes, bind_eq_error, mapError_eq_error] at h
    obtain ⟨fault, hfault, rfl⟩ | ⟨pairs, -, ⟨⟩⟩ := h
    exact .pairs fun offset houtside => Pairs.decode_inside data offset (houtside ▸ hfault)

/-! ## Values -/

/-- A value that is text has bytes. -/
def Value.Encodable (v : Value) : Prop := ∀ c, v = .text c → c.Encodable

theorem decode_text_answers {kind : DecodeKind} {c : Content} {data : Bytes}
    (h : c.toBytes = .ok data) :
    (∃ w, (Value.text c).decode kind = .ok (.ok w)) ∨
      ∃ cause, kind.Reports (.text c) cause ∧
        (Value.text c).decode kind = .ok (.error (.undecodable kind cause)) := by
  simp only [Value.decode, h]
  cases hdecode : decodeBytes kind data with
  | ok w => exact .inl ⟨w, rfl⟩
  | error cause => exact .inr ⟨cause, .undecodable (decodeBytes_failsWith hdecode), rfl⟩

theorem decode_eq_error {kind : DecodeKind} {v : Value} {fault : Fault} :
    v.decode kind = .error fault ↔
      ∃ s first, v = .text (.chars s) ∧ Utf8.firstSurrogates? s = some first ∧
        fault = .unencodable first := by
  cases v with
  | text c =>
    cases c with
    | bytes b => simp [Value.decode, Content.toBytes]
    | chars s => cases hfirst : Utf8.firstSurrogates? s <;>
        simp [Value.decode, Content.toBytes, Utf8.encode, hfirst, eq_comm]
  | list items => simp [Value.decode]
  | struct entries => simp [Value.decode]

/-- **Decoding answers.** A value is decoded, or fails with the kind and a cause of that kind,
exactly when it is no text or a text with bytes. The only other outcome is that there are no bytes
to decode, and it names the first surrogates of the text. -/
theorem decode_answers_iff (kind : DecodeKind) (v : Value) :
    (((∃ w, v.decode kind = .ok (.ok w)) ∨
        ∃ cause, kind.Reports v cause ∧ v.decode kind = .ok (.error (.undecodable kind cause))) ↔
      v.Encodable) ∧
    ∀ fault, v.decode kind = .error fault ↔
      ∃ s first, v = .text (.chars s) ∧ Utf8.firstSurrogates? s = some first ∧
        fault = .unencodable first := by
  refine ⟨?_, fun fault => decode_eq_error⟩
  constructor
  · rintro hanswer c rfl
    rw [← toBytes_isOk]
    cases hbytes : c.toBytes with
    | ok data => exact ⟨data, rfl⟩
    | error first =>
      simp only [Value.decode, hbytes, reduceCtorEq, exists_false, and_false, or_false] at hanswer
  · intro hencodable
    cases v with
    | text c =>
      obtain ⟨data, hdata⟩ := toBytes_isOk.mpr (hencodable c rfl)
      exact decode_text_answers hdata
    | list items => exact .inr ⟨_, .notText (by simp [Value.shape]), rfl⟩
    | struct entries => exact .inr ⟨_, .notText (by simp [Value.shape]), rfl⟩

/-- A byte that was no UTF-8, held as a surrogate, has no answer even as text. -/
theorem decode_stray_surrogate :
    (Value.text (.chars [CodePoint.ofNat 0xDCFF])).decode .text =
      .error (.unencodable ⟨CodePoint.ofNat 0xDCFF, 0, 1⟩) := rfl

end RequestCredentials
