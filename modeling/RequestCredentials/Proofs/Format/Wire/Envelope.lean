import RequestCredentials.Proofs.Evaluation.Success
import RequestCredentials.Proofs.Format.Wire.Structs
import RequestCredentials.Proofs.Format.Wire.Undefined
/-
  Metadata and the structs in it

  Metadata is written by writing an entry for each name, in any order, around the
  bytes of a struct. What it is decoded to is put together from what the structs
  are decoded to, only that there are fewer levels for each of them. So a struct
  may be too deep inside metadata, and an undefined field that is found in the
  last level that is searched of a struct is not found inside metadata.

  What is proved:
    1. `mergeStruct_mono` — a struct that is read is read alike with more levels;
    2. `EnvelopeForm.decodeMetadata_eq` — metadata is decoded entry by entry;
    3. `holdsInside_iff` — how decoding a struct inside metadata differs from
       decoding it alone;
    4. `decodeMetadata_envelope` — metadata against its structs;
    5. `rejected_alone_only` — a struct that is rejected alone only.
-/

namespace RequestCredentials.Wire

/-! ## Forms on the wire -/

/-- The entries of metadata one after another, each with the bytes of its struct. -/
inductive FiltersForm : List (Text × Bytes) → Bytes → Prop
  | nil : FiltersForm [] []
  | cons {name : Text} {filters : List (Text × Bytes)} {payload key entry field bytes : Bytes}
    (hname : Utf8.encode name = .ok key) (hentry : EntryForm key payload entry)
    (hfield : DelimitedField 1 entry field) (hrest : FiltersForm filters bytes) :
    FiltersForm ((name, payload) :: filters) (field ++ bytes)

/-- Metadata with these names and structs, written once each in some order. -/
structure EnvelopeForm (filters : List (Text × Bytes)) (bytes : Bytes) : Prop where
  names : (filters.map (·.1)).Nodup
  written : ∃ order : List (Text × Bytes), order.Perm filters ∧ FiltersForm order bytes

/-! ## Reading -/

/-- A struct that is read with some levels is read alike with more, whatever follows it. -/
theorem mergeStruct_mono {depth depth' : Nat} (hdepth : depth ≤ depth') {start m : StructMessage}
    {payload : Bytes} {after after' : List Bytes}
    (h : mergeStruct depth start ⟨payload, after⟩ = .ok m) :
    mergeStruct depth' start ⟨payload, after'⟩ = .ok m := by
  rw [(merge_eq_outline depth).1] at h
  rw [(merge_eq_outline depth').1]
  cases hfields : outline depth (.map .struct) ⟨payload, after⟩ with
  | error e =>
    rw [hfields] at h
    cases h
  | ok fields =>
    rw [hfields] at h
    rw [outline_mono hdepth after' hfields]
    exact h

section
variable {α : Type} {mergeValue : α → Part → Except Malformed α} {m m' : Parsed (Text × α)}
  {part : Part}

theorem entryStep_name_keeps
    (h : entryStep mergeValue m ⟨entryName, .delimited part⟩ = .ok m') :
    m'.content.2 = m.content.2 := by
  obtain ⟨name, -, hput⟩ := bind_eq_ok.mp h
  cases hput
  rfl

theorem entryStep_value_reads
    (h : entryStep mergeValue m ⟨entryValue, .delimited part⟩ = .ok m') :
    ∃ a, mergeValue m.content.2 part = .ok a := by
  obtain ⟨a, ha, -⟩ := bind_eq_ok.mp h
  exact ⟨a, ha⟩

theorem EntryForm.value_of_mergeFields {init : α} {levels : Nat} {key value entry : Bytes}
    {after : List Bytes} (h : EntryForm key value entry)
    (hmerge : mergeFields (some entryName) levels (entryStep mergeValue) ⟨([], init), false⟩
      ⟨entry, after⟩ = .ok m') :
    ∃ after a, mergeValue init ⟨value, after⟩ = .ok a := by
  cases h with
  | nameFirst hn hv =>
    rw [mergeFields_cons hn.ne_nil (hn.field?_eq (by decide))] at hmerge
    obtain ⟨m, hname, hvalue⟩ := bind_eq_ok.mp hmerge
    rw [mergeFields_single hv.ne_nil (hv.field?_eq (by decide))] at hvalue
    obtain ⟨a, ha⟩ := entryStep_value_reads hvalue
    rw [entryStep_name_keeps hname] at ha
    exact ⟨_, a, ha⟩
  | valueFirst hn hv =>
    rw [mergeFields_cons hv.ne_nil (hv.field?_eq (by decide))] at hmerge
    obtain ⟨m, hvalue, -⟩ := bind_eq_ok.mp hmerge
    exact ⟨_, entryStep_value_reads hvalue⟩
  | unnamed hkey hv =>
    rw [mergeFields_single hv.ne_nil (hv.field?_eq (by decide))] at hmerge
    exact ⟨_, entryStep_value_reads hmerge⟩

end

theorem mergeMetadata_nil {depth : Nat} {start : MetadataMessage} {after : List Bytes} :
    mergeMetadata depth start ⟨[], after⟩ = .ok start := by
  rcases depth with _ | _ | depth <;> rfl

theorem mergeMetadata_cons {depth : Nat} {start : MetadataMessage} {entry field rest : Bytes}
    {after : List Bytes} (h : DelimitedField 1 entry field) :
    mergeMetadata (depth + 2) start ⟨field ++ rest, after⟩ =
      mergeFields (some entryName) (depth + 1) (entryStep (mergeStruct depth))
        ⟨([], ⟨[], false⟩), false⟩ ⟨entry, rest :: after⟩ >>= fun e =>
      mergeMetadata (depth + 2) (addEntry start e) ⟨rest, after⟩ := by
  apply (mergeFields_cons h.ne_nil (h.field?_eq (by decide))).trans
  simp only [bind_assoc, pure_bind]
  rfl

section
variable {order : List (Text × Bytes)} {bytes : Bytes} {depth : Nat} {after : List Bytes}

theorem FiltersForm.mergeMetadata_eq (h : FiltersForm order bytes) {message : Bytes → StructMessage}
    (hread : ∀ f ∈ order, mergeStruct depth ⟨[], false⟩ ⟨f.2, []⟩ = .ok (message f.2))
    (before : List (Text × StructMessage)) :
    mergeMetadata (depth + 2) ⟨before, false⟩ ⟨bytes, after⟩ =
      .ok ⟨addEntries before (order.map fun f => (f.1, message f.2)), false⟩ := by
  induction h generalizing before with
  | nil => exact mergeMetadata_nil
  | @cons name filters payload key entry field bytes hname hentry hfield _ ih =>
    obtain ⟨hpayload, hrest⟩ := List.forall_mem_cons.mp hread
    have hvalue : ∀ after, ∃ m, mergeStruct depth ⟨[], false⟩ ⟨payload, after⟩ = .ok m ∧
        m = message payload := fun after => ⟨_, mergeStruct_mono le_rfl hpayload, rfl⟩
    obtain ⟨_, hm, rfl⟩ := hentry.mergeFields_eq (readText_eq hname) hvalue (bytes :: after)
    rw [mergeMetadata_cons hfield, hm]
    exact ih hrest (setEntry name (message payload) before)

theorem FiltersForm.mergeStruct_of_mergeMetadata (h : FiltersForm order bytes)
    {start m : MetadataMessage}
    (hmerge : mergeMetadata (depth + 2) start ⟨bytes, after⟩ = .ok m) :
    ∀ f ∈ order, ∃ s, mergeStruct depth ⟨[], false⟩ ⟨f.2, []⟩ = .ok s := by
  induction h generalizing start with
  | nil => simp
  | @cons name filters payload key entry field bytes hname hentry hfield _ ih =>
    rw [mergeMetadata_cons hfield] at hmerge
    obtain ⟨e, he, hrest⟩ := bind_eq_ok.mp hmerge
    obtain ⟨after', s, hs⟩ := hentry.value_of_mergeFields he
    exact List.forall_mem_cons.mpr ⟨⟨s, mergeStruct_mono le_rfl hs⟩, ih hrest⟩

end

/-! ## Decoding entry by entry -/

/-- The struct that an entry of metadata holds: two levels are taken, by the entry and by the struct
itself. -/
def readInside (payload : Bytes) : Except Malformed StructMessage :=
  mergeStruct (depthLimit - 2) ⟨[], false⟩ ⟨payload, []⟩

/-- The struct in an entry of metadata, an empty one if it cannot be read. -/
def messageInside (payload : Bytes) : StructMessage :=
  (readInside payload).toOption.getD ⟨[], false⟩

/-- Inside metadata, the struct is read and has this value, and no undefined field is found in the
levels that are searched there. -/
def HoldsInside (payload : Bytes) (v : Value) : Prop :=
  ∃ m, readInside payload = .ok m ∧ StructMessage.anyUnknown m (markedLevels - 1) = false ∧
    StructMessage.asValue? m = some v

theorem readInside_eq_messageInside {payload : Bytes} (h : ∃ m, readInside payload = .ok m) :
    readInside payload = .ok (messageInside payload) := by
  obtain ⟨m, hm⟩ := h
  rw [messageInside, hm]
  rfl

theorem HoldsInside.messageInside {payload : Bytes} {v : Value} (h : HoldsInside payload v) :
    readInside payload = .ok (messageInside payload) ∧
      StructMessage.anyUnknown (Wire.messageInside payload) (markedLevels - 1) = false ∧
      StructMessage.asValue? (Wire.messageInside payload) = some v := by
  obtain ⟨m, hm, hunknown, hvalue⟩ := h
  have hmessage : Wire.messageInside payload = m := by
    rw [Wire.messageInside, hm]
    rfl
  rw [hmessage]
  exact ⟨hm, hunknown, hvalue⟩

section
variable {filters : List (Text × Bytes)} {bytes : Bytes}

theorem EnvelopeForm.readMetadata_eq (h : EnvelopeForm filters bytes)
    (hread : ∀ f ∈ filters, readInside f.2 = .ok (messageInside f.2)) :
    readMetadata bytes =
      .ok ⟨sortEntries (filters.map fun f => (f.1, messageInside f.2)), false⟩ := by
  obtain ⟨hnames, order, horder, hwritten⟩ := h
  have hmerge : readMetadata bytes =
      .ok ⟨addEntries [] (order.map fun f => (f.1, messageInside f.2)), false⟩ :=
    hwritten.mergeMetadata_eq (fun f hf => hread f (horder.mem_iff.mp hf)) []
  have hnames' : ((filters.map fun f => (f.1, messageInside f.2)).map (·.1)).Nodup := by
    rw [List.map_map]
    exact hnames
  rw [hmerge, addEntries_eq (horder.map _) hnames']

theorem EnvelopeForm.readInside_of_readMetadata (h : EnvelopeForm filters bytes)
    {m : MetadataMessage} (hm : readMetadata bytes = .ok m) :
    ∀ f ∈ filters, readInside f.2 = .ok (messageInside f.2) := by
  obtain ⟨-, order, horder, hwritten⟩ := h
  intro f hf
  exact readInside_eq_messageInside
    (hwritten.mergeStruct_of_mergeMetadata hm f (horder.mem_iff.mpr hf))

theorem anyUnknown_envelope : MetadataMessage.anyUnknown
      ⟨sortEntries (filters.map fun f => (f.1, messageInside f.2)), false⟩ markedLevels = false ↔
    ∀ f ∈ filters, StructMessage.anyUnknown (messageInside f.2) (markedLevels - 1) = false := by
  rw [markedLevels, MetadataMessage.anyUnknown, Bool.false_or, List.any_eq_false]
  simp only [mem_sortEntries, List.forall_mem_map, Bool.not_eq_true]

/-- Metadata is decoded entry by entry, and sorted by name. -/
theorem EnvelopeForm.decodeMetadata_eq (h : EnvelopeForm filters bytes) {value : Bytes → Value}
    (hvalue : ∀ f ∈ filters, HoldsInside f.2 (value f.2)) :
    decodeMetadata bytes = .ok (.struct (sortEntries (filters.map fun f => (f.1, value f.2)))) := by
  have hread := h.readMetadata_eq fun f hf => (hvalue f hf).messageInside.1
  rw [decodeMetadata, hread]
  refine accept_eq_ok.mpr ⟨?_, ?_⟩
  · rw [anyUnknown_envelope]
    exact fun f hf => (hvalue f hf).messageInside.2.1
  · refine Option.map_eq_some_iff.mpr ⟨_, ?_, rfl⟩
    rw [← sortEntries_map, ← sortEntries_map, List.mapM_map]
    apply mapM_eq_some_map
    intro f hf
    rw [Function.comp_apply, (hvalue f (mem_sortEntries.mp hf)).messageInside.2.2]
    rfl

theorem EnvelopeForm.holdsInside_of_decodeMetadata (h : EnvelopeForm filters bytes) {v : Value}
    (hdecode : decodeMetadata bytes = .ok v) : ∀ f ∈ filters, ∃ w, HoldsInside f.2 w := by
  obtain ⟨m, hm, haccept⟩ := bind_eq_ok.mp hdecode
  have hm := mapError_eq_ok.mp hm
  have hinside := h.readInside_of_readMetadata hm
  obtain rfl := Except.ok.inj (hm.symm.trans (h.readMetadata_eq hinside))
  obtain ⟨hunknown, hvalue⟩ := accept_eq_ok.mp haccept
  intro f hf
  obtain ⟨entries, hentries, -⟩ := Option.map_eq_some_iff.mp hvalue
  rw [← sortEntries_map, List.mapM_map] at hentries
  obtain ⟨e, he⟩ := eq_some_of_mapM hentries f (mem_sortEntries.mpr hf)
  obtain ⟨w, hw, -⟩ := Option.bind_eq_some_iff.mp he
  exact ⟨w, messageInside f.2, hinside f hf, anyUnknown_envelope.mp hunknown f hf, hw⟩

end

/-! ## Inside metadata and alone -/

/-- The struct can be read inside metadata as well as alone: it is not too deep there. -/
def FitsInside (payload : Bytes) : Prop := readInside payload = readStruct payload

/-- The struct holds a value, and an undefined field that is found, but only in the last of the
levels that are searched. -/
def MarkedAtLast (payload : Bytes) : Prop :=
  ∃ m v, readStruct payload = .ok m ∧ StructMessage.anyUnknown m markedLevels = true ∧
    StructMessage.anyUnknown m (markedLevels - 1) = false ∧ StructMessage.asValue? m = some v

theorem decodeStruct_eq_ok {payload : Bytes} {v : Value} :
    decodeStruct payload = .ok v ↔ ∃ m, readStruct payload = .ok m ∧
      StructMessage.anyUnknown m markedLevels = false ∧ StructMessage.asValue? m = some v := by
  rw [decodeStruct, bind_eq_ok]
  simp only [mapError_eq_ok, accept_eq_ok]

theorem Found.mono {levels levels' : Nat} (hlevels : levels ≤ levels') {type : MessageType}
    {fields : List Outline} (h : Found levels type fields) : Found levels' type fields := by
  induction levels generalizing levels' type fields with
  | zero => cases h
  | succ levels ih =>
    obtain ⟨levels', rfl⟩ : ∃ n, levels' = n + 1 := ⟨levels' - 1, by omega⟩
    refine h.imp_right ?_
    rintro ⟨type', fields', hkept, hfound⟩
    exact ⟨type', fields', hkept, ih (Nat.le_of_succ_le_succ hlevels) hfound⟩

theorem anyUnknown_mono {payload : Bytes} {m : StructMessage} (hm : readStruct payload = .ok m)
    {levels levels' : Nat} (hlevels : levels ≤ levels')
    (h : StructMessage.anyUnknown m levels' = false) :
    StructMessage.anyUnknown m levels = false := by
  rw [readStruct_eq_outline] at hm
  cases hfields : outline depthLimit (.map .struct) ⟨payload, []⟩ with
  | error e =>
    rw [hfields] at hm
    cases hm
  | ok fields =>
    rw [hfields] at hm
    obtain rfl := Except.ok.inj hm
    rw [← Bool.not_eq_true, (anyUnknown_iff _).1] at h ⊢
    exact fun hfound => h (hfound.mono hlevels)

theorem readStruct_of_readInside {payload : Bytes} {m : StructMessage}
    (h : readInside payload = .ok m) : readStruct payload = .ok m :=
  mergeStruct_mono (Nat.sub_le depthLimit 2) h

theorem HoldsInside.of_decodeStruct {payload : Bytes} {v : Value} (hfits : FitsInside payload)
    (h : decodeStruct payload = .ok v) : HoldsInside payload v := by
  obtain ⟨m, hm, hunknown, hvalue⟩ := decodeStruct_eq_ok.mp h
  exact ⟨m, hfits.trans hm, anyUnknown_mono hm (Nat.sub_le markedLevels 1) hunknown, hvalue⟩

/-- A struct has a value inside metadata if it is not too deep there, and either has one alone or is
rejected for an undefined field that is not found inside metadata. -/
theorem holdsInside_iff {payload : Bytes} : (∃ v, HoldsInside payload v) ↔
    FitsInside payload ∧ ((∃ v, decodeStruct payload = .ok v) ∨ MarkedAtLast payload) := by
  constructor
  · rintro ⟨v, m, hm, hunknown, hvalue⟩
    have hread := readStruct_of_readInside hm
    refine ⟨hm.trans hread.symm, ?_⟩
    cases hall : StructMessage.anyUnknown m markedLevels with
    | false => exact .inl ⟨v, decodeStruct_eq_ok.mpr ⟨m, hread, hall, hvalue⟩⟩
    | true => exact .inr ⟨m, v, hread, hall, hunknown, hvalue⟩
  · rintro ⟨hfits, ⟨v, hv⟩ | ⟨m, v, hm, -, hunknown, hvalue⟩⟩
    · exact ⟨v, .of_decodeStruct hfits hv⟩
    · exact ⟨v, m, hfits.trans hm, hunknown, hvalue⟩

/-- **Metadata entry by entry.** Metadata is decoded to what its structs are decoded to, sorted by
name, if none of them is too deep. It is rejected iff some struct is too deep for it, or is rejected
alone and not only for an undefined field in the last level that is searched. -/
theorem decodeMetadata_envelope {filters : List (Text × Bytes)} {bytes : Bytes}
    (h : EnvelopeForm filters bytes) :
    (∀ value : Bytes → Value,
      (∀ f ∈ filters, FitsInside f.2 ∧ decodeStruct f.2 = .ok (value f.2)) →
      decodeMetadata bytes =
          .ok (.struct (sortEntries (filters.map fun f => (f.1, value f.2)))) ∧
        Increasing (sortEntries (filters.map fun f => (f.1, value f.2)))) ∧
    ((∃ fault, decodeMetadata bytes = .error fault) ↔
      ∃ f ∈ filters, ¬ FitsInside f.2 ∨
        (∃ fault, decodeStruct f.2 = .error fault) ∧ ¬ MarkedAtLast f.2) := by
  refine ⟨?_, ?_⟩
  · intro value hvalue
    refine ⟨h.decodeMetadata_eq fun f hf => .of_decodeStruct (hvalue f hf).1 (hvalue f hf).2, ?_⟩
    apply sortEntries_increasing
    rw [List.map_map]
    exact h.names
  · have hok : (∃ v, decodeMetadata bytes = .ok v) ↔ ∀ f ∈ filters, ∃ v, HoldsInside f.2 v := by
      constructor
      · rintro ⟨v, hv⟩
        exact h.holdsInside_of_decodeMetadata hv
      · intro hall
        have hchoice : ∀ payload, ∃ v, (∃ w, HoldsInside payload w) → HoldsInside payload v := by
          intro payload
          by_cases h : ∃ w, HoldsInside payload w
          · exact h.imp fun w hw _ => hw
          · exact ⟨.list [], fun hw => absurd hw h⟩
        obtain ⟨value, hvalue⟩ := Classical.axiomOfChoice hchoice
        exact ⟨_, h.decodeMetadata_eq fun f hf => hvalue f.2 (hall f hf)⟩
    rw [exists_error_iff, hok]
    simp only [holdsInside_iff, exists_error_iff, not_forall, not_and_or, not_or, exists_prop]

/-- The entry of the later name first, with a struct of its own, and an empty struct. -/
def sampleFilters : List (Text × Bytes) := [("b", sampleNull), ("a", [])]

def sampleMetadata : Bytes :=
  [0x0A, 0x0E, 0x0A, 0x01, 0x62, 0x12, 0x09] ++ sampleNull ++
    [0x0A, 0x05, 0x0A, 0x01, 0x61, 0x12, 0x00]

theorem decodeMetadata_envelope_sorted : decodeMetadata sampleMetadata =
    .ok (.struct [("a", .struct []), ("b", .struct [("b", .text (.chars "null"))])]) := by
  have hform : EnvelopeForm sampleFilters sampleMetadata := by
    refine ⟨by decide, sampleFilters, .refl _, ?_⟩
    have hempty : EntryForm [0x61] [] [0x0A, 0x01, 0x61, 0x12, 0x00] :=
      .nameFirst (.short (by decide) (by decide)) (.short (by decide) (by decide))
    have hnull : EntryForm [0x62] sampleNull (0x0A :: 0x01 :: 0x62 :: 0x12 :: 0x09 :: sampleNull) :=
      .nameFirst (.short (by decide) (by decide)) (.short (by decide) (by decide))
    have hlast : FiltersForm [("a", [])] [0x0A, 0x05, 0x0A, 0x01, 0x61, 0x12, 0x00] :=
      .cons rfl hempty (.short (by decide) (by decide)) .nil
    exact .cons rfl hnull (.short (by decide) (by decide)) hlast
  have hfits : ∀ f ∈ sampleFilters, FitsInside f.2 := by
    have hnull : readInside sampleNull = .ok ⟨[("b", ⟨.null, false⟩)], false⟩ := rfl
    have hempty : readInside [] = .ok ⟨[], false⟩ := rfl
    intro f hf
    rcases List.mem_pair.mp hf with rfl | rfl
    · exact hnull.trans rfl
    · exact hempty.trans rfl
  let value : Bytes → Value := fun payload => (decodeStruct payload).toOption.getD (.list [])
  have hvalue : ∀ f ∈ sampleFilters, decodeStruct f.2 = .ok (value f.2) := by
    intro f hf
    rcases List.mem_pair.mp hf with rfl | rfl
    · exact (rfl : decodeStruct sampleNull = .ok (.struct [("b", .text (.chars "null"))]))
    · exact (rfl : decodeStruct [] = .ok (.struct []))
  obtain ⟨hdecode, -⟩ :=
    (decodeMetadata_envelope hform).1 value fun f hf => ⟨hfits f hf, hvalue f hf⟩
  rw [hdecode, ← addEntries_eq (.refl _) (by decide)]
  rfl

/-- A text and an undefined field beside it in a list on the sixty-third level. -/
def sampleLast : Bytes := entryOfLong
  (Nat.repeat listOf 30 [0x32, 0x07, 0x0A, 0x03, 0x1A, 0x01, 0x78, 0x48, 0x01])

/-- The entry of a struct of 138 bytes. -/
def entryAround (payload : Bytes) : Bytes :=
  [0x0A, 0x01, 0x66] ++ ([0x12] ++ ([0x8A, 0x01] ++ payload))

/-- Metadata of a struct of 138 bytes. -/
def metadataAround (payload : Bytes) : Bytes := [0x0A] ++ ([0x90, 0x01] ++ entryAround payload)

theorem envelopeForm_metadataAround {payload : Bytes} (h : payload.length = 138) :
    EnvelopeForm [("f", payload)] (metadataAround payload) := by
  have hlength : VarintForm payload.length [0x8A, 0x01] := by
    rw [h]
    exact .more (b := 0x8A) (by decide) (.last (b := 0x01) (by decide))
  have hentry : EntryForm [0x66] payload (entryAround payload) :=
    .nameFirst (.short (by decide) (by decide))
      (.mk ⟨.byte (by decide), by decide⟩ hlength (by decide) (by omega))
  have hlengths : (entryAround payload).length = 144 := by
    simp [entryAround, h]
  have houter : VarintForm (entryAround payload).length [0x90, 0x01] := by
    rw [hlengths]
    exact .more (b := 0x90) (by decide) (.last (b := 0x01) (by decide))
  have hfield : DelimitedField 1 (entryAround payload) (metadataAround payload) :=
    .mk ⟨.byte (by decide), by decide⟩ houter (by decide) (by omega)
  have hforms : FiltersForm [("f", payload)] (metadataAround payload ++ []) :=
    .cons rfl hentry hfield .nil
  rw [List.append_nil] at hforms
  exact ⟨by simp, _, .refl _, hforms⟩

/-- A struct may be rejected alone and passed over inside metadata. -/
theorem rejected_alone_only :
    EnvelopeForm [("f", sampleLast)] (metadataAround sampleLast) ∧
      (decodeStruct sampleLast).isOk = false ∧
      (decodeMetadata (metadataAround sampleLast)).isOk = true := by
  have hlength : sampleLast.length = 138 := by decide +kernel
  refine ⟨envelopeForm_metadataAround hlength, ?_, ?_⟩
  · decide +kernel
  · decide +kernel

end RequestCredentials.Wire
