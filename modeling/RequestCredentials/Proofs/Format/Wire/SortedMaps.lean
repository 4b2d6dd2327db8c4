import RequestCredentials.Proofs.Evaluation.Success
import RequestCredentials.Proofs.Format.Wire.Structs
import RequestCredentials.Proofs.Format.Wire.Undefined
import RequestCredentials.Proofs.Value.SortedStructs
/-
  Maps stay sorted

  The fields of a message come in any order, names come again, a struct goes on
  in a later field, and a value is overwritten. Whatever a field is, it leaves
  all maps in the message sorted that were sorted before. So a message that is
  read holds sorted maps only, and its value holds sorted structs only.

  What is proved:
    1. `SortedMap.addEntry`, `mergeMap_sorted`, `mergeValue_sorted`,
       `mergeList_sorted` — what a field of each message keeps, and so all its
       fields, if the messages inside it do;
    2. `merge_sorted` — they do, by induction on the levels that remain;
    3. `Kind.Sorted.asValue`, `decode_sorted` — the value of a sorted message is
       sorted;
    4. `decoded_structs_sorted` — so a name and its rank select the same entry
       in every struct of a decoded value.
-/

namespace RequestCredentials.Wire

/-! ## Sorted messages -/

/-- Every map in the value message, however deep, has its entries in increasing order of names. -/
inductive Kind.Sorted : Kind → Prop
  | unset : Sorted .unset
  | null : Sorted .null
  | number (x : Binary64) : Sorted (.number x)
  | text (s : Text) : Sorted (.text s)
  | bool (b : Bool) : Sorted (.bool b)
  | struct {m : StructMessage} (names : Increasing m.content)
    (values : ∀ e ∈ m.content, Sorted e.2.content) : Sorted (.struct m)
  | list {m : ListMessage} (items : ∀ item ∈ m.content, Sorted item.content) : Sorted (.list m)

def ValueMessage.Sorted (m : ValueMessage) : Prop := m.content.Sorted

/-- The entries stand in increasing order of names, and what they hold is sorted. -/
structure SortedMap {α : Type} (sorted : α → Prop) (m : Parsed (List (Text × α))) : Prop where
  names : Increasing m.content
  values : ∀ e ∈ m.content, sorted e.2

def StructMessage.Sorted : StructMessage → Prop := SortedMap ValueMessage.Sorted

def ListMessage.Sorted (m : ListMessage) : Prop := ∀ item ∈ m.content, ValueMessage.Sorted item

def MetadataMessage.Sorted : MetadataMessage → Prop := SortedMap StructMessage.Sorted

theorem SortedMap.empty {α : Type} (sorted : α → Prop) : SortedMap sorted ⟨[], false⟩ :=
  ⟨.nil, nofun⟩

theorem ListMessage.sorted_empty : ListMessage.Sorted ⟨[], false⟩ := nofun

theorem Kind.Sorted.asStruct {kind : Kind} (h : kind.Sorted) :
    StructMessage.Sorted kind.asStruct := by
  cases h with
  | struct names values => exact ⟨names, values⟩
  | _ => exact .empty _

theorem Kind.Sorted.asList {kind : Kind} (h : kind.Sorted) : ListMessage.Sorted kind.asList := by
  cases h with
  | list items => exact items
  | _ => exact ListMessage.sorted_empty

/-! ## Merging -/

theorem mergeFields_keeps {α : Type} {P : α → Prop} {textNumber : Option Nat} {levels : Nat}
    {step : α → Field → Except Malformed α} {start m : α} {part : Part}
    (hstep : ∀ m field m', P m → step m field = .ok m' → P m') (hstart : P start)
    (h : mergeFields textNumber levels step start part = .ok m) : P m := by
  obtain ⟨read, -, hfold⟩ := mergeFields_eq_ok.mp h
  exact foldlM_keeps hstep hstart hfold

theorem inside_eq_ok {β : Type} {read : Nat → Part → Except Malformed β} {depth : Nat}
    {part : Part} {b : β} (h : inside read depth part = .ok b) :
    ∃ d < depth, read d part = .ok b := by
  cases depth with
  | zero => cases h
  | succ depth => exact ⟨depth, Nat.lt_succ_self depth, h⟩

/-- A way to merge messages keeps them sorted. -/
def KeepsSorted {α : Type} (sorted : α → Prop) (merge : α → Part → Except Malformed α) : Prop :=
  ∀ start part m, sorted start → merge start part = .ok m → sorted m

section
variable {α : Type} {sorted : α → Prop}

theorem SortedMap.addEntry {m : Parsed (List (Text × α))} {entry : Parsed (Text × α)}
    (h : SortedMap sorted m) (hvalue : sorted entry.content.2) :
    SortedMap sorted (addEntry m entry) := by
  rw [Wire.addEntry]
  split
  · -- An entry that met an undefined field is left out.
    exact ⟨h.names, h.values⟩
  · refine ⟨h.names.setEntry, ?_⟩
    intro e he
    rcases mem_setEntry he with rfl | he
    · exact hvalue
    · exact h.values e he

theorem entryStep_sorted {mergeValue : α → Part → Except Malformed α}
    (hmerge : KeepsSorted sorted mergeValue) {m m' : Parsed (Text × α)} {field : Field}
    (hm : sorted m.content.2) (h : entryStep mergeValue m field = .ok m') :
    sorted m'.content.2 := by
  rw [entryStep.eq_def] at h
  split at h
  · obtain ⟨name, -, hput⟩ := bind_eq_ok.mp h
    cases hput
    exact hm
  · obtain ⟨value, hvalue, hput⟩ := bind_eq_ok.mp h
    cases hput
    exact hmerge _ _ value hm hvalue
  · cases h
    exact hm

/-- A map stays sorted if the messages of its entries do. -/
theorem mergeMap_sorted {mergeValue : Nat → α → Part → Except Malformed α} {empty : α}
    {depth : Nat} (hempty : sorted empty)
    (hmerge : ∀ d < depth, KeepsSorted sorted (mergeValue d)) :
    KeepsSorted (SortedMap sorted) (mergeMap mergeValue empty depth) := by
  intro start part m hstart h
  refine mergeFields_keeps ?_ hstart h
  intro m field m' hm hstep
  rw [mapStep.eq_def] at hstep
  split at hstep
  · obtain ⟨entry, hread, hadd⟩ := bind_eq_ok.mp hstep
    cases hadd
    refine hm.addEntry ?_
    obtain ⟨d, hd, hentry⟩ := inside_eq_ok hread
    have hinside : KeepsSorted sorted fun value => inside (mergeValue · value) d := by
      intro start part value hstart hvalue
      obtain ⟨d', hd', hvalue⟩ := inside_eq_ok hvalue
      exact hmerge d' (Nat.lt_trans hd' hd) start part value hstart hvalue
    exact mergeFields_keeps (P := fun e => sorted e.content.2)
      (fun _ _ _ => entryStep_sorted hinside) hempty hentry
  · cases hstep
    exact ⟨hm.names, hm.values⟩

end

theorem mergeValue_sorted {depth : Nat}
    (hstruct : ∀ d < depth, KeepsSorted StructMessage.Sorted (mergeStruct d))
    (hlist : ∀ d < depth, KeepsSorted ListMessage.Sorted (mergeList d)) :
    KeepsSorted ValueMessage.Sorted (mergeValue depth) := by
  intro start part m hstart h
  rw [mergeValue.eq_def] at h
  refine mergeFields_keeps ?_ hstart h
  intro m field m' hm hstep
  split at hstep
  · cases hstep
    exact .null
  · cases hstep
    exact .number _
  · obtain ⟨text, -, hput⟩ := bind_eq_ok.mp hstep
    cases hput
    exact .text text
  · cases hstep
    exact .bool _
  · cases depth with
    | zero => cases hstep
    | succ depth =>
      -- The struct goes on from the one that the value holds, if it holds one.
      obtain ⟨struct, hmerge, hput⟩ := bind_eq_ok.mp hstep
      cases hput
      have hsorted := hstruct depth (Nat.lt_succ_self depth) _ _ struct hm.asStruct hmerge
      exact .struct hsorted.names hsorted.values
  · cases depth with
    | zero => cases hstep
    | succ depth =>
      obtain ⟨list, hmerge, hput⟩ := bind_eq_ok.mp hstep
      cases hput
      exact .list (hlist depth (Nat.lt_succ_self depth) _ _ list hm.asList hmerge)
  · cases hstep
    exact hm

theorem mergeList_sorted {depth : Nat}
    (hvalue : ∀ d < depth, KeepsSorted ValueMessage.Sorted (mergeValue d)) :
    KeepsSorted ListMessage.Sorted (mergeList depth) := by
  intro start part m hstart h
  rw [mergeList.eq_def] at h
  refine mergeFields_keeps ?_ hstart h
  intro m field m' hm hstep
  split at hstep
  · cases depth with
    | zero => cases hstep
    | succ depth =>
      obtain ⟨value, hmerge, hput⟩ := bind_eq_ok.mp hstep
      cases hput
      have hsorted := hvalue depth (Nat.lt_succ_self depth) noValue _ value .unset hmerge
      exact List.forall_mem_append.mpr ⟨hm, List.forall_mem_singleton.mpr hsorted⟩
  · cases hstep
    exact hm

/-- Structs, values and lists stay sorted, by induction on the levels that remain. -/
theorem merge_sorted (depth : Nat) :
    KeepsSorted StructMessage.Sorted (mergeStruct depth) ∧
    KeepsSorted ValueMessage.Sorted (mergeValue depth) ∧
    KeepsSorted ListMessage.Sorted (mergeList depth) := by
  induction depth using Nat.strongRecOn with
  | ind depth ih =>
    refine ⟨?_, ?_, ?_⟩
    · intro start part m hstart h
      rw [mergeStruct_eq_mergeMap] at h
      exact mergeMap_sorted .unset (fun d hd => (ih d hd).2.1) start part m hstart h
    · exact mergeValue_sorted (fun d hd => (ih d hd).1) fun d hd => (ih d hd).2.2
    · exact mergeList_sorted fun d hd => (ih d hd).2.1

theorem readStruct_sorted {input : Bytes} {m : StructMessage} (h : readStruct input = .ok m) :
    m.Sorted := (merge_sorted depthLimit).1 _ _ m (.empty _) h

theorem readMetadata_sorted {input : Bytes} {m : MetadataMessage}
    (h : readMetadata input = .ok m) : MetadataMessage.Sorted m := by
  rw [readMetadata, mergeMetadata_eq_mergeMap] at h
  exact mergeMap_sorted (.empty _) (fun d _ => (merge_sorted d).1) _ _ m (.empty _) h

/-! ## Values -/

theorem SortedMap.sorted_struct {α : Type} {value? : α → Option Value}
    {m : Parsed (List (Text × α))} {entries : List (Text × Value)}
    (h : SortedMap (fun a => ∀ v, value? a = some v → v.Sorted) m)
    (hvalues : m.content.mapM (entryValue? value?) = some entries) :
    (Value.struct entries).Sorted := by
  have hnames : m.content.map (·.1) = entries.map (·.1) := by
    rw [← List.forall₂_eq_eq_eq, List.forall₂_map_left_iff, List.forall₂_map_right_iff]
    exact (mapM_eq_some.mp hvalues).imp fun _ _ he => (entryValue?_eq_some.mp he).1
  refine Value.sorted_struct_iff.mpr ⟨?_, ?_⟩
  · have hincreasing := List.pairwise_map.mpr h.names
    rw [hnames] at hincreasing
    exact List.pairwise_map.mp hincreasing
  · intro e' he'
    obtain ⟨e, he, hvalue⟩ := exists_of_mapM hvalues e' he'
    exact h.values e he e'.2 (entryValue?_eq_some.mp hvalue).2

theorem Kind.Sorted.asValue {kind : Kind} (h : kind.Sorted) :
    ∀ v, kind.asValue? = some v → v.Sorted := by
  induction h with
  | unset => exact nofun
  | null | number | text | bool =>
    intro v hv
    cases hv
    exact Value.sorted_text _
  | @struct m names _ ih =>
    intro v hv
    obtain ⟨entries, hentries, rfl⟩ := Option.map_eq_some_iff.mp hv
    rw [asEntries?_eq_mapM] at hentries
    exact SortedMap.sorted_struct ⟨names, ih⟩ hentries
  | @list m _ ih =>
    intro v hv
    obtain ⟨values, hvalues, rfl⟩ := Option.map_eq_some_iff.mp hv
    rw [asItems?_eq_mapM] at hvalues
    refine Value.sorted_list_iff.mpr fun v hv => ?_
    obtain ⟨item, hitem, hvalue⟩ := exists_of_mapM hvalues v hv
    exact ih item hitem v hvalue

theorem StructMessage.Sorted.asValue {m : StructMessage} (h : m.Sorted) :
    ∀ v, m.asValue? = some v → v.Sorted := by
  intro v hv
  obtain ⟨entries, hentries, rfl⟩ := Option.map_eq_some_iff.mp hv
  rw [asEntries?_eq_mapM] at hentries
  exact SortedMap.sorted_struct ⟨h.names, fun e he => (h.values e he).asValue⟩ hentries

theorem MetadataMessage.Sorted.asValue {m : MetadataMessage} (h : MetadataMessage.Sorted m) :
    ∀ v, MetadataMessage.asValue? m = some v → v.Sorted := by
  intro v hv
  obtain ⟨entries, hentries, rfl⟩ := Option.map_eq_some_iff.mp hv
  exact SortedMap.sorted_struct ⟨h.names, fun e he => (h.values e he).asValue⟩ hentries

theorem decode_sorted {root : Root} {input : Bytes} {v : Value} (h : decode root input = .ok v) :
    v.Sorted := by
  cases root with
  | struct =>
    obtain ⟨m, hread, haccept⟩ := bind_eq_ok.mp h
    exact (readStruct_sorted (mapError_eq_ok.mp hread)).asValue v (accept_eq_ok.mp haccept).2
  | metadata =>
    obtain ⟨m, hread, haccept⟩ := bind_eq_ok.mp h
    exact (readMetadata_sorted (mapError_eq_ok.mp hread)).asValue v (accept_eq_ok.mp haccept).2

/-! ## Decoded structs -/

/-- **Names and positions.** In every struct of a decoded value, however deep, the names are
strictly increasing. So a lookup by a name and a lookup by the number of lesser names give the same:
the value of the only entry of that name. -/
theorem decoded_structs_sorted (root : Root) {input : Bytes} {v : Value}
    (hdecode : decode root input = .ok v) {entries : List (Text × Value)}
    (hoccurs : Value.Occurs (.struct entries) v) :
    (entries.map (·.1)).Pairwise (· < ·) ∧ ∀ e ∈ entries,
      (Value.struct entries).lookup (.key e.1) = .ok (.ok e.2) ∧
        (Value.struct entries).lookup (.position (.int (rank e.1 entries))) = .ok (.ok e.2) := by
  have hincreasing : Increasing entries := decode_sorted hdecode entries hoccurs
  exact ⟨List.pairwise_map.mpr hincreasing, fun e he => lookup_sorted hincreasing he⟩

/-- A struct in two fields, the greater name first. -/
def sampleSplit : Bytes :=
  [0x2A, 0x09, 0x0A, 0x07, 0x0A, 0x01, 0x79, 0x12, 0x02, 0x08, 0x00] ++
    [0x2A, 0x09, 0x0A, 0x07, 0x0A, 0x01, 0x78, 0x12, 0x02, 0x20, 0x01]

/-- An entry whose name comes again with a list of such a struct, and then one of a lesser name. -/
def sampleOverwritten : Bytes :=
  [0x0A, 0x07, 0x0A, 0x01, 0x62, 0x12, 0x02, 0x08, 0x00] ++
    [0x0A, 0x1F, 0x0A, 0x01, 0x62, 0x12, 0x1A, 0x32, 0x18, 0x0A, 0x16] ++ sampleSplit ++
    [0x0A, 0x07, 0x0A, 0x01, 0x61, 0x12, 0x02, 0x08, 0x00]

def entryOutline (name : Text) (value : List Outline) : Outline :=
  .message (.entry .struct) [.text name, .message .value value]

def sampleSplitFields : List Outline :=
  [.message (.map .struct) [entryOutline "y" [.leaf .null]],
    .message (.map .struct) [entryOutline "x" [.leaf (.bool true)]]]

def sampleOverwrittenFields : List Outline :=
  [entryOutline "b" [.leaf .null],
    entryOutline "b" [.message .list [.message .value sampleSplitFields]],
    entryOutline "a" [.leaf .null]]

/-- The entries of the struct in the list. -/
def sampleMerged : List (Text × Value) :=
  [("x", .text (.chars "true")), ("y", .text (.chars "null"))]

theorem decoded_structs_sorted_overwritten :
    decode .struct sampleOverwritten = .ok (.struct
      [("a", .text (.chars "null")), ("b", .list [.struct sampleMerged])]) ∧
    (Value.struct sampleMerged).lookup (.key "y") = .ok (.ok (.text (.chars "null"))) ∧
    (Value.struct sampleMerged).lookup (.position (.int 1)) =
      .ok (.ok (.text (.chars "null"))) := by
  have hread : outline depthLimit (.map .struct) ⟨sampleOverwritten, []⟩ =
      .ok sampleOverwrittenFields := rfl
  have hdecode : decode .struct sampleOverwritten = .ok (.struct
      [("a", .text (.chars "null")), ("b", .list [.struct sampleMerged])]) := by
    rw [decode, decodeStruct, readStruct_eq_outline, hread]
    rfl
  have hoccurs : Value.Occurs (.struct sampleMerged) (.struct
      [("a", .text (.chars "null")), ("b", .list [.struct sampleMerged])]) :=
    .entry (.tail _ (.head _)) (.item (.head _) .here)
  obtain ⟨-, hlookups⟩ := decoded_structs_sorted .struct hdecode hoccurs
  exact ⟨hdecode, hlookups ("y", .text (.chars "null")) (.tail _ (.head _))⟩

end RequestCredentials.Wire
