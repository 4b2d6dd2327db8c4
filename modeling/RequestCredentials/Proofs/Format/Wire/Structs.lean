import RequestCredentials.Evaluation.Run
import RequestCredentials.Proofs.Except
import RequestCredentials.Proofs.Value.Trees
import RequestCredentials.Proofs.Format.Wire.Forms
/-
  Structs are read back from every wire order

  Reading a struct that was written from a tree never meets an undefined field.
  Its entries are added to the map one by one, which keeps them in order of
  names, so what is read is the tree with all its mappings sorted, whatever the
  order on the wire was. The message may take as many levels as there are.

  What is proved:
    1. `asEntries?_eq_mapM`, `asItems?_eq_mapM` — the value of a message is put
       together from the values of the messages in it;
    2. `EntryForm.mergeFields_eq` — an entry is read from any of its forms;
    3. `ValueForm.mergeValue_eq` — a value is read from any of its forms, by
       induction on the form, for structs and lists along the way;
    4. `decodeStruct_any_order` — a struct is decoded to the sorted tree, so all
       orders of entries are decoded alike.
-/

namespace RequestCredentials

namespace Wire

/-! ## Values of messages -/

/-- The value of a value message. -/
def ValueMessage.asValue? (m : ValueMessage) : Option Value := m.content.asValue?

/-- The entry of a struct that the entry of a map holds; `value?` gives the value of a message. -/
def entryValue? {α : Type} (value? : α → Option Value) (e : Text × α) : Option (Text × Value) := do
  let value ← value? e.2
  return (e.1, value)

theorem entryValue?_eq_some {α : Type} {value? : α → Option Value} {e : Text × α}
    {e' : Text × Value} :
    entryValue? value? e = some e' ↔ e.1 = e'.1 ∧ value? e.2 = some e'.2 := by
  obtain ⟨name, v⟩ := e'
  simp [entryValue?, Option.bind_eq_some_iff, and_comm]

theorem asEntries?_eq_mapM (entries : List (Text × ValueMessage)) :
    Kind.asEntries? entries = entries.mapM (entryValue? ValueMessage.asValue?) := by
  induction entries with
  | nil => rfl
  | cons e entries ih =>
    rw [List.mapM_cons, Kind.asEntries?, ih, entryValue?, ValueMessage.asValue?]
    cases e.2.content.asValue? <;> rfl

theorem asItems?_eq_mapM (items : List ValueMessage) :
    Kind.asItems? items = items.mapM ValueMessage.asValue? := by
  induction items with
  | nil => rfl
  | cons item items ih => rw [List.mapM_cons, Kind.asItems?, ih, ValueMessage.asValue?]

/-! ## What messages hold -/

/-- The message holds the value, and no message inside it met an undefined field. -/
structure Holds (m : ValueMessage) (v : Value) : Prop where
  asValue : m.content.asValue? = some v
  unmarked : m.hasUnknown = false
  noUnknown : ∀ levels, m.content.hasUnknown levels = false

/-- The entries of a struct message hold these values under the same names. -/
def HoldsEntries (content : List (Text × ValueMessage)) (entries : List (Text × Value)) : Prop :=
  List.Forall₂ (fun m e => m.1 = e.1 ∧ Holds m.2 e.2) content entries

section
variable {items : List ValueMessage} {values : List Value} {content : List (Text × ValueMessage)}
  {entries : List (Text × Value)}

theorem HoldsEntries.asEntries?_eq (h : HoldsEntries content entries) :
    Kind.asEntries? content = some entries := by
  rw [asEntries?_eq_mapM, mapM_eq_some]
  exact h.imp fun _ _ he => entryValue?_eq_some.mpr ⟨he.1, he.2.asValue⟩

theorem HoldsEntries.noUnknown (h : HoldsEntries content entries) (levels : Nat) :
    Kind.entriesHaveUnknown content levels = false := by
  induction h with
  | nil => cases levels <;> rfl
  | @cons m e content entries he _ ih =>
    cases levels with
    | zero => rfl
    | succ levels =>
      simp only [Kind.entriesHaveUnknown, he.2.unmarked, he.2.noUnknown, ih, Bool.or_false]

theorem asItems?_eq (h : List.Forall₂ Holds items values) : Kind.asItems? items = some values := by
  rw [asItems?_eq_mapM, mapM_eq_some]
  exact h.imp fun _ _ hitem => hitem.asValue

theorem itemsHaveUnknown_eq (h : List.Forall₂ Holds items values) (levels : Nat) :
    Kind.itemsHaveUnknown items levels = false := by
  induction h with
  | nil => cases levels <;> rfl
  | cons hitem _ ih =>
    cases levels with
    | zero => rfl
    | succ levels =>
      simp only [Kind.itemsHaveUnknown, hitem.unmarked, hitem.noUnknown, ih, Bool.or_false]

theorem Holds.struct (h : HoldsEntries content entries) :
    Holds ⟨.struct ⟨content, false⟩, false⟩ (.struct entries) := by
  refine ⟨?_, rfl, ?_⟩
  · rw [Kind.asValue?, h.asEntries?_eq, Option.map_some]
  · intro levels
    cases levels with
    | zero => rfl
    | succ levels => rw [Kind.hasUnknown, h.noUnknown, Bool.or_false]

theorem Holds.list (h : List.Forall₂ Holds items values) :
    Holds ⟨.list ⟨items, false⟩, false⟩ (.list values) := by
  refine ⟨?_, rfl, ?_⟩
  · rw [Kind.asValue?, asItems?_eq h, Option.map_some]
  · intro levels
    cases levels with
    | zero => rfl
    | succ levels => rw [Kind.hasUnknown, itemsHaveUnknown_eq h, Bool.or_false]

theorem Holds.leaf {kind : Kind} {v : Value} (hvalue : kind.asValue? = some v)
    (hunknown : ∀ levels, kind.hasUnknown levels = false) : Holds ⟨kind, false⟩ v :=
  ⟨hvalue, rfl, hunknown⟩

theorem HoldsEntries.setEntry {name : Text} {m : ValueMessage} {v : Value}
    (h : HoldsEntries content entries) (hm : Holds m v) :
    HoldsEntries (setEntry name m content) (setEntry name v entries) := by
  induction h with
  | nil => exact .cons ⟨rfl, hm⟩ .nil
  | @cons first e content entries he hrest ih =>
    obtain ⟨n, a⟩ := first
    obtain ⟨n', b⟩ := e
    obtain ⟨hname, hvalue⟩ := he
    obtain rfl : n = n' := hname
    rw [Wire.setEntry, Wire.setEntry]
    split
    · exact .cons ⟨rfl, hm⟩ (.cons ⟨rfl, hvalue⟩ hrest)
    split
    · exact .cons ⟨rfl, hvalue⟩ ih
    · exact .cons ⟨rfl, hm⟩ hrest

end

/-! ## Reading -/

theorem readText_eq {s : Text} {bytes : Bytes} (h : Utf8.encode s = .ok bytes) :
    readText bytes = .ok s := by
  rw [readText, Utf8.decode_eq_ok_iff.mpr h, mapError_ok]

theorem mergeFields_single {α : Type} {textNumber : Option Nat} {levels : Nat}
    {step : α → Field → Except Malformed α} {start : α} {bytes : Bytes} {after : List Bytes}
    {field : Field} (hbytes : bytes ≠ [])
    (h : field? levels ⟨bytes ++ [], after⟩ = some (field, bytes.length)) :
    mergeFields textNumber levels step start ⟨bytes, after⟩ = step start field := by
  have hcons : mergeFields textNumber levels step start ⟨bytes ++ [], after⟩ =
      step start field >>= Except.ok := mergeFields_cons hbytes h
  rw [List.append_nil] at hcons
  rw [hcons]
  cases step start field <;> rfl

section
variable {α : Type} {mergeValue : α → Part → Except Malformed α} {init : α} {P : α → Prop}
  {levels : Nat} {name : Text} {key value entry : Bytes}

theorem entryStep_name (hname : readText key = .ok name) (m : Parsed (Text × α))
    (after : List Bytes) : entryStep mergeValue m ⟨entryName, .delimited ⟨key, after⟩⟩ =
      .ok (m.put (name, m.content.2)) := by
  show (readText key >>= fun name => Except.ok (m.put (name, m.content.2))) = _
  rw [hname]
  rfl

theorem entryStep_value {m : Parsed (Text × α)} {a : α} {after : List Bytes}
    (hvalue : mergeValue m.content.2 ⟨value, after⟩ = .ok a) :
    entryStep mergeValue m ⟨entryValue, .delimited ⟨value, after⟩⟩ =
      .ok (m.put (m.content.1, a)) := by
  show (mergeValue m.content.2 ⟨value, after⟩ >>= fun a => Except.ok (m.put (m.content.1, a))) = _
  rw [hvalue]
  rfl

/-- An entry is read from any of its forms, if its value is. -/
theorem EntryForm.mergeFields_eq (h : EntryForm key value entry) (hname : readText key = .ok name)
    (hvalue : ∀ after, ∃ a, mergeValue init ⟨value, after⟩ = .ok a ∧ P a) (after : List Bytes) :
    ∃ a, mergeFields (some entryName) levels (entryStep mergeValue) ⟨([], init), false⟩
      ⟨entry, after⟩ = .ok ⟨(name, a), false⟩ ∧ P a := by
  cases h with
  | nameFirst hn hv =>
    obtain ⟨a, ha, hP⟩ := hvalue ([] :: after)
    refine ⟨a, ?_, hP⟩
    rw [mergeFields_cons hn.ne_nil (hn.field?_eq (by decide)), entryStep_name hname]
    exact (mergeFields_single hv.ne_nil (hv.field?_eq (by decide))).trans (entryStep_value ha)
  | @valueFirst n v hn hv =>
    obtain ⟨a, ha, hP⟩ := hvalue (n :: after)
    refine ⟨a, ?_, hP⟩
    rw [mergeFields_cons hv.ne_nil (hv.field?_eq (by decide)), entryStep_value ha]
    exact (mergeFields_single hn.ne_nil (hn.field?_eq (by decide))).trans (entryStep_name hname _ _)
  | unnamed hkey hv =>
    obtain ⟨a, ha, hP⟩ := hvalue ([] :: after)
    refine ⟨a, ?_, hP⟩
    have hempty : name = [] := Except.ok.inj (hname.symm.trans (hkey ▸ rfl))
    rw [mergeFields_single hv.ne_nil (hv.field?_eq (by decide)), entryStep_value ha, hempty]
    rfl

end

section
variable {depth : Nat} {start : ValueMessage} {bytes payload value entry field rest : Bytes}
  {after : List Bytes}

theorem mergeValue_null (h : VarintField 1 0 bytes) :
    mergeValue depth start ⟨bytes, after⟩ = .ok (start.put .null) := by
  cases depth <;> exact mergeFields_single h.ne_nil (h.field?_eq (by decide) (by decide))

theorem mergeValue_bool {b : Bool} (h : VarintField 4 b.toNat bytes) :
    mergeValue depth start ⟨bytes, after⟩ = .ok (start.put (.bool b)) := by
  cases depth <;> cases b <;>
    exact mergeFields_single h.ne_nil (h.field?_eq (by decide) (by decide))

theorem mergeValue_text {s : Text} (hs : Utf8.encode s = .ok payload)
    (h : DelimitedField valueText payload bytes) :
    mergeValue depth start ⟨bytes, after⟩ = .ok (start.put (.text s)) := by
  have hread : (readText payload >>= fun s => Except.ok (start.put (.text s))) =
      .ok (start.put (.text s)) := by rw [readText_eq hs]; rfl
  cases depth <;> exact (mergeFields_single h.ne_nil (h.field?_eq (by decide))).trans hread

theorem mergeValue_struct (h : DelimitedField 5 payload bytes) :
    mergeValue (depth + 1) start ⟨bytes, after⟩ =
      mergeStruct depth start.content.asStruct ⟨payload, [] :: after⟩ >>= fun m =>
        .ok (start.put (.struct m)) :=
  mergeFields_single h.ne_nil (h.field?_eq (by decide))

theorem mergeValue_list (h : DelimitedField 6 payload bytes) :
    mergeValue (depth + 1) start ⟨bytes, after⟩ =
      mergeList depth start.content.asList ⟨payload, [] :: after⟩ >>= fun m =>
        .ok (start.put (.list m)) :=
  mergeFields_single h.ne_nil (h.field?_eq (by decide))

theorem mergeStruct_nil {start : StructMessage} :
    mergeStruct depth start ⟨[], after⟩ = .ok start := by
  rcases depth with _ | _ | depth <;> rfl

theorem mergeList_nil {start : ListMessage} : mergeList depth start ⟨[], after⟩ = .ok start := by
  cases depth <;> rfl

theorem mergeStruct_cons {start : StructMessage} (h : DelimitedField 1 entry field) :
    mergeStruct (depth + 2) start ⟨field ++ rest, after⟩ =
      mergeFields (some entryName) (depth + 1) (entryStep (mergeValue depth))
        ⟨([], noValue), false⟩ ⟨entry, rest :: after⟩ >>= fun e =>
      mergeStruct (depth + 2) (addEntry start e) ⟨rest, after⟩ := by
  apply (mergeFields_cons h.ne_nil (h.field?_eq (by decide))).trans
  simp only [bind_assoc, pure_bind]
  rfl

theorem mergeList_cons {start : ListMessage} (h : DelimitedField 1 value field) :
    mergeList (depth + 1) start ⟨field ++ rest, after⟩ =
      mergeValue depth noValue ⟨value, rest :: after⟩ >>= fun m =>
      mergeList (depth + 1) (start.put (start.content ++ [m])) ⟨rest, after⟩ := by
  apply (mergeFields_cons h.ne_nil (h.field?_eq (by decide))).trans
  simp only [bind_assoc, pure_bind]
  rfl

end

/-! ## Trees on the wire -/

/-- The values of the entries of a mapping, each sorted in itself. -/
def orderedValues (entries : List (Text × Tree)) : List (Text × Value) :=
  entries.map fun e => (e.1, e.2.ordered.asValue)

theorem asValue_ordered_dict (entries : List (Text × Tree)) :
    (Tree.dict entries).ordered.asValue = .struct (sortEntries (orderedValues entries)) := by
  rw [Tree.ordered, Tree.asValue, Tree.orderedEntries_eq_map, Tree.asEntries_eq_map,
    sortEntries_map, List.map_map]
  rfl

/-- The values of entries that are added in any order come out sorted by name. -/
theorem addEntries_orderedValues {order entries : List (Text × Tree)} (horder : order.Perm entries)
    (hnames : (entries.map (·.1)).Nodup) :
    addEntries [] (orderedValues order) = sortEntries (orderedValues entries) := by
  have hnames' : ((orderedValues entries).map (·.1)).Nodup := by
    simp only [orderedValues, List.map_map]
    exact hnames
  exact addEntries_eq (horder.map _) hnames'

mutual

/-- A value is read from any of its forms, if there are levels enough inside its message. -/
theorem ValueForm.mergeValue_eq : ∀ {tree : Tree} {bytes : Bytes}, ValueForm tree bytes →
    ∀ {depth : Nat}, tree.levels ≤ depth → ∀ after : List Bytes,
    ∃ m, mergeValue depth noValue ⟨bytes, after⟩ = .ok m ∧ Holds m tree.ordered.asValue
  | _, _, .null h, _, _, _ => ⟨_, mergeValue_null h, .leaf rfl fun _ => rfl⟩
  | _, _, .bool h, _, _, _ => ⟨_, mergeValue_bool h, .leaf rfl fun _ => rfl⟩
  | _, _, .text hs h, _, _, _ => ⟨_, mergeValue_text hs h, .leaf rfl fun _ => rfl⟩
  | _, _, @ValueForm.dict entries order _ _ horder hnames hentries h, depth, hdepth, after => by
    rw [Tree.levels] at hdepth
    obtain ⟨depth, rfl⟩ : ∃ d, depth = d + 1 := ⟨depth - 1, by omega⟩
    have hlevels : Tree.entryLevels order ≤ depth :=
      Tree.entryLevels_le_of_perm horder (Nat.le_of_succ_le_succ hdepth)
    obtain ⟨content, hmerge, hholds⟩ := hentries.mergeStruct_eq hlevels .nil ([] :: after)
    -- The entries were added in the order on the wire, and no longer show it.
    rw [addEntries_orderedValues horder hnames] at hholds
    refine ⟨noValue.put (.struct ⟨content, false⟩), ?_, ?_⟩
    · rw [mergeValue_struct h]
      exact congrArg (· >>= _) hmerge
    · rw [asValue_ordered_dict]
      exact .struct hholds
  | _, _, .list hitems h, depth, hdepth, after => by
    rw [Tree.levels] at hdepth
    obtain ⟨depth, rfl⟩ : ∃ d, depth = d + 1 := ⟨depth - 1, by omega⟩
    obtain ⟨content, hmerge, hholds⟩ :=
      hitems.mergeList_eq (Nat.le_of_succ_le_succ hdepth) .nil ([] :: after)
    refine ⟨noValue.put (.list ⟨content, false⟩), ?_, .list hholds⟩
    rw [mergeValue_list h]
    exact congrArg (· >>= _) hmerge

/-- The entries of a struct are added to those before them. -/
theorem EntriesForm.mergeStruct_eq : ∀ {order : List (Text × Tree)} {bytes : Bytes},
    EntriesForm order bytes → ∀ {depth : Nat}, Tree.entryLevels order ≤ depth →
    ∀ {before : List (Text × ValueMessage)} {entries : List (Text × Value)},
    HoldsEntries before entries → ∀ after : List Bytes,
    ∃ content, mergeStruct depth ⟨before, false⟩ ⟨bytes, after⟩ = .ok ⟨content, false⟩ ∧
      HoldsEntries content (addEntries entries (orderedValues order))
  | _, _, .nil, _, _, before, _, hbefore, _ => ⟨before, mergeStruct_nil, hbefore⟩
  | _, _, @EntriesForm.cons name tree order _ value _ _ bytes hname hvalue hentry hfield hrest,
      depth, hdepth, _, _, hbefore, after => by
    rw [Tree.entryLevels, Nat.max_le] at hdepth
    obtain ⟨htree, horder⟩ := hdepth
    -- One level is taken by the entry and one by its value.
    obtain ⟨depth, rfl⟩ : ∃ d, depth = d + 2 := ⟨depth - 2, by omega⟩
    have hread : ∀ after, ∃ m, mergeValue depth noValue ⟨value, after⟩ = .ok m ∧
        Holds m tree.ordered.asValue := hvalue.mergeValue_eq (by omega)
    obtain ⟨m, hm, hholds⟩ := hentry.mergeFields_eq (readText_eq hname) hread (bytes :: after)
    obtain ⟨content, hmerge, hcontent⟩ :=
      hrest.mergeStruct_eq horder (hbefore.setEntry hholds) after
    rw [mergeStruct_cons hfield, hm]
    exact ⟨content, hmerge, hcontent⟩

theorem ItemsForm.mergeList_eq : ∀ {items : List Tree} {bytes : Bytes}, ItemsForm items bytes →
    ∀ {depth : Nat}, Tree.itemLevels items ≤ depth →
    ∀ {before : List ValueMessage} {values : List Value}, List.Forall₂ Holds before values →
    ∀ after : List Bytes,
    ∃ content, mergeList depth ⟨before, false⟩ ⟨bytes, after⟩ = .ok ⟨content, false⟩ ∧
      List.Forall₂ Holds content (values ++ Tree.asValues (Tree.orderedItems items))
  | _, _, .nil, _, _, before, values, hbefore, _ =>
    ⟨before, mergeList_nil, by rwa [Tree.orderedItems, Tree.asValues, List.append_nil]⟩
  | _, _, @ItemsForm.cons tree items value _ bytes hvalue hfield hrest, depth, hdepth, before,
      values, hbefore, after => by
    rw [Tree.itemLevels, Nat.max_le] at hdepth
    obtain ⟨htree, hitems⟩ := hdepth
    obtain ⟨depth, rfl⟩ : ∃ d, depth = d + 1 := ⟨depth - 1, by omega⟩
    obtain ⟨m, hm, hholds⟩ := hvalue.mergeValue_eq (Nat.le_of_succ_le_succ htree) (bytes :: after)
    have hmore : List.Forall₂ Holds (before ++ [m]) (values ++ [tree.ordered.asValue]) :=
      List.rel_append hbefore (.cons hholds .nil)
    obtain ⟨content, hmerge, hcontent⟩ := hrest.mergeList_eq hitems hmore after
    rw [List.append_assoc, List.singleton_append] at hcontent
    rw [mergeList_cons hfield, hm]
    exact ⟨content, hmerge, hcontent⟩

end

/-- A struct is decoded to the sorted tree. -/
theorem StructForm.decodeStruct_eq {entries : List (Text × Tree)} {bytes : Bytes}
    (h : StructForm entries bytes) (hlevels : Tree.entryLevels entries ≤ depthLimit) :
    decodeStruct bytes = .ok (Tree.dict entries).ordered.asValue := by
  obtain ⟨hnames, order, horder, hwritten⟩ := h
  obtain ⟨content, hmerge, hholds⟩ :=
    hwritten.mergeStruct_eq (Tree.entryLevels_le_of_perm horder hlevels) .nil []
  rw [addEntries_orderedValues horder hnames] at hholds
  have hread : readStruct bytes = .ok ⟨content, false⟩ := hmerge
  have hunknown : StructMessage.anyUnknown ⟨content, false⟩ markedLevels = false := by
    rw [markedLevels, StructMessage.anyUnknown, hholds.noUnknown, Bool.or_false]
  have hvalue : StructMessage.asValue? ⟨content, false⟩ =
      some (Tree.dict entries).ordered.asValue := by
    rw [StructMessage.asValue?, hholds.asEntries?_eq, asValue_ordered_dict, Option.map_some]
  rw [decodeStruct, hread]
  simp only [mapError_ok, bind, Except.bind, accept, hunknown, hvalue]
  rfl

/-- Whatever the order in which the entries of each mapping are written, a struct is decoded to the
sorted tree. So the orders cannot be told apart by any operations that follow. -/
theorem decodeStruct_any_order {entries : List (Text × Tree)} {bytes : Bytes}
    (h : StructForm entries bytes) (hlevels : Tree.entryLevels entries ≤ depthLimit) :
    decodeStruct bytes = .ok (Tree.dict entries).ordered.asValue ∧
      ∀ bytes', StructForm entries bytes' → ∀ ops : List Operation,
        run (.text (.bytes bytes')) (.decode .protobufStruct :: ops) =
          run (.text (.bytes bytes)) (.decode .protobufStruct :: ops) := by
  refine ⟨h.decodeStruct_eq hlevels, ?_⟩
  intro bytes' h' ops
  have hsame : (Value.text (.bytes bytes')).decode .protobufStruct =
      (Value.text (.bytes bytes)).decode .protobufStruct := by
    simp only [Value.decode, Content.toBytes, decodeBytes, h.decodeStruct_eq hlevels,
      h'.decodeStruct_eq hlevels]
  simp only [run, Operation.apply, hsame]

theorem VarintForm.byte {n : Nat} (h : n < 0x80) : VarintForm n [UInt8.ofNat n] := by
  have hbyte : (UInt8.ofNat n).toNat = n := Utf8.toNat_ofNat (by omega)
  have hform : VarintForm (UInt8.ofNat n).toNat [UInt8.ofNat n] := .last (by omega)
  rwa [hbyte] at hform

theorem DelimitedField.short {number : Nat} {payload : Bytes} (hnumber : number < 15)
    (hpayload : payload.length < 0x80) : DelimitedField number payload
      (UInt8.ofNat (8 * number + delimitedPayload) :: UInt8.ofNat payload.length :: payload) :=
  .mk ⟨.byte (by rw [delimitedPayload]; omega), by simp⟩ (.byte hpayload) (by simp) (by omega)

/-- Two entries, the later name first. -/
def sampleEntries : List (Text × Tree) := [("b", .null), ("a", .list [.bool true])]

/-- The entry of the later name. -/
def sampleNull : Bytes := [0x0A, 0x07, 0x0A, 0x01, 0x62, 0x12, 0x02, 0x08, 0x00]

/-- The entry of the earlier name, its value in front. -/
def sampleList : Bytes :=
  [0x0A, 0x0B, 0x12, 0x06, 0x32, 0x04, 0x0A, 0x02, 0x20, 0x01, 0x0A, 0x01, 0x61]

theorem entriesForm_sampleNull {entries : List (Text × Tree)} {bytes : Bytes}
    (h : EntriesForm entries bytes) :
    EntriesForm (("b", .null) :: entries) (sampleNull ++ bytes) := by
  have hvalue : ValueForm .null [0x08, 0x00] :=
    .null (.mk ⟨.byte (by decide), by decide⟩ (.byte (by decide)) (by decide))
  have hentry : EntryForm [0x62] [0x08, 0x00] [0x0A, 0x01, 0x62, 0x12, 0x02, 0x08, 0x00] :=
    .nameFirst (.short (by decide) (by decide)) (.short (by decide) (by decide))
  exact .cons rfl hvalue hentry (.short (by decide) (by decide)) h

theorem entriesForm_sampleList {entries : List (Text × Tree)} {bytes : Bytes}
    (h : EntriesForm entries bytes) :
    EntriesForm (("a", .list [.bool true]) :: entries) (sampleList ++ bytes) := by
  have hitem : ValueForm (.bool true) [0x20, 0x01] :=
    .bool (.mk ⟨.byte (by decide), by decide⟩ (.byte (by decide)) (by decide))
  have hvalue : ValueForm (.list [.bool true]) [0x32, 0x04, 0x0A, 0x02, 0x20, 0x01] :=
    .list (.cons hitem (.short (by decide) (by decide)) .nil) (.short (by decide) (by decide))
  have hentry : EntryForm [0x61] [0x32, 0x04, 0x0A, 0x02, 0x20, 0x01]
      [0x12, 0x06, 0x32, 0x04, 0x0A, 0x02, 0x20, 0x01, 0x0A, 0x01, 0x61] :=
    .valueFirst (.short (by decide) (by decide)) (.short (by decide) (by decide))
  exact .cons rfl hvalue hentry (.short (by decide) (by decide)) h

theorem sampleEntries_ordered : (Tree.dict sampleEntries).ordered.asValue =
    .struct [("a", .list [.text (.chars "true")]), ("b", .text (.chars "null"))] := by
  rw [asValue_ordered_dict, ← addEntries_orderedValues (.refl sampleEntries) (by decide)]
  rfl

theorem decodeStruct_any_order_sample :
    decodeStruct (sampleNull ++ sampleList) =
      .ok (.struct [("a", .list [.text (.chars "true")]), ("b", .text (.chars "null"))]) ∧
    run (.text (.bytes (sampleList ++ sampleNull)))
        [.decode .protobufStruct, .lookup (.position (.int 1))] =
      run (.text (.bytes (sampleNull ++ sampleList)))
        [.decode .protobufStruct, .lookup (.position (.int 1))] := by
  have hnames : (sampleEntries.map (·.1)).Nodup := by decide
  have hform : StructForm sampleEntries (sampleNull ++ sampleList) :=
    ⟨hnames, _, .refl _, entriesForm_sampleNull (entriesForm_sampleList .nil)⟩
  have hform' : StructForm sampleEntries (sampleList ++ sampleNull) :=
    ⟨hnames, _, .swap _ _ _, entriesForm_sampleList (entriesForm_sampleNull .nil)⟩
  obtain ⟨hdecode, hsame⟩ := decodeStruct_any_order hform (by decide)
  rw [sampleEntries_ordered] at hdecode
  exact ⟨hdecode, hsame _ hform' _⟩

end Wire

end RequestCredentials
