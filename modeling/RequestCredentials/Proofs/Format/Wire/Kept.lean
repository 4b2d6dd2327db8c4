import Mathlib.Data.List.DropRight
import RequestCredentials.Proofs.Format.Wire.Building
import RequestCredentials.Proofs.Format.Wire.Order
/-
  What messages keep

  Of the messages that stand in a message on the wire, not all are part of what
  is built from it. A map keeps the last entry of each name. A value keeps a
  struct or a list only if no field of another kind follows it, and then it is
  merged from all fields of the last run of that kind. A list keeps its items.

  Undefined fields are looked for in what is kept, and only in the outermost
  levels. `Found` says where they are found in terms of the outline, that is, of
  the fields on the wire.

  What is proved:
    1. `foldl_addToEntry`, `content_foldl_addToMap`, `addAllToValue_keptRun`,
       `addAllToList_eq` — what is built from the fields of each message;
    2. `found_map` — what is found in a map, with the last entry of each name;
    3. `anyUnknown_iff`, `anyUnknown_metadata_iff` — an undefined field is met in
       the message that is built iff it is found in the outline, by induction on
       the levels.
-/

namespace RequestCredentials.Wire

/-! ## What a message keeps -/

/-- The fields of a message; none if the outline is not that of a message. -/
def Outline.fields : Outline → List Outline
  | .message _ fields => fields
  | _ => []

/-- The fields of the messages among these, one message after another. -/
def contents (fields : List Outline) : List Outline := fields.flatMap Outline.fields

def Outline.text? : Outline → Option Text
  | .text s => some s
  | _ => none

/-- The name that the fields of an entry give it, the last one that counts. -/
def nameOf (fields : List Outline) : Text := (fields.filterMap Outline.text?).getLastD []

/-- The field leaves a message of that type in a value as it is, or is merged into it. -/
def Outline.continues (type : MessageType) : Outline → Bool
  | .undefined => true
  | .message type' _ => type' = type
  | _ => false

/-- What a value holds in a message of that type: the fields of the last ones that no other kind
of field follows. -/
def keptRun (type : MessageType) (fields : List Outline) : List Outline :=
  contents (fields.rtakeWhile (Outline.continues type))

/-- A message that another one keeps, with its fields. -/
inductive Kept : MessageType → List Outline → MessageType → List Outline → Prop
  /-- The last entry of its name. -/
  | entry (root : Root) {front back entry : List Outline} {type : MessageType}
    (hlast : ∀ type' entry', .message type' entry' ∈ back → nameOf entry' ≠ nameOf entry) :
    Kept (.map root) (front ++ .message type entry :: back) root.valueType (contents entry)
  | item {fields value : List Outline} {type : MessageType} (hmem : .message type value ∈ fields) :
    Kept .list fields .value value
  | struct (fields : List Outline) :
    Kept .value fields (.map .struct) (keptRun (.map .struct) fields)
  | list (fields : List Outline) : Kept .value fields .list (keptRun .list fields)

/-- An undefined field stands in the message or, if it is a map, in one of its entries. -/
def Marked (type : MessageType) (fields : List Outline) : Prop :=
  .undefined ∈ fields ∨ (∃ root, type = .map root) ∧ .undefined ∈ contents fields

/-- An undefined field stands in the message, or in one that it keeps, in one of so many levels. -/
def Found : (levels : Nat) → MessageType → List Outline → Prop
  | 0, _, _ => False
  | levels + 1, type, fields => Marked type fields ∨
    ∃ type' fields', Kept type fields type' fields' ∧ Found levels type' fields'

/-! ## Maps -/

section
variable {α : Type} {addValue : α → List Outline → α} {empty : α}

/-- Adding fields goes through them one after another. -/
structure Folds (addValue : α → List Outline → α) : Prop where
  nil : ∀ v, addValue v [] = v
  append : ∀ v fields fields', addValue (addValue v fields) fields' = addValue v (fields ++ fields')

theorem folds_foldl (step : α → Outline → α) : Folds fun v fields => fields.foldl step v :=
  ⟨fun _ => rfl, fun _ _ _ => List.foldl_append.symm⟩

theorem foldl_addToEntry (hfolds : Folds addValue) (m : Parsed (Text × α)) (fields : List Outline) :
    (fields.foldl (addToEntry addValue) m).content =
      ((fields.filterMap Outline.text?).getLastD m.content.1,
        addValue m.content.2 (contents fields)) ∧
    ((fields.foldl (addToEntry addValue) m).hasUnknown = true ↔
      m.hasUnknown = true ∨ .undefined ∈ fields) := by
  induction fields generalizing m with
  | nil => simp [contents, hfolds.nil]
  | cons field rest ih =>
    obtain ⟨hcontent, hunknown⟩ := ih (addToEntry addValue m field)
    rw [List.foldl_cons, hcontent, hunknown]
    cases field with
    | undefined => simp [addToEntry, Parsed.marked, Outline.text?, contents, Outline.fields]
    | leaf leaf => simp [addToEntry, Outline.text?, contents, Outline.fields]
    | text s =>
      simp only [List.filterMap_cons, Outline.text?, List.getLastD_cons]
      simp [addToEntry, contents, Outline.fields, Parsed.put]
    | message type fields =>
      simp [addToEntry, Outline.text?, contents, Outline.fields, Parsed.put, hfolds.append]

theorem hasUnknown_addEntry (m : Parsed (List (Text × α))) (entry : Parsed (Text × α)) :
    (addEntry m entry).hasUnknown = true ↔ m.hasUnknown = true ∨ entry.hasUnknown = true := by
  rw [addEntry]
  split
  · next hentry => simp [hentry, Parsed.marked]
  · next hentry => simp [hentry, Parsed.put]

/-- A map is marked by the undefined fields in it and in its entries. -/
theorem hasUnknown_foldl_addToMap (hfolds : Folds addValue) (root : Root)
    (m : Parsed (List (Text × α))) (fields : List Outline) :
    (fields.foldl (addToMap addValue empty) m).hasUnknown = true ↔
      m.hasUnknown = true ∨ Marked (.map root) fields := by
  induction fields generalizing m with
  | nil => simp [Marked, contents]
  | cons field rest ih =>
    rw [List.foldl_cons, ih]
    cases field with
    | undefined => simp [addToMap, Parsed.marked, Marked]
    | leaf leaf => simp [addToMap, Marked, contents, Outline.fields]
    | text s => simp [addToMap, Marked, contents, Outline.fields]
    | message type entry =>
      obtain ⟨-, hentry⟩ := foldl_addToEntry hfolds ⟨([], empty), false⟩ entry
      rw [addToMap, hasUnknown_addEntry, hentry]
      simp [Marked, contents, Outline.fields, or_assoc, or_left_comm]

/-- The entry that a field of a map stands for. -/
def entryOf? (addValue : α → List Outline → α) (empty : α) : Outline → Option (Text × α)
  | .message _ entry => some (nameOf entry, addValue empty (contents entry))
  | _ => none

/-- If its entries are defined throughout, they are added to the map one after another. -/
theorem content_foldl_addToMap (hfolds : Folds addValue) (m : Parsed (List (Text × α)))
    {fields : List Outline} (hdefined : .undefined ∉ contents fields) :
    (fields.foldl (addToMap addValue empty) m).content =
      addEntries m.content (fields.filterMap (entryOf? addValue empty)) := by
  induction fields generalizing m with
  | nil => rfl
  | cons field rest ih =>
    simp only [contents, List.flatMap_cons, List.mem_append, not_or] at hdefined
    rw [List.foldl_cons, ih _ hdefined.2]
    cases field with
    | message type entry =>
      obtain ⟨hcontent, hunknown⟩ := foldl_addToEntry hfolds ⟨([], empty), false⟩ entry
      have hunmarked :
          ¬ (entry.foldl (addToEntry addValue) ⟨([], empty), false⟩).hasUnknown = true :=
        fun h => (hunknown.mp h).elim (nomatch ·) hdefined.1
      rw [addToMap, addEntry, if_neg hunmarked, hcontent]
      rfl
    | _ => rfl

/-- An undefined field is found in a map if the map is marked, or if the field is found in the value
of an entry that is kept. -/
theorem found_map (hfolds : Folds addValue) (root : Root) (levels : Nat) (anyUnknown : α → Bool)
    (h : ∀ fields, anyUnknown (addValue empty fields) = true ↔ Found levels root.valueType fields)
    (fields : List Outline) :
    ((fields.foldl (addToMap addValue empty) ⟨[], false⟩).hasUnknown = true ∨
      ∃ e ∈ (fields.foldl (addToMap addValue empty) ⟨[], false⟩).content, anyUnknown e.2 = true) ↔
      Found (levels + 1) (.map root) fields := by
  rw [hasUnknown_foldl_addToMap hfolds root, Found]
  simp only [Bool.false_eq_true, false_or]
  by_cases hmarked : Marked (.map root) fields
  · simp only [hmarked, true_or]
  have hdefined : .undefined ∉ contents fields := fun hmem => hmarked (.inr ⟨⟨root, rfl⟩, hmem⟩)
  simp only [hmarked, false_or, content_foldl_addToMap hfolds _ hdefined]
  constructor
  · rintro ⟨e, he, hany⟩
    rcases (mem_addEntries_iff .nil).mp he with ⟨he, -⟩ | ⟨front, back, hadded, hlast⟩
    · cases he
    obtain ⟨front', behind, rfl, -, hbehind⟩ := List.filterMap_eq_append_iff.mp hadded
    obtain ⟨skipped, field, back', rfl, -, hfield, rfl⟩ := List.filterMap_eq_cons_iff.mp hbehind
    cases field with
    | message type entry =>
      cases hfield
      rw [h] at hany
      refine ⟨_, _, ?_, hany⟩
      rw [← List.append_assoc]
      refine .entry root fun type' entry' hmem => ?_
      exact hlast _ (List.mem_filterMap.mpr ⟨_, hmem, rfl⟩)
    | _ => cases hfield
  · rintro ⟨type', fields', hkept, hfound⟩
    cases hkept with
    | @entry _ front back entry type hlast =>
      refine ⟨(nameOf entry, addValue empty (contents entry)), ?_, (h _).mpr hfound⟩
      refine (mem_addEntries_iff .nil).mpr (.inr ⟨front.filterMap (entryOf? addValue empty),
        back.filterMap (entryOf? addValue empty), ?_, ?_⟩)
      · rw [List.filterMap_append, List.filterMap_cons]
        rfl
      · intro e' he'
        obtain ⟨field, hmem, hfield⟩ := List.mem_filterMap.mp he'
        cases field with
        | message type' entry' =>
          cases hfield
          exact hlast type' entry' hmem
        | _ => cases hfield

end

/-! ## Values and lists -/

theorem folds_addAllToValue : Folds addAllToValue := by
  rw [funext₂ addAllToValue_eq_foldl]
  exact folds_foldl addToValue

theorem folds_addAllToStruct : Folds addAllToStruct := by
  rw [funext₂ addAllToStruct_eq_foldl]
  exact folds_foldl _

theorem folds_addAllToList : Folds addAllToList := by
  rw [funext₂ addAllToList_eq_foldl]
  exact folds_foldl _

theorem hasUnknown_addAllToValue (m : ValueMessage) (fields : List Outline) :
    (addAllToValue m fields).hasUnknown = true ↔ m.hasUnknown = true ∨ .undefined ∈ fields := by
  induction fields generalizing m with
  | nil => simp [addAllToValue]
  | cons field rest ih =>
    rw [addAllToValue, ih, List.mem_cons]
    cases field with
    | undefined => simp [addToValue, Parsed.marked]
    | message type fields =>
      simp only [reduceCtorEq, false_or]
      unfold addToValue
      split <;> simp_all [Parsed.put]
    | _ => simp [addToValue, Parsed.put]

theorem keptRun_concat (type : MessageType) (fields : List Outline) (field : Outline) :
    keptRun type (fields ++ [field]) =
      if field.continues type then keptRun type fields ++ field.fields else [] := by
  rw [keptRun, List.rtakeWhile_concat]
  split
  · simp [keptRun, contents]
  · rfl

theorem addAllToValue_concat (fields : List Outline) (field : Outline) :
    addAllToValue noValue (fields ++ [field]) =
      addToValue (addAllToValue noValue fields) field := by
  rw [← folds_addAllToValue.append]
  rfl

/-- What a value holds in messages of one type is built from all the fields of the last run of
them. -/
theorem addAllToValue_keptRun {β : Type} {type : MessageType} {view : Kind → Parsed β}
    {add : Parsed β → List Outline → Parsed β} (hfolds : Folds add) {empty : Parsed β}
    (hunset : view .unset = empty)
    (hmessage : ∀ m fields, view (addToValue m (.message type fields)).content =
      add (view m.content) fields)
    (hother : ∀ m field, field.continues type = false →
      view (addToValue m field).content = empty) (fields : List Outline) :
    view (addAllToValue noValue fields).content = add empty (keptRun type fields) := by
  induction fields using List.reverseRecOn with
  | nil => exact hunset.trans (hfolds.nil empty).symm
  | append_singleton fields field ih =>
    rw [addAllToValue_concat, keptRun_concat]
    cases hcontinues : field.continues type with
    | false =>
      rw [hother _ field hcontinues, if_neg Bool.false_ne_true, hfolds.nil]
    | true =>
      rw [if_pos rfl]
      cases field with
      | undefined =>
        rw [show Outline.undefined.fields = [] from rfl, List.append_nil, ← ih]
        rfl
      | message type' fields' =>
        obtain rfl : type' = type := of_decide_eq_true hcontinues
        rw [hmessage, ih, hfolds.append, Outline.fields]
      | _ => cases hcontinues

theorem asStruct_addAllToValue (fields : List Outline) :
    (addAllToValue noValue fields).content.asStruct =
      addAllToStruct ⟨[], false⟩ (keptRun (.map .struct) fields) := by
  apply addAllToValue_keptRun folds_addAllToStruct rfl (fun _ _ => rfl)
  intro m field hother
  unfold addToValue
  split
  case h_2 leaf => cases leaf <;> rfl
  all_goals first | rfl | cases hother

theorem asList_addAllToValue (fields : List Outline) :
    (addAllToValue noValue fields).content.asList =
      addAllToList ⟨[], false⟩ (keptRun .list fields) := by
  apply addAllToValue_keptRun folds_addAllToList rfl (fun _ _ => rfl)
  intro m field hother
  unfold addToValue
  split
  case h_2 leaf => cases leaf <;> rfl
  all_goals first | rfl | cases hother

/-- What a field adds to a list. -/
def itemOf? : Outline → Option ValueMessage
  | .message _ value => some (addAllToValue noValue value)
  | _ => none

theorem addAllToList_eq (m : ListMessage) (fields : List Outline) :
    (addAllToList m fields).content = m.content ++ fields.filterMap itemOf? ∧
      ((addAllToList m fields).hasUnknown = true ↔ m.hasUnknown = true ∨ .undefined ∈ fields) := by
  induction fields generalizing m with
  | nil => simp [addAllToList]
  | cons field rest ih =>
    cases field with
    | undefined => simp [addAllToList, ih, Parsed.marked, List.filterMap_cons, itemOf?]
    | message type value => simp [addAllToList, ih, Parsed.put, itemOf?]
    | _ => simp [addAllToList, ih, List.filterMap_cons, itemOf?]

/-- The value or a message inside it, in one of so many levels, met a field that it does not
define. -/
def ValueMessage.anyUnknown (m : ValueMessage) : (levels : Nat) → Bool
  | 0 => false
  | levels + 1 => m.hasUnknown || m.content.hasUnknown levels

/-- The list or a message inside it, in one of so many levels, met a field that it does not
define. -/
def ListMessage.anyUnknown (m : ListMessage) : (levels : Nat) → Bool
  | 0 => false
  | levels + 1 => m.hasUnknown || Kind.itemsHaveUnknown m.content levels

theorem entriesHaveUnknown_iff {entries : List (Text × ValueMessage)} {levels : Nat} :
    Kind.entriesHaveUnknown entries levels = true ↔
      ∃ e ∈ entries, ValueMessage.anyUnknown e.2 levels = true := by
  cases levels with
  | zero => simp [Kind.entriesHaveUnknown, ValueMessage.anyUnknown]
  | succ levels =>
    induction entries with
    | nil => simp [Kind.entriesHaveUnknown]
    | cons e entries ih =>
      simp [Kind.entriesHaveUnknown, ValueMessage.anyUnknown, ih]

theorem itemsHaveUnknown_iff {items : List ValueMessage} {levels : Nat} :
    Kind.itemsHaveUnknown items levels = true ↔
      ∃ m ∈ items, ValueMessage.anyUnknown m levels = true := by
  cases levels with
  | zero => simp [Kind.itemsHaveUnknown, ValueMessage.anyUnknown]
  | succ levels =>
    induction items with
    | nil => simp [Kind.itemsHaveUnknown]
    | cons m items ih =>
      simp [Kind.itemsHaveUnknown, ValueMessage.anyUnknown, ih]

@[simp] theorem entriesHaveUnknown_nil (levels : Nat) :
    Kind.entriesHaveUnknown [] levels = false := by
  cases levels <;> rfl

@[simp] theorem itemsHaveUnknown_nil (levels : Nat) : Kind.itemsHaveUnknown [] levels = false := by
  cases levels <;> rfl

theorem hasUnknown_kind (kind : Kind) (levels : Nat) :
    kind.hasUnknown levels = (StructMessage.anyUnknown kind.asStruct levels ||
      ListMessage.anyUnknown kind.asList levels) := by
  cases kind <;> cases levels <;>
    simp [Kind.hasUnknown, Kind.asStruct, Kind.asList, StructMessage.anyUnknown,
      ListMessage.anyUnknown]

theorem marked_iff {type : MessageType} (htype : ∀ root, type ≠ .map root)
    {fields : List Outline} : Marked type fields ↔ .undefined ∈ fields := by
  simp [Marked, htype]

/-- What is found in a message that was built is what its outline says, by induction on the
levels. -/
theorem anyUnknown_iff (levels : Nat) :
    (∀ fields, StructMessage.anyUnknown (addAllToStruct ⟨[], false⟩ fields) levels = true ↔
      Found levels (.map .struct) fields) ∧
    (∀ fields, ValueMessage.anyUnknown (addAllToValue noValue fields) levels = true ↔
      Found levels .value fields) ∧
    ∀ fields, ListMessage.anyUnknown (addAllToList ⟨[], false⟩ fields) levels = true ↔
      Found levels .list fields := by
  induction levels with
  | zero =>
    simp [Found, StructMessage.anyUnknown, ValueMessage.anyUnknown, ListMessage.anyUnknown]
  | succ levels ih =>
    obtain ⟨hstruct, hvalue, hlist⟩ := ih
    refine ⟨?_, ?_, ?_⟩
    · intro fields
      have hmap := found_map folds_addAllToValue .struct levels
        (fun m => ValueMessage.anyUnknown m levels) hvalue fields
      rw [← hmap, StructMessage.anyUnknown, Bool.or_eq_true, entriesHaveUnknown_iff,
        addAllToStruct_eq_foldl]
    · intro fields
      rw [ValueMessage.anyUnknown, Bool.or_eq_true, hasUnknown_addAllToValue, hasUnknown_kind,
        Bool.or_eq_true, asStruct_addAllToValue, asList_addAllToValue, hstruct, hlist, Found,
        marked_iff (by simp)]
      simp only [noValue, Bool.false_eq_true, false_or]
      refine or_congr_right ⟨?_, ?_⟩
      · rintro (hfound | hfound)
        · exact ⟨_, _, .struct fields, hfound⟩
        · exact ⟨_, _, .list fields, hfound⟩
      · rintro ⟨_, _, hkept, hfound⟩
        cases hkept with
        | struct => exact .inl hfound
        | list => exact .inr hfound
    · intro fields
      obtain ⟨hcontent, hunknown⟩ := addAllToList_eq ⟨[], false⟩ fields
      rw [ListMessage.anyUnknown, Bool.or_eq_true, hunknown, itemsHaveUnknown_iff, hcontent, Found,
        marked_iff (by simp)]
      simp only [Bool.false_eq_true, false_or, List.nil_append]
      refine or_congr_right ⟨?_, ?_⟩
      · rintro ⟨m, hm, hany⟩
        obtain ⟨field, hmem, hfield⟩ := List.mem_filterMap.mp hm
        cases field with
        | message type value =>
          cases hfield
          exact ⟨_, _, .item hmem, (hvalue value).mp hany⟩
        | _ => cases hfield
      · rintro ⟨_, _, hkept, hfound⟩
        cases hkept with
        | item hmem =>
          exact ⟨_, List.mem_filterMap.mpr ⟨_, hmem, rfl⟩, (hvalue _).mpr hfound⟩

theorem anyUnknown_metadata_iff (levels : Nat) (fields : List Outline) :
    MetadataMessage.anyUnknown (addAllToMetadata ⟨[], false⟩ fields) levels = true ↔
      Found levels (.map .metadata) fields := by
  cases levels with
  | zero => simp [Found, MetadataMessage.anyUnknown]
  | succ levels =>
    have hmap := found_map folds_addAllToStruct .metadata levels
      (fun m => StructMessage.anyUnknown m levels) (anyUnknown_iff levels).1 fields
    rw [← hmap, MetadataMessage.anyUnknown, Bool.or_eq_true, List.any_eq_true]
    rfl

end RequestCredentials.Wire
