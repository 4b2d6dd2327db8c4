import RequestCredentials.Proofs.Format.Wire.Outline
/-
  Messages are built from their outlines

  Fields are read and merged at once. Here the two are taken apart: a message is
  built from its outline without any further failure. A message that is spread
  over several fields is built from their outlines one after another.

  What is proved:
    1. `mergeFields_eq_outline` — a message is built from its outline if its step
       goes through the outline of the field;
    2. `merge_eq_outline` — so it is with structs, values and lists, by induction
       on the levels that remain;
    3. `readStruct_eq_outline`, `readMetadata_eq_outline` — inputs are read so.
-/

namespace RequestCredentials.Wire

/-! ## Building a message -/

section
variable {α : Type} (addValue : α → List Outline → α) (empty : α)

/-- The entry of a map after one more field; `addValue` adds fields to the entry's value. -/
def addToEntry (m : Parsed (Text × α)) : Outline → Parsed (Text × α)
  | .undefined => m.marked
  | .text name => m.put (name, m.content.2)
  | .message _ fields => m.put (m.content.1, addValue m.content.2 fields)
  | .leaf _ => m

/-- The map after one more field. -/
def addToMap (m : Parsed (List (Text × α))) : Outline → Parsed (List (Text × α))
  | .undefined => m.marked
  | .message _ fields => addEntry m (fields.foldl (addToEntry addValue) ⟨([], empty), false⟩)
  | _ => m

end

mutual

/-- The value after one more field. The only messages in a value are structs and lists. -/
def addToValue (m : ValueMessage) : Outline → ValueMessage
  | .undefined => m.marked
  | .leaf leaf => m.put leaf.kind
  | .text s => m.put (.text s)
  | .message (.map .struct) fields => m.put (.struct (addAllToStruct m.content.asStruct fields))
  | .message .list fields => m.put (.list (addAllToList m.content.asList fields))
  | .message _ _ => m.put .unset

/-- The value after all these fields. -/
def addAllToValue (m : ValueMessage) : List Outline → ValueMessage
  | [] => m
  | field :: rest => addAllToValue (addToValue m field) rest

/-- The list after all these fields. -/
def addAllToList (m : ListMessage) : List Outline → ListMessage
  | [] => m
  | .undefined :: rest => addAllToList m.marked rest
  | .message _ fields :: rest =>
    addAllToList (m.put (m.content ++ [addAllToValue noValue fields])) rest
  | _ :: rest => addAllToList m rest

/-- The struct after all these fields. -/
def addAllToStruct (m : StructMessage) : List Outline → StructMessage
  | [] => m
  | .undefined :: rest => addAllToStruct m.marked rest
  | .message _ fields :: rest =>
    addAllToStruct (addEntry m (addAllToEntry ⟨([], noValue), false⟩ fields)) rest
  | _ :: rest => addAllToStruct m rest

/-- The entry of a struct after all these fields. -/
def addAllToEntry (m : Parsed (Text × ValueMessage)) : List Outline → Parsed (Text × ValueMessage)
  | [] => m
  | .undefined :: rest => addAllToEntry m.marked rest
  | .text name :: rest => addAllToEntry (m.put (name, m.content.2)) rest
  | .message _ fields :: rest =>
    addAllToEntry (m.put (m.content.1, addAllToValue m.content.2 fields)) rest
  | _ :: rest => addAllToEntry m rest

end

/-- The list after one more field. -/
def addToList (m : ListMessage) : Outline → ListMessage
  | .undefined => m.marked
  | .message _ fields => m.put (m.content ++ [addAllToValue noValue fields])
  | _ => m

/-- The metadata after all these fields. -/
def addAllToMetadata (m : MetadataMessage) (fields : List Outline) : MetadataMessage :=
  fields.foldl (addToMap addAllToStruct ⟨[], false⟩) m

theorem addAllToValue_eq_foldl (m : ValueMessage) (fields : List Outline) :
    addAllToValue m fields = fields.foldl addToValue m := by
  induction fields generalizing m with
  | nil => rfl
  | cons field rest ih => exact ih _

theorem addAllToList_eq_foldl (m : ListMessage) (fields : List Outline) :
    addAllToList m fields = fields.foldl addToList m := by
  induction fields generalizing m with
  | nil => rfl
  | cons field rest ih => cases field <;> exact ih _

theorem addAllToEntry_eq_foldl (m : Parsed (Text × ValueMessage)) (fields : List Outline) :
    addAllToEntry m fields = fields.foldl (addToEntry addAllToValue) m := by
  induction fields generalizing m with
  | nil => rfl
  | cons field rest ih => cases field <;> exact ih _

theorem addAllToStruct_eq_foldl (m : StructMessage) (fields : List Outline) :
    addAllToStruct m fields = fields.foldl (addToMap addAllToValue noValue) m := by
  induction fields generalizing m with
  | nil => rfl
  | cons field rest ih =>
    cases field with
    | message type fields =>
      rw [addAllToStruct, addAllToEntry_eq_foldl]
      exact ih _
    | _ => exact ih _

/-! ## Reading is building from the outline -/

theorem inside_map {β γ : Type} {read : Nat → Part → Except Malformed β}
    {read' : Nat → Part → Except Malformed γ} {f : β → γ} {depth : Nat}
    (h : ∀ d < depth, ∀ part, read' d part = (read d part).map f) (part : Part) :
    inside read' depth part = (inside read depth part).map f := by
  cases depth with
  | zero => rfl
  | succ depth => exact h depth (Nat.lt_succ_self depth) part

theorem mergeFields_map {α β : Type} {textNumber : Option Nat} {levels : Nat}
    {step : α → Field → Except Malformed α} {step' : β → Field → Except Malformed β}
    (view : α → β) (h : ∀ m field, step' (view m) field = (step m field).map view) (start : α)
    (part : Part) : mergeFields textNumber levels step' (view start) part =
      (mergeFields textNumber levels step start part).map view := by
  simp only [mergeFields, foldlM_map h, map_bind]
  cases (fields levels part).1.foldlM step start with
  | error e => rfl
  | ok m =>
    cases (fields levels part).2 with
    | complete => rfl
    | malformed => rfl
    | overrun number bytes =>
      simp only [bind, Except.bind]
      split
      · cases readText bytes <;> rfl
      · rfl

section
variable {α : Type} {inner : MessageType → Part → Except Malformed (List Outline)} {levels : Nat}
  {root : Root}

/-- A message whose step goes through the outline of the field is built from its outline. -/
theorem mergeFields_eq_outline (type : MessageType) {step : α → Field → Except Malformed α}
    {add : α → Outline → α}
    (h : ∀ m field, step m field = (outlineField inner type field).map (add m)) (start : α)
    (part : Part) : mergeFields type.textNumber levels step start part =
      (outlineWith inner levels type part).map (List.foldl add start) := by
  apply mergeFields_map (List.foldl add start) _ []
  intro read field
  rw [h]
  cases outlineField inner type field with
  | error e => rfl
  | ok o => simp [Except.map]

theorem entryStep_eq_outline {mergeValue : α → Part → Except Malformed α}
    {addValue : α → List Outline → α}
    (h : ∀ v part, mergeValue v part = (inner root.valueType part).map (addValue v))
    (m : Parsed (Text × α)) (field : Field) :
    entryStep mergeValue m field =
      (outlineField inner (.entry root) field).map (addToEntry addValue m) := by
  rw [entryStep.eq_def]
  split
  · next name =>
    rw [outlineField]
    cases readText name.bytes <;> rfl
  · next value =>
    rw [outlineField, h]
    cases inner root.valueType value <;> rfl
  · next hname hvalue =>
    rw [outlineField]
    · rfl
    all_goals simp_all

end

/-- Merges one field into a map; `readEntry` reads an entry. -/
def mapStep {α : Type} (readEntry : Part → Except Malformed (Parsed (Text × α)))
    (m : Parsed (List (Text × α))) : Field → Except Malformed (Parsed (List (Text × α)))
  | ⟨1, .delimited entry⟩ => do
    let entry ← readEntry entry
    return addEntry m entry
  | _ => return m.marked

/-- Merges the fields of a map, inside which `depth` levels remain. -/
def mergeMap {α : Type} (mergeValue : Nat → α → Part → Except Malformed α) (empty : α) (depth : Nat)
    (start : Parsed (List (Text × α))) (part : Part) :
    Except Malformed (Parsed (List (Text × α))) :=
  mergeFields none depth (mapStep (inside (fun depth =>
    mergeFields (some entryName) depth (entryStep fun value => inside (mergeValue · value) depth)
      ⟨([], empty), false⟩) depth)) start part

theorem mergeStruct_eq_mergeMap (depth : Nat) (start : StructMessage) (part : Part) :
    mergeStruct depth start part = mergeMap mergeValue noValue depth start part := by
  rcases depth with _ | _ | depth <;> rfl

theorem mergeMetadata_eq_mergeMap (depth : Nat) (start : MetadataMessage) (part : Part) :
    mergeMetadata depth start part = mergeMap mergeStruct ⟨[], false⟩ depth start part := by
  rcases depth with _ | _ | depth <;> rfl

/-- Maps are built from their outlines, if the messages of their entries are. -/
theorem mergeMap_eq_outline {α : Type} {root : Root} {depth : Nat}
    {mergeValue : Nat → α → Part → Except Malformed α} {addValue : α → List Outline → α} {empty : α}
    (h : ∀ d < depth, ∀ v part,
      mergeValue d v part = (outline d root.valueType part).map (addValue v))
    (start : Parsed (List (Text × α))) (part : Part) :
    mergeMap mergeValue empty depth start part =
      (outline depth (.map root) part).map (List.foldl (addToMap addValue empty) start) := by
  rw [outline_eq]
  apply mergeFields_eq_outline (.map root)
  intro m field
  rw [mapStep.eq_def]
  split
  · next entry =>
    have hentry : ∀ d < depth, ∀ part, mergeFields (some entryName) d
        (entryStep fun value => inside (mergeValue · value) d) ⟨([], empty), false⟩ part =
        (outline d (.entry root) part).map
          (List.foldl (addToEntry addValue) ⟨([], empty), false⟩) := by
      intro d hd part
      rw [outline_eq]
      apply mergeFields_eq_outline (.entry root)
      apply entryStep_eq_outline
      intro v part
      exact inside_map (fun d' hd' part => h d' (Nat.lt_trans hd' hd) v part) part
    rw [outlineField, inside_map hentry]
    cases inside (outline · (.entry root)) depth entry <;> rfl
  · next hentry =>
    rw [outlineField]
    · rfl
    all_goals simp_all

theorem mergeValue_eq_outline {depth : Nat}
    (hstruct : ∀ d < depth, ∀ m part,
      mergeStruct d m part = (outline d (.map .struct) part).map (addAllToStruct m))
    (hlist : ∀ d < depth, ∀ m part,
      mergeList d m part = (outline d .list part).map (addAllToList m))
    (start : ValueMessage) (part : Part) :
    mergeValue depth start part = (outline depth .value part).map (addAllToValue start) := by
  rw [mergeValue.eq_def, outline_eq, funext (addAllToValue_eq_foldl start)]
  apply mergeFields_eq_outline .value
  intro m field
  split
  · rfl
  · rfl
  · next text =>
    rw [outlineField]
    cases readText text.bytes <;> rfl
  · rfl
  · next struct =>
    rw [outlineField]
    cases depth with
    | zero => rfl
    | succ depth =>
      simp only [inside]
      rw [hstruct depth (Nat.lt_succ_self depth)]
      cases outline depth (.map .struct) struct <;> rfl
  · next list =>
    rw [outlineField]
    cases depth with
    | zero => rfl
    | succ depth =>
      simp only [inside]
      rw [hlist depth (Nat.lt_succ_self depth)]
      cases outline depth .list list <;> rfl
  · rw [outlineField]
    · rfl
    all_goals simp_all

theorem mergeList_eq_outline {depth : Nat}
    (hvalue : ∀ d < depth, ∀ m part,
      mergeValue d m part = (outline d .value part).map (addAllToValue m))
    (start : ListMessage) (part : Part) :
    mergeList depth start part = (outline depth .list part).map (addAllToList start) := by
  rw [mergeList.eq_def, outline_eq, funext (addAllToList_eq_foldl start)]
  apply mergeFields_eq_outline .list
  intro m field
  split
  · next value =>
    rw [outlineField]
    cases depth with
    | zero => rfl
    | succ depth =>
      simp only [inside]
      rw [hvalue depth (Nat.lt_succ_self depth)]
      cases outline depth .value value <;> rfl
  · rw [outlineField]
    · rfl
    all_goals simp_all

/-- Structs, values and lists are built from their outlines, by induction on the levels that
remain. -/
theorem merge_eq_outline (depth : Nat) :
    (∀ start part, mergeStruct depth start part =
      (outline depth (.map .struct) part).map (addAllToStruct start)) ∧
    (∀ start part, mergeValue depth start part =
      (outline depth .value part).map (addAllToValue start)) ∧
    ∀ start part, mergeList depth start part =
      (outline depth .list part).map (addAllToList start) := by
  induction depth using Nat.strongRecOn with
  | ind depth ih =>
    refine ⟨?_, ?_, ?_⟩
    · intro start part
      rw [mergeStruct_eq_mergeMap, funext (addAllToStruct_eq_foldl start)]
      exact mergeMap_eq_outline (fun d hd => (ih d hd).2.1) start part
    · exact mergeValue_eq_outline (fun d hd => (ih d hd).1) fun d hd => (ih d hd).2.2
    · exact mergeList_eq_outline fun d hd => (ih d hd).2.1

theorem readStruct_eq_outline (input : Bytes) :
    readStruct input =
      (outline depthLimit (.map .struct) ⟨input, []⟩).map (addAllToStruct ⟨[], false⟩) :=
  (merge_eq_outline depthLimit).1 ⟨[], false⟩ ⟨input, []⟩

theorem readMetadata_eq_outline (input : Bytes) :
    readMetadata input =
      (outline depthLimit (.map .metadata) ⟨input, []⟩).map (addAllToMetadata ⟨[], false⟩) := by
  rw [readMetadata, mergeMetadata_eq_mergeMap]
  exact mergeMap_eq_outline (fun d _ => (merge_eq_outline d).1) ⟨[], false⟩ ⟨input, []⟩

end RequestCredentials.Wire
