import RequestCredentials.Format.Wire.Decode
import RequestCredentials.Proofs.Except
/-
  Outlines of messages

  An outline lists what the fields of a message are, the fields of the messages
  inside it included, in the order on the wire and with nothing merged. Bytes
  have an outline if they can be read at all: the tags, lengths, texts and
  groups are well formed, and there are levels enough. Fields that a message
  does not define are part of its outline.

  What is proved:
    1. `fields_alike` — the fields of a message that is read up to its end do not
       depend on what follows it, and more levels change nothing;
    2. `outline_mono` — nor does its outline, by induction on the levels.
-/

namespace RequestCredentials.Wire

/-! ## Reading an outline -/

/-- The messages of the schema. A root is a map, with an entry for each name. -/
inductive MessageType where
  | map (root : Root)
  | entry (root : Root)
  | value
  | list
  deriving DecidableEq

/-- The messages that the entries of a root hold. -/
def Root.valueType : Root → MessageType
  | struct => .value
  | metadata => .map .struct

/-- The number of the text field in a message. -/
def MessageType.textNumber : MessageType → Option Nat
  | entry _ => some entryName
  | value => some valueText
  | _ => none

/-- What a value holds that is neither a text nor a message. -/
inductive Leaf where
  | null
  | number (x : Binary64)
  | bool (b : Bool)

def Leaf.kind : Leaf → Kind
  | null => .null
  | number x => .number x
  | bool b => .bool b

/-- What a field is to the message it stands in. -/
inductive Outline where
  /-- A field that the message does not define, in number or in form. -/
  | undefined
  | leaf (leaf : Leaf)
  | text (s : Text)
  /-- A message with its fields in the order on the wire. -/
  | message (type : MessageType) (fields : List Outline)

/-- The outline of one field; `inner` reads the messages inside. -/
def outlineField (inner : MessageType → Part → Except Malformed (List Outline)) :
    MessageType → Field → Except Malformed Outline
  | .map root, ⟨1, .delimited entry⟩ => (inner (.entry root) entry).map (.message (.entry root))
  | .entry _, ⟨1, .delimited name⟩ => (readText name.bytes).map .text
  | .entry root, ⟨2, .delimited value⟩ =>
    (inner root.valueType value).map (.message root.valueType)
  | .value, ⟨1, .varint _⟩ => .ok (.leaf .null)
  | .value, ⟨2, .fixed64 bits⟩ => .ok (.leaf (.number (Binary64.ofBits bits)))
  | .value, ⟨3, .delimited text⟩ => (readText text.bytes).map .text
  | .value, ⟨4, .varint n⟩ => .ok (.leaf (.bool (n != 0)))
  | .value, ⟨5, .delimited struct⟩ =>
    (inner (.map .struct) struct).map (.message (.map .struct))
  | .value, ⟨6, .delimited list⟩ => (inner .list list).map (.message .list)
  | .list, ⟨1, .delimited value⟩ => (inner .value value).map (.message .value)
  | _, _ => .ok .undefined

/-- The outlines of the fields of a message, inside which `levels` levels remain. -/
def outlineWith (inner : MessageType → Part → Except Malformed (List Outline)) (levels : Nat)
    (type : MessageType) (part : Part) : Except Malformed (List Outline) :=
  mergeFields type.textNumber levels
    (fun read field => (outlineField inner type field).map (read ++ [·])) [] part

/-- The outlines of the fields of a message, inside which `depth` levels remain, those of the
messages inside it included. -/
def outline : (depth : Nat) → MessageType → Part → Except Malformed (List Outline)
  | 0, type, part => outlineWith (fun _ _ => .error .tooDeep) 0 type part
  | depth + 1, type, part => outlineWith (outline depth) (depth + 1) type part

/-- Reads a message that stands inside one in which `depth` levels remain. -/
def inside {β : Type} (read : Nat → Part → Except Malformed β) :
    (depth : Nat) → Part → Except Malformed β
  | 0, _ => .error .tooDeep
  | depth + 1, part => read depth part

theorem outline_eq (depth : Nat) (type : MessageType) (part : Part) :
    outline depth type part =
      outlineWith (fun type => inside (outline · type) depth) depth type part := by
  cases depth <;> rfl

/-! ## Fields with more levels -/

/-- The same field, whatever follows it in the input. -/
inductive Field.Alike : Field → Field → Prop
  | same (field : Field) : Alike field field
  | delimited (number : Nat) (bytes : Bytes) (after after' : List Bytes) :
    Alike ⟨number, .delimited ⟨bytes, after⟩⟩ ⟨number, .delimited ⟨bytes, after'⟩⟩

section
variable {levels levels' : Nat} {bytes : Bytes} {after : List Bytes} (after' : List Bytes)

theorem groupExtent?_mono (hlevels : levels ≤ levels') {openGroups : List Nat} {skip extent : Nat}
    (h : groupExtent? levels openGroups skip bytes = some extent) :
    groupExtent? levels' openGroups skip bytes = some extent := by
  fun_induction groupExtent? levels openGroups skip bytes generalizing extent <;>
    simp only [groupExtent?, Option.map_eq_some_iff, reduceCtorEq] at h ⊢
  case case2 ih =>
    obtain ⟨n, hn, rfl⟩ := h
    exact ⟨n, ih hn, rfl⟩
  case case4 hopen htag ih =>
    obtain ⟨n, hn, rfl⟩ := h
    simp only [htag, if_true, if_pos (Nat.lt_of_lt_of_le hopen hlevels), ih hn, Option.map_some]
  case case8 hnumber htag hform =>
    simp only [htag, if_neg hform, if_neg hnumber, if_true, h]
  case case9 hnumber houter htag hform ih =>
    obtain ⟨n, hn, rfl⟩ := h
    simp only [htag, if_neg hform, if_neg hnumber, if_neg houter, if_true, ih hn, Option.map_some]
  case case11 htag hstart hend _ _ hpayload ih =>
    obtain ⟨n, hn, rfl⟩ := h
    simp only [htag, if_neg hstart, if_neg hend, hpayload, ih hn, Option.map_some]

theorem payload?_alike {form size : Nat} {payload : Payload}
    (h : payload? form ⟨bytes, after⟩ = some (payload, size)) :
    ∃ payload', payload? form ⟨bytes, after'⟩ = some (payload', size) ∧
      ∀ number, Field.Alike ⟨number, payload⟩ ⟨number, payload'⟩ := by
  unfold payload? at h ⊢
  split at h
  · exact ⟨payload, h, fun number => .same _⟩
  · exact ⟨payload, h, fun number => .same _⟩
  · obtain ⟨⟨length, extent⟩, hlength, h⟩ := Option.bind_eq_some_iff.mp h
    dsimp only at h
    split at h
    · next hbound =>
      cases h
      refine ⟨_, Option.bind_eq_some_iff.mpr ⟨_, hlength, if_pos hbound⟩, ?_⟩
      exact fun number => .delimited number _ _ _
    · cases h
  · exact ⟨payload, h, fun number => .same _⟩
  · cases h

/-- A field that is read with some levels is read with more, whatever follows its message. -/
theorem field?_alike (hlevels : levels ≤ levels') {field : Field} {size : Nat}
    (h : field? levels ⟨bytes, after⟩ = some (field, size)) :
    ∃ field', field? levels' ⟨bytes, after'⟩ = some (field', size) ∧ field.Alike field' := by
  unfold field? at h ⊢
  dsimp only at h ⊢
  split at h
  · cases h
  next number form extent htag =>
  split at h
  · cases h
  next hnumber =>
  split at h
  · next hgroup =>
    split at h
    · cases h
    next hpositive =>
    obtain ⟨n, hn, heq⟩ := Option.map_eq_some_iff.mp h
    cases heq
    have hpositive' : ¬ levels' = 0 := by omega
    refine ⟨_, ?_, .same _⟩
    simp only [if_neg hnumber, if_pos hgroup, if_neg hpositive',
      groupExtent?_mono hlevels hn, Option.map_some]
  · next hgroup =>
    obtain ⟨⟨payload, n⟩, hpayload, heq⟩ := Option.map_eq_some_iff.mp h
    cases heq
    obtain ⟨payload', hpayload', halike⟩ := payload?_alike after' hpayload
    refine ⟨_, ?_, halike number⟩
    simp only [if_neg hnumber, if_neg hgroup, hpayload', Option.map_some]

end

/-- A scan that reaches the end goes through like items if each of its steps does. -/
theorem scanFrom_alike {σ α ε : Type} {step step' : σ → List σ → Step α ε} {R : α → α → Prop}
    (h : ∀ first rest a extra, step first rest = .item a extra →
      ∃ a', step' first rest = .item a' extra ∧ R a a')
    (skip pos : Nat) (s : List σ) (hend : (scanFrom step skip pos s).stopped = none) :
    (scanFrom step' skip pos s).stopped = none ∧
      List.Forall₂ R (scanFrom step skip pos s).items (scanFrom step' skip pos s).items := by
  induction s generalizing skip pos with
  | nil => cases skip <;> exact ⟨rfl, .nil⟩
  | cons first rest ih =>
    cases skip with
    | succ skip => exact ih skip (pos + 1) hend
    | zero =>
      cases hstep : step first rest with
      | stop reason => simp [scanFrom, hstep] at hend
      | item a extra =>
        obtain ⟨a', hstep', ha⟩ := h first rest a extra hstep
        simp only [scanFrom, hstep, hstep'] at hend ⊢
        obtain ⟨hstopped, hitems⟩ := ih extra (pos + 1) hend
        exact ⟨hstopped, .cons ha hitems⟩

theorem stop_of_scanFrom {σ α ε : Type} {step : σ → List σ → Step α ε} {skip pos stop : Nat}
    {s : List σ} {reason : ε} (h : (scanFrom step skip pos s).stopped = some (stop, reason)) :
    ∃ first rest, step first rest = .stop reason := by
  induction s generalizing skip pos with
  | nil => cases skip <;> cases h
  | cons first rest ih =>
    cases skip with
    | succ skip => exact ih h
    | zero =>
      cases hstep : step first rest with
      | item a extra =>
        simp only [scanFrom, hstep] at h
        exact ih h
      | stop reason' =>
        simp only [scanFrom, hstep, Option.some.injEq, Prod.mk.injEq] at h
        exact ⟨first, rest, h.2 ▸ hstep⟩

theorem brokenEnding_ne_complete (levels : Nat) (part : Part) :
    brokenEnding levels part ≠ .complete := by
  unfold brokenEnding
  split <;> simp

theorem fields_alike {levels levels' : Nat} (hlevels : levels ≤ levels') {bytes : Bytes}
    {after : List Bytes} (after' : List Bytes) {read : List Field}
    (h : fields levels ⟨bytes, after⟩ = (read, .complete)) :
    ∃ read', fields levels' ⟨bytes, after'⟩ = (read', .complete) ∧
      List.Forall₂ Field.Alike read read' := by
  have hend : (scan (fieldStep levels after) bytes).stopped = none := by
    cases hstopped : (scan (fieldStep levels after) bytes).stopped with
    | none => rfl
    | some stop =>
      -- No step stops a message as if it were complete.
      obtain ⟨first, rest, hstep⟩ := stop_of_scanFrom hstopped
      rw [fields, hstopped] at h
      obtain ⟨-, hending⟩ := Prod.mk.inj h
      unfold fieldStep at hstep
      split at hstep
      · cases hstep
      · exact absurd ((Step.stop.inj hstep).trans hending) (brokenEnding_ne_complete _ _)
  have hstep : ∀ b rest field extra, fieldStep levels after b rest = .item field extra →
      ∃ field', fieldStep levels' after' b rest = .item field' extra ∧ field.Alike field' := by
    intro b rest field extra hitem
    unfold fieldStep at hitem ⊢
    split at hitem
    · next size hfield =>
      cases hitem
      obtain ⟨field', hfield', halike⟩ := field?_alike after' hlevels hfield
      rw [hfield']
      exact ⟨field', rfl, halike⟩
    · cases hitem
  obtain ⟨hstopped, hitems⟩ := scanFrom_alike hstep 0 0 bytes hend
  simp only [fields, Prod.mk.injEq] at h ⊢
  obtain ⟨rfl, -⟩ := h
  refine ⟨_, ⟨rfl, ?_⟩, hitems⟩
  simp only [scan, hstopped]

/-! ## Outlines with more levels -/

theorem outlineField_mono {inner inner' : MessageType → Part → Except Malformed (List Outline)}
    (hinner : ∀ type bytes after after' fs, inner type ⟨bytes, after⟩ = .ok fs →
      inner' type ⟨bytes, after'⟩ = .ok fs) {type : MessageType} {field field' : Field}
    {o : Outline} (hfield : field.Alike field') (h : outlineField inner type field = .ok o) :
    outlineField inner' type field' = .ok o := by
  have hmap : ∀ {f : List Outline → Outline} {type bytes after after'},
      (inner type ⟨bytes, after⟩).map f = .ok o → (inner' type ⟨bytes, after'⟩).map f = .ok o := by
    intro f type bytes after after' h
    cases hread : inner type ⟨bytes, after⟩ with
    | error e => simp [hread, Except.map] at h
    | ok fs =>
      rw [hread] at h
      rw [hinner type bytes after after' fs hread]
      exact h
  cases hfield with
  | same =>
    unfold outlineField at h ⊢
    split at h <;> first | exact h | exact hmap h
  | delimited number bytes after after' =>
    rw [outlineField.eq_def] at h
    split at h
    case h_11 =>
      -- The message does not define the field, whatever the bytes behind it are.
      rw [outlineField]
      · exact h
      all_goals simp_all
    all_goals
      cases ‹Field.mk _ _ = Field.mk _ _› <;>
        (rw [outlineField]; first | exact h | exact hmap h)

theorem mergeFields_eq_ok {α : Type} {textNumber : Option Nat} {levels : Nat}
    {step : α → Field → Except Malformed α} {start m : α} {part : Part} :
    mergeFields textNumber levels step start part = .ok m ↔
      ∃ read, fields levels part = (read, .complete) ∧ read.foldlM step start = .ok m := by
  cases hfields : fields levels part with
  | mk read ending =>
    simp only [mergeFields, hfields, bind_eq_ok, Prod.mk.injEq]
    constructor
    · intro h
      obtain ⟨m', hm', hend⟩ := h
      cases ending with
      | complete =>
        cases hend
        exact ⟨read, ⟨rfl, rfl⟩, hm'⟩
      | malformed => cases hend
      | overrun number bytes =>
        dsimp only at hend
        split at hend
        · obtain ⟨_, _, hend⟩ := bind_eq_ok.mp hend
          cases hend
        · cases hend
    · intro h
      obtain ⟨_, ⟨rfl, rfl⟩, hm⟩ := h
      exact ⟨m, hm, rfl⟩

theorem outlineWith_mono {inner inner' : MessageType → Part → Except Malformed (List Outline)}
    (hinner : ∀ type bytes after after' fs, inner type ⟨bytes, after⟩ = .ok fs →
      inner' type ⟨bytes, after'⟩ = .ok fs) {levels levels' : Nat} (hlevels : levels ≤ levels')
    {type : MessageType} {bytes : Bytes} {after after' : List Bytes} {fs : List Outline}
    (h : outlineWith inner levels type ⟨bytes, after⟩ = .ok fs) :
    outlineWith inner' levels' type ⟨bytes, after'⟩ = .ok fs := by
  obtain ⟨read, hread, hfold⟩ := mergeFields_eq_ok.mp h
  obtain ⟨read', hread', halike⟩ := fields_alike hlevels after' hread
  refine mergeFields_eq_ok.mpr ⟨read', hread', foldlM_alike ?_ halike hfold⟩
  intro s field field' s' hfield hstep
  cases ho : outlineField inner type field with
  | error e =>
    rw [ho] at hstep
    cases hstep
  | ok o =>
    rw [ho] at hstep
    rw [outlineField_mono hinner hfield ho]
    exact hstep

/-- A message that is read with some levels inside it is read alike with more, whatever follows it
in the input. -/
theorem outline_mono {depth depth' : Nat} (hdepth : depth ≤ depth') {type : MessageType}
    {bytes : Bytes} {after : List Bytes} (after' : List Bytes) {fs : List Outline}
    (h : outline depth type ⟨bytes, after⟩ = .ok fs) :
    outline depth' type ⟨bytes, after'⟩ = .ok fs := by
  induction depth generalizing depth' type bytes after after' fs with
  | zero =>
    rw [outline_eq] at h ⊢
    exact outlineWith_mono (fun _ _ _ _ _ h => by cases h) hdepth h
  | succ depth ih =>
    obtain ⟨depth', rfl⟩ : ∃ d, depth' = d + 1 := ⟨depth' - 1, by omega⟩
    have hinner : ∀ type bytes after after' fs, outline depth type ⟨bytes, after⟩ = .ok fs →
        outline depth' type ⟨bytes, after'⟩ = .ok fs :=
      fun _ _ _ after' _ h => ih (Nat.le_of_succ_le_succ hdepth) after' h
    exact outlineWith_mono hinner hdepth h

end RequestCredentials.Wire
