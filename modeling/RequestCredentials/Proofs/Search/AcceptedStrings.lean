import RequestCredentials.Proofs.Evaluation.Alike
import Mathlib.Order.Fin.Basic
/-
  The string under accepted keys

  A key is compared with a text by its bytes, and the string of a text is what
  its bytes are read as. Since a text and its bytes determine each other, a key
  is found in a text, or in a list of texts, exactly when it is one of the
  strings that the value carries, and what it selects there is the key itself.
  A struct is searched by name only. There a key may lead to a value without a
  string, and the search goes on with the next key.

  What is proved:
    1. `spells_eq` — a content spells a name when it is read as the name;
    2. `lookupKey_texts` — a key selects the first text that is read as it;
    3. `acceptedString_texts`, `acceptedString_mixed`, `acceptedString_struct` —
       the accepted string of each form of value;
    4. `acceptedString_eq` — the three together: which string a final value
       carries for a credential with keys.
-/

namespace RequestCredentials

/-! ## Comparing by bytes -/

theorem spells_eq {c : Content} {name : Text} (hc : c.Encodable) (hname : name.Encodable) :
    c.spells name = .ok (decide (c.toText? = some name)) := by
  obtain ⟨bytes, hbytes⟩ := toBytes_isOk.mpr hc
  obtain ⟨bytes', hbytes'⟩ := encode_isOk.mpr hname
  have hread : c.toText? = some name ↔ bytes = bytes' := by
    rw [Content.toText_of_toBytes hbytes]
    constructor
    · intro h
      have hdecode : Utf8.decode bytes = .ok name := by
        cases hd : Utf8.decode bytes <;> simp_all [Except.toOption]
      exact Except.ok.inj ((Utf8.decode_eq_ok_iff.mp hdecode).symm.trans hbytes')
    · intro h
      rw [h, Utf8.decode_eq_ok_iff.mpr hbytes']
      rfl
  rw [Content.spells, Content.same, hbytes, Content.toBytes, hbytes']
  simp [bind, Except.bind, pure, Except.pure, hread, beq_eq_decide]

theorem findSpelling_eq {name : Text} (hname : name.Encodable) {contents : List Content}
    (h : ∀ c ∈ contents, c.Encodable) :
    findSpelling name contents = .ok (contents.find? fun c => c.toText? = some name) := by
  induction contents with
  | nil => rfl
  | cons c rest ih =>
    rw [List.forall_mem_cons] at h
    rw [findSpelling, spells_eq h.1 hname, List.find?_cons]
    by_cases hc : c.toText? = some name
    · simp [hc, bind, Except.bind, pure, Except.pure]
    · simpa [hc, bind, Except.bind] using ih h.2

/-! ## Texts and lists of texts -/

/-- The contents of a text, or of a list in which every item is text. -/
def Value.texts? : Value → Option (List Content)
  | .text c => some [c]
  | .list items => Value.allText? items
  | .struct _ => none

section
variable {v : Value} {contents : List Content}

theorem allText_eq_some {items : List Value} :
    Value.allText? items = some contents ↔ items = contents.map Value.text := by
  induction items generalizing contents with
  | nil => cases contents <;> simp [Value.allText?]
  | cons v rest ih =>
    rw [allText_cons]
    cases v with
    | text c =>
      simp only [Value.content?, Option.bind_some, Option.map_eq_some_iff, ih]
      cases contents with
      | nil => simp
      | cons c' contents => simp [and_comm]
    | list _ => cases contents <;> simp [Value.content?]
    | struct _ => cases contents <;> simp [Value.content?]

theorem strings_of_texts (h : v.texts? = some contents) :
    v.strings = contents.filterMap Content.toText? := by
  cases v with
  | text c =>
    cases h
    cases hc : c.toText? <;> simp [Value.strings, hc]
  | list items =>
    obtain rfl := allText_eq_some.mp h
    simp [Value.strings, List.filterMap_map, Function.comp_def, Value.content?]
  | struct _ => cases h

theorem mem_strings_iff (h : v.texts? = some contents) {s : Text} :
    s ∈ v.strings ↔ ∃ c ∈ contents, c.toText? = some s := by
  rw [strings_of_texts h, List.mem_filterMap]

/-- A key selects the first text that is read as it. -/
theorem lookupKey_texts (h : v.texts? = some contents) {key : Text} (hkey : key.Encodable)
    (hcontents : ∀ c ∈ contents, c.Encodable) :
    v.lookupKey key = .ok (foundOr (.key key)
      ((contents.find? fun c => c.toText? = some key).map Value.text)) := by
  cases v with
  | text c =>
    cases h
    rw [Value.lookupKey, spells_eq (hcontents c (List.mem_singleton_self c)) hkey]
    by_cases hc : c.toText? = some key <;> simp [hc, foundOr]
  | list items =>
    have hall : Value.allText? items = some contents := h
    simp only [Value.lookupKey, hall, findSpelling_eq hkey hcontents]
  | struct _ => cases h

theorem acceptedString_texts (h : v.texts? = some contents) {keys : List Text} (hne : keys ≠ [])
    (hkeys : ∀ key ∈ keys, key.Encodable) (hcontents : ∀ c ∈ contents, c.Encodable) :
    acceptedString? keys v = .ok (keys.find? fun key => key ∈ v.strings) := by
  rw [acceptedString?, if_neg hne]
  clear hne
  induction keys with
  | nil => rfl
  | cons key rest ih =>
    rw [List.forall_mem_cons] at hkeys
    rw [keyedString?, lookupKey_texts h hkeys.1 hcontents, List.find?_cons]
    cases hfound : contents.find? fun c => c.toText? = some key with
    | some c =>
      have hc : c.toText? = some key := by simpa using List.find?_some hfound
      have hmem : key ∈ v.strings :=
        (mem_strings_iff h).mpr ⟨c, List.mem_of_find?_eq_some hfound, hc⟩
      -- What was found is the key as a text, so its string is the key.
      have hstrings : (Value.text c).strings = [key] := by rw [Value.strings, hc]; rfl
      simp [foundOr, bind, Except.bind, pure, Except.pure, hstrings, hmem]
    | none =>
      have hmem : key ∉ v.strings := by
        rw [mem_strings_iff h]
        intro hyp
        obtain ⟨c, hc, hread⟩ := hyp
        exact absurd hread (by simpa using List.find?_eq_none.mp hfound c hc)
      simpa [foundOr, bind, Except.bind, hmem] using ih hkeys.2

end

/-! ## Other values -/

theorem acceptedString_mixed {items : List Value} (h : Value.allText? items = none)
    {keys : List Text} (hne : keys ≠ []) : acceptedString? keys (.list items) = .ok none := by
  rw [acceptedString?, if_neg hne]
  clear hne
  induction keys with
  | nil => rfl
  | cons key rest ih => simpa [keyedString?, Value.lookupKey, h, bind, Except.bind] using ih

/-- The text that a value is, or else the first text in the list that it is; contents that are not
UTF-8 are passed over. -/
def Value.firstText? : Value → Option Text
  | .text c => c.toText?
  | .list items => items.findSome? fun item => item.content?.bind Content.toText?
  | .struct _ => none

theorem head_strings (v : Value) : v.strings.head? = v.firstText? := by
  cases v with
  | text c => cases hc : c.toText? <;> simp [Value.strings, Value.firstText?, hc]
  | list items =>
    rw [Value.strings, Value.firstText?, List.filterMap_filterMap, List.head?_filterMap]
  | struct _ => rfl

/-- In a struct the accepted string is the one under the first key whose entry holds any. -/
theorem acceptedString_struct (entries : List (Text × Value)) {keys : List Text} (hne : keys ≠ []) :
    acceptedString? keys (.struct entries) =
      .ok (keys.findSome? fun key => (Value.entry? key entries).bind Value.firstText?) := by
  rw [acceptedString?, if_neg hne]
  clear hne
  induction keys with
  | nil => rfl
  | cons key rest ih =>
    rw [keyedString?, Value.lookupKey, List.findSome?_cons]
    cases Value.entry? key entries with
    | none => simpa [foundOr, bind, Except.bind] using ih
    | some w =>
      rw [Option.bind_some, ← head_strings w]
      cases hw : w.strings with
      | nil => simpa [foundOr, bind, Except.bind, hw] using ih
      | cons s _ => simp [foundOr, bind, Except.bind, pure, Except.pure, hw]

/-- **The accepted string.** Let a credential have keys, and let these and the texts of a final
value have bytes. A text or a list of texts carries the first key that is one of its strings, if
any, so nothing but a key; a list with any other item carries nothing; and a struct carries the
first string under the first key whose first entry is a text that is UTF-8 or a list with such a
text. There is always an answer. -/
theorem acceptedString_eq (keys : List Text) (hne : keys ≠ [])
    (hkeys : ∀ key ∈ keys, key.Encodable) :
    (∀ v contents, v.texts? = some contents → (∀ c ∈ contents, c.Encodable) →
      acceptedString? keys v = .ok (keys.find? fun key => key ∈ v.strings) ∧
        ∀ s, acceptedString? keys v = .ok (some s) → s ∈ keys) ∧
    (∀ items, Value.allText? items = none → acceptedString? keys (.list items) = .ok none) ∧
    ∀ entries, acceptedString? keys (.struct entries) =
      .ok (keys.findSome? fun key => (Value.entry? key entries).bind Value.firstText?) := by
  refine ⟨?_, fun items h => acceptedString_mixed h hne,
    fun entries => acceptedString_struct entries hne⟩
  intro v contents h hcontents
  have hvalue := acceptedString_texts h hne hkeys hcontents
  refine ⟨hvalue, fun s hs => ?_⟩
  rw [hvalue] at hs
  exact List.mem_of_find?_eq_some (Except.ok.inj hs)

/-- A name that leads to a list without a text first, and to a text in its second entry. -/
def tokenEntries : List (Text × Value) :=
  [("aud", .list [.struct [], .text (.bytes [0xFF])]), ("azp", .list [.text (.bytes [0xFF]),
    .text (.bytes [0x61]), .text (.chars "b")]), ("aud", .text (.chars "c"))]

theorem acceptedString_eq_entries :
    acceptedString? ["aud", "azp"] (.list [.text (.chars "x"), .text (.bytes [0x61, 0x7A, 0x70])]) =
      .ok (some "azp") ∧
    acceptedString? ["aud", "azp"] (.list [.text (.chars "azp"), .list []]) = .ok none ∧
    acceptedString? ["aud", "azp"] (.struct tokenEntries) = .ok (some "a") := by
  have hkeys : ∀ key ∈ [("aud" : Text), "azp"], key.Encodable := by
    simp only [List.forall_mem_cons]
    exact ⟨encode_isOk.mp ⟨_, rfl⟩, encode_isOk.mp ⟨_, rfl⟩, by simp⟩
  have hcontents : ∀ c ∈ [Content.chars "x", .bytes [0x61, 0x7A, 0x70]], c.Encodable := by
    simp only [List.forall_mem_cons]
    exact ⟨encode_isOk.mp ⟨_, rfl⟩, trivial, by simp⟩
  obtain ⟨htexts, hmixed, hstruct⟩ := acceptedString_eq ["aud", "azp"] (by decide) hkeys
  exact ⟨(htexts _ _ rfl hcontents).1, hmixed _ rfl, hstruct tokenEntries⟩

end RequestCredentials
