import RequestCredentials.Request.Http
import RequestCredentials.Proofs.Except
import RequestCredentials.Proofs.Text.LowerCase
import Mathlib.Data.List.Induction
/-
  Header names — which fields a header's value comes from

  The case of a header name is ignored twice. Fields become one header where
  their names differ in the case of ASCII letters; then headers are filed under
  their names in lower case, and of two that are filed in one place the last
  stays. The second reading of case is the wider one: a name with a Kelvin sign
  for a k is filed with those that have the letter.

  What is proved:
    1. `asciiLower_eq_iff` — the first reading is the second one without Kelvin
       signs;
    2. `Exchange.header_eq_some_iff` — a lookup finds the last of the headers
       whose names pass for the name;
    3. `Exchange.header_eq_namedValue_of_no_k` — names in which a Kelvin sign can
       stand for nothing;
    4. `header_named_iff` — when that is the value of the fields of the name.
       `header_displaced_kelvin` is a request where it is the value of another.
-/

namespace RequestCredentials

/-! ## Names in bytes -/

/-- The bytes of an ASCII text. -/
def asciiBytes (t : Text) : Bytes := t.map fun c => UInt8.ofNat c.val

section
variable {t name : Text} {bytes : Bytes}

theorem decodeStepEscaping_ascii {b : UInt8} (hb : b.toNat < 0x80) (rest : Bytes) :
    Utf8.decodeStepEscaping b rest = .item (CodePoint.ofNat b.toNat) 0 := by
  have hlt : b < 0x80 := UInt8.lt_iff_toNat_lt.mpr hb
  rw [Utf8.decodeStepEscaping, Utf8.decodeStep, if_pos hlt]

theorem ascii_of_decodeStepEscaping {b : UInt8} {rest : Bytes} {c : CodePoint} {extra : Nat}
    (h : Utf8.decodeStepEscaping b rest = .item c extra) (hc : c.val < 0x80) : b.toNat < 0x80 := by
  rw [Utf8.decodeStepEscaping] at h
  split at h
  · next hstep =>
    cases h
    obtain ⟨front, -, -, -, -, hencode⟩ := Utf8.encodePoint_of_decodeStep hstep
    rw [Utf8.encodePoint, if_pos hc] at hencode
    obtain ⟨rfl, -⟩ := List.cons.inj hencode
    rwa [Utf8.toNat_ofNat (by omega)]
  · cases h
    have hb := b.toNat_lt
    rw [Utf8.val_ofNat (by omega)] at hc
    omega

/-- Bytes are read as an ASCII text exactly when they are its bytes. -/
theorem decodeEscaping_eq_iff (h : t.AllAscii) :
    Utf8.decodeEscaping bytes = t ↔ bytes = asciiBytes t := by
  suffices hscan : ∀ pos, (scanFrom Utf8.decodeStepEscaping 0 pos bytes).items = t ↔
      bytes = asciiBytes t from hscan 0
  intro pos
  induction bytes generalizing t pos with
  | nil =>
    rw [eq_comm, eq_comm (a := []), asciiBytes, List.map_eq_nil_iff]
    rfl
  | cons b bytes ih =>
    rw [scanFrom]
    by_cases hb : b.toNat < 0x80
    · have hc : (CodePoint.ofNat b.toNat).val = b.toNat := Utf8.val_ofNat (by omega)
      rw [decodeStepEscaping_ascii hb]
      cases t with
      | nil => simp [asciiBytes]
      | cons c t =>
        have hrest := ih (fun d hd => h d (List.mem_cons_of_mem c hd)) (pos + 1)
        have hpoint : CodePoint.ofNat b.toNat = c ↔ b = UInt8.ofNat c.val := by
          rw [Fin.ext_iff, hc, ← UInt8.toNat_inj,
            Utf8.toNat_ofNat (by have := h c List.mem_cons_self; omega)]
        simp only [asciiBytes, List.map_cons, List.cons.injEq]
        rw [hrest, hpoint, asciiBytes]
    · -- What is read from another byte is not in ASCII, and such a byte is none of those of `t`.
      constructor
      · intro hitems
        cases hstep : Utf8.decodeStepEscaping b bytes with
        | stop reason => exact reason.elim
        | item c extra =>
          rw [hstep] at hitems
          subst hitems
          exact absurd (ascii_of_decodeStepEscaping hstep (h c List.mem_cons_self)) hb
      · intro hbytes
        have hmem : b ∈ asciiBytes t := hbytes ▸ List.mem_cons_self
        obtain ⟨c, hc, rfl⟩ := List.mem_map.mp hmem
        have hbound := h c hc
        rw [Utf8.toNat_ofNat (by omega)] at hb
        omega

theorem asciiBytes_injective (ht : t.AllAscii) (hname : name.AllAscii)
    (h : asciiBytes t = asciiBytes name) : t = name := by
  rw [← (decodeEscaping_eq_iff ht).mpr rfl, (decodeEscaping_eq_iff hname).mpr h]

theorem asciiLower_asciiBytes (h : t.AllAscii) :
    asciiLower (asciiBytes t) = asciiBytes (t.map CodePoint.asciiLower) := by
  rw [asciiLower, asciiBytes, asciiBytes, List.map_map, List.map_map]
  refine List.map_congr_left fun c hc => ?_
  have hbound := h c hc
  have hval : (UInt8.ofNat c.val).toNat = c.val := Utf8.toNat_ofNat (by omega)
  simp only [Function.comp_apply, UInt8.le_iff_toNat_le, hval, UInt8.reduceToNat,
    CodePoint.asciiLower]
  split
  · rw [Utf8.val_ofNat (by omega), UInt8.ofNat_add]
    rfl
  · rfl

theorem exists_asciiBytes (h : ∀ b ∈ bytes, b.toNat < 0x80) :
    ∃ t : Text, t.AllAscii ∧ bytes = asciiBytes t := by
  have hval : ∀ b ∈ bytes, (CodePoint.ofNat b.toNat).val = b.toNat := by
    intro b hb
    exact Utf8.val_ofNat (by have := h b hb; omega)
  refine ⟨bytes.map fun b => CodePoint.ofNat b.toNat, ?_, ?_⟩
  · intro c hc
    obtain ⟨b, hb, rfl⟩ := List.mem_map.mp hc
    rw [hval b hb]
    exact h b hb
  · have hback : ∀ b ∈ bytes, UInt8.ofNat (CodePoint.ofNat b.toNat).val = b := by
      intro b hb
      rw [hval b hb, UInt8.ofNat_toNat]
    rw [asciiBytes, List.map_map]
    exact ((List.map_congr_left hback).trans (List.map_id' bytes)).symm

theorem toNat_of_asciiLower {b : UInt8}
    (h : (if 0x41 ≤ b ∧ b ≤ 0x5A then b + 0x20 else b).toNat < 0x80) : b.toNat < 0x80 := by
  split at h
  · next hcapital =>
    have := UInt8.le_iff_toNat_le.mp hcapital.2
    simp only [UInt8.reduceToNat] at this
    omega
  · exact h

theorem exists_of_asciiLower (h : t.AllAscii) (hbytes : asciiLower bytes = asciiBytes t) :
    ∃ u : Text, u.AllAscii ∧ bytes = asciiBytes u := by
  refine exists_asciiBytes fun b hb => toNat_of_asciiLower ?_
  have hmem : _ ∈ asciiLower bytes := List.mem_map_of_mem hb
  rw [hbytes] at hmem
  obtain ⟨d, hd, hval⟩ := List.mem_map.mp hmem
  have hbound := h d hd
  rw [← hval, Utf8.toNat_ofNat (by omega)]
  exact hbound

/-- A header has the name, ASCII letters in either case, exactly when its own name is read as one
that passes for it without a Kelvin sign. -/
theorem asciiLower_eq_iff (h : name.AllAscii) :
    asciiLower bytes = asciiLower (asciiBytes name) ↔
      (Utf8.decodeEscaping bytes).PassesFor name ∧
        CodePoint.kelvinSign ∉ Utf8.decodeEscaping bytes := by
  rw [asciiLower_asciiBytes h]
  constructor
  · intro hbytes
    obtain ⟨t, ht, rfl⟩ := exists_of_asciiLower h.asciiLower hbytes
    rw [asciiLower_asciiBytes ht] at hbytes
    have hkelvin : CodePoint.kelvinSign ∉ t := fun hmem => absurd (ht _ hmem) (by decide)
    rw [(decodeEscaping_eq_iff ht).mpr rfl]
    exact ⟨(Text.passesFor_iff hkelvin).mpr
      (asciiBytes_injective ht.asciiLower h.asciiLower hbytes), hkelvin⟩
  · intro hyp
    obtain ⟨hpasses, hkelvin⟩ := hyp
    have hsame := (Text.passesFor_iff hkelvin).mp hpasses
    have ht : Text.AllAscii (Utf8.decodeEscaping bytes) := by
      intro c hc
      exact CodePoint.asciiLower_ascii_iff.mp
        (h.asciiLower _ (hsame ▸ List.mem_map_of_mem hc))
    rw [(decodeEscaping_eq_iff ht).mp rfl, asciiLower_asciiBytes ht, hsame]

end

/-! ## Headers by name -/

theorem valueOf_setValue (key name value : Text) (fields : List (Text × Text)) :
    valueOf? key (setValue name value fields) =
      if name = key then some value else valueOf? key fields := by
  induction fields with
  | nil => by_cases h : name = key <;> simp [setValue, valueOf?, h]
  | cons field fields ih =>
    obtain ⟨n, v⟩ := field
    rw [setValue]
    by_cases hn : n = name
    · subst hn
      by_cases hk : n = key <;> simp [valueOf?, hk]
    · rw [if_neg hn]
      by_cases hk : n = key
      · have hname : ¬ name = key := fun h => hn (hk.trans h.symm)
        simp [valueOf?, hk, hname]
      · simpa [valueOf?, hk] using ih

/-- Of the headers that come to the same in lower case the last is the one that is found. -/
theorem valueOf_foldl_addHeader (key : Text) (fields : List (Bytes × Bytes)) (names : List Bytes)
    (headers : List (Text × Text)) :
    valueOf? key (names.foldl (addHeader fields) headers) =
      ((names.filter fun n => (Utf8.decodeEscaping n).lower = key).getLast?.map
        (joinedValue fields)).or (valueOf? key headers) := by
  induction names using List.reverseRecOn with
  | nil => rfl
  | append_singleton names name ih =>
    rw [List.foldl_append, List.foldl_cons, List.foldl_nil, addHeader, valueOf_setValue, ih,
      List.filter_append]
    by_cases h : (Utf8.decodeEscaping name).lower = key
    · simp [h]
    · simp [h]

/-- The last of the headers whose names pass for the name; a header stands where its first field
stands. -/
def LastPassing (fields : List (Bytes × Bytes)) (name : Text) (m : Bytes) : Prop :=
  ∃ before after, headerNames fields = before ++ m :: after ∧
    (Utf8.decodeEscaping m).PassesFor name ∧
      ∀ n ∈ after, ¬ (Utf8.decodeEscaping n).PassesFor name

/-- The values, joined, of the fields that have the name, ASCII letters in either case, if there is
any. -/
def namedValue? (fields : List (Bytes × Bytes)) (name : Text) : Option Text :=
  match fields.filter fun f => asciiLower f.1 = asciiLower (asciiBytes name) with
  | [] => none
  | named => some (Text.join ", " (named.map fun f => Utf8.decodeEscaping f.2))

section
variable {fields : List (Bytes × Bytes)} {name : Text} {m : Bytes}

theorem mem_headerNames (h : m ∈ headerNames fields) : ∃ f ∈ fields, f.1 = m := by
  induction fields with
  | nil => simp [headerNames] at h
  | cons field fields ih =>
    rw [headerNames] at h
    rcases List.mem_cons.mp h with rfl | h
    · exact ⟨field, List.mem_cons_self, rfl⟩
    · obtain ⟨f, hf, hname⟩ := ih (List.mem_filter.mp h).1
      exact ⟨f, List.mem_cons_of_mem _ hf, hname⟩

theorem exists_headerName {f : Bytes × Bytes} (h : f ∈ fields) :
    ∃ m ∈ headerNames fields, asciiLower m = asciiLower f.1 := by
  induction fields with
  | nil => simp at h
  | cons field fields ih =>
    rw [headerNames]
    by_cases hfirst : asciiLower f.1 = asciiLower field.1
    · exact ⟨field.1, List.mem_cons_self, hfirst.symm⟩
    · rcases List.mem_cons.mp h with rfl | h
      · exact absurd rfl hfirst
      · obtain ⟨m, hm, hsame⟩ := ih h
        refine ⟨m, List.mem_cons_of_mem _ (List.mem_filter.mpr ⟨hm, ?_⟩), hsame⟩
        simpa [hsame] using hfirst

theorem lastPassing_iff (h : name.AllAscii) :
    ((headerNames fields).filter fun n =>
      (Utf8.decodeEscaping n).lower = name.lower).getLast? = some m ↔
        LastPassing fields name m := by
  rw [List.getLast?_eq_some_iff]
  constructor
  · intro hyp
    obtain ⟨_, hfilter⟩ := hyp
    obtain ⟨front, back, hnames, -, hback⟩ := List.filter_eq_append_iff.mp hfilter
    obtain ⟨between, after, rfl, -, hm, hafter⟩ := List.filter_eq_cons_iff.mp hback
    rw [List.filter_eq_nil_iff] at hafter
    simp only [decide_eq_true_eq, Text.lower_eq_lower_iff h] at hm hafter
    exact ⟨front ++ between, after, by rw [hnames, List.append_assoc], hm, hafter⟩
  · intro hyp
    obtain ⟨before, after, hnames, hm, hafter⟩ := hyp
    simp only [← Text.lower_eq_lower_iff h] at hm hafter
    refine ⟨before.filter fun n => (Utf8.decodeEscaping n).lower = name.lower, ?_⟩
    have hnone : (after.filter fun n => (Utf8.decodeEscaping n).lower = name.lower) = [] := by
      simpa [List.filter_eq_nil_iff] using hafter
    rw [hnames, List.filter_append, List.filter_cons_of_pos (by simpa using hm), hnone]

theorem LastPassing.mem (h : LastPassing fields name m) : m ∈ headerNames fields := by
  obtain ⟨before, after, hnames, -⟩ := h
  simp [hnames]

theorem LastPassing.passesFor (h : LastPassing fields name m) :
    (Utf8.decodeEscaping m).PassesFor name := by
  obtain ⟨-, -, -, hpasses, -⟩ := h
  exact hpasses

theorem LastPassing.unique (hname : name.AllAscii) {n : Bytes} (hm : LastPassing fields name m)
    (hn : LastPassing fields name n) : n = m := by
  rw [← lastPassing_iff hname] at hm hn
  exact Option.some.inj (hn.symm.trans hm)

theorem namedValue_of_named (h : name.AllAscii) (hm : m ∈ headerNames fields)
    (hpasses : (Utf8.decodeEscaping m).PassesFor name)
    (hkelvin : CodePoint.kelvinSign ∉ Utf8.decodeEscaping m) :
    namedValue? fields name = some (joinedValue fields m) := by
  have hsame := (asciiLower_eq_iff h).mpr ⟨hpasses, hkelvin⟩
  obtain ⟨f, hf, rfl⟩ := mem_headerNames hm
  rw [namedValue?, joinedValue, hsame]
  split
  · next hnone => exact absurd hsame (by simpa using List.filter_eq_nil_iff.mp hnone f hf)
  · rfl

theorem namedValue_eq_none (h : name.AllAscii)
    (hnone : ∀ m ∈ headerNames fields, ¬ (Utf8.decodeEscaping m).PassesFor name) :
    namedValue? fields name = none := by
  rw [namedValue?]
  split
  · rfl
  · next hnamed =>
    obtain ⟨f, hf⟩ := List.exists_mem_of_ne_nil _ hnamed
    obtain ⟨hf, hname⟩ := List.mem_filter.mp hf
    obtain ⟨m, hm, hsame⟩ := exists_headerName hf
    rw [decide_eq_true_eq] at hname
    exact absurd ((asciiLower_eq_iff h).mp (hsame.trans hname)).1 (hnone m hm)

end

/-! ## Lookups -/

namespace Exchange

variable {x : Exchange} {r : Request} {name : Text} {m : Bytes}

theorem request_isOk :
    (∃ r, x.request = .ok r) ↔
      Url.checkAuthority (authorityOf x.host (Utf8.decodeEscaping x.path)) = .ok () := by
  simp only [Exchange.request, bind_eq_ok, mapError_eq_ok]
  constructor
  · intro hyp
    obtain ⟨_, _, h, -⟩ := hyp
    exact h
  · intro h
    exact ⟨_, (), h, rfl⟩

theorem header_of_request (hr : x.request = .ok r) :
    r.header? name = ((headerNames x.headers).filter fun n =>
      (Utf8.decodeEscaping n).lower = name.lower).getLast?.map (joinedValue x.headers) := by
  simp only [Exchange.request, bind_eq_ok] at hr
  obtain ⟨_, -, hr⟩ := hr
  cases hr
  rw [Request.header?, readHeaders, valueOf_foldl_addHeader]
  simp [valueOf?]

/-- What is found is the value of the last header whose name passes for the name. -/
theorem header_eq_some_iff (hr : x.request = .ok r) (h : name.AllAscii) {value : Text} :
    r.header? name = some value ↔
      ∃ m, LastPassing x.headers name m ∧ joinedValue x.headers m = value := by
  simp only [header_of_request hr, Option.map_eq_some_iff, lastPassing_iff h]

theorem header_eq_none_iff (hr : x.request = .ok r) (h : name.AllAscii) :
    r.header? name = none ↔
      ∀ m ∈ headerNames x.headers, ¬ (Utf8.decodeEscaping m).PassesFor name := by
  simp only [header_of_request hr, Option.map_eq_none_iff, List.getLast?_eq_none_iff,
    List.filter_eq_nil_iff, decide_eq_true_eq, Text.lower_eq_lower_iff h]

/-- A lookup finds what the fields of the name hold unless the last header that passes for the name
is spelt with a Kelvin sign and its value is another. -/
theorem header_eq_namedValue_iff (hr : x.request = .ok r) (h : name.AllAscii) :
    r.header? name = namedValue? x.headers name ↔
      ∀ m, LastPassing x.headers name m → CodePoint.kelvinSign ∈ Utf8.decodeEscaping m →
        namedValue? x.headers name = some (joinedValue x.headers m) := by
  cases hheader : r.header? name with
  | none =>
    -- No header passes for the name, so no field has it either.
    have hnone := (header_eq_none_iff hr h).mp hheader
    rw [namedValue_eq_none h hnone]
    exact iff_of_true rfl fun m hm _ => absurd hm.passesFor (hnone m hm.mem)
  | some value =>
    obtain ⟨m, hm, rfl⟩ := (header_eq_some_iff hr h).mp hheader
    -- The last header that passes for the name is the only one that can be meant on the right.
    by_cases hkelvin : CodePoint.kelvinSign ∈ Utf8.decodeEscaping m
    · rw [eq_comm]
      constructor
      · intro hvalue n hn _
        rw [hm.unique h hn]
        exact hvalue
      · intro hall
        exact hall m hm hkelvin
    · rw [namedValue_of_named h hm.mem hm.passesFor hkelvin]
      refine iff_of_true rfl fun n hn hin => ?_
      rw [hm.unique h hn] at hin
      exact absurd hin hkelvin

/-- A name without a k cannot be taken by another header. -/
theorem header_eq_namedValue_of_no_k (hr : x.request = .ok r) (h : name.AllAscii)
    (hk : ('k' : CodePoint) ∉ name.map CodePoint.asciiLower) :
    r.header? name = namedValue? x.headers name :=
  (header_eq_namedValue_iff hr h).mpr fun _ hm hin =>
    absurd hin (hm.passesFor.kelvinSign_notMem h hk)

end Exchange

/-- **A header by its name.** Looking up a name in ASCII finds the values of the fields that have
the name, joined, and nothing where there are none, exactly when the URL of the request is
well-formed and the last of the headers whose names pass for the name is not spelt with a Kelvin
sign, or its value is the same. -/
theorem header_named_iff (x : Exchange) (name : Text) (h : name.AllAscii) :
    (∃ r, x.request = .ok r ∧ r.header? name = namedValue? x.headers name) ↔
      Url.checkAuthority (authorityOf x.host (Utf8.decodeEscaping x.path)) = .ok () ∧
      ∀ m, LastPassing x.headers name m → CodePoint.kelvinSign ∈ Utf8.decodeEscaping m →
        namedValue? x.headers name = some (joinedValue x.headers m) := by
  rw [← Exchange.request_isOk, ← exists_and_right]
  exact exists_congr fun r => and_congr_right fun hr => Exchange.header_eq_namedValue_iff hr h

/-- A header in two fields, and before them one that is spelt with a Kelvin sign. -/
def keyInTwoFields : Exchange :=
  ⟨"example.com",
    [(asciiBytes "x-api-" ++ [0xE2, 0x84, 0xAA] ++ asciiBytes "ey", asciiBytes "c"),
      (asciiBytes "X-Api-Key", asciiBytes "a"), (asciiBytes "x-api-KEY", asciiBytes "b")],
    asciiBytes "/", [], none⟩

theorem header_named_twoFields :
    Text.AllAscii "x-api-key" ∧
      ∃ r, keyInTwoFields.request = .ok r ∧ r.header? "x-api-key" = some "a, b" := by
  have hname : Text.AllAscii "x-api-key" := .of_all rfl
  have hplain : CodePoint.kelvinSign ∉ Utf8.decodeEscaping (asciiBytes "X-Api-Key") := by decide
  have hlast : LastPassing keyInTwoFields.headers "x-api-key" (asciiBytes "X-Api-Key") :=
    ⟨[asciiBytes "x-api-" ++ [0xE2, 0x84, 0xAA] ++ asciiBytes "ey"], [], rfl,
      (Text.passesFor_iff hplain).mpr (by decide), List.forall_mem_nil _⟩
  refine ⟨hname, ?_⟩
  refine (header_named_iff keyInTwoFields _ hname).mpr ⟨rfl, fun m hm hkelvin => ?_⟩
  exact absurd (hlast.unique hname hm ▸ hkelvin) hplain

/-- A header named by the letter k, and another behind it named by a Kelvin sign. -/
def kelvinBehindK : Exchange :=
  ⟨"example.com", [(asciiBytes "k", asciiBytes "a"), ([0xE2, 0x84, 0xAA], asciiBytes "b")],
    asciiBytes "/", [], none⟩

/-- What is found under the letter is the value of the other header. -/
theorem header_displaced_kelvin :
    Text.AllAscii "k" ∧ namedValue? kelvinBehindK.headers "k" = some "a" ∧
      ∃ r, kelvinBehindK.request = .ok r ∧ r.header? "k" = some "b" :=
  ⟨Text.AllAscii.of_all rfl, rfl, _, rfl, rfl⟩

end RequestCredentials
