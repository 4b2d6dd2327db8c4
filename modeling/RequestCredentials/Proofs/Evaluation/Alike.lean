import RequestCredentials.Evaluation.Run
import RequestCredentials.Request.Search
import RequestCredentials.Proofs.Encoding.RoundTrip
import Mathlib.Data.List.Forall2
/-
  Alike values — evaluation sees bytes, not how a text is held

  A text may be held as code points or as bytes. Two contents are alike when
  they are the same or have the same bytes, and two values are alike when they
  differ only in such contents. Every step looks at a content through its bytes
  or through the text that they are, so that alike values have alike results,
  equal failures and equal faults.

  What is proved:
    1. `lookup_alike`, `decode_alike` — one step: a lookup selects alike parts,
       and a decoding, which only reads bytes, does the very same;
    2. `Operation.apply_alike`, `run_alike`, `firstSuccess_alike` — an
       operation, a sequence and an alternation, by recursion over operations;
    3. `acceptedString_alike` — alike final values carry the same string;
    4. `evaluation_alike` — from the seed to the credential, nothing depends on
       how a text is held.
-/

namespace RequestCredentials

/-! ## Alike contents -/

/-- The contents are the same, or have the same bytes. -/
def Content.Alike (a b : Content) : Prop :=
  a = b ∨ ∃ bytes, a.toBytes = .ok bytes ∧ b.toBytes = .ok bytes

namespace Content

theorem toText_of_toBytes {c : Content} {bytes : Bytes} (h : c.toBytes = .ok bytes) :
    c.toText? = (Utf8.decode bytes).toOption := by
  cases c with
  | chars s =>
    have hs : Utf8.decode bytes = .ok s := Utf8.decode_eq_ok_iff.mpr h
    rw [hs]
    rfl
  | bytes b =>
    cases h
    rfl

variable {a b : Content}

theorem Alike.refl (c : Content) : c.Alike c := .inl rfl

theorem Alike.toBytes_eq (h : a.Alike b) : a.toBytes = b.toBytes := by
  rcases h with rfl | ⟨bytes, ha, hb⟩
  · rfl
  · rw [ha, hb]

theorem Alike.toText_eq (h : a.Alike b) : a.toText? = b.toText? := by
  rcases h with rfl | ⟨bytes, ha, hb⟩
  · rfl
  · rw [toText_of_toBytes ha, toText_of_toBytes hb]

theorem Alike.spells_eq (h : a.Alike b) (name : Text) : a.spells name = b.spells name := by
  rw [spells, spells, same, same, h.toBytes_eq]

/-- A content that spells a name is like the name. -/
theorem alike_of_spells {c : Content} {name : Text} (h : c.spells name = .ok true) :
    c.Alike (.chars name) := by
  simp only [spells, same, bind_eq_ok] at h
  obtain ⟨bytes, hc, bytes', hname, h⟩ := h
  have hsame : bytes = bytes' := by simpa [pure, Except.pure] using h
  subst hsame
  exact .inr ⟨bytes, hc, hname⟩

end Content

/-! ## Alike values and results -/

mutual

/-- The values have the same structure and names, and alike contents. -/
inductive Value.Alike : Value → Value → Prop where
  | text {a b : Content} : a.Alike b → Value.Alike (.text a) (.text b)
  | list {as bs : List Value} : List.Forall₂ Value.Alike as bs → Value.Alike (.list as) (.list bs)
  | struct {as bs : List (Text × Value)} :
      List.Forall₂ EntryAlike as bs → Value.Alike (.struct as) (.struct bs)

/-- The entries have one name, and alike values. -/
inductive EntryAlike : Text × Value → Text × Value → Prop where
  | mk (name : Text) {v w : Value} : Value.Alike v w → EntryAlike (name, v) (name, w)

end

/-- Both results are errors, and equal, or neither is, and they are related. -/
inductive Agree {ε α : Type} (related : α → α → Prop) : Except ε α → Except ε α → Prop where
  | ok {a b : α} : related a b → Agree related (.ok a) (.ok b)
  | error (e : ε) : Agree related (.error e) (.error e)

/-- Alike values or the same failure. -/
abbrev ResultsAlike : Except Failure Value → Except Failure Value → Prop := Agree Value.Alike

/-- Alike results or the same fault. -/
abbrev AnswersAlike : Answer → Answer → Prop := Agree ResultsAlike

mutual

theorem Value.Alike.refl : ∀ v : Value, Value.Alike v v
  | .text c => .text (Content.Alike.refl c)
  | .list items => .list (itemsAlike_refl items)
  | .struct entries => .struct (entriesAlike_refl entries)

theorem itemsAlike_refl : ∀ items : List Value, List.Forall₂ Value.Alike items items
  | [] => .nil
  | v :: rest => .cons (Value.Alike.refl v) (itemsAlike_refl rest)

theorem entriesAlike_refl : ∀ entries : List (Text × Value),
    List.Forall₂ EntryAlike entries entries
  | [] => .nil
  | (name, v) :: rest => .cons (.mk name (Value.Alike.refl v)) (entriesAlike_refl rest)

end

theorem Agree.refl {ε α : Type} {related : α → α → Prop} (hr : ∀ a, related a a)
    (x : Except ε α) : Agree related x x := by
  cases x with
  | ok a => exact .ok (hr a)
  | error e => exact .error e

theorem answersAlike_refl (answer : Answer) : AnswersAlike answer answer :=
  Agree.refl (Agree.refl Value.Alike.refl) answer

variable {v w : Value}

theorem Value.Alike.shape_eq (h : Value.Alike v w) : v.shape = w.shape := by
  cases h <;> rfl

/-! ## Parts of alike values -/

theorem allText_cons (v : Value) (rest : List Value) :
    Value.allText? (v :: rest) =
      v.content?.bind fun c => (Value.allText? rest).map (c :: ·) := by
  simp only [Value.allText?, List.mapM_cons]
  cases v.content? with
  | none => rfl
  | some c => cases rest.mapM Value.content? <;> rfl

theorem allText_alike {as bs : List Value} (h : List.Forall₂ Value.Alike as bs) :
    Option.Rel (List.Forall₂ Content.Alike) (Value.allText? as) (Value.allText? bs) := by
  induction h with
  | nil => exact .some .nil
  | @cons v w as bs hv _ ih =>
    rw [allText_cons, allText_cons]
    cases hv with
    | text hc =>
      -- The first item is text on both sides, so the rest decides whether all are.
      simp only [Value.content?, Option.bind_some]
      generalize Value.allText? as = found, Value.allText? bs = found' at ih ⊢
      cases ih with
      | none => exact .none
      | some hcs => exact .some (.cons hc hcs)
    | list _ => exact .none
    | struct _ => exact .none

theorem entry_alike (name : Text) {as bs : List (Text × Value)}
    (h : List.Forall₂ EntryAlike as bs) :
    Option.Rel Value.Alike (Value.entry? name as) (Value.entry? name bs) := by
  induction h with
  | nil => exact .none
  | cons he _ ih =>
    obtain ⟨n, hv⟩ := he
    simp only [Value.entry?, List.find?_cons] at ih ⊢
    by_cases hn : n = name
    · simpa [hn] using hv
    · simpa [hn] using ih

theorem values_alike {as bs : List (Text × Value)} (h : List.Forall₂ EntryAlike as bs) :
    List.Forall₂ Value.Alike (as.map (·.2)) (bs.map (·.2)) := by
  induction h with
  | nil => exact .nil
  | cons he _ ih =>
    obtain ⟨_, hv⟩ := he
    exact .cons hv ih

theorem item_alike {as bs : List Value} (h : List.Forall₂ Value.Alike as bs) (n : Nat) :
    Option.Rel Value.Alike as[n]? bs[n]? := by
  induction h generalizing n with
  | nil => exact .none
  | cons hv _ ih =>
    cases n with
    | zero => exact .some hv
    | succ n => exact ih n

theorem strings_alike (h : Value.Alike v w) : v.strings = w.strings := by
  cases h with
  | text hc => simp only [Value.strings, hc.toText_eq]
  | struct _ => rfl
  | list hs =>
    simp only [Value.strings]
    induction hs with
    | nil => rfl
    | cons hv _ ih =>
      cases hv with
      | text hc => simp [Value.content?, List.filterMap_cons, hc.toText_eq, ih]
      | list _ => simpa [Value.content?, List.filterMap_cons] using ih
      | struct _ => simpa [Value.content?, List.filterMap_cons] using ih

/-! ## Single steps -/

theorem foundOr_alike (selector : Selector) {found found' : Option Value}
    (h : Option.Rel Value.Alike found found') :
    ResultsAlike (foundOr selector found) (foundOr selector found') := by
  cases h with
  | none => exact .error _
  | some hv => exact .ok hv

theorem findSpelling_alike (name : Text) {as bs : List Content}
    (h : List.Forall₂ Content.Alike as bs) :
    Agree (Option.Rel Content.Alike) (findSpelling name as) (findSpelling name bs) := by
  induction h with
  | nil => exact .ok .none
  | @cons a b as bs hc _ ih =>
    simp only [findSpelling, hc.spells_eq name]
    cases b.spells name with
    | error fault => exact .error fault
    | ok same => cases same with
      | true => exact .ok (.some hc)
      | false => exact ih

theorem lookupKey_alike (name : Text) (h : Value.Alike v w) :
    AnswersAlike (v.lookupKey name) (w.lookupKey name) := by
  cases h with
  | @text a b hc =>
    simp only [Value.lookupKey, hc.spells_eq name]
    cases b.spells name with
    | error fault => exact .error _
    | ok same => cases same with
      | true => exact .ok (.ok (.text hc))
      | false => exact .ok (.error _)
  | @list as bs hs =>
    simp only [Value.lookupKey]
    have htexts := allText_alike hs
    generalize Value.allText? as = texts, Value.allText? bs = texts' at htexts ⊢
    cases htexts with
    | none => exact .ok (.error _)
    | @some contents contents' hcs =>
      have hfound := findSpelling_alike name hcs
      simp only
      generalize findSpelling name contents = answer, findSpelling name contents' = answer'
        at hfound ⊢
      cases hfound with
      | error fault => exact .error _
      | ok hf =>
        refine .ok (foundOr_alike _ ?_)
        cases hf with
        | none => exact .none
        | some hc => exact .some (.text hc)
  | struct hs => exact .ok (foundOr_alike _ (entry_alike name hs))

theorem valueAt_alike (selector : Selector) (position : Index.Number) {as bs : List Value}
    (h : List.Forall₂ Value.Alike as bs) :
    AnswersAlike (valueAt selector position as) (valueAt selector position bs) := by
  cases position with
  | int n => exact .ok (foundOr_alike selector (item_alike h n.toNat))
  | float x =>
    simp only [valueAt, h.length_eq]
    exact answersAlike_refl _

theorem lookupPosition_alike (index : Index) (h : Value.Alike v w) :
    AnswersAlike (v.lookupPosition index) (w.lookupPosition index) := by
  simp only [Value.lookupPosition, h.shape_eq]
  cases index.number with
  | error type => exact .error _
  | ok position =>
    simp only
    split
    · exact .ok (.error _)
    · cases h with
      | text hc =>
        simp only
        split
        · exact .ok (.ok (.text hc))
        · exact .ok (.error _)
      | list hs => exact valueAt_alike _ position hs
      | struct hs => exact valueAt_alike _ position (values_alike hs)

theorem lookupOtherKey_alike (part : Json) (h : Value.Alike v w) :
    v.lookupOtherKey part = w.lookupOtherKey part := by
  cases h with
  | text hc => simp only [Value.lookupOtherKey, hc.toBytes_eq]
  | struct _ => rfl
  | @list as bs hs =>
    have htexts := allText_alike hs
    simp only [Value.lookupOtherKey]
    generalize Value.allText? as = texts, Value.allText? bs = texts' at htexts ⊢
    cases htexts with
    | none => rfl
    | some hcs => cases hcs with
      | nil => rfl
      | cons hc _ => simp only [hc.toBytes_eq]

theorem naming_alike (selector : Selector) {answer answer' : Answer}
    (h : AnswersAlike answer answer') :
    AnswersAlike (naming selector answer) (naming selector answer') := by
  cases h with
  | ok hr => cases hr with
    | ok hv => exact .ok (.ok hv)
    | error failure => exact answersAlike_refl _
  | error fault => exact .error _

theorem lookup_alike (selector : Selector) (h : Value.Alike v w) :
    AnswersAlike (v.lookup selector) (w.lookup selector) := by
  cases selector with
  | key name => exact lookupKey_alike name h
  | position index => exact naming_alike _ (lookupPosition_alike index h)
  | otherKey part =>
    simp only [Value.lookup, lookupOtherKey_alike part h]
    exact answersAlike_refl _

/-- A decoding reads bytes only. -/
theorem decode_alike (kind : DecodeKind) (h : Value.Alike v w) : v.decode kind = w.decode kind := by
  cases h with
  | text hc => simp only [Value.decode, hc.toBytes_eq]
  | list _ => rfl
  | struct _ => rfl

theorem settle_alike (step : OperationKind) {answer answer' : Answer}
    (h : AnswersAlike answer answer') :
    ResultsAlike (settle step answer) (settle step answer') := by
  cases h with
  | ok hr => exact hr
  | error fault => exact .error _

/-! ## Runs -/

mutual

theorem Operation.apply_alike : ∀ (op : Operation) {v w : Value}, Value.Alike v w →
    ResultsAlike (op.apply v) (op.apply w)
  | .decode kind, v, w, h => by
    simp only [Operation.apply, decode_alike kind h]
    exact Agree.refl Value.Alike.refl _
  | .lookup selector, v, w, h => settle_alike .lookup (lookup_alike selector h)
  | .alternation branches, v, w, h => by
    have hbranches := firstSuccess_alike branches h
    simp only [Operation.apply]
    generalize firstSuccess v branches = first, firstSuccess w branches = first' at hbranches ⊢
    cases hbranches with
    | ok hr => exact .ok hr
    | error failures => exact .error _

/-- **Evaluation does not see how a text is held.** Alike values have alike results. -/
theorem run_alike : ∀ (ops : List Operation) {v w : Value}, Value.Alike v w →
    ResultsAlike (run v ops) (run w ops)
  | [], v, w, h => .ok h
  | op :: rest, v, w, h => by
    have hop := op.apply_alike h
    simp only [run]
    generalize op.apply v = result, op.apply w = result' at hop ⊢
    cases hop with
    | ok hr => exact run_alike rest hr
    | error failure => exact .error failure

theorem firstSuccess_alike : ∀ (branches : List (List Operation)) {v w : Value},
    Value.Alike v w → Agree Value.Alike (firstSuccess v branches) (firstSuccess w branches)
  | [], v, w, _ => .error []
  | branch :: rest, v, w, h => by
    have hbranch := run_alike branch h
    have hrest := firstSuccess_alike rest h
    simp only [firstSuccess]
    generalize run v branch = result, run w branch = result' at hbranch ⊢
    cases hbranch with
    | ok hr => exact .ok hr
    | error failure =>
      -- Both branches failed in the same way, so the failures of the rest decide.
      generalize firstSuccess v rest = later, firstSuccess w rest = later' at hrest ⊢
      cases hrest with
      | ok hr => exact .ok hr
      | error failures => exact .error _

end

/-! ## Accepted strings -/

theorem keyedString_alike (h : Value.Alike v w) (keys : List Text) :
    keyedString? v keys = keyedString? w keys := by
  induction keys with
  | nil => rfl
  | cons key rest ih =>
    have hkey := lookupKey_alike key h
    simp only [keyedString?]
    generalize v.lookupKey key = answer, w.lookupKey key = answer' at hkey ⊢
    cases hkey with
    | error fault => rfl
    | ok hr => cases hr with
      | error failure => exact ih
      | ok hs =>
        simp only [bind, Except.bind, strings_alike hs, ih]

/-- Alike final values carry the same string for a credential, and break down alike. -/
theorem acceptedString_alike (h : Value.Alike v w) (keys : List Text) :
    acceptedString? keys v = acceptedString? keys w := by
  simp only [acceptedString?, strings_alike h, keyedString_alike h]

/-! ## Whole evaluations -/

/-- **An evaluation cannot tell text from bytes.** Two alike values are both unwrapped, to alike
values that carry the same string for every credential, or both fail in the same way. -/
theorem evaluation_alike (ops : List Operation) (v w : Value) (h : Value.Alike v w) :
    (∃ v' w', run v ops = .ok v' ∧ run w ops = .ok w' ∧ Value.Alike v' w' ∧
      ∀ c : Credential, acceptedString? c.keys v' = acceptedString? c.keys w') ∨
    ∃ failure, run v ops = .error failure ∧ run w ops = .error failure := by
  have hr := run_alike ops h
  generalize run v ops = result, run w ops = result' at hr ⊢
  cases hr with
  | error failure => exact .inr ⟨failure, rfl, rfl⟩
  | @ok v' w' hv =>
    refine .inl ⟨v', w', rfl, rfl, hv, ?_⟩
    intro c
    exact acceptedString_alike hv c.keys

/-- An audience under the name `aud`, as a list of one text. -/
def audienceHeld (c : Content) : Value := .struct [("aud", .list [.text c])]

/-- Takes the audience by its name and then its first item, where it is not JSON. -/
def firstAudience : List Operation :=
  [.alternation [[.decode .json], [.lookup (.key "aud")]], .lookup (.position (.int 0)),
    .alternation [[.lookup (.key "x")], [.lookup (.key "é")]]]

/-- An audience that is held as text and one that is held as bytes are unwrapped alike, and carry
the same string. -/
theorem evaluation_alike_audience :
    Value.Alike (audienceHeld (.chars "é")) (audienceHeld (.bytes [0xC3, 0xA9])) ∧
      run (audienceHeld (.chars "é")) firstAudience = .ok (.text (.chars "é")) ∧
      run (audienceHeld (.bytes [0xC3, 0xA9])) firstAudience = .ok (.text (.bytes [0xC3, 0xA9])) ∧
      ∀ c : Credential, acceptedString? c.keys (.text (.chars "é")) =
        acceptedString? c.keys (.text (.bytes [0xC3, 0xA9])) := by
  have hc : (Content.chars "é").Alike (.bytes [0xC3, 0xA9]) := .inr ⟨[0xC3, 0xA9], rfl, rfl⟩
  have ha : Value.Alike (audienceHeld (.chars "é")) (audienceHeld (.bytes [0xC3, 0xA9])) :=
    .struct (.cons (.mk "aud" (.list (.cons (.text hc) .nil))) .nil)
  have hv : run (audienceHeld (.chars "é")) firstAudience = .ok (.text (.chars "é")) := rfl
  have hw : run (audienceHeld (.bytes [0xC3, 0xA9])) firstAudience =
    .ok (.text (.bytes [0xC3, 0xA9])) := rfl
  refine ⟨ha, hv, hw, ?_⟩
  rcases evaluation_alike firstAudience _ _ ha with ⟨v', w', hv', hw', -, hs⟩ | ⟨failure, hf, -⟩
  · cases hv.symm.trans hv'
    cases hw.symm.trans hw'
    exact hs
  · cases hv.symm.trans hf

end RequestCredentials
