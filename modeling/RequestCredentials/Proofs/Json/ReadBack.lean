import RequestCredentials.Proofs.Json.Integers
import RequestCredentials.Proofs.Json.Strings
/-
  Reading documents back

  `Passes state next t rest` says that the reader, in front of `t` and then
  `rest`, passes over `t` and goes on in the state `next`. Such passages compose,
  so a value is followed through its grammar: from any state in which a value may
  start, its form leads to the state in which the value has been delivered. What
  follows matters for an integer only, which ends where no digit, fraction or
  exponent follows; blanks, commas and closing brackets all end it.

  What is proved:
    1. `Spelled.passes` — a value is read from its form wherever one may start;
    2. `read_eq` — a document is read back from any of its forms.
-/

namespace RequestCredentials.Json

/-! ## Passages -/

/-- The reader passes over `t` from one state to another when `rest` follows. -/
def Passes (state next : State) (t rest : Text) : Prop :=
  ∀ pos, readFrom state 0 pos (t ++ rest) = readFrom next 0 (pos + t.length) rest

theorem readFrom_skip (state : State) (t rest : Text) (pos : Nat) :
    readFrom state t.length pos (t ++ rest) = readFrom state 0 (pos + t.length) rest := by
  induction t generalizing pos with
  | nil => rfl
  | cons c t ih =>
    rw [List.length_cons, List.cons_append, readFrom, ih, Nat.add_right_comm, Nat.add_assoc]

namespace Passes

variable {state mid next : State} {c : CodePoint} {t u rest : Text}

theorem refl : Passes state state [] rest := fun _ => rfl

theorem append (h : Passes state mid t (u ++ rest)) (h' : Passes mid next u rest) :
    Passes state next (t ++ u) rest := by
  intro pos
  rw [List.append_assoc, h, h', List.length_append, Nat.add_assoc]

theorem token (h : ∀ pos, advance state pos c (t ++ rest) = .ok (next, t.length)) :
    Passes state next (c :: t) rest := by
  intro pos
  rw [List.cons_append, readFrom, h]
  simp only [readFrom_skip, List.length_cons]
  congr 1
  omega

theorem single (h : ∀ pos, advance state pos c rest = .ok (next, 0)) :
    Passes state next [c] rest := token h

theorem cons (h : Passes state mid [c] (t ++ rest)) (h' : Passes mid next t rest) :
    Passes state next (c :: t) rest := h.append h'

theorem blank (h : Blank t) : Passes state state t rest := by
  induction t with
  | nil => exact refl
  | cons c t ih =>
    have hblanks : (" \t\n\r" : Text).all isBlank = true := by decide
    have hc : isBlank c = true := List.all_eq_true.mp hblanks c (h c List.mem_cons_self)
    have hstep : Passes state state [c] (t ++ rest) := by
      apply single
      intro pos
      rw [advance.eq_def, if_pos hc]
    exact hstep.cons (ih fun d hd => h d (List.mem_cons_of_mem c hd))

end Passes

/-! ## Where values and names may start -/

/-- A value may start in this state, inside these open arrays and objects. -/
inductive Expects : State → List Frame → Prop
  | value (frames : List Frame) : Expects (.value frames) frames
  | firstElement (frames : List Frame) : Expects (.firstElement frames) (.array [] :: frames)

/-- A name may start in this state, after these members. -/
inductive ExpectsName : State → List (Text × Json) → List Frame → Prop
  | name (members : List (Text × Json)) (frames : List Frame) :
    ExpectsName (.name members frames) members frames
  | firstName (frames : List Frame) : ExpectsName (.firstName frames) [] frames

section
variable {state : State} {frames : List Frame} {members : List (Text × Json)} {c : CodePoint}

theorem Expects.advance_eq (h : Expects state frames) (hblank : isBlank c = false)
    (hclose : c ≠ CodePoint.ofChar ']') (pos : Nat) (rest : Text) :
    advance state pos c rest = startValue frames pos c rest := by
  cases h with
  | value => simp only [advance, hblank, Bool.false_eq_true, if_false]
  | firstElement => simp only [advance, hblank, Bool.false_eq_true, if_false, if_neg hclose]

theorem ExpectsName.advance_quote (h : ExpectsName state members frames) (pos : Nat)
    (rest : Text) : advance state pos (CodePoint.ofChar '"') rest =
      startName members frames pos (CodePoint.ofChar '"') rest := by
  cases h <;> rfl

end

/-! ## Tokens -/

section
variable {state : State} {frames : List Frame} {members : List (Text × Json)}
  {s body t rest : Text}

theorem Expects.passes_bracket (h : Expects state frames) :
    Passes state (.firstElement frames) [('[' : CodePoint)] rest :=
  .single fun pos => h.advance_eq (by decide) (by decide) pos rest

theorem Expects.passes_brace (h : Expects state frames) :
    Passes state (.firstName frames) [('\x7b' : CodePoint)] rest :=
  .single fun pos => h.advance_eq (by decide) (by decide) pos rest

theorem Expects.passes_string (h : Expects state frames) (hs : TextForm s body)
    (hpair : NoSplitPair s) :
    Passes state (deliver (.str s) frames) (('"' : CodePoint) :: (body ++ [('"' : CodePoint)]))
      rest := by
  apply Passes.token
  intro pos
  rw [h.advance_eq (by decide) (by decide), startValue, if_pos rfl, List.append_assoc,
    List.singleton_append, readString_eq hs hpair, List.length_append]
  rfl

theorem ExpectsName.passes_name (h : ExpectsName state members frames) {name : Text}
    (hname : NameForm name t) (hpair : NoSplitPair name) :
    Passes state (.value (.object members name :: frames)) t rest := by
  cases hname with
  | @mk before body between hbefore hbody hbetween =>
    have hquoted : ∀ rest, Passes state (.colon members name frames)
        (('"' : CodePoint) :: (body ++ [('"' : CodePoint)])) rest := by
      intro rest
      apply Passes.token
      intro pos
      rw [h.advance_quote, startName, if_pos rfl, List.append_assoc, List.singleton_append,
        readString_eq hbody hpair, List.length_append]
      rfl
    have hcolon : Passes (.colon members name frames) (.value (.object members name :: frames))
        [(':' : CodePoint)] rest := .single fun pos => rfl
    have hall := (Passes.blank hbefore).append
      ((hquoted _).append ((Passes.blank hbetween).append hcolon))
    simpa only [List.cons_append, List.append_assoc, List.nil_append] using hall

theorem Expects.passes_word (h : Expects state frames) {w : Text × Json}
    (hw : w ∈ [(("null" : Text), Json.null), ("true", .bool true), ("false", .bool false)]) :
    Passes state (deliver w.2 frames) w.1 rest := by
  simp only [List.mem_cons, List.not_mem_nil, or_false] at hw
  rcases hw with rfl | rfl | rfl <;>
  · apply Passes.token
    intro pos
    rw [h.advance_eq (by decide) (by decide)]
    rfl

/-- No word stands where a digit is among the first two code points. -/
theorem words_find?_eq_none {u : Text} (h : (u.take 2).any CodePoint.isDigit = true) :
    (words.find? fun w => w.1.isPrefixOf u) = none := by
  have hwords : ∀ w ∈ words, 2 ≤ w.1.length ∧ (w.1.take 2).any CodePoint.isDigit = false := by
    decide
  rw [List.find?_eq_none]
  intro w hw hword
  obtain ⟨v, rfl⟩ := List.isPrefixOf_iff_prefix.mp hword
  obtain ⟨hlength, hnone⟩ := hwords w hw
  rw [List.take_append_of_le_length hlength, hnone] at h
  exact Bool.false_ne_true h

theorem Expects.passes_int (h : Expects state frames) {n : Int} (hn : isLongInteger n = false)
    (hrest : EndsNumber rest) : Passes state (deliver (.int n) frames) (Text.ofInt n) rest := by
  obtain ⟨c, tail, htail, hstart, hdigit⟩ := Text.exists_cons_ofInt n
  have hread := NumberText.read_ofInt n hrest
  rw [htail, List.cons_append] at hread
  have hother : ∀ d : CodePoint, d.isDigit = false → d ≠ CodePoint.ofChar '-' → c ≠ d := by
    rintro d hd hminus rfl
    rcases hstart with hdigit | hsign
    · exact absurd (hd.symm.trans hdigit) Bool.false_ne_true
    · exact hminus hsign
  have hblank : isBlank c = false := by
    simp only [isBlank, Bool.or_eq_false_iff, decide_eq_false_iff_not]
    exact ⟨⟨⟨hother _ rfl (by decide), hother _ rfl (by decide)⟩, hother _ rfl (by decide)⟩,
      hother _ rfl (by decide)⟩
  rw [htail]
  apply Passes.token
  intro pos
  rw [h.advance_eq hblank (hother _ rfl (by decide)), startValue,
    if_neg (hother _ rfl (by decide)), if_neg (hother _ rfl (by decide)),
    if_neg (hother _ rfl (by decide)), words_find?_eq_none (hdigit rest), hread]
  simp only [NumberText.value_ofInt hn, List.length_cons, Nat.add_sub_cancel]

end

/-! ## Values -/

theorem EndsNumber.of_head {c : CodePoint} {rest : Text}
    (hc : c.isDigit = false ∧ c ≠ CodePoint.ofChar '.' ∧ c ≠ CodePoint.ofChar 'e' ∧
      c ≠ CodePoint.ofChar 'E') : EndsNumber (c :: rest) := by
  intro d hd
  cases hd
  exact hc

theorem EndsNumber.blank_append {blank rest : Text} (hblank : Blank blank)
    (hrest : EndsNumber rest) : EndsNumber (blank ++ rest) := by
  cases blank with
  | nil => exact hrest
  | cons c blank =>
    have hblanks : (" \t\n\r" : Text).all fun d => !d.isDigit && d ≠ CodePoint.ofChar '.' &&
        d ≠ CodePoint.ofChar 'e' && d ≠ CodePoint.ofChar 'E' := by decide
    have hc := List.all_eq_true.mp hblanks c (hblank c List.mem_cons_self)
    exact .of_head (by simpa [and_assoc] using hc)

-- The recursion is on the forms. Items and members are read from where the open array or object
-- holds those before them, in reverse, so what is handed over at the end is the whole list.
mutual

/-- From where a value may start, its form leads to where it has been delivered. -/
theorem Spelled.passes {v : Json} {t : Text} (h : Spelled v t) (hv : v.Writable) {state : State}
    {frames : List Frame} (hstate : Expects state frames) {rest : Text}
    (hrest : EndsNumber rest) : Passes state (deliver v frames) t rest := by
  cases h with
  | null => exact hstate.passes_word (w := ("null", .null)) (by simp)
  | true => exact hstate.passes_word (w := ("true", .bool true)) (by simp)
  | false => exact hstate.passes_word (w := ("false", .bool false)) (by simp)
  | int n => exact hstate.passes_int hv hrest
  | str hs => exact hstate.passes_string hs hv
  | emptyArray hblank =>
    have hclose : Passes (.firstElement frames) (deliver (.arr []) frames) [(']' : CodePoint)]
        rest := .single fun pos => rfl
    exact hstate.passes_bracket.cons ((Passes.blank hblank).append hclose)
  | array hitems =>
    exact hstate.passes_bracket.cons (hitems.passes hv (.firstElement frames))
  | emptyObject hblank =>
    have hclose : Passes (.firstName frames) (deliver (.obj []) frames) [('\x7d' : CodePoint)]
        rest := .single fun pos => rfl
    exact hstate.passes_brace.cons ((Passes.blank hblank).append hclose)
  | object hmembers =>
    exact hstate.passes_brace.cons (hmembers.passes hv (.firstName frames))

theorem SpelledPart.passes {v : Json} {t : Text} (h : SpelledPart v t) (hv : v.Writable)
    {state : State} {frames : List Frame} (hstate : Expects state frames) {rest : Text}
    (hrest : EndsNumber rest) : Passes state (deliver v frames) t rest := by
  cases h with
  | mk hbefore hvalue hafter =>
    exact (Passes.blank hbefore).append
      ((hvalue.passes hv hstate (hrest.blank_append hafter)).append (Passes.blank hafter))

/-- The items that are read join those already read, in reverse. -/
theorem SpelledItems.passes {items : List Json} {t : Text} (h : SpelledItems items t)
    (hitems : AllWritable items) {state : State} {done : List Json} {frames : List Frame}
    (hstate : Expects state (.array done :: frames)) {rest : Text} :
    Passes state (deliver (.arr (done.reverse ++ items)) frames) t rest := by
  cases h with
  | @last item _ hitem =>
    have hclose : Passes (.afterElement (item :: done) frames)
        (deliver (.arr (item :: done).reverse) frames) [(']' : CodePoint)] rest :=
      .single fun pos => rfl
    rw [List.reverse_cons] at hclose
    exact (hitem.passes hitems.1 hstate (.of_head (by decide))).append hclose
  | @more item items _ _ hitem hmore =>
    have hcomma : ∀ u, Passes (.afterElement (item :: done) frames)
        (.value (.array (item :: done) :: frames)) [(',' : CodePoint)] u :=
      fun u => .single fun pos => rfl
    have hrest : Passes (.value (.array (item :: done) :: frames))
        (deliver (.arr ((item :: done).reverse ++ items)) frames) _ rest :=
      hmore.passes hitems.2 (.value (.array (item :: done) :: frames))
    rw [List.reverse_cons, List.append_assoc, List.singleton_append] at hrest
    exact (hitem.passes hitems.1 hstate (.of_head (by decide))).append ((hcomma _).cons hrest)

theorem SpelledMembers.passes {members : List (Text × Json)} {t : Text}
    (h : SpelledMembers members t) (hmembers : MembersWritable members) {state : State}
    {done : List (Text × Json)} {frames : List Frame} (hstate : ExpectsName state done frames)
    {rest : Text} : Passes state (deliver (.obj (done.reverse ++ members)) frames) t rest := by
  cases h with
  | @last name value _ _ hname hvalue =>
    have hclose : Passes (.afterMember ((name, value) :: done) frames)
        (deliver (.obj ((name, value) :: done).reverse) frames) [('\x7d' : CodePoint)] rest :=
      .single fun pos => rfl
    rw [List.reverse_cons] at hclose
    exact (hstate.passes_name hname hmembers.1).append
      ((hvalue.passes hmembers.2.1 (.value (.object done name :: frames))
        (.of_head (by decide))).append hclose)
  | @more name value members _ _ _ hname hvalue hmore =>
    have hcomma : ∀ u, Passes (.afterMember ((name, value) :: done) frames)
        (.name ((name, value) :: done) frames) [(',' : CodePoint)] u :=
      fun u => .single fun pos => rfl
    have hrest : Passes (.name ((name, value) :: done) frames)
        (deliver (.obj (((name, value) :: done).reverse ++ members)) frames) _ rest :=
      hmore.passes hmembers.2.2 (.name ((name, value) :: done) frames)
    rw [List.reverse_cons, List.append_assoc, List.singleton_append] at hrest
    exact (hstate.passes_name hname hmembers.1).append
      ((hvalue.passes hmembers.2.1 (.value (.object done name :: frames))
        (.of_head (by decide))).append ((hcomma _).cons hrest))

end

/-- A document is read back from any of its forms. -/
theorem read_eq {document : Json} {t : Text} (h : SpelledPart document t)
    (hdocument : document.Writable) : read t = .ok document := by
  have hend : EndsNumber [] := fun c hc => by cases hc
  have hpass := h.passes hdocument (.value []) hend 0
  rw [List.append_nil] at hpass
  rw [read, hpass]
  rfl

end RequestCredentials.Json
