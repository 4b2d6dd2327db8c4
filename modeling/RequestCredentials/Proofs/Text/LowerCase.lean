import RequestCredentials.Text.LowerCase
import RequestCredentials.Proofs.Encoding.RoundTrip
import Mathlib.Data.List.Forall2
/-
  Lower-case forms in ASCII

  Outside ASCII one code point alone has a lower-case form in ASCII: the Kelvin
  sign, whose form is k. The dotted capital I has one that starts with an i, but
  a combining dot follows it. So a text that comes to the same as an ASCII name
  in lower case is that name, its letters in either case, with Kelvin signs in
  the place of any k.

  What is proved:
    1. `CodePoint.toLower_cases` — where a lower-case form comes from;
    2. `CodePoint.ascii_or_kelvinSign`, `CodePoint.toLower_eq_iff` — which code
       points come to an ASCII letter;
    3. `Text.lowerFrom_eq_iff` — where the lower-case form is ASCII, what stands
       around a code point does not matter;
    4. `Text.lower_eq_lower_iff` — which texts come to the same as an ASCII name;
    5. `Text.PassesFor.kelvinSign_notMem` — a name without a k leaves no room for a
       Kelvin sign.
-/

namespace RequestCredentials

namespace CodePoint

/-- The code point, an ASCII capital in lower case. -/
def asciiLower (c : CodePoint) : CodePoint :=
  if 0x41 ≤ c.val ∧ c.val ≤ 0x5A then ofNat (c.val + 0x20) else c

/-- The sign for the unit of temperature, a letter of its own whose lower-case form is k. -/
def kelvinSign : CodePoint := ofNat 0x212A

/-- The code point is the letter, in either case, or a Kelvin sign in the place of a k. -/
def PassesFor (c letter : CodePoint) : Prop :=
  c.asciiLower = letter.asciiLower ∨ c = kelvinSign ∧ letter.asciiLower = 'k'

variable {c d : CodePoint}

set_option maxRecDepth 8000 in
theorem toLower_kelvinSign : kelvinSign.toLower = 'k' := by decide

theorem lowerCaseRuns_eq :
    lowerCaseRuns = (0x41, 0x5A, 1, 0x61) :: lowerCaseRuns.tail := rfl

set_option maxRecDepth 8000 in
/-- Behind the capitals of ASCII every run stands outside ASCII, and has its lower-case forms there
too unless it is the Kelvin sign. -/
theorem laterRun_bounds : ∀ run ∈ lowerCaseRuns.tail,
    0x80 ≤ run.1 ∧ (run.1 = 0x212A ∧ run.2.1 = 0x212A ∨ 0x80 ≤ run.2.2.2) := by
  decide

theorem toLower_cases (c : CodePoint) :
    0x41 ≤ c.val ∧ c.val ≤ 0x5A ∧ c.toLower = ofNat (c.val + 0x20) ∨
    (∃ run ∈ lowerCaseRuns.tail, run.1 ≤ c.val ∧ c.val ≤ run.2.1 ∧
      c.toLower = ofNat (run.2.2.2 + (c.val - run.1))) ∨
    ¬ (0x41 ≤ c.val ∧ c.val ≤ 0x5A) ∧ c.toLower = c := by
  rw [toLower]
  split
  · next first last step target hfind =>
    have hwithin := List.find?_some hfind
    simp only [Bool.and_eq_true, decide_eq_true_eq] at hwithin
    obtain ⟨⟨hfirst, hlast⟩, -⟩ := hwithin
    have hmem := List.mem_of_find?_eq_some hfind
    rw [lowerCaseRuns_eq, List.mem_cons] at hmem
    rcases hmem with heq | hlater
    · cases heq
      exact .inl ⟨hfirst, hlast, congrArg ofNat (by omega)⟩
    · exact .inr (.inl ⟨_, hlater, hfirst, hlast, rfl⟩)
  · next hnone =>
    have hcapitals := List.find?_eq_none.mp hnone _ (lowerCaseRuns_eq ▸ List.mem_cons_self)
    simp only [Bool.and_eq_true, decide_eq_true_eq, Nat.mod_one, beq_self_eq_true, and_true]
      at hcapitals
    exact .inr (.inr ⟨hcapitals, rfl⟩)

theorem toLower_of_ascii (h : c.val < 0x80) : c.toLower = c.asciiLower := by
  rw [asciiLower]
  rcases toLower_cases c with ⟨hfirst, hlast, hlower⟩ | ⟨run, hrun, hfirst, -, -⟩ | ⟨hnot, hlower⟩
  · rw [if_pos ⟨hfirst, hlast⟩, hlower]
  · have hbound := (laterRun_bounds run hrun).1
    omega
  · rw [if_neg hnot, hlower]

theorem ascii_or_kelvinSign (h : c.toLower.val < 0x80) : c.val < 0x80 ∨ c = kelvinSign := by
  rcases toLower_cases c with ⟨-, hlast, -⟩ | ⟨run, hrun, hfirst, hlast, hlower⟩ | ⟨-, hlower⟩
  · exact .inl (by omega)
  · rcases (laterRun_bounds run hrun).2 with ⟨hkelvin, hlone⟩ | htarget
    · refine .inr (Fin.ext ?_)
      rw [kelvinSign, Utf8.val_ofNat (by decide)]
      omega
    · rw [hlower, ofNat] at h
      split at h
      · simp only at h
        omega
      · simp at h
  · exact .inl (hlower ▸ h)

theorem asciiLower_ascii_iff : c.asciiLower.val < 0x80 ↔ c.val < 0x80 := by
  rw [asciiLower]
  split
  · rw [Utf8.val_ofNat (by omega)]
    omega
  · rfl

/-- The lower-case form of a code point is that of an ASCII letter exactly when it passes for it. -/
theorem toLower_eq_iff (hd : d.val < 0x80) : c.toLower = d.asciiLower ↔ c.PassesFor d := by
  constructor
  · intro h
    rcases ascii_or_kelvinSign (h ▸ asciiLower_ascii_iff.mpr hd) with hc | rfl
    · exact .inl (toLower_of_ascii hc ▸ h)
    · exact .inr ⟨rfl, h.symm.trans toLower_kelvinSign⟩
  · intro hyp
    rcases hyp with h | ⟨rfl, h⟩
    · rw [toLower_of_ascii (asciiLower_ascii_iff.mp (h ▸ asciiLower_ascii_iff.mpr hd)), h]
    · rw [toLower_kelvinSign, h]

end CodePoint

namespace Text

/-- The text is made up of code points of ASCII. -/
def AllAscii (t : Text) : Prop := ∀ c ∈ t, c.val < 0x80

variable {t u name : Text}

theorem lowerFrom_cons (before t : Text) (c : CodePoint) :
    lowerFrom before (c :: t) =
      (if c = CodePoint.capitalSigma then
        if meetsCased before && !meetsCased t then [0x03C2] else [0x03C3]
      else if c = CodePoint.capitalDottedI then [0x69, 0x0307]
      else [c.toLower]) ++ lowerFrom (c :: before) t := rfl

/-- The two code points whose lower-case form hangs on what stands around them, or is more than one,
have none in ASCII. -/
theorem lowerFrom_eq_iff (hu : u.AllAscii) (before : Text) :
    lowerFrom before t = u ↔ t.map CodePoint.toLower = u := by
  induction t generalizing before u with
  | nil => rfl
  | cons c t ih =>
    rw [lowerFrom_cons, List.map_cons]
    by_cases hsigma : c = CodePoint.capitalSigma
    · have hlower : ¬ CodePoint.capitalSigma.toLower.val < 0x80 := fun h =>
        (CodePoint.ascii_or_kelvinSign h).elim (by decide) (by decide)
      rw [if_pos hsigma, hsigma]
      constructor
      · intro h
        subst h
        split at hu <;> exact absurd (hu _ List.mem_cons_self) (by decide)
      · intro h
        subst h
        exact absurd (hu _ List.mem_cons_self) hlower
    by_cases hdotted : c = CodePoint.capitalDottedI
    · have hlower : ¬ CodePoint.capitalDottedI.toLower.val < 0x80 := fun h =>
        (CodePoint.ascii_or_kelvinSign h).elim (by decide) (by decide)
      rw [if_neg hsigma, if_pos hdotted, hdotted]
      constructor
      · intro h
        subst h
        exact absurd (hu _ (List.mem_cons_of_mem _ List.mem_cons_self)) (by decide)
      · intro h
        subst h
        exact absurd (hu _ List.mem_cons_self) hlower
    rw [if_neg hsigma, if_neg hdotted]
    -- Every other code point has a form of its own, so the texts are compared one by one.
    cases u with
    | nil => simp
    | cons d u =>
      obtain ⟨-, hu⟩ := List.forall_mem_cons.mp hu
      simp only [List.cons_append, List.nil_append, List.cons.injEq]
      rw [ih hu]

theorem AllAscii.of_all (h : (t.all fun c => c.val < 0x80) = true) : t.AllAscii := by
  simpa [AllAscii] using h

theorem AllAscii.asciiLower (h : t.AllAscii) : AllAscii (t.map CodePoint.asciiLower) := by
  intro d hd
  obtain ⟨c, hc, rfl⟩ := List.mem_map.mp hd
  exact CodePoint.asciiLower_ascii_iff.mpr (h c hc)

theorem lower_of_ascii (h : name.AllAscii) : name.lower = name.map CodePoint.asciiLower := by
  have hsame : name.map CodePoint.toLower = name.map CodePoint.asciiLower :=
    List.map_congr_left fun c hc => CodePoint.toLower_of_ascii (h c hc)
  exact (lowerFrom_eq_iff h.asciiLower []).mpr hsame

/-- The text is the name, letter by letter in either case, with Kelvin signs for some of its k. -/
def PassesFor (t name : Text) : Prop := List.Forall₂ CodePoint.PassesFor t name

/-- A text and a name in ASCII come to the same in lower case exactly when the text passes for the
name. -/
theorem lower_eq_lower_iff (h : name.AllAscii) : t.lower = name.lower ↔ t.PassesFor name := by
  rw [lower_of_ascii h, lower, lowerFrom_eq_iff h.asciiLower]
  induction name generalizing t with
  | nil => simp [PassesFor]
  | cons d name ih =>
    obtain ⟨hd, hname⟩ := List.forall_mem_cons.mp h
    cases t with
    | nil => simp [PassesFor]
    | cons c t =>
      rw [PassesFor, List.forall₂_cons, ← CodePoint.toLower_eq_iff hd, List.map_cons,
        List.map_cons, List.cons.injEq]
      exact and_congr_right fun _ => ih hname

theorem passesFor_iff (h : CodePoint.kelvinSign ∉ t) :
    t.PassesFor name ↔ t.map CodePoint.asciiLower = name.map CodePoint.asciiLower := by
  induction t generalizing name with
  | nil => cases name <;> simp [PassesFor]
  | cons c t ih =>
    rw [List.mem_cons, not_or, eq_comm] at h
    cases name with
    | nil => simp [PassesFor]
    | cons d name =>
      rw [PassesFor, List.forall₂_cons, List.map_cons, List.map_cons, List.cons.injEq,
        CodePoint.PassesFor, or_iff_left fun hyp => h.1 hyp.1]
      exact and_congr_right fun _ => ih h.2

theorem PassesFor.kelvinSign_notMem (h : t.PassesFor name) (hname : name.AllAscii)
    (hk : ('k' : CodePoint) ∉ name.map CodePoint.asciiLower) : CodePoint.kelvinSign ∉ t := by
  induction h with
  | nil => exact List.not_mem_nil
  | @cons c d t name hc _ ih =>
    obtain ⟨hd, hname⟩ := List.forall_mem_cons.mp hname
    rw [List.map_cons, List.mem_cons, not_or, eq_comm] at hk
    refine List.not_mem_cons_of_ne_of_not_mem ?_ (ih hname hk.2)
    rintro rfl
    rcases hc with hsame | ⟨-, hletter⟩
    · have hbound := hsame ▸ CodePoint.asciiLower_ascii_iff.mpr hd
      exact absurd (CodePoint.asciiLower_ascii_iff.mp hbound) (by decide)
    · exact hk.1 hletter

end Text

end RequestCredentials
