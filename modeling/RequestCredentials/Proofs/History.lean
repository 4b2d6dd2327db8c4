/-
  Histories — what the last of some events has left

  A machine takes one step on every event of a run. Some events give something
  to a part of its state, and all other events leave that part as it is. After
  the run, the part is what the last event gave that gave anything, or what it
  was at the start.

  What is proved:
    1. `lastGives_cons` — the last event that gives anything is found in the
       rest of the run, or is the first one;
    2. `lastGives_unique` — there is at most one;
    3. `run_gives` — from what one step does to a part of the state, what a run
       does.
-/

namespace RequestCredentials

section

variable {σ ε α : Type} (step : σ → ε → σ) (gives? : σ → ε → Option α)

/-- No event of the run gives anything. -/
def NeverGives (s : σ) (events : List ε) : Prop :=
  ∀ before e after, events = before ++ e :: after → gives? (before.foldl step s) e = none

/-- The last event of the run that gives anything gives `a`. -/
def LastGives (s : σ) (events : List ε) (a : α) : Prop :=
  ∃ before e after, events = before ++ e :: after ∧ gives? (before.foldl step s) e = some a ∧
    NeverGives step gives? (step (before.foldl step s) e) after

variable {step gives?} {s : σ} {e : ε} {rest events : List ε} {a b : α}

theorem neverGives_nil : NeverGives step gives? s [] := by
  intro before e after h
  exact absurd h.symm (List.append_ne_nil_of_right_ne_nil before (List.cons_ne_nil e after))

theorem neverGives_cons :
    NeverGives step gives? s (e :: rest) ↔
      gives? s e = none ∧ NeverGives step gives? (step s e) rest := by
  constructor
  · intro h
    refine ⟨h [] e rest rfl, ?_⟩
    intro before d after hr
    exact h (e :: before) d after (by rw [hr, List.cons_append])
  · intro h before d after hr
    cases before with
    | nil =>
      cases hr
      exact h.1
    | cons c before =>
      cases hr
      exact h.2 before d after rfl

theorem not_lastGives_nil : ¬ LastGives step gives? s [] a := by
  intro hyp
  obtain ⟨before, e, after, h, -⟩ := hyp
  exact List.append_ne_nil_of_right_ne_nil before (List.cons_ne_nil e after) h.symm

theorem lastGives_cons :
    LastGives step gives? s (e :: rest) a ↔
      LastGives step gives? (step s e) rest a ∨
        gives? s e = some a ∧ NeverGives step gives? (step s e) rest := by
  constructor
  · intro hyp
    obtain ⟨before, d, after, h, hd, hn⟩ := hyp
    cases before with
    | nil =>
      cases h
      exact .inr ⟨hd, hn⟩
    | cons c before =>
      cases h
      exact .inl ⟨before, d, after, rfl, hd, hn⟩
  · intro hyp
    rcases hyp with ⟨before, d, after, rfl, hd, hn⟩ | ⟨hd, hn⟩
    · exact ⟨e :: before, d, after, rfl, hd, hn⟩
    · exact ⟨[], e, rest, rfl, hd, hn⟩

theorem NeverGives.not_lastGives (h : NeverGives step gives? s events) :
    ¬ LastGives step gives? s events a := by
  intro hyp
  obtain ⟨before, e, after, he, hd, -⟩ := hyp
  rw [h before e after he] at hd
  cases hd

/-- Only one thing is given last. -/
theorem lastGives_unique (ha : LastGives step gives? s events a)
    (hb : LastGives step gives? s events b) : a = b := by
  induction events generalizing s with
  | nil => exact absurd ha not_lastGives_nil
  | cons e rest ih =>
    rcases lastGives_cons.mp ha with ha | ⟨ha, hn⟩
    · rcases lastGives_cons.mp hb with hb | ⟨-, hn⟩
      · exact ih ha hb
      · exact absurd ha hn.not_lastGives
    · rcases lastGives_cons.mp hb with hb | ⟨hb, -⟩
      · exact absurd hb hn.not_lastGives
      · rw [ha] at hb
        exact Option.some.inj hb

/-- **From steps to runs.** Let every step hold what its event gives, or else go on holding what
was held before. Then a run holds what its last event gave that gave anything, or else what was
held at the start. -/
theorem run_gives {Holds : σ → α → Prop}
    (hstep : ∀ s e a, Holds s a → Holds (step s e) ((gives? s e).getD a)) (h : Holds s a)
    (events : List ε) :
    (∃ b, LastGives step gives? s events b ∧ Holds (events.foldl step s) b) ∨
      NeverGives step gives? s events ∧ Holds (events.foldl step s) a := by
  induction events generalizing s a with
  | nil => exact .inr ⟨neverGives_nil, h⟩
  | cons e rest ih =>
    rw [List.foldl_cons]
    rcases ih (hstep s e a h) with ⟨b, hb, hh⟩ | ⟨hn, hh⟩
    · exact .inl ⟨b, lastGives_cons.mpr (.inl hb), hh⟩
    · -- Nothing is given in the rest, so the first event decides.
      cases hg : gives? s e with
      | some b =>
        rw [hg, Option.getD_some] at hh
        exact .inl ⟨b, lastGives_cons.mpr (.inr ⟨hg, hn⟩), hh⟩
      | none =>
        rw [hg, Option.getD_none] at hh
        exact .inr ⟨neverGives_cons.mpr ⟨hg, hn⟩, hh⟩

end

end RequestCredentials
