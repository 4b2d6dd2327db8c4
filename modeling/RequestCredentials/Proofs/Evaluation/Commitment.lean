import RequestCredentials.Proofs.Evaluation.Blame
/-
  Commitment — an alternation takes its first branch that succeeds, and keeps to it

  What follows an alternation runs on the result of the branch that was taken.
  If it fails there, no other branch is tried. When it is written at the end of
  every branch instead, the branch is taken only if all of it succeeds. So a
  sequence that is pushed into the branches succeeds wherever it did behind the
  alternation, with the same result, and now and then where it did not.

  What is proved:
    1. `run_append_eq_ok` — a sequence succeeds when its two parts do in turn;
    2. `firstSuccess_eq_ok` — which branch is taken;
    3. `firstSuccess_continued` — what the continued branches come to: the same
       as the alternation and then the suffix, or what a branch behind the one
       taken comes to;
    4. `suffix_pushed` — whole sequences, with anything before the alternation.
-/

namespace RequestCredentials

/-- Each branch with the suffix behind it. -/
def continued (branches : List (List Operation)) (suffix : List Operation) :
    List (List Operation) :=
  branches.map (· ++ suffix)

/-- On `v`, all branches in `before` fail and the next one, `taken`, comes to `w`. -/
structure Commits (v : Value) (before : List (List Operation)) (taken : List Operation)
    (w : Value) : Prop where
  passed : ∀ branch ∈ before, ∃ failure, run v branch = .error failure
  comes : run v taken = .ok w

/-! ## Sequences in two parts -/

section
variable {v w : Value} {first second : List Operation}

theorem run_append_eq_ok :
    run v (first ++ second) = .ok w ↔ ∃ u, run v first = .ok u ∧ run u second = .ok w := by
  rw [run_append]
  cases run v first with
  | ok u => simp
  | error failure => simp

theorem run_append_isError (h : ∃ failure, run v first = .error failure) :
    ∃ failure, run v (first ++ second) = .error failure := by
  obtain ⟨failure, hfirst⟩ := h
  refine ⟨failure, ?_⟩
  rw [run_append, hfirst]

end

/-! ## The branch that is taken -/

section
variable {v w : Value} {branches : List (List Operation)}

theorem apply_alternation_eq_ok :
    (Operation.alternation branches).apply v = .ok w ↔ firstSuccess v branches = .ok w := by
  rw [Operation.apply]
  cases firstSuccess v branches with
  | ok u => simp
  | error failures => simp

theorem run_alternation_eq_ok :
    run v [.alternation branches] = .ok w ↔ firstSuccess v branches = .ok w := by
  rw [← apply_alternation_eq_ok, run]
  cases (Operation.alternation branches).apply v with
  | ok u => rfl
  | error failure => rfl

theorem firstSuccess_passed {before : List (List Operation)}
    (h : ∀ branch ∈ before, ∃ failure, run v branch = .error failure)
    (rest : List (List Operation)) :
    firstSuccess v (before ++ rest) = .ok w ↔ firstSuccess v rest = .ok w := by
  induction before with
  | nil => rfl
  | cons branch before ih =>
    obtain ⟨⟨failure, hbranch⟩, hbefore⟩ := List.forall_mem_cons.mp h
    rw [List.cons_append, firstSuccess, hbranch]
    show (firstSuccess v (before ++ rest)).mapError _ = .ok w ↔ _
    rw [mapError_eq_ok]
    exact ih hbefore

theorem firstSuccess_cons_ok {taken : List Operation} (h : run v taken = .ok w)
    (rest : List (List Operation)) : firstSuccess v (taken :: rest) = .ok w := by
  rw [firstSuccess, h]

theorem firstSuccess_eq_ok :
    firstSuccess v branches = .ok w ↔
      ∃ before taken after, branches = before ++ taken :: after ∧ Commits v before taken w := by
  constructor
  · intro h
    induction branches with
    | nil => cases h
    | cons branch rest ih =>
      cases hbranch : run v branch with
      | ok u =>
        rw [firstSuccess_cons_ok hbranch] at h
        obtain rfl : u = w := Except.ok.inj h
        exact ⟨[], branch, rest, rfl, by simp, hbranch⟩
      | error failure =>
        have hfails : ∀ b ∈ [branch], ∃ failure, run v b = .error failure := by simp [hbranch]
        obtain ⟨before, taken, after, hrest, hcommits⟩ :=
          ih ((firstSuccess_passed hfails rest).mp h)
        refine ⟨branch :: before, taken, after, by rw [hrest, List.cons_append], ?_,
          hcommits.comes⟩
        exact List.forall_mem_cons.mpr ⟨⟨failure, hbranch⟩, hcommits.passed⟩
  · intro hyp
    obtain ⟨before, taken, after, rfl, hcommits⟩ := hyp
    apply (firstSuccess_passed hcommits.passed _).mpr
    exact firstSuccess_cons_ok hcommits.comes after

end

/-! ## Continued branches -/

section
variable {v w t : Value} {before : List (List Operation)} {taken : List Operation}
  (after : List (List Operation)) {suffix : List Operation}

theorem continued_append (before after : List (List Operation)) (taken suffix : List Operation) :
    continued (before ++ taken :: after) suffix =
      continued before suffix ++ (taken ++ suffix) :: continued after suffix := by
  rw [continued, List.map_append, List.map_cons]
  rfl

theorem continued_isError {branches : List (List Operation)}
    (h : ∀ branch ∈ branches, ∃ failure, run v branch = .error failure) :
    ∀ branch ∈ continued branches suffix, ∃ failure, run v branch = .error failure := by
  intro longer hmem
  obtain ⟨branch, hbranch, rfl⟩ := List.mem_map.mp hmem
  exact run_append_isError (h branch hbranch)

theorem Commits.continued_eq_ok (h : Commits v before taken t) (hsuffix : run t suffix = .ok w) :
    firstSuccess v (continued (before ++ taken :: after) suffix) = .ok w := by
  rw [continued_append]
  apply (firstSuccess_passed (continued_isError h.passed) _).mpr
  apply firstSuccess_cons_ok
  exact run_append_eq_ok.mpr ⟨t, h.comes, hsuffix⟩

/-- If the suffix fails behind the branch taken, the branches behind that one are tried. -/
theorem Commits.continued_moves_on (h : Commits v before taken t)
    (hsuffix : ∃ failure, run t suffix = .error failure) :
    firstSuccess v (continued (before ++ taken :: after) suffix) = .ok w ↔
      firstSuccess v (continued after suffix) = .ok w := by
  have hfails : ∀ branch ∈ [taken ++ suffix], ∃ failure, run v branch = .error failure := by
    obtain ⟨failure, hfailure⟩ := hsuffix
    intro branch hbranch
    obtain rfl := List.mem_singleton.mp hbranch
    refine ⟨failure, ?_⟩
    rw [run_append, h.comes]
    exact hfailure
  rw [continued_append, firstSuccess_passed (continued_isError h.passed)]
  -- Now the branch that was taken stands first, and it fails.
  exact firstSuccess_passed hfails _

end

/-- A branch before the one that wins is taken, but the suffix fails behind it; the continued
branches behind that one come to `w`. -/
def Recovers (v : Value) (branches : List (List Operation)) (suffix : List Operation)
    (w : Value) : Prop :=
  ∃ before taken after t, branches = before ++ taken :: after ∧ Commits v before taken t ∧
    (∃ failure, run t suffix = .error failure) ∧
    firstSuccess v (continued after suffix) = .ok w

section
variable {v w : Value} {branches : List (List Operation)} {suffix : List Operation}

/-- Continued branches come to what the alternation and then the suffix come to, or they recover
where the suffix fails. -/
theorem firstSuccess_continued :
    firstSuccess v (continued branches suffix) = .ok w ↔
      (∃ t, firstSuccess v branches = .ok t ∧ run t suffix = .ok w) ∨
        Recovers v branches suffix w := by
  constructor
  · intro h
    cases hchoice : firstSuccess v branches with
    | error failures =>
      have hall := firstSuccess_isError.mp ⟨failures, hchoice⟩
      obtain ⟨failures', herror⟩ := firstSuccess_isError.mpr (continued_isError hall)
      rw [h] at herror
      cases herror
    | ok t =>
      obtain ⟨before, taken, after, rfl, hcommits⟩ := firstSuccess_eq_ok.mp hchoice
      cases hsuffix : run t suffix with
      | ok w' =>
        rw [hcommits.continued_eq_ok after hsuffix] at h
        obtain rfl : w' = w := Except.ok.inj h
        exact .inl ⟨t, rfl, hsuffix⟩
      | error failure =>
        have hrest := (hcommits.continued_moves_on after ⟨failure, hsuffix⟩).mp h
        exact .inr ⟨before, taken, after, t, rfl, hcommits, ⟨failure, hsuffix⟩, hrest⟩
  · intro hyp
    rcases hyp with ⟨t, hchoice, hsuffix⟩ | ⟨before, taken, after, t, rfl, hcommits, hfails, hrest⟩
    · obtain ⟨before, taken, after, rfl, hcommits⟩ := firstSuccess_eq_ok.mp hchoice
      exact hcommits.continued_eq_ok after hsuffix
    · exact (hcommits.continued_moves_on after hfails).mpr hrest

/-- Where the branches recover, the suffix fails behind the alternation. -/
theorem Recovers.not_behind (h : Recovers v branches suffix w) :
    ¬ ∃ w' t, firstSuccess v branches = .ok t ∧ run t suffix = .ok w' := by
  obtain ⟨before, taken, after, t, rfl, hcommits, ⟨failure, hfails⟩, -⟩ := h
  intro hyp
  obtain ⟨w', t', hchoice, hsuffix⟩ := hyp
  rw [firstSuccess_eq_ok.mpr ⟨before, taken, after, rfl, hcommits⟩] at hchoice
  cases hchoice
  rw [hfails] at hsuffix
  cases hsuffix

end

/-! ## Whole sequences -/

section
variable {v w : Value} {opening suffix : List Operation} {branches : List (List Operation)}

theorem run_behind_eq_ok :
    run v (opening ++ [.alternation branches] ++ suffix) = .ok w ↔
      ∃ u, run v opening = .ok u ∧ ∃ t, firstSuccess u branches = .ok t ∧ run t suffix = .ok w := by
  simp only [List.append_assoc, run_append_eq_ok, run_alternation_eq_ok]

theorem run_pushed_eq_ok :
    run v (opening ++ [.alternation (continued branches suffix)]) = .ok w ↔
      ∃ u, run v opening = .ok u ∧ firstSuccess u (continued branches suffix) = .ok w := by
  simp only [run_append_eq_ok, run_alternation_eq_ok]

end

/-- **A suffix can be pushed into the branches.** What an alternation with a suffix behind it comes
to, it also comes to with the suffix at the end of each branch; and if it fails in the second form,
it fails in the first. The two differ exactly where the branch that is taken does not carry on but a
continued branch behind it does: the first form never goes back to another branch. -/
theorem suffix_pushed (v : Value) (opening : List Operation) (branches : List (List Operation))
    (suffix : List Operation) :
    (∀ w, run v (opening ++ [.alternation branches] ++ suffix) = .ok w →
      run v (opening ++ [.alternation (continued branches suffix)]) = .ok w) ∧
    ((∃ failure, run v (opening ++ [.alternation (continued branches suffix)]) = .error failure) →
      ∃ failure, run v (opening ++ [.alternation branches] ++ suffix) = .error failure) ∧
    ∀ w, (run v (opening ++ [.alternation (continued branches suffix)]) = .ok w ∧
        ∃ failure, run v (opening ++ [.alternation branches] ++ suffix) = .error failure) ↔
      ∃ u, run v opening = .ok u ∧ Recovers u branches suffix w := by
  have hpush : ∀ w, run v (opening ++ [.alternation branches] ++ suffix) = .ok w →
      run v (opening ++ [.alternation (continued branches suffix)]) = .ok w := by
    intro w h
    obtain ⟨u, hopening, hbehind⟩ := run_behind_eq_ok.mp h
    exact run_pushed_eq_ok.mpr ⟨u, hopening, firstSuccess_continued.mpr (.inl hbehind)⟩
  refine ⟨hpush, ?_, ?_⟩
  · rw [exists_error_iff, exists_error_iff]
    exact mt fun ⟨w, h⟩ => ⟨w, hpush w h⟩
  · intro w
    rw [exists_error_iff]
    constructor
    · intro hyp
      obtain ⟨hpushed, hfails⟩ := hyp
      obtain ⟨u, hopening, hchoice⟩ := run_pushed_eq_ok.mp hpushed
      rcases firstSuccess_continued.mp hchoice with hbehind | hrecovers
      · exact absurd ⟨w, run_behind_eq_ok.mpr ⟨u, hopening, hbehind⟩⟩ hfails
      · exact ⟨u, hopening, hrecovers⟩
    · intro hyp
      obtain ⟨u, hopening, hrecovers⟩ := hyp
      refine ⟨run_pushed_eq_ok.mpr ⟨u, hopening, firstSuccess_continued.mpr (.inr hrecovers)⟩, ?_⟩
      intro hok
      obtain ⟨w', h⟩ := hok
      obtain ⟨u', hopening', hbehind⟩ := run_behind_eq_ok.mp h
      rw [hopening] at hopening'
      cases hopening'
      exact hrecovers.not_behind ⟨w', hbehind⟩

/-- Base64 of the letter `b`, or what a nested alternation makes of the text: JSON, or Base64. -/
def nestedChoice : List (List Operation) :=
  [[.decode .base64, .lookup (.key "b")], [.alternation [[.decode .json], [.decode .base64]]]]

/-- The encoded letter `a` comes through the second branch in both forms; the encoded letter `c`
comes through neither, since it fails behind every branch. -/
theorem suffix_pushed_nestedChoice :
    run (.text (.chars "YQ==")) ([.decode .text] ++ [.alternation nestedChoice] ++
        [.lookup (.key "a")]) = .ok (.text (.bytes [0x61])) ∧
      run (.text (.chars "YQ==")) ([.decode .text] ++
        [.alternation (continued nestedChoice [.lookup (.key "a")])]) =
          .ok (.text (.bytes [0x61])) ∧
      ∃ failure, run (.text (.chars "Yw==")) ([.decode .text] ++ [.alternation nestedChoice] ++
        [.lookup (.key "a")]) = .error failure := by
  have hletter : run (.text (.chars "YQ==")) ([.decode .text] ++ [.alternation nestedChoice] ++
      [.lookup (.key "a")]) = .ok (.text (.bytes [0x61])) := by rfl
  have hother : ∃ failure, run (.text (.chars "Yw==")) ([.decode .text] ++
      [.alternation (continued nestedChoice [.lookup (.key "a")])]) = .error failure := ⟨_, rfl⟩
  obtain ⟨hpush, -, -⟩ := suffix_pushed (.text (.chars "YQ==")) [.decode .text] nestedChoice
    [.lookup (.key "a")]
  obtain ⟨-, hfail, -⟩ := suffix_pushed (.text (.chars "Yw==")) [.decode .text] nestedChoice
    [.lookup (.key "a")]
  exact ⟨hletter, hpush _ hletter, hfail hother⟩

/-- The text is taken as it is, and then it is not the letter; decoded it is. -/
example : (run (.text (.chars "YQ==")) [.alternation [[], [.decode .base64]],
      .lookup (.key "a")]).toBool = false ∧
    (run (.text (.chars "YQ==")) [.alternation (continued [[], [.decode .base64]]
      [.lookup (.key "a")])]).toBool = true := by decide +kernel

end RequestCredentials
