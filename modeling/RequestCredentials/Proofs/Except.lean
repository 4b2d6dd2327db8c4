import Mathlib.Data.List.Forall2
/-
  Results of steps in a row — when a sequence of steps that may fail succeeds,
  and where it fails.
-/

namespace RequestCredentials

variable {α β ε ε' : Type}

theorem bind_eq_ok {x : Except ε α} {f : α → Except ε β} {b : β} :
    (x >>= f) = .ok b ↔ ∃ a, x = .ok a ∧ f a = .ok b := by
  cases x with
  | ok a => simp [bind, Except.bind]
  | error e => simp [bind, Except.bind]

theorem bind_eq_error {x : Except ε α} {f : α → Except ε β} {e : ε} :
    (x >>= f) = .error e ↔ x = .error e ∨ ∃ a, x = .ok a ∧ f a = .error e := by
  cases x with
  | ok a => simp [bind, Except.bind]
  | error e' => simp [bind, Except.bind]

theorem exists_error_iff {x : Except ε α} : (∃ e, x = .error e) ↔ ¬ ∃ a, x = .ok a := by
  cases x <;> simp

theorem guard_eq_ok {c : Prop} [Decidable c] {e : ε} {f : PUnit → Except ε α}
    {x : Except ε α} {a : α} :
    (if c then throw e >>= f else x) = .ok a ↔ ¬ c ∧ x = .ok a := by
  by_cases h : c
  · simp [h, throw, throwThe, MonadExceptOf.throw, bind, Except.bind]
  · simp [h]

theorem guard_eq_error {c : Prop} [Decidable c] {e e' : ε} {f : PUnit → Except ε α}
    {x : Except ε α} :
    (if c then throw e >>= f else x) = .error e' ↔ c ∧ e = e' ∨ ¬ c ∧ x = .error e' := by
  by_cases h : c
  · simp [h, throw, throwThe, MonadExceptOf.throw, bind, Except.bind]
  · simp [h]

theorem mapError_ok (f : ε → ε') (a : α) : (Except.ok a).mapError f = .ok a := rfl

theorem mapError_error (f : ε → ε') (e : ε) :
    (Except.error e : Except ε α).mapError f = .error (f e) := rfl

theorem mapError_eq_ok {x : Except ε α} {f : ε → ε'} {a : α} :
    x.mapError f = .ok a ↔ x = .ok a := by
  cases x <;> simp [mapError_ok, mapError_error]

theorem mapError_eq_error {x : Except ε α} {f : ε → ε'} {e : ε'} :
    x.mapError f = .error e ↔ ∃ d, x = .error d ∧ f d = e := by
  cases x <;> simp [mapError_ok, mapError_error]

/-- A map succeeds with the results of the elements in order, if none of them fails. -/
theorem mapM_eq_ok {f : α → Except ε β} {as : List α} {bs : List β} :
    as.mapM f = .ok bs ↔ List.Forall₂ (fun a b => f a = .ok b) as bs := by
  induction as generalizing bs with
  | nil =>
    rw [List.mapM_nil, List.forall₂_nil_left_iff]
    constructor
    · intro hyp
      cases hyp
      rfl
    · intro hyp
      subst hyp
      rfl
  | cons a as ih =>
    rw [List.mapM_cons, bind_eq_ok, List.forall₂_cons_left_iff]
    simp only [bind_eq_ok, ih]
    constructor
    · intro hyp
      obtain ⟨b, hb, rest, hrest, h⟩ := hyp
      cases h
      exact ⟨b, rest, hb, hrest, rfl⟩
    · intro hyp
      obtain ⟨b, rest, hb, hrest, rfl⟩ := hyp
      exact ⟨b, hb, rest, hrest, rfl⟩

theorem mapM_congr {f g : α → Except ε β} {as : List α} (h : ∀ a ∈ as, f a = g a) :
    as.mapM f = as.mapM g := by
  induction as with
  | nil => rfl
  | cons a as ih =>
    obtain ⟨ha, has⟩ := List.forall_mem_cons.mp h
    rw [List.mapM_cons, List.mapM_cons, ha, ih has]

theorem map_bind {γ : Type} (f : α → β) (x : Except ε α) (g : β → Except ε γ) :
    x.map f >>= g = x >>= fun a => g (f a) := by
  cases x <;> rfl

/-- A fold whose steps go through a part of the state goes through that part as a whole. -/
theorem foldlM_map {σ τ : Type} {step : σ → β → Except ε σ} {step' : τ → β → Except ε τ}
    {view : σ → τ} (h : ∀ s b, step' (view s) b = (step s b).map view) (s : σ) (items : List β) :
    items.foldlM step' (view s) = (items.foldlM step s).map view := by
  induction items generalizing s with
  | nil => rfl
  | cons b items ih =>
    rw [List.foldlM_cons, List.foldlM_cons, h, map_bind]
    cases step s b with
    | error e => rfl
    | ok s' => exact ih s'

/-- A fold that succeeds does so on like items, if each of its steps does. -/
theorem foldlM_alike {σ : Type} {step step' : σ → α → Except ε σ} {R : α → α → Prop}
    (h : ∀ s a a' s', R a a' → step s a = .ok s' → step' s a' = .ok s') {items items' : List α}
    (hitems : List.Forall₂ R items items') {s s' : σ} (hfold : items.foldlM step s = .ok s') :
    items'.foldlM step' s = .ok s' := by
  induction hitems generalizing s with
  | nil => exact hfold
  | cons ha _ ih =>
    rw [List.foldlM_cons, bind_eq_ok] at hfold ⊢
    obtain ⟨next, hnext, hrest⟩ := hfold
    exact ⟨next, h _ _ _ _ ha hnext, ih hrest⟩

theorem foldlM_keeps {σ : Type} {step : σ → α → Except ε σ} {P : σ → Prop}
    (hstep : ∀ s a s', P s → step s a = .ok s' → P s') {items : List α} {s s' : σ} (hstart : P s)
    (hfold : items.foldlM step s = .ok s') : P s' := by
  induction items generalizing s with
  | nil =>
    cases hfold
    exact hstart
  | cons a items ih =>
    rw [List.foldlM_cons, bind_eq_ok] at hfold
    obtain ⟨next, hnext, hrest⟩ := hfold
    exact ih (hstep s a next hstart hnext) hrest

/-- A map yields a result if each element has one. -/
theorem mapM_eq_some {f : α → Option β} {as : List α} {bs : List β} :
    as.mapM f = some bs ↔ List.Forall₂ (fun a b => f a = some b) as bs := by
  induction as generalizing bs with
  | nil => simp [eq_comm]
  | cons a as ih =>
    rw [List.mapM_cons, List.forall₂_cons_left_iff]
    simp only [Option.bind_eq_bind, Option.bind_eq_some_iff, ih]
    constructor
    · rintro ⟨b, hb, rest, hrest, h⟩
      cases h
      exact ⟨b, rest, hb, hrest, rfl⟩
    · rintro ⟨b, rest, hb, hrest, rfl⟩
      exact ⟨b, hb, rest, hrest, rfl⟩

theorem mapM_eq_some_map {f : α → Option β} {g : α → β} {as : List α}
    (h : ∀ a ∈ as, f a = some (g a)) : as.mapM f = some (as.map g) :=
  mapM_eq_some.mpr (List.forall₂_map_right_iff.mpr (List.forall₂_same.mpr h))

theorem eq_some_of_mapM {f : α → Option β} {as : List α} {bs : List β}
    (h : as.mapM f = some bs) : ∀ a ∈ as, ∃ b, f a = some b := by
  rw [mapM_eq_some] at h
  induction h with
  | nil => simp
  | cons hb _ ih => exact List.forall_mem_cons.mpr ⟨⟨_, hb⟩, ih⟩

theorem exists_of_mapM {f : α → Option β} {as : List α} {bs : List β}
    (h : as.mapM f = some bs) : ∀ b ∈ bs, ∃ a ∈ as, f a = some b := by
  rw [mapM_eq_some] at h
  induction h with
  | nil => simp
  | cons hb _ ih =>
    refine List.forall_mem_cons.mpr ⟨⟨_, List.mem_cons_self, hb⟩, ?_⟩
    intro b hmem
    obtain ⟨a, ha, hfa⟩ := ih b hmem
    exact ⟨a, List.mem_cons_of_mem _ ha, hfa⟩

end RequestCredentials
