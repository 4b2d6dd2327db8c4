import RequestCredentials.Proofs.Search.Probes
/-
  Surveys — what a search skips

  A survey comes to an outcome at every location, a search stops at the first
  match. Both go through the locations in one order: credential by credential,
  and the locations of a credential from number zero on.

  What is proved:
    1. `survey_told` — a survey tells of every location once, in order, under
       its credential and its number there (`ToldInOrder`);
    2. `firstMatch_mapM` — a search finds the first match of the survey;
    3. `find_append` — more credentials are searched for only where none was
       found before them;
    4. `survey_find` — search and survey agree.
-/

namespace RequestCredentials

/-! ## Outcomes -/

/-- The result at a location: its seed unwrapped, or a failure if there is no seed. -/
def Location.ComesTo (r : Request) (l : Location) (result : Except Failure Value) : Prop :=
  (r.seed? l.source l.args = .ok none ∧ result = .error (.unresolved l.source l.args)) ∨
    ∃ seed, r.seed? l.source l.args = .ok (some seed) ∧ result = l.unwrap seed

/-- The outcome is that of the credential's location with this number. A match is there just where
the result is a value with an accepted string. -/
structure Outcome.TellsOf (r : Request) (c : Credential) (l : Location) (index : Nat)
    (o : Outcome) : Prop where
  kind_eq : o.kind = c.kind
  location_eq : o.location = l
  index_eq : o.index = index
  comesTo : l.ComesTo r o.result
  found_iff : ∀ m, o.found = some m ↔ ∃ v value, o.result = .ok v ∧
    acceptedString? c.keys v = .ok (some value) ∧ m = ⟨c.kind, value, l, index⟩

/-- There is one outcome for each location of the credential, in order. -/
def Credential.Told (r : Request) (c : Credential) (block : List Outcome) : Prop :=
  block.length = c.locations.length ∧
    ∀ index l o, c.locations[index]? = some l → block[index]? = some o →
      Outcome.TellsOf r c l index o

/-- The outcomes are those of one credential after another. -/
def ToldInOrder (r : Request) (credentials : List Credential) (outcomes : List Outcome) : Prop :=
  ∃ blocks, outcomes = blocks.flatten ∧ List.Forall₂ (Credential.Told r) credentials blocks

theorem Site.outcome_tellsOf {r : Request} {s : Site} {o : Outcome} (h : s.outcome r = .ok o) :
    Outcome.TellsOf r s.credential s.location s.index o := by
  rw [Site.outcome, bind_eq_ok] at h
  obtain ⟨found, hs, h⟩ := h
  cases found with
  | none =>
    cases h
    exact ⟨rfl, rfl, rfl, .inl ⟨hs, rfl⟩, by simp⟩
  | some seed =>
    dsimp only at h
    cases hv : s.location.unwrap seed with
    | error failure =>
      rw [hv] at h
      cases h
      exact ⟨rfl, rfl, rfl, .inr ⟨seed, hs, hv.symm⟩, by simp⟩
    | ok v =>
      rw [hv] at h
      obtain ⟨accepted, ha, h⟩ := bind_eq_ok.mp h
      cases h
      refine ⟨rfl, rfl, rfl, .inr ⟨seed, hs, hv.symm⟩, ?_⟩
      intro m
      cases accepted <;> simp [ha, eq_comm]

/-! ## Order -/

theorem Credential.told_of_mapM {r : Request} {c : Credential} {block : List Outcome}
    (h : c.sites.mapM (Site.outcome r) = .ok block) : c.Told r block := by
  have hall := mapM_eq_ok.mp h
  rw [Credential.sites, List.forall₂_map_left_iff] at hall
  have hlength := hall.length_eq
  rw [List.length_zipIdx] at hlength
  refine ⟨hlength.symm, ?_⟩
  intro index l o hl ho
  obtain ⟨hi, rfl⟩ := List.getElem?_eq_some_iff.mp hl
  obtain ⟨hj, rfl⟩ := List.getElem?_eq_some_iff.mp ho
  have hat := hall.get (by rwa [List.length_zipIdx]) hj
  simp only [List.get_eq_getElem, List.getElem_zipIdx, Nat.zero_add] at hat
  exact Site.outcome_tellsOf hat

theorem sites_cons (c : Credential) (rest : List Credential) :
    sites (c :: rest) = c.sites ++ sites rest := List.flatMap_cons

theorem sites_append (first second : List Credential) :
    sites (first ++ second) = sites first ++ sites second := List.flatMap_append

theorem survey_told {r : Request} {credentials : List Credential} {outcomes : List Outcome}
    (h : r.survey credentials = .ok outcomes) : ToldInOrder r credentials outcomes := by
  induction credentials generalizing outcomes with
  | nil =>
    cases h
    exact ⟨[], rfl, .nil⟩
  | cons c rest ih =>
    rw [Request.survey, sites_cons, List.mapM_append, bind_eq_ok] at h
    obtain ⟨block, hc, h⟩ := h
    obtain ⟨others, hrest, h⟩ := bind_eq_ok.mp h
    cases h
    obtain ⟨blocks, rfl, hall⟩ := ih hrest
    exact ⟨block :: blocks, rfl, .cons (c.told_of_mapM hc) hall⟩

/-! ## First matches -/

/-- A search finds the first match among the outcomes. -/
theorem firstMatch_mapM {r : Request} {tried : List Site} {outcomes : List Outcome}
    (h : tried.mapM (Site.outcome r) = .ok outcomes) :
    firstMatch r tried = .ok (outcomes.findSome? Outcome.found) := by
  induction tried generalizing outcomes with
  | nil =>
    cases h
    rfl
  | cons s rest ih =>
    rw [List.mapM_cons, bind_eq_ok] at h
    obtain ⟨o, ho, h⟩ := h
    obtain ⟨others, hrest, h⟩ := bind_eq_ok.mp h
    cases h
    rw [firstMatch, ho, List.findSome?_cons]
    cases hf : o.found with
    | some m => simp [bind, Except.bind, hf, pure, Except.pure]
    | none => simpa [bind, Except.bind, hf] using ih hrest

theorem firstMatch_append (r : Request) (first second : List Site) :
    firstMatch r (first ++ second) = (do
      match ← firstMatch r first with
      | some m => return some m
      | none => firstMatch r second) := by
  induction first with
  | nil => rfl
  | cons s rest ih =>
    rw [List.cons_append, firstMatch, firstMatch, ih]
    cases s.outcome r with
    | error fault => rfl
    | ok o => cases hf : o.found <;> simp [bind, Except.bind, hf, pure, Except.pure]

theorem find_append (r : Request) (first second : List Credential) :
    r.find (first ++ second) = (do
      match ← r.find first with
      | some m => return some m
      | none => r.find second) := by
  rw [Request.find, sites_append]
  exact firstMatch_append r (sites first) (sites second)

/-! ## Agreement -/

/-- **Search and survey agree.** A survey with an answer tells of every location once and in order.
The search then finds the first match of the survey, and with more credentials behind these it
finds the same, or what it finds in those if there is no match. -/
theorem survey_find (r : Request) (credentials : List Credential) (outcomes : List Outcome)
    (h : r.survey credentials = .ok outcomes) :
    ToldInOrder r credentials outcomes ∧
      r.find credentials = .ok (outcomes.findSome? Outcome.found) ∧
      ∀ more,
        (∀ m, r.find credentials = .ok (some m) → r.find (credentials ++ more) = .ok (some m)) ∧
        (r.find credentials = .ok none → r.find (credentials ++ more) = r.find more) := by
  refine ⟨survey_told h, firstMatch_mapM h, ?_⟩
  intro more
  constructor
  · intro m hm
    rw [find_append, hm]
    rfl
  · intro hn
    rw [find_append, hn]
    rfl

/-- A key in a header or a query parameter, and any text in another header. -/
def keyOrSecond : List Credential :=
  [⟨"k1", ["a"], [⟨.header, ["x"], []⟩, ⟨.query, ["q"], [.lookup (.key "b")]⟩]⟩,
    ⟨"k2", [], [⟨.header, ["y"], []⟩]⟩]

/-- A request without the first header, and with another text in the parameter. -/
def secondOnly : Request := ⟨[("y", "v")], [("q", "c")], []⟩

/-- The survey tells of two locations without a match; the search finds the third, which is number
zero of its credential. -/
theorem survey_find_secondOnly :
    ∃ outcomes, secondOnly.survey keyOrSecond = .ok outcomes ∧ outcomes.length = 3 ∧
      ToldInOrder secondOnly keyOrSecond outcomes ∧
      outcomes.findSome? Outcome.found = some ⟨"k2", "v", ⟨.header, ["y"], []⟩, 0⟩ ∧
      ∀ more, secondOnly.find (keyOrSecond ++ more) =
        .ok (some ⟨"k2", "v", ⟨.header, ["y"], []⟩, 0⟩) := by
  obtain ⟨outcomes, hs, hl, hf⟩ : ∃ outcomes, secondOnly.survey keyOrSecond = .ok outcomes ∧
      outcomes.length = 3 ∧
      outcomes.findSome? Outcome.found = some ⟨"k2", "v", ⟨.header, ["y"], []⟩, 0⟩ :=
    ⟨_, rfl, rfl, rfl⟩
  obtain ⟨ht, hfind, hmore⟩ := survey_find secondOnly keyOrSecond outcomes hs
  exact ⟨outcomes, hs, hl, ht, hf, fun more => (hmore more).1 _ (hfind.trans (congrArg _ hf))⟩

end RequestCredentials
