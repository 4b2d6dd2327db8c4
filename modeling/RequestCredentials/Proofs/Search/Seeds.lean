import RequestCredentials.Request.Search
import RequestCredentials.Proofs.Except
/-
  Seeds — all that a search sees of a request

  A search goes to a request for the seeds of its locations and for nothing
  else. Two requests that show the same seeds cannot be told apart by it: it
  finds the same credential in both, or breaks down with the same fault, and a
  survey comes to the same outcomes.

  What is proved:
    1. `mem_sites` — the sites are locations of the credentials;
    2. `find_congr`, `survey_congr` — searches and surveys in requests with the
       same seeds (`SameSeeds`);
    3. `SameView.seed_eq` — a seed hangs on the headers and parameters that its
       location names, or on the property at its path;
    4. `unnamed_data_decides_nothing` — what else a request holds makes no
       difference to a search or a survey.
-/

namespace RequestCredentials

/-- Every location captures the same seed in both requests, or breaks down in the same way. -/
def SameSeeds (r r' : Request) (credentials : List Credential) : Prop :=
  ∀ c ∈ credentials, ∀ l ∈ c.locations, r.seed? l.source l.args = r'.seed? l.source l.args

theorem mem_sites {credentials : List Credential} {s : Site} (h : s ∈ sites credentials) :
    s.credential ∈ credentials ∧ s.location ∈ s.credential.locations := by
  obtain ⟨c, hc, hs⟩ := List.mem_flatMap.mp h
  obtain ⟨⟨l, i⟩, hl, rfl⟩ := List.mem_map.mp hs
  exact ⟨hc, List.fst_mem_of_mem_zipIdx hl⟩

section
variable {r r' : Request}

theorem Site.outcome_congr {s : Site}
    (h : r.seed? s.location.source s.location.args = r'.seed? s.location.source s.location.args) :
    s.outcome r = s.outcome r' := by
  unfold Site.outcome
  rw [h]

theorem firstMatch_congr {tried : List Site} (h : ∀ s ∈ tried, s.outcome r = s.outcome r') :
    firstMatch r tried = firstMatch r' tried := by
  induction tried with
  | nil => rfl
  | cons s rest ih =>
    obtain ⟨hs, hrest⟩ := List.forall_mem_cons.mp h
    rw [firstMatch, firstMatch, hs, ih hrest]

variable {credentials : List Credential}

theorem SameSeeds.outcome_eq (h : SameSeeds r r' credentials) :
    ∀ s ∈ sites credentials, s.outcome r = s.outcome r' := by
  intro s hs
  obtain ⟨hc, hl⟩ := mem_sites hs
  exact Site.outcome_congr (h s.credential hc s.location hl)

theorem find_congr (h : SameSeeds r r' credentials) :
    r.find credentials = r'.find credentials :=
  firstMatch_congr h.outcome_eq

theorem survey_congr (h : SameSeeds r r' credentials) :
    r.survey credentials = r'.survey credentials :=
  mapM_congr h.outcome_eq

end

/-! ## What locations name -/

/-- Both requests answer alike to all that the location asks of them: each header or parameter that
it names, or the property at its path. -/
def SameView (r r' : Request) (l : Location) : Prop :=
  match l.source with
  | .header => ∀ name ∈ l.args, r.header? name = r'.header? name
  | .query => ∀ name ∈ l.args, r.parameter? name = r'.parameter? name
  | .property => r.property? l.args = r'.property? l.args

theorem findSome_congr {f g : Text → Option Text} {names : List Text}
    (h : ∀ name ∈ names, f name = g name) : names.findSome? f = names.findSome? g := by
  induction names with
  | nil => rfl
  | cons name names ih =>
    obtain ⟨hname, hnames⟩ := List.forall_mem_cons.mp h
    rw [List.findSome?_cons, List.findSome?_cons, hname, ih hnames]

section
variable {r r' : Request}

/-- Of the headers and parameters that a location names the first that is there makes the seed, so
no other can have a part in it. -/
theorem SameView.seed_eq {l : Location} (h : SameView r r' l) :
    r.seed? l.source l.args = r'.seed? l.source l.args := by
  unfold SameView at h
  cases hsource : l.source with
  | header =>
    rw [hsource] at h
    rw [Request.seed?, Request.seed?, findSome_congr h]
  | query =>
    rw [hsource] at h
    rw [Request.seed?, Request.seed?, findSome_congr h]
  | property =>
    rw [hsource] at h
    rw [Request.seed?, Request.seed?, h]

/-- **Unnamed data decides nothing.** Two requests that show the same under every name and path of
the locations lead to the same match, to none in both, or to the same fault, and at every location
to the same outcome. -/
theorem unnamed_data_decides_nothing {credentials : List Credential}
    (h : ∀ c ∈ credentials, ∀ l ∈ c.locations, SameView r r' l) :
    r.find credentials = r'.find credentials ∧ r.survey credentials = r'.survey credentials := by
  have hseeds : SameSeeds r r' credentials := fun c hc l hl => (h c hc l hl).seed_eq
  exact ⟨find_congr hseeds, survey_congr hseeds⟩

end

/-- A letter that is taken from a header, a parameter or a property, whichever has one first. -/
def letterAnywhere : Credential where
  kind := "letter"
  keys := []
  locations := [⟨.header, ["X-Letter"], []⟩, ⟨.query, ["letter"], []⟩,
    ⟨.property, ["session", "letter"], []⟩]

/-- A letter in a property, and none in a header or parameter. -/
def letterInSession : Request :=
  ⟨[], [], [("session", .dict [("letter", .text "a")])]⟩

/-- The same letter in the same place, between data that no location names. -/
def letterAmongOthers : Request :=
  ⟨[("x-letters", "b")], [("Letter", "c")],
    [("letter", .text "d"), ("session", .dict [("user", .null), ("letter", .text "a")])]⟩

theorem unnamed_data_letter :
    (∀ c ∈ [letterAnywhere], ∀ l ∈ c.locations, SameView letterInSession letterAmongOthers l) ∧
    letterInSession.survey [letterAnywhere] = letterAmongOthers.survey [letterAnywhere] ∧
    (∃ m, letterAmongOthers.find [letterAnywhere] = .ok (some m) ∧ m.value = "a") := by
  have hview : ∀ c ∈ [letterAnywhere], ∀ l ∈ c.locations,
      SameView letterInSession letterAmongOthers l := by
    refine List.forall_mem_singleton.mpr ?_
    rw [letterAnywhere, List.forall_mem_cons, List.forall_mem_cons, List.forall_mem_singleton]
    refine ⟨?header, ?query, ?property⟩
    case header => exact List.forall_mem_singleton.mpr rfl
    case query => exact List.forall_mem_singleton.mpr rfl
    case property => rfl
  obtain ⟨hfind, hsurvey⟩ := unnamed_data_decides_nothing hview
  exact ⟨hview, hsurvey, _, hfind.symm, rfl⟩

end RequestCredentials
