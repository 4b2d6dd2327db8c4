import RequestCredentials.Proofs.Search.Breakdown
/-
  Searches as sequences of probes

  What a location yields does not depend on its number, nor on the other
  locations of its credential: only the kind and the keys of the credential
  and the location itself count, and these make up a `Probe`. A search is a
  walk through the probes of all credentials (`firstYield`), apart from the
  number that it notes with a match.

  What is proved:
    1. `find_essence` — a search finds the kind, value and location that the
       walk through the probes gives;
    2. `find_isError` — it breaks down exactly when a probe does before one
       yields a string (`SearchBreaksDown`);
    3. `survey_isOk` — where a search finds nothing, every location can be told
       of.
-/

namespace RequestCredentials

/-- What a match says, apart from the number of its location. -/
def Match.essence (m : Match) : Text × Text × Location := (m.kind, m.value, m.location)

def Credential.probes (c : Credential) : List Probe := c.locations.map fun l => ⟨c.kind, c.keys, l⟩

/-- The probes of all credentials, in order. -/
def probes (credentials : List Credential) : List Probe := credentials.flatMap Credential.probes

namespace Site

def probe (s : Site) : Probe := ⟨s.credential.kind, s.credential.keys, s.location⟩

/-- The match of a site that yields the string. -/
def matched (s : Site) (value : Text) : Match := ⟨s.credential.kind, value, s.location, s.index⟩

/-- The match at a site is made of the string that its probe yields. -/
theorem outcome_found (r : Request) (s : Site) :
    (s.outcome r).map Outcome.found = (s.probe.yield? r).map (Option.map s.matched) := by
  simp only [outcome, Probe.yield?, probe]
  cases r.seed? s.location.source s.location.args with
  | error fault => rfl
  | ok found =>
    cases found with
    | none => rfl
    | some seed =>
      cases hv : s.location.unwrap seed with
      | error failure => simp [bind, Except.bind, pure, Except.pure, Except.map, hv]
      | ok v =>
        simp only [bind, Except.bind, hv]
        cases acceptedString? s.credential.keys v with
        | error fault => rfl
        | ok accepted => cases accepted <;> rfl

/-- The outcome at a site is a match. -/
def Matches (r : Request) (s : Site) : Prop := ∃ o m, s.outcome r = .ok o ∧ o.found = some m

theorem matches_iff {r : Request} {s : Site} :
    s.Matches r ↔ ∃ value, s.probe.yield? r = .ok (some value) := by
  have h := outcome_found r s
  constructor
  · intro hyp
    obtain ⟨o, m, ho, hm⟩ := hyp
    rw [ho, Except.map, hm] at h
    cases hy : s.probe.yield? r with
    | error fault => simp [hy, Except.map] at h
    | ok found => cases found with
      | none => simp [hy, Except.map] at h
      | some value => exact ⟨value, rfl⟩
  · intro hyp
    obtain ⟨value, hy⟩ := hyp
    rw [hy] at h
    cases ho : s.outcome r with
    | error fault => simp [ho, Except.map] at h
    | ok o => exact ⟨o, s.matched value, ho, by simpa [ho, Except.map] using h⟩

end Site

theorem sites_probe (credentials : List Credential) :
    (sites credentials).map Site.probe = probes credentials := by
  rw [sites, probes, List.map_flatMap]
  congr 1
  funext c
  have h : c.probes = ((c.locations.zipIdx).map Prod.fst).map fun l => ⟨c.kind, c.keys, l⟩ := by
    rw [List.zipIdx_map_fst, Credential.probes]
  rw [h, Credential.sites, List.map_map, List.map_map]
  rfl

/-! ## Walks -/

/-- The kind, value and location of the first probe that yields a string. -/
def firstYield (r : Request) : List Probe → Except Fault (Option (Text × Text × Location))
  | [] => .ok none
  | p :: rest => do
    match ← p.yield? r with
    | some value => return some (p.kind, value, p.location)
    | none => firstYield r rest

theorem firstMatch_essence (r : Request) (sites : List Site) :
    (firstMatch r sites).map (Option.map Match.essence) = firstYield r (sites.map Site.probe) := by
  induction sites with
  | nil => rfl
  | cons s rest ih =>
    have h := s.outcome_found r
    simp only [firstMatch, List.map_cons, firstYield]
    cases hy : s.probe.yield? r with
    | error fault =>
      cases ho : s.outcome r with
      | error fault' => simp_all [Except.map, bind, Except.bind]
      | ok o => simp [ho, hy, Except.map] at h
    | ok found =>
      cases ho : s.outcome r with
      | error fault' => simp [ho, hy, Except.map] at h
      | ok o =>
        simp only [ho, hy, Except.map, Except.ok.injEq] at h
        cases found with
        | none => simpa [bind, Except.bind, h] using ih
        | some value =>
          simp [bind, Except.bind, pure, Except.pure, Except.map, h, Site.matched, Site.probe,
            Match.essence]

theorem find_essence (r : Request) (credentials : List Credential) :
    (r.find credentials).map (Option.map Match.essence) = firstYield r (probes credentials) := by
  rw [Request.find, firstMatch_essence, sites_probe]

/-! ## Breakdowns of searches -/

/-- A location has no answer, and none that is tried before it yields a string. -/
def SearchBreaksDown (r : Request) (credentials : List Credential) : Prop :=
  StopsIn (fun p => p.yield? r = .ok none) (Probe.BreaksDown r) (probes credentials)

theorem firstYield_isError (r : Request) (probes : List Probe) :
    (∃ fault, firstYield r probes = .error fault) ↔
      StopsIn (fun p => p.yield? r = .ok none) (Probe.BreaksDown r) probes := by
  induction probes with
  | nil => simp [firstYield, not_stopsIn_nil]
  | cons p rest ih =>
    rw [stopsIn_cons, ← ih, ← Probe.yield_isError, firstYield]
    cases hy : p.yield? r with
    | error fault => simp [bind, Except.bind]
    | ok found => cases found <;> simp [bind, Except.bind, pure, Except.pure]

theorem find_isError {r : Request} {credentials : List Credential} :
    (∃ fault, r.find credentials = .error fault) ↔ SearchBreaksDown r credentials := by
  rw [SearchBreaksDown, ← firstYield_isError, ← find_essence]
  cases r.find credentials <;> simp [Except.map]

theorem find_isOk {r : Request} {credentials : List Credential} :
    (∃ found, r.find credentials = .ok found) ↔ ¬ SearchBreaksDown r credentials := by
  rw [← find_isError, exists_error_iff, not_not]

/-- Where a search finds nothing, it has come to the outcome of every location. -/
theorem survey_isOk {r : Request} {credentials : List Credential}
    (h : r.find credentials = .ok none) : ∃ outcomes, r.survey credentials = .ok outcomes := by
  rw [Request.find] at h
  rw [Request.survey]
  generalize sites credentials = tried at h ⊢
  induction tried with
  | nil => exact ⟨[], rfl⟩
  | cons s rest ih =>
    simp only [firstMatch, bind_eq_ok] at h
    obtain ⟨o, ho, h⟩ := h
    cases hf : o.found with
    | some m => simp [hf, pure, Except.pure] at h
    | none =>
      obtain ⟨outcomes, hr⟩ := ih (by simpa [hf] using h)
      exact ⟨o :: outcomes, by simp [List.mapM_cons, ho, hr, bind, Except.bind, pure, Except.pure]⟩

end RequestCredentials
