import RequestCredentials.Proofs.Search.Probes
/-
  Deleting locations

  A location that yields no string can be deleted, and the search finds the
  same credential. There is one exception: a location that breaks down stops
  the search, and the credential that stands behind it is found only once the
  location is gone.

  What is proved:
    1. `probes_dropLocation` — a deletion takes one probe out of the sequence;
    2. `firstYield_remove` — a probe that yields no string can be taken out of
       a walk that comes to an end;
    3. `find_total_iff` — a search always has an answer, and none of the
       locations without a match matters to it, exactly when it does not break
       down;
    4. `find_stray_byte` — a header with a byte that is not UTF-8 breaks a
       search down.
-/

namespace RequestCredentials

/-- The credentials without location `i` of credential `n`. -/
def dropLocation (credentials : List Credential) (n i : Nat) : List Credential :=
  credentials.modify n fun c => { c with locations := c.locations.eraseIdx i }

theorem Credential.probes_eraseIdx {c : Credential} {i : Nat} {l : Location}
    (h : c.locations[i]? = some l) :
    ∃ before after, c.probes = before ++ ⟨c.kind, c.keys, l⟩ :: after ∧
      Credential.probes { c with locations := c.locations.eraseIdx i } = before ++ after := by
  obtain ⟨hi, rfl⟩ := List.getElem?_eq_some_iff.mp h
  refine ⟨(c.locations.take i).map fun l => ⟨c.kind, c.keys, l⟩,
    (c.locations.drop (i + 1)).map fun l => ⟨c.kind, c.keys, l⟩, ?_, ?_⟩
  · rw [← List.map_cons (f := fun l => Probe.mk c.kind c.keys l), ← List.map_append,
      ← List.drop_eq_getElem_cons hi, List.take_append_drop, Credential.probes]
  · rw [Credential.probes, List.eraseIdx_eq_take_drop_succ, List.map_append]

theorem probes_dropLocation (n i : Nat) {c : Credential} {l : Location} :
    ∀ credentials : List Credential, credentials[n]? = some c → c.locations[i]? = some l →
      ∃ before after, probes credentials = before ++ ⟨c.kind, c.keys, l⟩ :: after ∧
        probes (dropLocation credentials n i) = before ++ after := by
  induction n with
  | zero =>
    intro credentials hc hl
    cases credentials with
    | nil => simp at hc
    | cons d rest =>
      obtain rfl : d = c := by simpa using hc
      obtain ⟨before, after, h, h'⟩ := d.probes_eraseIdx hl
      refine ⟨before, after ++ probes rest, ?_, ?_⟩
      · simp [probes, h]
      · simp [probes, dropLocation, h']
  | succ n ih =>
    intro credentials hc hl
    cases credentials with
    | nil => simp at hc
    | cons d rest =>
      obtain ⟨before, after, h, h'⟩ := ih rest (by simpa using hc) hl
      simp only [probes, dropLocation] at h h'
      refine ⟨d.probes ++ before, after, ?_, ?_⟩
      · simp [probes, h]
      · simp [probes, dropLocation, h']

theorem firstYield_append (r : Request) (before after : List Probe) :
    firstYield r (before ++ after) = (do
      match ← firstYield r before with
      | some e => return some e
      | none => firstYield r after) := by
  induction before with
  | nil => rfl
  | cons p rest ih =>
    simp only [List.cons_append, firstYield, ih]
    cases p.yield? r with
    | error fault => rfl
    | ok found => cases found <;> rfl

theorem firstYield_remove {r : Request} {before after : List Probe} {p : Probe}
    {found : Option (Text × Text × Location)}
    (h : firstYield r (before ++ p :: after) = .ok found)
    (hp : ¬ ∃ value, p.yield? r = .ok (some value)) :
    firstYield r (before ++ after) = .ok found := by
  rw [firstYield_append] at h ⊢
  cases hb : firstYield r before with
  | error fault => simp [hb, bind, Except.bind] at h
  | ok e =>
    cases e with
    | some e => simpa [hb, bind, Except.bind] using h
    | none =>
      -- Nothing is found before the probe, so it is tried, and it has an answer.
      simp only [hb, firstYield, bind, Except.bind] at h ⊢
      cases hy : p.yield? r with
      | error fault => simp [hy] at h
      | ok yielded =>
        cases yielded with
        | some value => exact absurd ⟨value, hy⟩ hp
        | none => simpa [hy] using h

theorem find_dropLocation {r : Request} {credentials : List Credential} {n i : Nat}
    {c : Credential} {l : Location} {found : Option Match}
    (h : r.find credentials = .ok found) (hc : credentials[n]? = some c)
    (hl : c.locations[i]? = some l) (hm : ¬ Site.Matches r ⟨c, l, i⟩) :
    (r.find (dropLocation credentials n i)).map (Option.map Match.essence) =
      .ok (found.map Match.essence) := by
  -- The matches of the two searches are compared as walks over probes, which have no indices.
  obtain ⟨before, after, hp, hd⟩ := probes_dropLocation n i credentials hc hl
  have he := find_essence r credentials
  rw [h, hp] at he
  rw [find_essence, hd]
  exact firstYield_remove he.symm fun hy => hm (Site.matches_iff.mpr hy)

/-- **What a location without a match can do.** A search has an answer, and keeps the kind, value
and location of what it finds when any location without a match is deleted, exactly when no
location breaks down before one yields a string. -/
theorem find_total_iff (r : Request) (credentials : List Credential) :
    ((∃ found, r.find credentials = .ok found) ∧
      ∀ n i c l, credentials[n]? = some c → c.locations[i]? = some l → ¬ Site.Matches r ⟨c, l, i⟩ →
        (r.find (dropLocation credentials n i)).map (Option.map Match.essence) =
          (r.find credentials).map (Option.map Match.essence)) ↔
      ¬ SearchBreaksDown r credentials := by
  rw [← find_isOk]
  constructor
  · exact fun h => h.1
  · intro hyp
    obtain ⟨found, h⟩ := hyp
    refine ⟨⟨found, h⟩, ?_⟩
    intro n i c l hc hl hm
    rw [find_dropLocation h hc hl hm, h]
    rfl

/-! ## A search that breaks down -/

/-- A key in one header, and anything in another. -/
def keyOrAny : List Credential :=
  [⟨"k1", ["k"], [⟨.header, ["x-a"], []⟩]⟩, ⟨"k2", [], [⟨.header, ["x-b"], []⟩]⟩]

/-- A request whose first header holds a byte that is not UTF-8. -/
def strayByte : Request :=
  ⟨[("x-a", [CodePoint.ofNat 0xDCFF]), ("x-b", "v")], [], []⟩

/-- The first location has no match; the search breaks down with it and finds the second credential
without it. -/
theorem find_stray_byte :
    ¬ ((∃ found, strayByte.find keyOrAny = .ok found) ∧
      ∀ n i c l, keyOrAny[n]? = some c → c.locations[i]? = some l →
        ¬ Site.Matches strayByte ⟨c, l, i⟩ →
        (strayByte.find (dropLocation keyOrAny n i)).map (Option.map Match.essence) =
          (strayByte.find keyOrAny).map (Option.map Match.essence)) := by
  intro hyp
  obtain ⟨⟨found, h⟩, -⟩ := hyp
  have hf : strayByte.find keyOrAny = .error (.unencodable ⟨CodePoint.ofNat 0xDCFF, 0, 1⟩) := rfl
  rw [hf] at h
  cases h

end RequestCredentials
