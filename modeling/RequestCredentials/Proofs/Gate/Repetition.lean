import RequestCredentials.Proofs.Declaration.Accepted
import RequestCredentials.Proofs.Gate.Standing
import RequestCredentials.Proofs.Search.Seeds
/-
  Repetition — a request that comes through the gate again

  The gate leaves its note among the properties that locations read, so a note
  may be what the next search finds. It is not where no location starts at the
  note: every location of a loaded declaration names something, and a path
  under another name leads past the note. Then the second search sees what the
  first one saw, and the gate writes its note and its response over themselves.

  What is proved:
    1. `pass_unmoved` — no gate changes anything but the note and the response;
    2. `seed_noted` — a location that does not start at the note captures the
       same seed with and without it;
    3. `check_again` — a second check does and tells what the first one did;
    4. `pass_again` — so does a second pass, in every state that a run can reach
       with such a declaration.
-/

namespace RequestCredentials

/-! ## What a pass leaves alone -/

/-- `y` is `x` with at most another note and another response. -/
structure Exchange.Unmoved (x y : Exchange) : Prop where
  host : y.host = x.host
  headers : y.headers = x.headers
  path : y.path = x.path
  others : y.metadata.filter (·.1 ≠ metadataKey) = x.metadata.filter (·.1 ≠ metadataKey)

theorem Exchange.Unmoved.refl (x : Exchange) : x.Unmoved x := ⟨rfl, rfl, rfl, rfl⟩

namespace Gate

section
variable (g : Gate) (x : Exchange)

theorem noted_unmoved (note : Tree) : x.Unmoved (noted x note) :=
  ⟨rfl, rfl, rfl, Tree.others_setEntry metadataKey note x.metadata⟩

theorem exists_miss :
    ∃ response, g.miss x = { noted x notFoundNote with response := response } := by
  unfold miss
  cases g.options.enforce with
  | true => exact ⟨some .forbidden, rfl⟩
  | false => exact ⟨x.response, rfl⟩

theorem miss_unmoved : x.Unmoved (g.miss x) := by
  obtain ⟨response, h⟩ := exists_miss g x
  rw [h]
  exact { noted_unmoved x notFoundNote with }

theorem check_unmoved (credentials : List Credential) :
    x.Unmoved (g.check credentials x).1 := by
  rcases check_cases g credentials x with ⟨-, h⟩ | ⟨r, m, -, -, h⟩ | ⟨r, -, -, h⟩
  · rw [h]
    exact .refl x
  · rw [h]
    exact noted_unmoved x m.note
  · rw [h]
    exact miss_unmoved g x

/-- A pass changes nothing but the note and the response. -/
theorem pass_unmoved : x.Unmoved (g.pass x).1 := by
  unfold pass
  split
  · exact miss_unmoved g x
  · split
    · cases g.credentials with
      | some credentials => exact check_unmoved g x credentials
      | none => exact .refl x
    · exact .refl x

end

end Gate

/-! ## What a search sees of a note -/

/-- The request with a note among its properties. -/
def Request.noted (r : Request) (note : Tree) : Request :=
  { r with properties := Tree.setEntry metadataKey note r.properties }

/-- The location starts at the note of the gate. -/
def Location.ReadsNote (l : Location) : Prop :=
  l.source = .property ∧ l.args.head? = some metadataKey

/-- Every location names something to start at, and none of them names the note. -/
def LeadPastNote (credentials : List Credential) : Prop :=
  ∀ c ∈ credentials, ∀ l ∈ c.locations, l.args ≠ [] ∧ ¬ l.ReadsNote

theorem request_noted {x : Exchange} {r : Request} (h : x.request = .ok r) (note : Tree) :
    (Gate.noted x note).request = .ok (r.noted note) := by
  obtain ⟨u, hu, hr⟩ := bind_eq_ok.mp h
  cases hr
  exact bind_eq_ok.mpr ⟨u, hu, rfl⟩

theorem request_miss {g : Gate} {x : Exchange} {r : Request} (h : x.request = .ok r) :
    (g.miss x).request = .ok (r.noted notFoundNote) := by
  obtain ⟨response, hmiss⟩ := Gate.exists_miss g x
  rw [hmiss]
  exact request_noted h notFoundNote

theorem property_noted (r : Request) (note : Tree) {name : Text} (hname : name ≠ metadataKey)
    (path : List Text) : (r.noted note).property? (name :: path) = r.property? (name :: path) := by
  unfold Request.property? Request.noted
  rw [Tree.walk, Tree.walk, Tree.entry_setEntry_ne hname]

theorem seed_noted (r : Request) (note : Tree) {l : Location} (hargs : l.args ≠ [])
    (hl : ¬ l.ReadsNote) : (r.noted note).seed? l.source l.args = r.seed? l.source l.args := by
  obtain ⟨source, args, ops⟩ := l
  cases source with
  | header => rfl
  | query => rfl
  | property =>
    cases args with
    | nil => exact absurd rfl hargs
    | cons name path =>
      have hname : name ≠ metadataKey := fun h => hl ⟨rfl, congrArg some h⟩
      unfold Request.seed?
      rw [property_noted r note hname path]

theorem LeadPastNote.sameSeeds {credentials : List Credential} (h : LeadPastNote credentials)
    (r : Request) (note : Tree) : SameSeeds (r.noted note) r credentials := by
  intro c hc l hl
  obtain ⟨hargs, hnote⟩ := h c hc l hl
  exact seed_noted r note hargs hnote

/-! ## Checks -/

namespace Gate

variable (g : Gate) (x : Exchange)

theorem noted_noted (note : Tree) : noted (noted x note) note = noted x note :=
  congrArg (fun metadata => { x with metadata := metadata })
    (Tree.setEntry_setEntry metadataKey note x.metadata)

theorem miss_miss : g.miss (g.miss x) = g.miss x := by
  have hnoted := noted_noted x notFoundNote
  unfold miss
  cases g.options.enforce with
  | true => exact congrArg (fun y : Exchange => { y with response := some .forbidden }) hnoted
  | false => exact hnoted

theorem check_again {credentials : List Credential} (h : LeadPastNote credentials) :
    g.check credentials (g.check credentials x).1 = g.check credentials x := by
  have hfind : ∀ (r : Request) note, (r.noted note).find credentials = r.find credentials :=
    fun r note => find_congr (h.sameSeeds r note)
  rcases check_cases g credentials x with ⟨-, hc⟩ | ⟨r, m, hr, hf, hc⟩ | ⟨r, hr, hf, hc⟩
  · rw [hc]
  · rw [hc]
    simp only [check, checkRequest, hr, request_noted hr, hfind, hf, noted_noted]
    rfl
  · rw [hc]
    have hsurvey := survey_congr (h.sameSeeds r notFoundNote)
    obtain ⟨outcomes, hs, htold⟩ := checkRequest_missed (g := g) (x := x) hf
    obtain ⟨outcomes', hs', htold'⟩ :=
      checkRequest_missed (g := g) (x := g.miss x) ((hfind r notFoundNote).trans hf)
    obtain rfl : outcomes' = outcomes := by
      rw [hs, hs'] at hsurvey
      exact Except.ok.inj hsurvey
    simp only [check, hr, request_miss hr, htold, htold', miss_miss, (miss_unmoved g x).host]

end Gate

/-! ## Loaded declarations -/

theorem load_args_ne_nil {files : Files} {path : Text} {credentials : List Credential}
    (h : files.load path = .ok credentials) :
    ∀ c ∈ credentials, ∀ l ∈ c.locations, l.args ≠ [] := by
  unfold Files.load at h
  obtain ⟨found, -, h⟩ := bind_eq_ok.mp h
  obtain ⟨content, -, h⟩ := bind_eq_ok.mp h
  obtain ⟨document, -, haccept⟩ := bind_eq_ok.mp h
  obtain ⟨hproblems, hdeclares, -⟩ := acceptCredentials_eq_ok.mp (mapError_eq_ok.mp haccept)
  exact hdeclares.args_ne_nil hproblems

section
variable (files : Files) (options : GateOptions) (events : List Proxy.Event)

/-- Whatever declaration a run has loaded, its locations all name something. -/
theorem reachable_args_ne_nil {credentials : List Credential}
    (h : ((Proxy.start files options).run events).gate.credentials = some credentials) :
    ∀ c ∈ credentials, ∀ l ∈ c.locations, l.args ≠ [] := by
  obtain ⟨before, update, path, after, -, -, -, hload, -⟩ :=
    (credentials_iff files options events).mp h
  exact load_args_ne_nil hload

/-- **A request may come again.** In every state that a run reaches with a declaration of which no
location starts at the note, a second pass leaves metadata and response as the first pass left them,
and tells the same. No pass changes any metadata but the note. -/
theorem pass_again
    (hclear : ∀ credentials,
      ((Proxy.start files options).run events).gate.credentials = some credentials →
        ∀ c ∈ credentials, ∀ l ∈ c.locations, ¬ l.ReadsNote) (x : Exchange) :
    let g := ((Proxy.start files options).run events).gate
    g.pass (g.pass x).1 = g.pass x ∧ x.Unmoved (g.pass x).1 := by
  intro g
  refine ⟨?_, Gate.pass_unmoved g x⟩
  obtain ⟨s, hs⟩ : ∃ s, g.Stands s := exists_stands files options events
  rw [pass_eq hs, pass_eq hs]
  cases s with
  | off => rfl
  | failed =>
    dsimp only
    cases g.options.enforce with
    | false => rfl
    | true => simp only [↓reduceIte, Gate.miss_miss]
  | loaded credentials =>
    have hpast : LeadPastNote credentials := by
      intro c hc l hl
      exact ⟨reachable_args_ne_nil files options events hs.credentials_eq c hc l hl,
        hclear credentials hs.credentials_eq c hc l hl⟩
    exact Gate.check_again g x hpast

end

/-! ## A declaration of properties -/

/-- A declaration of whatever the property `session` holds. -/
def sessionFile : Bytes := Utf8.encodeWithSurrogates
  (Text.ofString "\x7b\"credentials\":[\x7b\"kind\":\"session\",\"locations\":" ++
    Text.ofString "[\x7b\"selector\":\"property\",\"args\":[\"session\"]\x7d]\x7d]\x7d")

/-- The property at this path, whatever it holds. -/
def atProperty (path : List Text) : List Credential := [⟨"session", [], [⟨.property, path, []⟩]⟩]

/-- The document in the file. -/
def sessionDocument : Json := .obj [("credentials", .arr [
  .obj [("kind", .str "session"), ("locations", .arr [
    .obj [("selector", .str "property"), ("args", .arr [.str "session"])]])]])]

theorem load_sessionFile :
    (Files.empty.write "a" (some sessionFile)).load "a" = .ok (atProperty ["session"]) := by
  have hdeclares : DeclaresCredentials sessionDocument (atProperty ["session"]) :=
    ⟨_, rfl, .cons ⟨rfl, rfl, _, rfl, .cons ⟨rfl, rfl, rfl, trivial⟩ .nil⟩ .nil⟩
  have hhopeful : AllHopeful (atProperty ["session"]) := by
    simp only [AllHopeful, atProperty, List.forall_mem_cons]
    exact ⟨⟨rfl, by simp⟩, by simp⟩
  have hproblems : sessionDocument.problems Check.declaration = [] :=
    List.isEmpty_iff.mp (by decide +kernel)
  have hdocument : documentIn "a" sessionFile = .ok sessionDocument := by cbv
  have htakes : Files.empty.Takes "a" := ⟨⟨_, rfl, by decide⟩, by decide, by decide, rfl⟩
  have hhome : Files.empty.expandHome "a" = .ok "a" := rfl
  exact Files.load_declared hhome htakes hdocument hproblems hdeclares hhopeful

/-- A request of the session `s`. -/
def inSession : Exchange := ⟨"example.com", [], [0x2F], [("session", .text "s")], none⟩

/-- The declaration is loaded, and requests without a session are rejected. -/
def sessionLoaded : List Proxy.Event :=
  [.write "a" (some sessionFile), .configure ⟨some "a", some true, none⟩]

/-- A request that has come through keeps the note of its session when it comes again. -/
theorem pass_again_session :
    let g := ((Proxy.start .empty ⟨[], false, false⟩).run sessionLoaded).gate
    (∀ credentials, g.credentials = some credentials →
        ∀ c ∈ credentials, ∀ l ∈ c.locations, ¬ l.ReadsNote) ∧
      g.credentials = some (atProperty ["session"]) ∧
      (g.pass inSession).1.note? =
        some (Match.note ⟨"session", "s", ⟨.property, ["session"], []⟩, 0⟩) ∧
      g.pass (g.pass inSession).1 = g.pass inSession := by
  intro g
  have hload : ((Proxy.start .empty ⟨[], false, false⟩).run
      [.write "a" (some sessionFile)]).files.load "a" = .ok (atProperty ["session"]) :=
    load_sessionFile
  have hloads : (Proxy.start .empty ⟨[], false, false⟩).LoadStands sessionLoaded
      (atProperty ["session"]) :=
    ⟨[.write "a" (some sessionFile)], _, "a", [], rfl, rfl, by decide, hload, neverGives_nil⟩
  have hc := (credentials_iff .empty ⟨[], false, false⟩ sessionLoaded).mpr hloads
  have hclear : ∀ credentials, g.credentials = some credentials →
      ∀ c ∈ credentials, ∀ l ∈ c.locations, ¬ l.ReadsNote := by
    intro credentials hc'
    obtain rfl := Option.some.inj (hc.symm.trans hc')
    simp only [atProperty, List.forall_mem_singleton]
    intro hyp
    exact absurd hyp.2 (by decide)
  have hr : inSession.request = .ok ⟨[], [], [("session", .text "s")]⟩ := rfl
  have hf : Request.find ⟨[], [], [("session", .text "s")]⟩ (atProperty ["session"]) =
    .ok (some ⟨"session", "s", ⟨.property, ["session"], []⟩, 0⟩) := rfl
  refine ⟨hclear, hc, ?_, (pass_again .empty _ sessionLoaded hclear inSession).1⟩
  obtain ⟨s, hs⟩ : ∃ s, g.Stands s := exists_stands .empty _ sessionLoaded
  rw [pass_eq (stands_loaded hs hc), Gate.check_found hr hf]
  exact note_noted inSession _

/-- A credential may start at the note: it is missed, and then found in the note of the miss. -/
example :
    let g : Gate := ⟨⟨"a", false, false⟩, some (atProperty [metadataKey, "found"]), true, false⟩
    (g.pass inSession).1.note? = some notFoundNote ∧
      (g.pass (g.pass inSession).1).1.note? =
        some (Match.note ⟨"session", "false", ⟨.property, [metadataKey, "found"], []⟩, 0⟩) :=
  ⟨rfl, rfl⟩

end RequestCredentials
