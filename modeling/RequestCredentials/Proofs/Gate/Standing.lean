import RequestCredentials.Proofs.Files.Loaded
import RequestCredentials.Proofs.Gate.Runs
import RequestCredentials.Proofs.History
/-
  Standings — what a gate goes by, at any time of a run

  A gate goes by the credentials of a declaration, or it is off, or it knows
  that its declaration could not be loaded. It comes to one of these standings
  whenever a path is set, unless the file there is passed over, and stays in it
  until the next time. So what it goes by is what the file held when the path
  was set, and no later content.

  What is proved:
    1. `Gate.reload_eq`, `step_stands` — what a reload does, and what any event
       does to the standing;
    2. `run_stands` — after a run, the standing is the one that was decided on
       last;
    3. `credentials_iff` — the credentials are those of the last load;
    4. `pass_response` — a response is given just where there is a ground to
       deny the request;
    5. `reachable_gate` — all of this for every run.
-/

namespace RequestCredentials

/-! ## Standings -/

/-- What a gate goes by. -/
inductive Standing where
  /-- There is no declaration. -/
  | off
  | loaded (credentials : List Credential)
  /-- The declaration could not be loaded. -/
  | failed

namespace Standing

def credentials? : Standing → Option (List Credential)
  | loaded credentials => some credentials
  | _ => none

def isFailed : Standing → Bool
  | failed => true
  | _ => false

end Standing

/-- The gate is in the standing. -/
structure Gate.Stands (g : Gate) (s : Standing) : Prop where
  credentials_eq : g.credentials = s.credentials?
  enabled_eq : g.enabled = s.credentials?.isSome
  loadFailed_eq : g.loadFailed = s.isFailed

/-- The gate in the standing, with its options as they are. -/
def Gate.adopt (g : Gate) (s : Standing) : Gate :=
  { g with
    credentials := s.credentials?
    enabled := s.credentials?.isSome
    loadFailed := s.isFailed }

theorem adopt_stands (g : Gate) (s : Standing) : (g.adopt s).Stands s := ⟨rfl, rfl, rfl⟩

theorem stands_loaded {g : Gate} {s : Standing} {credentials : List Credential} (h : g.Stands s)
    (hc : g.credentials = some credentials) : g.Stands (.loaded credentials) := by
  cases s with
  | loaded found =>
    obtain rfl := Option.some.inj (h.credentials_eq.symm.trans hc)
    exact h
  | off => cases h.credentials_eq.symm.trans hc
  | failed => cases h.credentials_eq.symm.trans hc

/-- The standing that a path leads to, unless the file there is passed over. -/
def Files.standing? (files : Files) (path : Text) : Option Standing :=
  if path = [] then some .off
  else match files.load path with
    | .ok credentials => some (.loaded credentials)
    | .error (.refused _) => some .failed
    | .error _ => none

theorem standing_eq_loaded {files : Files} {path : Text} {credentials : List Credential} :
    files.standing? path = some (.loaded credentials) ↔
      path ≠ [] ∧ files.load path = .ok credentials := by
  rw [Files.standing?]
  by_cases hp : path = []
  · simp [hp]
  · cases hl : files.load path with
    | ok found => simp [hp]
    | error fault => cases fault <;> simp [hp]

namespace Proxy

/-- The standing that an event decides on. -/
def standing? (p : Proxy) : Event → Option Standing
  | .configure update => update.config.bind p.files.standing?
  | _ => none

end Proxy

/-! ## Steps and runs -/

/-- All that a reload does: the gate comes to the standing that its path leads to, if any. -/
theorem Gate.reload_eq (g : Gate) (files : Files) :
    (g.reload files).1 = ((files.standing? g.options.config).map g.adopt).getD g := by
  rw [reload, Files.standing?]
  by_cases hp : g.options.config = []
  · simp only [hp, ↓reduceIte]
    rfl
  · simp only [hp, ↓reduceIte]
    cases files.load g.options.config with
    | ok credentials => rfl
    | error fault => cases fault <;> rfl

theorem reload_options (g : Gate) (files : Files) :
    (g.reload files).1.options = g.options := by
  rw [Gate.reload_eq]
  cases files.standing? g.options.config with
  | none => rfl
  | some s => rfl

theorem reload_stands {g : Gate} {s : Standing} (h : g.Stands s) (files : Files) :
    (g.reload files).1.Stands ((files.standing? g.options.config).getD s) := by
  rw [Gate.reload_eq]
  cases files.standing? g.options.config with
  | none => exact h
  | some s => exact adopt_stands g s

theorem Proxy.next_options (p : Proxy) (e : Event) :
    (p.next e).gate.options = match e with
      | .configure update => p.gate.options.update update
      | _ => p.gate.options := by
  cases e with
  | write path content => rfl
  | request x => rfl
  | configure update =>
    simp only [next, step, Gate.configure]
    cases update.config with
    | none => rfl
    | some path => exact reload_options _ p.files

theorem step_stands (p : Proxy) (e : Proxy.Event) (s : Standing) (h : p.gate.Stands s) :
    (p.next e).gate.Stands ((p.standing? e).getD s) := by
  cases e with
  | write path content => exact h
  | request x => exact h
  | configure update =>
    have ho : Gate.Stands { p.gate with options := p.gate.options.update update } s :=
      ⟨h.credentials_eq, h.enabled_eq, h.loadFailed_eq⟩
    cases hc : update.config with
    | none => simpa [Proxy.next, Proxy.step, Gate.configure, Proxy.standing?, hc] using ho
    | some path =>
      have hr := reload_stands ho p.files
      simpa [Proxy.next, Proxy.step, Gate.configure, Proxy.standing?, GateOptions.update, hc]
        using hr

section

variable (files : Files) (options : GateOptions) (events : List Proxy.Event)

/-- After a run, the gate is in the standing that was decided on last; it is off before the first
decision. -/
theorem run_stands :
    (∃ s, LastGives Proxy.next Proxy.standing? (Proxy.start files options) events s ∧
      ((Proxy.start files options).run events).gate.Stands s) ∨
    NeverGives Proxy.next Proxy.standing? (Proxy.start files options) events ∧
      ((Proxy.start files options).run events).gate.Stands .off := by
  have h : (Proxy.start files options).gate.Stands .off := ⟨rfl, rfl, rfl⟩
  rw [Proxy.run_eq_foldl]
  exact run_gives step_stands h events

theorem exists_stands : ∃ s, ((Proxy.start files options).run events).gate.Stands s := by
  rcases run_stands files options events with ⟨s, -, hs⟩ | ⟨-, hs⟩
  · exact ⟨s, hs⟩
  · exact ⟨.off, hs⟩

/-! ## The load in use -/

/-- An event of the run has set a path to a file that declared the credentials then, and no event
since has decided on another standing. -/
def Proxy.LoadStands (p : Proxy) (events : List Event) (credentials : List Credential) : Prop :=
  ∃ before update path after, events = before ++ .configure update :: after ∧
    update.config = some path ∧ path ≠ [] ∧ (p.run before).files.load path = .ok credentials ∧
    NeverGives next standing? ((p.run before).next (.configure update)) after

theorem loadStands_iff {p : Proxy} {events : List Proxy.Event} {credentials : List Credential} :
    p.LoadStands events credentials ↔
      LastGives Proxy.next Proxy.standing? p events (.loaded credentials) := by
  constructor
  · intro hyp
    obtain ⟨before, update, path, after, he, hc, hp, hl, hn⟩ := hyp
    rw [Proxy.run_eq_foldl] at hl hn
    refine ⟨before, .configure update, after, he, ?_, hn⟩
    rw [Proxy.standing?, hc, Option.bind_some]
    exact standing_eq_loaded.mpr ⟨hp, hl⟩
  · intro hyp
    obtain ⟨before, e, after, he, hg, hn⟩ := hyp
    cases e with
    | write path content => cases hg
    | request x => cases hg
    | configure update =>
      obtain ⟨path, hc, hs⟩ := Option.bind_eq_some_iff.mp hg
      obtain ⟨hp, hl⟩ := standing_eq_loaded.mp hs
      rw [← Proxy.run_eq_foldl] at hl hn
      exact ⟨before, update, path, after, he, hc, hp, hl, hn⟩

/-- The gate has the credentials of the last load, and only those. -/
theorem credentials_iff {credentials : List Credential} :
    ((Proxy.start files options).run events).gate.credentials = some credentials ↔
      (Proxy.start files options).LoadStands events credentials := by
  rw [loadStands_iff]
  rcases run_stands files options events with ⟨s, hl, hs⟩ | ⟨hn, hs⟩
  · rw [hs.credentials_eq]
    constructor
    · intro hc
      cases s with
      | loaded found =>
        cases hc
        exact hl
      | off => cases hc
      | failed => cases hc
    · intro hl'
      rw [lastGives_unique hl hl']
      rfl
  · rw [hs.credentials_eq]
    constructor
    · intro hc
      cases hc
    · intro hl
      exact absurd hl hn.not_lastGives

end

/-! ## Responses -/

/-- The search in the exchange comes to an end and finds none of the credentials. -/
def Exchange.Lacks (x : Exchange) (credentials : List Credential) : Prop :=
  ∃ r, x.request = .ok r ∧ r.find credentials = .ok none

/-- The gate enforces and has a ground to deny the request: its declaration could not be loaded, or
the request has none of the credentials. -/
def Gate.Denies (g : Gate) (x : Exchange) : Prop :=
  g.options.enforce = true ∧
    (g.loadFailed = true ∨ ∃ credentials, g.credentials = some credentials ∧ x.Lacks credentials)

theorem check_response {g : Gate} {credentials : List Credential} {x : Exchange}
    (h : ¬ (g.options.enforce = true ∧ x.Lacks credentials)) :
    (g.check credentials x).1.response = x.response := by
  rcases Gate.check_cases g credentials x with ⟨-, hc⟩ | ⟨r, m, -, -, hc⟩ | ⟨r, hr, hf, hc⟩
  · rw [hc]
  · rw [hc]
    rfl
  · have he : g.options.enforce = false := by
      rw [← Bool.not_eq_true]
      exact fun he => h ⟨he, r, hr, hf⟩
    rw [hc, Gate.miss, he]
    rfl

theorem denies_iff {g : Gate} {s : Standing} (h : g.Stands s) (x : Exchange) :
    g.Denies x ↔ g.options.enforce = true ∧
      match s with
      | .off => False
      | .loaded credentials => x.Lacks credentials
      | .failed => True := by
  rw [Gate.Denies, h.loadFailed_eq, h.credentials_eq]
  cases s <;> simp [Standing.isFailed, Standing.credentials?]

theorem pass_eq {g : Gate} {s : Standing} (h : g.Stands s) (x : Exchange) :
    g.pass x = match s with
      | .off => (x, [])
      | .loaded credentials => g.check credentials x
      | .failed => (if g.options.enforce then g.miss x else x, []) := by
  unfold Gate.pass
  rw [h.loadFailed_eq, h.enabled_eq, h.credentials_eq]
  cases s with
  | off => rfl
  | loaded credentials => rfl
  | failed => cases g.options.enforce <;> rfl

/-- A request is answered where there is a ground to deny it, and no other is. -/
theorem pass_response {g : Gate} {s : Standing} (h : g.Stands s) (x : Exchange) :
    (g.Denies x → (g.pass x).1.response = some .forbidden) ∧
      (¬ g.Denies x → (g.pass x).1.response = x.response) := by
  rw [denies_iff h x, pass_eq h x]
  cases s with
  | off => exact ⟨fun hd => hd.2.elim, fun _ => rfl⟩
  | loaded credentials =>
    refine ⟨?_, check_response⟩
    intro hyp
    obtain ⟨he, r, hr, hf⟩ := hyp
    rw [Gate.check_missed hr hf]
    exact (Gate.miss_rejected he).2
  | failed =>
    dsimp only
    constructor
    · intro hyp
      rw [if_pos hyp.1]
      exact (Gate.miss_rejected hyp.1).2
    · intro hd
      rw [if_neg fun he => hd ⟨he, trivial⟩]

/-- **What a gate goes by, after any run.** It is switched on exactly when it has credentials, and
a failed load has switched it off. Its credentials are those that the file of the last load held at
that time, whatever was written since. It answers a request only when it enforces, and either its
declaration could not be loaded or the request has none of the credentials; and then it does. -/
theorem reachable_gate (files : Files) (options : GateOptions) (events : List Proxy.Event) :
    let g := ((Proxy.start files options).run events).gate
    (g.enabled = true ↔ ∃ credentials, g.credentials = some credentials) ∧
      (g.loadFailed = true → g.enabled = false) ∧
      (∀ credentials, g.credentials = some credentials ↔
        (Proxy.start files options).LoadStands events credentials) ∧
      ∀ x, ((g.pass x).1.response ≠ x.response → g.Denies x) ∧
        (g.Denies x → (g.pass x).1.response = some .forbidden) := by
  obtain ⟨s, hs⟩ := exists_stands files options events
  refine ⟨?_, ?_, fun credentials => credentials_iff files options events, ?_⟩
  · rw [hs.enabled_eq, hs.credentials_eq]
    exact Option.isSome_iff_exists
  · rw [hs.loadFailed_eq, hs.enabled_eq]
    intro hf
    cases s with
    | failed => rfl
    | off => cases hf
    | loaded credentials => cases hf
  · intro x
    obtain ⟨hd, hk⟩ := pass_response hs x
    refine ⟨fun hne => ?_, hd⟩
    by_contra hn
    exact hne (hk hn)

/-! ## A file that is written anew, and another that is passed over -/

/-- A declaration of the letter in a header. -/
def letterFile : Bytes := Utf8.encodeWithSurrogates
  (Text.ofString "\x7b\"credentials\":[\x7b\"kind\":\"letter\",\"keys\":[\"a\"],\"locations\":" ++
    Text.ofString "[\x7b\"selector\":\"header\",\"args\":[\"k\"]\x7d]\x7d]\x7d")

/-- The document in the file. -/
def letterDocument : Json := .obj [("credentials", .arr [
  .obj [("kind", .str "letter"), ("keys", .arr [.str "a"]), ("locations", .arr [
    .obj [("selector", .str "header"), ("args", .arr [.str "k"])]])]])]

theorem load_letterFile :
    (Files.empty.write "a" (some letterFile)).load "a" = .ok Gate.letterInHeader := by
  have hdeclares : DeclaresCredentials letterDocument Gate.letterInHeader :=
    ⟨_, rfl, .cons ⟨rfl, rfl, _, rfl, .cons ⟨rfl, rfl, rfl, trivial⟩ .nil⟩ .nil⟩
  have hhopeful : AllHopeful Gate.letterInHeader := by
    simp only [AllHopeful, Gate.letterInHeader, List.forall_mem_cons]
    exact ⟨⟨rfl, by simp⟩, by simp⟩
  have hproblems : letterDocument.problems Check.declaration = [] :=
    List.isEmpty_iff.mp (by decide +kernel)
  have hdocument : documentIn "a" letterFile = .ok letterDocument := by cbv
  have htakes : Files.empty.Takes "a" := ⟨⟨_, rfl, by decide⟩, by decide, by decide, rfl⟩
  have hhome : Files.empty.expandHome "a" = .ok "a" := rfl
  exact Files.load_declared hhome htakes hdocument hproblems hdeclares hhopeful

/-- The declaration is loaded and deleted; then the path of a file that is not text is set. -/
def loadedAndDeleted : List Proxy.Event :=
  [.write "a" (some letterFile), .configure ⟨some "a", some true, none⟩, .write "a" none,
    .write "b" (some [0xFF]), .configure ⟨some "b", none, none⟩]

/-- The gate still goes by the deleted declaration, and denies a request without the letter. -/
theorem reachable_gate_deleted :
    ((Proxy.start .empty ⟨[], false, false⟩).run loadedAndDeleted).gate.credentials =
        some Gate.letterInHeader ∧
      (((Proxy.start .empty ⟨[], false, false⟩).run loadedAndDeleted).gate.pass
        (Gate.withHeader [0x62])).1.response = some .forbidden := by
  obtain ⟨-, -, hc, hx⟩ := reachable_gate .empty ⟨[], false, false⟩ loadedAndDeleted
  have hl : ((Proxy.start .empty ⟨[], false, false⟩).run
      [.write "a" (some letterFile)]).files.load "a" = .ok Gate.letterInHeader := load_letterFile
  have hb : (((Files.empty.write "a" (some letterFile)).write "a" none).write "b"
      (some [0xFF])).standing? "b" = none := rfl
  have hs : (Proxy.start .empty ⟨[], false, false⟩).LoadStands loadedAndDeleted
      Gate.letterInHeader := by
    refine ⟨[.write "a" (some letterFile)], _, "a", _, rfl, rfl, by decide, hl, ?_⟩
    rw [neverGives_cons, neverGives_cons, neverGives_cons]
    refine ⟨rfl, rfl, ?_, neverGives_nil⟩
    rw [Proxy.standing?, Proxy.next_files, Proxy.next_files, Proxy.next_files]
    exact hb
  have he : ((Proxy.start .empty ⟨[], false, false⟩).run loadedAndDeleted).gate.options.enforce =
      true := by
    simp only [loadedAndDeleted, Proxy.run_eq_foldl, List.foldl_cons, List.foldl_nil,
      Proxy.next_options]
    rfl
  have hg := (hc Gate.letterInHeader).mpr hs
  refine ⟨hg, (hx (Gate.withHeader [0x62])).2 ⟨he, .inr ⟨_, hg, ?_⟩⟩⟩
  exact ⟨⟨[("k", "b")], [], []⟩, rfl, rfl⟩

end RequestCredentials
