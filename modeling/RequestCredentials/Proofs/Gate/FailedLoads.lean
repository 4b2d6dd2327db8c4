import RequestCredentials.Proofs.Files.Loaded
import RequestCredentials.Proofs.Gate.Runs
/-
  Enforcement after a declaration that cannot be loaded

  When a declaration is refused, the gate remembers it, and with enforcement on
  it rejects every request until another path is set. When its file is passed
  over, the gate stays as it is, so that requests are rejected only if they were
  before.

  What is proved:
    1. `reload_loadFailed` — when the gate knows that its load has failed;
    2. `rejects_of_loadFailed`, `not_rejects_openBracket` — then enforcement
       rejects every request, and else some request goes through;
    3. `failed_load_rejects_iff` — over whole runs, a load without credentials
       leads to rejections alone exactly when the file is not passed over or
       the load before it was known to have failed.
-/

namespace RequestCredentials

/-! ## Reloads -/

section
variable {files : Files} {path : Text} {fault : LoadFault}

/-- After a load without credentials, the gate knows of the failure unless the file was passed
over; then it knows of one if it did before. -/
theorem reload_loadFailed {g : Gate} (hp : g.options.config ≠ [])
    (h : files.load g.options.config = .error fault) :
    (g.reload files).1.loadFailed = true ↔
      ¬ files.PassedOver g.options.config ∨ g.loadFailed = true := by
  rw [← load_passedOver h, Gate.reload]
  simp only [hp, ↓reduceIte, h]
  cases fault <;> simp [LoadFault.isRefusal]

theorem configure_loadFailed {g : Gate} {update : OptionUpdate} (hu : update.config = some path)
    (hp : path ≠ []) (h : files.load path = .error fault) :
    (g.configure files update).1.loadFailed = true ↔
      ¬ files.PassedOver path ∨ g.loadFailed = true := by
  have hc : (g.options.update update).config = path := by simp [GateOptions.update, hu]
  have hr := reload_loadFailed (g := { g with options := g.options.update update })
    (by rwa [hc]) (by rwa [hc])
  simpa [Gate.configure, hu, hc] using hr

end

/-! ## Answers -/

theorem rejects_of_loadFailed {p : Proxy} (hl : p.gate.loadFailed = true)
    (he : p.gate.options.enforce = true) (x : Exchange) : p.Rejects x := by
  have hp : (p.gate.pass x).1 = p.gate.miss x := by simp [Gate.pass, hl, he]
  refine ⟨p.gate.miss x, ?_, Gate.miss_rejected he⟩
  rw [Proxy.answer_eq, hp]

/-- A request whose URL has a malformed authority. -/
def openBracket : Exchange := ⟨"example.com", [], [0x5B], [], none⟩

theorem pass_openBracket {g : Gate} (hl : g.loadFailed = false) :
    (g.pass openBracket).1 = openBracket := by
  simp only [Gate.pass, hl, Bool.false_and, Bool.false_eq_true, ↓reduceIte]
  split
  · split
    · exact Gate.check_breaksDown (.inl ⟨.misplacedBracket, rfl⟩)
    · rfl
  · rfl

theorem not_rejects_openBracket {p : Proxy} (hl : p.gate.loadFailed = false) :
    ¬ p.Rejects openBracket := by
  intro hyp
  obtain ⟨y, hy, -, hr⟩ := hyp
  rw [Proxy.answer_eq, pass_openBracket hl, Option.some.injEq] at hy
  cases hy
  cases hr

/-- Switches enforcement on. -/
def enforceOn : OptionUpdate := ⟨none, some true, none⟩

/-- **Enforcement after a failed load.** Let a run set a path from which no credentials are loaded.
As long as no other path is set, every request that comes while enforcement is on is rejected,
exactly when the file was not passed over or the gate knew of a failed load before. -/
theorem failed_load_rejects_iff (files : Files) (options : GateOptions)
    (before : List Proxy.Event) (update : OptionUpdate) (path : Text) (fault : LoadFault)
    (hu : update.config = some path) (hp : path ≠ [])
    (hl : ((Proxy.start files options).run before).files.load path = .error fault) :
    (∀ after x, (∀ e ∈ after, Proxy.Event.setsConfig e = false) →
      ((Proxy.start files options).run
        (before ++ .configure update :: after)).gate.options.enforce = true →
      ((Proxy.start files options).run (before ++ .configure update :: after)).Rejects x) ↔
    ¬ ((Proxy.start files options).run before).files.PassedOver path ∨
      ((Proxy.start files options).run before).gate.loadFailed = true := by
  simp only [Proxy.run_append, Proxy.run]
  generalize (Proxy.start files options).run before = p at hl ⊢
  rw [← configure_loadFailed (g := p.gate) hu hp hl]
  -- The state right after the path is set; it decides about everything that follows.
  have hg : (p.gate.configure p.files update).1 = (p.step (.configure update)).1.gate := rfl
  rw [hg]
  generalize (p.step (.configure update)).1 = q
  constructor
  · -- Without a known failure, enforcement lets a request with a malformed URL through.
    intro h
    by_contra hf
    have hs : ∀ e ∈ [Proxy.Event.configure enforceOn], e.setsConfig = false := by
      intro e he
      rw [List.mem_singleton.mp he]
      rfl
    obtain ⟨-, -, hk⟩ := Proxy.run_keeps_load (p := q) hs
    have hf' : (q.run [.configure enforceOn]).gate.loadFailed = false := by
      rw [hk]
      simpa using hf
    exact not_rejects_openBracket hf' (h [.configure enforceOn] openBracket hs rfl)
  · intro hf after x hs he
    obtain ⟨-, -, hk⟩ := Proxy.run_keeps_load (p := q) hs
    exact rejects_of_loadFailed (hk.trans hf) he x

/-! ## A refused file and one that is passed over -/

/-- A proxy without files and with all options off. -/
def idle : Proxy := Proxy.start .empty ⟨[], false, false⟩

/-- Writes the file `c`. -/
def writeC (content : Bytes) : Proxy.Event := .write "c" (some content)

/-- Sets the path `c` and switches enforcement on. -/
def enforceC : OptionUpdate := ⟨some "c", some true, none⟩

/-- A request without headers. -/
def bareRequest : Exchange := ⟨"example.com", [], [0x2F], [], none⟩

theorem failed_load_rejects_brace :
    enforceC.config = some "c" ∧ ("c" : Text) ≠ [] ∧
      (idle.run [writeC [0x7B]]).files.load "c" =
        .error (.refused (.notJson "c" .noName ⟨1, 2, 1⟩)) ∧
      (idle.run [writeC [0x7B], .configure enforceC]).Rejects bareRequest := by
  have hl : (idle.run [writeC [0x7B]]).files.load "c" =
    .error (.refused (.notJson "c" .noName ⟨1, 2, 1⟩)) := rfl
  have hn : ¬ (idle.run [writeC [0x7B]]).files.PassedOver "c" :=
    fun h => absurd ((load_passedOver hl).mpr h) (by simp [LoadFault.isRefusal])
  have h := (failed_load_rejects_iff _ _ [writeC [0x7B]] enforceC "c" _ rfl (by decide) hl).mpr
    (.inl hn)
  exact ⟨rfl, by decide, hl, h [] bareRequest (by simp) rfl⟩

/-- A file with a byte that is not UTF-8 is passed over, and the next request goes through. -/
theorem failed_load_stray_byte :
    enforceC.config = some "c" ∧ ("c" : Text) ≠ [] ∧
      (∃ fault, (idle.run [writeC [0xFF]]).files.load "c" = .error fault) ∧
      (idle.run [writeC [0xFF], .configure enforceC]).gate.options.enforce = true ∧
      ¬ (idle.run [writeC [0xFF], .configure enforceC]).Rejects bareRequest := by
  refine ⟨rfl, by decide, ⟨.notText ⟨.utf8, 0, ⟨1, 0xFF, .invalidStart⟩⟩, rfl⟩, rfl, ?_⟩
  have ha : (idle.run [writeC [0xFF], .configure enforceC]).answer bareRequest =
    some bareRequest := rfl
  intro hyp
  obtain ⟨y, hy, -, hr⟩ := hyp
  cases ha.symm.trans hy
  cases hr

end RequestCredentials
