import RequestCredentials.Gate
import RequestCredentials.Proofs.Search.Probes
import RequestCredentials.Proofs.Value.Trees
import Mathlib.Logic.Basic
/-
  Enforcement on single requests

  With enforcement on, a gate with credentials admits a request with a note of
  the credential that was found, or rejects it with a note that none was. It
  does neither with a request on which the search breaks down: that request
  goes on as it came.

  What is proved:
    1. `request_eq_error` — a request cannot be seen when its authority is
       malformed;
    2. `check_cases`, `checkRequest_missed` — what a check does to a request, and
       what it tells where nothing is found;
    3. `pass_judges_iff` — exactly one of admission and rejection happens,
       except to a request on which the search breaks down.
-/

namespace RequestCredentials

/-! ## Notes -/

/-- The note that the gate has left on an exchange. -/
def Exchange.note? (x : Exchange) : Option Tree := Tree.entry? metadataKey x.metadata

theorem note_noted (x : Exchange) (note : Tree) : (Gate.noted x note).note? = some note :=
  Tree.entry_setEntry metadataKey note x.metadata

theorem Match.note_ne (m : Match) : m.note ≠ notFoundNote := by simp [Match.note, notFoundNote]

/-! ## Verdicts -/

/-- Answered with a note that there is no credential. -/
def Exchange.Rejected (x : Exchange) : Prop :=
  x.note? = some notFoundNote ∧ x.response = some .forbidden

/-- `y` is `x` let through with a note of the credential that is found in it. -/
def Exchange.AdmittedAs (x : Exchange) (credentials : List Credential) (y : Exchange) : Prop :=
  ∃ r m, x.request = .ok r ∧ r.find credentials = .ok (some m) ∧
    y.note? = some m.note ∧ y.response = x.response

/-- The authority of the URL is malformed, or the search in the request breaks down. -/
def Exchange.BreaksDown (x : Exchange) (credentials : List Credential) : Prop :=
  (∃ fault, Url.checkAuthority (authorityOf x.host (Utf8.decodeEscaping x.path)) = .error fault) ∨
    ∃ r, x.request = .ok r ∧ SearchBreaksDown r credentials

/-- The credentials are in use. -/
structure Gate.Uses (g : Gate) (credentials : List Credential) : Prop where
  enabled : g.enabled = true
  credentials_eq : g.credentials = some credentials
  not_loadFailed : g.loadFailed = false

theorem request_eq_error (x : Exchange) :
    (∃ fault, x.request = .error fault) ↔
      ∃ fault, Url.checkAuthority (authorityOf x.host (Utf8.decodeEscaping x.path)) =
        .error fault := by
  simp only [Exchange.request]
  cases Url.checkAuthority (authorityOf x.host (Utf8.decodeEscaping x.path)) with
  | error fault => simp [mapError_error, bind, Except.bind]
  | ok u => simp [mapError_ok, bind, Except.bind, pure, Except.pure]

theorem breaksDown_iff {x : Exchange} {credentials : List Credential} :
    x.BreaksDown credentials ↔
      (∃ fault, x.request = .error fault) ∨
        ∃ r, x.request = .ok r ∧ ∃ fault, r.find credentials = .error fault := by
  simp only [Exchange.BreaksDown, request_eq_error, find_isError]

/-! ## Checks -/

/-- What the gate tells of an outcome. -/
def Outcome.notice (host : Text) (o : Outcome) : Notice :=
  .tried host o.kind o.location o.failure?

namespace Gate

variable {g : Gate} {credentials : List Credential} {x : Exchange} {r : Request}

theorem pass_uses (h : g.Uses credentials) : (g.pass x).1 = (g.check credentials x).1 := by
  simp [pass, h.enabled, h.credentials_eq, h.not_loadFailed]

theorem check_breaksDown (h : x.BreaksDown credentials) : (g.check credentials x).1 = x := by
  rcases breaksDown_iff.mp h with ⟨fault, hr⟩ | ⟨r, hr, fault, hf⟩
  · simp [check, hr]
  · simp [check, checkRequest, hr, hf]

theorem check_found {m : Match} (hr : x.request = .ok r)
    (hf : r.find credentials = .ok (some m)) : (g.check credentials x).1 = noted x m.note := by
  simp [check, checkRequest, hr, hf]

/-- Telling what happened at every location stands in the way of no rejection. -/
theorem checkRequest_missed (hf : r.find credentials = .ok none) :
    ∃ outcomes, r.survey credentials = .ok outcomes ∧
      g.checkRequest credentials x r =
        (g.miss x, if g.options.verbose then outcomes.map (Outcome.notice x.host) else []) := by
  obtain ⟨outcomes, hs⟩ := survey_isOk hf
  refine ⟨outcomes, hs, ?_⟩
  simp only [checkRequest, hf, hs]
  split
  · rfl
  · rfl

theorem check_missed (hr : x.request = .ok r) (hf : r.find credentials = .ok none) :
    (g.check credentials x).1 = g.miss x := by
  obtain ⟨outcomes, -, hc⟩ := checkRequest_missed (g := g) (x := x) hf
  simp only [check, hr, hc]

theorem check_cases (g : Gate) (credentials : List Credential) (x : Exchange) :
    x.BreaksDown credentials ∧ (g.check credentials x).1 = x ∨
      (∃ r m, x.request = .ok r ∧ r.find credentials = .ok (some m) ∧
        (g.check credentials x).1 = noted x m.note) ∨
      ∃ r, x.request = .ok r ∧ r.find credentials = .ok none ∧
        (g.check credentials x).1 = g.miss x := by
  by_cases hb : x.BreaksDown credentials
  · exact .inl ⟨hb, check_breaksDown hb⟩
  · have hends := hb
    rw [breaksDown_iff, not_or, exists_error_iff, not_not] at hends
    obtain ⟨⟨r, hr⟩, hfind⟩ := hends
    cases hf : r.find credentials with
    | error fault => exact absurd ⟨r, hr, fault, hf⟩ hfind
    | ok found =>
      cases found with
      | some m => exact .inr (.inl ⟨r, m, hr, hf, check_found hr hf⟩)
      | none => exact .inr (.inr ⟨r, hr, hf, check_missed hr hf⟩)

theorem miss_rejected (he : g.options.enforce = true) : (g.miss x).Rejected := by
  simp only [miss, he, ↓reduceIte]
  exact ⟨note_noted x notFoundNote, rfl⟩

end Gate

theorem Exchange.AdmittedAs.not_rejected {x y : Exchange} {credentials : List Credential}
    (h : x.AdmittedAs credentials y) : ¬ y.Rejected := by
  obtain ⟨r, m, -, -, hn, -⟩ := h
  intro hyp
  obtain ⟨hn', -⟩ := hyp
  rw [hn, Option.some.injEq] at hn'
  exact m.note_ne hn'

theorem Exchange.AdmittedAs.not_breaksDown {x y : Exchange} {credentials : List Credential}
    (h : x.AdmittedAs credentials y) : ¬ x.BreaksDown credentials := by
  obtain ⟨r, m, hr, hf, -, -⟩ := h
  rw [breaksDown_iff]
  intro hyp
  rcases hyp with ⟨fault, hr'⟩ | ⟨r', hr', fault, hf'⟩
  · simp [hr] at hr'
  · cases hr.symm.trans hr'
    simp [hf] at hf'

namespace Gate

variable {g : Gate} {credentials : List Credential} {x : Exchange}

/-- Where the search comes to an end, the request is admitted or rejected. -/
theorem pass_judged (hg : g.Uses credentials) (he : g.options.enforce = true)
    (hx : ¬ x.BreaksDown credentials) :
    x.AdmittedAs credentials (g.pass x).1 ∨ (g.pass x).1.Rejected := by
  rw [pass_uses hg]
  rcases check_cases g credentials x with ⟨hb, -⟩ | ⟨r, m, hr, hf, hc⟩ | ⟨r, -, -, hc⟩
  · exact absurd hb hx
  · rw [hc]
    exact .inl ⟨r, m, hr, hf, note_noted x m.note, rfl⟩
  · rw [hc]
    exact .inr (miss_rejected he)

/-- **Enforcement on a request.** A gate that uses credentials and enforces them either admits a
request as what is found in it or rejects it, and never both, exactly when the request does not
break down (or came rejected already); a request that breaks down goes on as it came. -/
theorem pass_judges_iff (g : Gate) (credentials : List Credential) (x : Exchange)
    (hg : g.Uses credentials) (he : g.options.enforce = true) :
    (Xor (x.AdmittedAs credentials (g.pass x).1) (g.pass x).1.Rejected ↔
      ¬ x.BreaksDown credentials ∨ x.Rejected) ∧
    (x.BreaksDown credentials → (g.pass x).1 = x) := by
  have hb : x.BreaksDown credentials → (g.pass x).1 = x := by
    intro h
    rw [pass_uses hg, check_breaksDown h]
  refine ⟨?_, hb⟩
  by_cases hx : x.BreaksDown credentials
  · rw [hb hx]
    have ha : ¬ x.AdmittedAs credentials x := fun h => h.not_breaksDown hx
    simp [Xor, hx, ha]
  · have hj := pass_judged hg he hx
    have hn : x.AdmittedAs credentials (g.pass x).1 → ¬ (g.pass x).1.Rejected :=
      Exchange.AdmittedAs.not_rejected
    simp only [hx, not_false_eq_true, true_or, iff_true, xor_iff_or_and_not_and]
    exact ⟨hj, fun h => hn h.1 h.2⟩

/-- The text `a` in the header `k`. -/
def letterInHeader : List Credential := [⟨"letter", ["a"], [⟨.header, ["k"], []⟩]⟩]

/-- A gate that enforces the credential. -/
def letterGate : Gate := ⟨⟨"letter.json", true, false⟩, some letterInHeader, true, false⟩

/-- A request with these bytes in the header `k`. -/
def withHeader (value : Bytes) : Exchange := ⟨"example.com", [([0x6B], value)], [0x2F], [], none⟩

theorem pass_judges_letter :
    letterGate.Uses letterInHeader ∧ letterGate.options.enforce = true ∧
      Xor ((withHeader [0x61]).AdmittedAs letterInHeader (letterGate.pass (withHeader [0x61])).1)
        (letterGate.pass (withHeader [0x61])).1.Rejected := by
  have hg : letterGate.Uses letterInHeader := ⟨rfl, rfl, rfl⟩
  have hx : ¬ (withHeader [0x61]).BreaksDown letterInHeader := by
    have hr : (withHeader [0x61]).request = .ok ⟨[("k", "a")], [], []⟩ := rfl
    have hf : Request.find ⟨[("k", "a")], [], []⟩ letterInHeader =
      .ok (some ⟨"letter", "a", ⟨.header, ["k"], []⟩, 0⟩) := rfl
    simp [breaksDown_iff, hr, hf]
  exact ⟨hg, rfl, (pass_judges_iff letterGate letterInHeader _ hg rfl).1.mpr (.inl hx)⟩

/-- A request with a byte that is not UTF-8 is neither admitted nor rejected. -/
theorem pass_stray_byte :
    letterGate.Uses letterInHeader ∧ letterGate.options.enforce = true ∧
      ¬ Xor ((withHeader [0xFF]).AdmittedAs letterInHeader (letterGate.pass (withHeader [0xFF])).1)
        (letterGate.pass (withHeader [0xFF])).1.Rejected := by
  refine ⟨⟨rfl, rfl, rfl⟩, rfl, ?_⟩
  have hr : (withHeader [0xFF]).request = .ok ⟨[("k", [CodePoint.ofNat 0xDCFF])], [], []⟩ := rfl
  have hf : Request.find ⟨[("k", [CodePoint.ofNat 0xDCFF])], [], []⟩ letterInHeader =
    .error (.unencodable ⟨CodePoint.ofNat 0xDCFF, 0, 1⟩) := rfl
  have hp : (letterGate.pass (withHeader [0xFF])).1.response = none := rfl
  intro hyp
  rcases hyp with ⟨⟨r, m, hr', hf', -, -⟩, -⟩ | ⟨⟨-, hp'⟩, -⟩
  · cases hr.symm.trans hr'
    cases hf.symm.trans hf'
  · cases hp.symm.trans hp'

end Gate

end RequestCredentials
