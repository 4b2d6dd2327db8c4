import RequestCredentials.Proofs.Gate.Standing
import RequestCredentials.Proofs.Search.Survey
/-
  Verbosity decides nothing

  A verbose gate tells what happened at every location of a request without a
  credential. To tell it, the gate goes through all the locations once more,
  after it has noted that nothing was found and before it rejects the request.
  That second way through has an answer wherever the search had one, so the
  request is rejected all the same.

  What is proved:
    1. `pass_withVerbose` — what becomes of an exchange does not depend on
       verbosity, and neither does what is told, apart from details;
    2. `next_muted`, `answers_muted` — nor does what becomes of any exchange in
       a run, in which verbosity is switched on and off;
    3. `verbosity_decides_nothing` — both, and what verbosity adds: each
       location is told of once, in order.
-/

namespace RequestCredentials

/-! ## One exchange -/

/-- The gate with verbosity on or off, and all else as it is. -/
def Gate.withVerbose (g : Gate) (verbose : Bool) : Gate :=
  { g with options := { g.options with verbose := verbose } }

/-- The notices without those that a gate shows only when it is verbose. -/
def withoutDetails (notices : List Notice) : List Notice :=
  notices.filter fun n => n.level ≠ .debug

/-- The exchange has become the same, and the same was told of it, apart from details. -/
structure SameDecision (a b : Exchange × List Notice) : Prop where
  exchange : a.1 = b.1
  notices : withoutDetails a.2 = withoutDetails b.2

theorem SameDecision.refl (a : Exchange × List Notice) : SameDecision a a := ⟨rfl, rfl⟩

theorem SameDecision.trans {a b c : Exchange × List Notice} (h : SameDecision a b)
    (h' : SameDecision b c) : SameDecision a c :=
  ⟨h.exchange.trans h'.exchange, h.notices.trans h'.notices⟩

theorem SameDecision.symm {a b : Exchange × List Notice} (h : SameDecision a b) :
    SameDecision b a :=
  ⟨h.exchange.symm, h.notices.symm⟩

theorem withoutDetails_told (host : Text) (outcomes : List Outcome) :
    withoutDetails (outcomes.map (Outcome.notice host)) = [] := by
  unfold withoutDetails
  apply List.filter_eq_nil_iff.mpr
  intro n hn
  obtain ⟨o, -, rfl⟩ := List.mem_map.mp hn
  simp [Outcome.notice, Notice.level]

namespace Gate

variable (g : Gate) (verbose : Bool) (credentials : List Credential) (x : Exchange)

theorem withVerbose_credentials : (g.withVerbose verbose).credentials = g.credentials := rfl

theorem withVerbose_config : (g.withVerbose verbose).options.config = g.options.config := rfl

theorem checkRequest_withVerbose (r : Request) :
    SameDecision ((g.withVerbose verbose).checkRequest credentials x r)
      (g.checkRequest credentials x r) := by
  cases hf : r.find credentials with
  | error fault =>
    simp only [checkRequest, hf]
    exact .refl _
  | ok found =>
    cases found with
    | some m =>
      simp only [checkRequest, hf]
      exact .refl _
    | none =>
      -- A miss is told of in details only, and they are there because the survey has an answer.
      have hmiss : ∀ h : Gate, SameDecision (h.checkRequest credentials x r) (h.miss x, []) := by
        intro h
        obtain ⟨outcomes, -, hc⟩ := checkRequest_missed (g := h) (x := x) hf
        rw [hc]
        refine ⟨rfl, ?_⟩
        show withoutDetails (if _ then _ else _) = _
        split
        · exact withoutDetails_told x.host outcomes
        · rfl
      exact (hmiss (g.withVerbose verbose)).trans (hmiss g).symm

theorem check_withVerbose :
    SameDecision ((g.withVerbose verbose).check credentials x) (g.check credentials x) := by
  unfold check
  cases x.request with
  | error fault => exact .refl _
  | ok r => exact checkRequest_withVerbose g verbose credentials x r

/-- Verbosity changes only which details are told of an exchange. -/
theorem pass_withVerbose : SameDecision ((g.withVerbose verbose).pass x) (g.pass x) := by
  unfold pass
  show SameDecision (if g.loadFailed && g.options.enforce then (g.miss x, []) else _) _
  split
  · exact .refl _
  · show SameDecision (if g.enabled then _ else _) _
    split
    · rw [withVerbose_credentials]
      cases g.credentials with
      | none => exact .refl _
      | some credentials => exact check_withVerbose g verbose credentials x
    · exact .refl _

theorem reload_withVerbose (files : Files) :
    ((g.withVerbose verbose).reload files).1 = (g.reload files).1.withVerbose verbose := by
  rw [reload_eq, reload_eq, withVerbose_config]
  cases files.standing? g.options.config with
  | none => rfl
  | some s => rfl

end Gate

/-! ## Runs -/

namespace Proxy

/-- The proxy with verbosity off. -/
def muted (p : Proxy) : Proxy := { p with gate := p.gate.withVerbose false }

/-- The event without any setting of verbosity. -/
def Event.muted : Event → Event
  | .configure update => .configure { update with verbose := none }
  | e => e

/-- What becomes of the exchanges in a run; one place for each event. -/
def answers (p : Proxy) : List Event → List (Option Exchange)
  | [] => []
  | e :: rest => (p.step e).2.1 :: (p.next e).answers rest

theorem next_muted (p : Proxy) (e : Event) : p.muted.next e.muted = (p.next e).muted := by
  cases e with
  | write path content => rfl
  | request x => rfl
  | configure update =>
    obtain ⟨config, enforce, verbose⟩ := update
    cases config with
    | none => rfl
    | some path =>
      let g : Gate :=
        { p.gate with options := p.gate.options.update ⟨some path, enforce, verbose⟩ }
      exact congrArg (Proxy.mk p.files) (Gate.reload_withVerbose g false p.files)

theorem answer_muted (p : Proxy) (e : Event) : (p.muted.step e.muted).2.1 = (p.step e).2.1 := by
  cases e with
  | write path content => rfl
  | configure update => rfl
  | request x => exact congrArg some (Gate.pass_withVerbose p.gate false x).exchange

theorem answers_muted (p : Proxy) (events : List Event) :
    p.muted.answers (events.map Event.muted) = p.answers events := by
  induction events generalizing p with
  | nil => rfl
  | cons e rest ih => rw [List.map_cons, answers, answers, answer_muted, next_muted, ih]

end Proxy

/-- **Verbosity decides nothing.** In every state, what becomes of an exchange is the same with
verbosity on and off, and so is what is told of it, apart from details. Where a search finds
nothing, the verbose gate can tell of every location, once each and in order, before it goes on to
what the other does. Over a run it makes no difference when verbosity is switched on and off. -/
theorem verbosity_decides_nothing (p : Proxy) (events : List Proxy.Event) :
    (∀ x, SameDecision ((p.gate.withVerbose true).pass x) ((p.gate.withVerbose false).pass x)) ∧
    (∀ x credentials r, p.gate.Uses credentials → x.request = .ok r →
      r.find credentials = .ok none → ∃ outcomes, ToldInOrder r credentials outcomes ∧
        (p.gate.withVerbose true).pass x =
          (p.gate.miss x, outcomes.map (Outcome.notice x.host)) ∧
        (p.gate.withVerbose false).pass x = (p.gate.miss x, [])) ∧
    p.answers events = p.muted.answers (events.map Proxy.Event.muted) := by
  refine ⟨?_, ?_, (Proxy.answers_muted p events).symm⟩
  · intro x
    have hon := Gate.pass_withVerbose p.gate true x
    have hoff := Gate.pass_withVerbose p.gate false x
    exact hon.trans hoff.symm
  · intro x credentials r hg hr hf
    obtain ⟨outcomes, hs⟩ := survey_isOk hf
    have hpass : ∀ verbose, (p.gate.withVerbose verbose).pass x =
        (p.gate.miss x, if verbose then outcomes.map (Outcome.notice x.host) else []) := by
      intro verbose
      obtain ⟨outcomes', hs', hc⟩ :=
        Gate.checkRequest_missed (g := p.gate.withVerbose verbose) (x := x) hf
      obtain rfl : outcomes = outcomes' := Except.ok.inj (hs.symm.trans hs')
      have hstands : (p.gate.withVerbose verbose).Stands (.loaded credentials) :=
        ⟨hg.credentials_eq, hg.enabled, hg.not_loadFailed⟩
      rw [pass_eq hstands x]
      simp only [Gate.check, hr, hc]
      rfl
    exact ⟨outcomes, survey_told hs, hpass true, hpass false⟩

/-- A request with another letter is rejected, and the verbose gate tells of the one location. -/
theorem verbosity_decides_nothing_otherLetter :
    Gate.letterGate.Uses Gate.letterInHeader ∧
      (Gate.withHeader [0x62]).request = .ok ⟨[("k", "b")], [], []⟩ ∧
      Request.find ⟨[("k", "b")], [], []⟩ Gate.letterInHeader = .ok none ∧
      ∃ outcomes : List Outcome, outcomes.length = 1 ∧
        (Gate.letterGate.withVerbose true).pass (Gate.withHeader [0x62]) =
          (Gate.letterGate.miss (Gate.withHeader [0x62]),
            outcomes.map (Outcome.notice "example.com")) ∧
        (Gate.letterGate.miss (Gate.withHeader [0x62])).Rejected := by
  have hg : Gate.letterGate.Uses Gate.letterInHeader := ⟨rfl, rfl, rfl⟩
  have hr : (Gate.withHeader [0x62]).request = .ok ⟨[("k", "b")], [], []⟩ := rfl
  have hf : Request.find ⟨[("k", "b")], [], []⟩ Gate.letterInHeader = .ok none := rfl
  obtain ⟨-, htold, -⟩ := verbosity_decides_nothing ⟨.empty, Gate.letterGate⟩ []
  obtain ⟨outcomes, ⟨blocks, hblocks, hall⟩, hon, -⟩ := htold _ _ _ hg hr hf
  refine ⟨hg, hr, hf, outcomes, ?_, hon, Gate.miss_rejected rfl⟩
  obtain ⟨block, rest, hblock, hrest, rfl⟩ := List.forall₂_cons_left_iff.mp hall
  obtain rfl := List.forall₂_nil_left_iff.mp hrest
  rw [hblocks, List.flatten_cons, List.flatten_nil, List.append_nil, hblock.1]
  rfl

end RequestCredentials
