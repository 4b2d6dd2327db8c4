import RequestCredentials.Proofs.Gate.Enforcement
/-
  Runs of a proxy

  A run is a sequence of events, each of which the proxy takes one step on. An
  event may set the path of the declaration; no other event loads anything, so
  between two of them what the gate has loaded stays as it is.

  What is proved:
    1. `run_append` — a run goes on from where its first part leads;
    2. `next_files` — which events change the files;
    3. `step_keeps_load`, `run_keeps_load` — without a new path, what was
       loaded stays in use, and a failure to load stays a failure.
-/

namespace RequestCredentials

namespace Proxy

/-- The proxy after some events. -/
def run (p : Proxy) : List Event → Proxy
  | [] => p
  | e :: rest => run (p.step e).1 rest

/-- The event sets the path of the declaration. -/
def Event.setsConfig : Event → Bool
  | .configure update => update.config.isSome
  | _ => false

/-- What becomes of a request that arrives now. -/
def answer (p : Proxy) (x : Exchange) : Option Exchange := (p.step (.request x)).2.1

theorem answer_eq (p : Proxy) (x : Exchange) : p.answer x = some (p.gate.pass x).1 := rfl

/-- The request that arrives now is answered with a note that there is no credential. -/
def Rejects (p : Proxy) (x : Exchange) : Prop := ∃ y, p.answer x = some y ∧ y.Rejected

/-- The proxy after an event. -/
def next (p : Proxy) (e : Event) : Proxy := (p.step e).1

theorem run_eq_foldl (p : Proxy) (events : List Event) : p.run events = events.foldl next p := by
  induction events generalizing p with
  | nil => rfl
  | cons e rest ih => exact ih (p.next e)

theorem run_append (p : Proxy) (before after : List Event) :
    p.run (before ++ after) = (p.run before).run after := by
  induction before generalizing p with
  | nil => rfl
  | cons e rest ih => exact ih (p.step e).1

/-- Only writing changes the files. -/
theorem next_files (p : Proxy) (e : Event) :
    (p.next e).files = match e with
      | .write path content => p.files.write path content
      | _ => p.files := by
  cases e <;> rfl

/-- Two gates hold the same load: the same credentials, or the same failure. -/
def SameLoad (g h : Gate) : Prop :=
  g.credentials = h.credentials ∧ g.enabled = h.enabled ∧ g.loadFailed = h.loadFailed

theorem step_keeps_load {p : Proxy} {e : Event} (h : e.setsConfig = false) :
    SameLoad (p.step e).1.gate p.gate := by
  cases e with
  | write path content => exact ⟨rfl, rfl, rfl⟩
  | request x => exact ⟨rfl, rfl, rfl⟩
  | configure update =>
    have hc : update.config = none := by simpa [Event.setsConfig] using h
    simp [step, Gate.configure, hc, SameLoad]

theorem run_keeps_load {p : Proxy} {events : List Event}
    (h : ∀ e ∈ events, e.setsConfig = false) : SameLoad (p.run events).gate p.gate := by
  induction events generalizing p with
  | nil => exact ⟨rfl, rfl, rfl⟩
  | cons e rest ih =>
    obtain ⟨hc, he, hl⟩ := ih (p := (p.step e).1) fun d hd => h d (List.mem_cons_of_mem _ hd)
    obtain ⟨hc', he', hl'⟩ := step_keeps_load (p := p) (h e List.mem_cons_self)
    exact ⟨hc.trans hc', he.trans he', hl.trans hl'⟩

end Proxy

end RequestCredentials
