import RequestCredentials.Catalogue
import RequestCredentials.Proofs.History
/-
  Loads into catalogues

  A load takes effect as a whole or not at all: it puts all credentials of a
  declaration in the place of those that were there, or it fails and changes
  nothing. No other action touches a catalogue, and a load touches one of the
  two only. The shared catalogue is replaced as a whole, which its edition
  tells.

  What is proved:
    1. `perform_cases` — what one action can do: load, fail to load, or leave
       both catalogues alone;
    2. `perform_get`, `perform_edition` — a catalogue after an action, and when
       the shared one is another;
    3. `run_holds_last_load` — after a run, each catalogue holds what was loaded
       into it last;
    4. `loads_all_or_nothing` — the whole of it, for any run and one more action.
-/

namespace RequestCredentials

namespace Catalogues

/-- The catalogues after an action. -/
def next (c : Catalogues) (a : Action) : Catalogues := (c.perform a).1

/-- The catalogues after some actions. -/
def run (c : Catalogues) (actions : List Action) : Catalogues := actions.foldl next c

/-- The catalogue that an action is about. -/
def Action.holder? : Action → Option Holder
  | .write _ _ => none
  | .load holder _ _ => some holder
  | .loadFile holder _ => some holder
  | .find holder _ => some holder
  | .survey holder _ => some holder
  | .credentials holder => some holder

/-- What an action is to load, and into which catalogue: the credentials of a declaration, or the
fault for which there are none. -/
def attempt? (c : Catalogues) : Action → Option (Holder × Except LoadFault (List Credential))
  | .load holder document path =>
    some (holder, (acceptCredentials (pathName path) document).mapError .refused)
  | .loadFile holder path => some (holder, c.files.load path)
  | _ => none

/-- The credentials that an action loads into the catalogue. -/
def loaded? (holder : Holder) (c : Catalogues) (a : Action) : Option (List Credential) :=
  match c.attempt? a with
  | some (target, .ok credentials) => if target = holder then some credentials else none
  | _ => none

/-! ## Single actions -/

theorem perform_attempt {c : Catalogues} {a : Action} {holder : Holder}
    {result : Except LoadFault (List Credential)} (h : c.attempt? a = some (holder, result)) :
    c.perform a = c.finishLoad holder result := by
  cases a with
  | load target document path =>
    cases h
    rfl
  | loadFile target path =>
    cases h
    rfl
  | write path content => cases h
  | find target request => cases h
  | survey target request => cases h
  | credentials target => cases h

theorem holder_of_attempt {c : Catalogues} {a : Action} {holder : Holder}
    {result : Except LoadFault (List Credential)} (h : c.attempt? a = some (holder, result)) :
    a.holder? = some holder := by
  cases a <;> cases h <;> rfl

/-- An action loads, fails to load, or leaves both catalogues as they are. -/
theorem perform_cases (c : Catalogues) (a : Action) :
    (∃ holder credentials, c.attempt? a = some (holder, .ok credentials) ∧
      c.perform a = (c.replace credentials holder, .done)) ∨
    (∃ holder fault, c.attempt? a = some (holder, .error fault) ∧
      c.perform a = (c, .fault fault)) ∨
    (c.attempt? a = none ∧ ∃ files, c.next a = { c with files := files }) := by
  cases ht : c.attempt? a with
  | some attempt =>
    obtain ⟨holder, result⟩ := attempt
    have hp := perform_attempt ht
    cases result with
    | ok credentials => exact .inl ⟨holder, credentials, rfl, hp⟩
    | error fault => exact .inr (.inl ⟨holder, fault, rfl, hp⟩)
  | none =>
    refine .inr (.inr ⟨rfl, ?_⟩)
    cases a with
    | write path content => exact ⟨c.files.write path content, rfl⟩
    | load target document path => cases ht
    | loadFile target path => cases ht
    | find target request => exact ⟨c.files, rfl⟩
    | survey target request => exact ⟨c.files, rfl⟩
    | credentials target => exact ⟨c.files, rfl⟩

theorem get_replace (c : Catalogues) (credentials : List Credential) (target holder : Holder) :
    (c.replace credentials target).get holder =
      if target = holder then credentials else c.get holder := by
  cases target <;> cases holder <;> rfl

theorem get_files (c : Catalogues) (files : Files) (holder : Holder) :
    Catalogues.get { c with files := files } holder = c.get holder := by
  cases holder <;> rfl

theorem perform_get (c : Catalogues) (a : Action) (holder : Holder) :
    (c.next a).get holder = (loaded? holder c a).getD (c.get holder) := by
  rcases perform_cases c a with
    ⟨target, credentials, ht, hp⟩ | ⟨target, fault, ht, hp⟩ | ⟨ht, files, hn⟩
  · rw [next, hp, get_replace, loaded?, ht]
    by_cases h : target = holder
    · simp only [h, ↓reduceIte, Option.getD_some]
    · simp only [h, ↓reduceIte, Option.getD_none]
  · rw [next, hp, loaded?, ht]
    rfl
  · rw [hn, get_files, loaded?, ht]
    rfl

theorem perform_edition (c : Catalogues) (a : Action) :
    c.edition ≤ (c.next a).edition ∧ ((c.next a).edition ≠ c.edition ↔
      ∃ credentials, c.attempt? a = some (.shared, .ok credentials)) := by
  rcases perform_cases c a with
    ⟨target, credentials, ht, hp⟩ | ⟨target, fault, ht, hp⟩ | ⟨ht, files, hn⟩
  · rw [next, hp, ht]
    cases target with
    | own => simp [replace]
    | shared => simp [replace]
  · rw [next, hp, ht]
    simp
  · rw [hn, ht]
    simp

theorem perform_other {c : Catalogues} {a : Action} {holder : Holder}
    (h : a.holder? ≠ some holder) : (c.next a).get holder = c.get holder := by
  rcases perform_cases c a with
    ⟨target, credentials, ht, hp⟩ | ⟨target, fault, ht, hp⟩ | ⟨-, files, hn⟩
  · have hne : target ≠ holder := by
      intro he
      exact h (he ▸ holder_of_attempt ht)
    rw [next, hp, get_replace, if_neg hne]
  · rw [next, hp]
  · rw [hn, get_files]

/-! ## Runs -/

/-- After a run, a catalogue holds what was loaded into it last, and nothing before the first
load. -/
theorem run_holds_last_load (files : Files) (actions : List Action) (holder : Holder) :
    LastGives next (loaded? holder) (start files) actions
        (((start files).run actions).get holder) ∨
      NeverGives next (loaded? holder) (start files) actions ∧
        ((start files).run actions).get holder = [] := by
  have hstep : ∀ (c : Catalogues) (a : Action) (held : List Credential), c.get holder = held →
      (c.next a).get holder = (loaded? holder c a).getD held := by
    intro c a held h
    rw [perform_get, h]
  have hstart : (start files).get holder = [] := by cases holder <;> rfl
  rcases run_gives hstep hstart actions with ⟨held, hl, hh⟩ | ⟨hn, hh⟩
  · exact .inl (hh ▸ hl)
  · exact .inr ⟨hn, hh⟩

/-- **Loads are all or nothing, and catalogues are independent.** After any run, each catalogue
holds the credentials of the last load into it, and none if there was none. One more action that
fails to load changes nothing at all; one that loads is done, and its catalogue holds what was
loaded; the shared catalogue becomes another one by a load into it and by nothing else; and what is
not about a catalogue leaves it as it is. -/
theorem loads_all_or_nothing (files : Files) (actions : List Action) (a : Action) :
    let c := (start files).run actions
    (∀ holder, LastGives next (loaded? holder) (start files) actions (c.get holder) ∨
      NeverGives next (loaded? holder) (start files) actions ∧ c.get holder = []) ∧
    (∀ holder fault, c.attempt? a = some (holder, .error fault) →
      c.perform a = (c, .fault fault)) ∧
    (∀ holder credentials, c.attempt? a = some (holder, .ok credentials) →
      (c.perform a).2 = .done ∧ (c.next a).get holder = credentials) ∧
    (c.edition ≤ (c.next a).edition ∧ ((c.next a).edition ≠ c.edition ↔
      ∃ credentials, c.attempt? a = some (.shared, .ok credentials))) ∧
    ∀ holder, a.holder? ≠ some holder → (c.next a).get holder = c.get holder := by
  refine ⟨run_holds_last_load files actions, ?_, ?_, perform_edition _ a, fun _ h => perform_other h⟩
  · intro holder fault h
    exact perform_attempt h
  · intro holder credentials h
    have hp := perform_attempt h
    rw [next, hp]
    refine ⟨rfl, ?_⟩
    rw [finishLoad, get_replace, if_pos rfl]

/-! ## A good load and a bad one -/

/-- A declaration of the header `x`. -/
def headerDocument : Json :=
  .obj [("credentials", .arr [.obj [("kind", .str "k"), ("locations",
    .arr [.obj [("selector", .str "header"), ("args", .arr [.str "x"])]])]])]

/-- The header `x`, whatever it holds. -/
def headerAlone : List Credential := [⟨"k", [], [⟨.header, ["x"], []⟩]⟩]

/-- Catalogues without files. -/
def bare : Catalogues := start .empty

/-- The declaration is loaded into the own catalogue, and a file is written that is not JSON. -/
def loadedOnce : List Action := [.load .own headerDocument "", .write "c" (some [0x7B])]

/-- A load of the file changes nothing; a load into the shared catalogue makes it another one, and
does not touch the own one. -/
theorem loads_all_or_nothing_brace :
    (bare.run loadedOnce).own = headerAlone ∧
      (bare.run loadedOnce).perform (.loadFile .own "c") =
        (bare.run loadedOnce, .fault (.refused (.notJson "c" .noName ⟨1, 2, 1⟩))) ∧
      ((bare.run loadedOnce).next (.load .shared headerDocument "")).edition ≠
        (bare.run loadedOnce).edition ∧
      ((bare.run loadedOnce).next (.load .shared headerDocument "")).own = headerAlone := by
  have hproblems : (headerDocument.problems Check.declaration).isEmpty = true := by decide +kernel
  have hd : acceptCredentials (pathName "") headerDocument = .ok headerAlone := by
    rw [acceptCredentials, readChecked, List.isEmpty_iff.mp hproblems]
    rfl
  have hload : ∀ (c : Catalogues) (holder : Holder),
      c.attempt? (.load holder headerDocument "") = some (holder, .ok headerAlone) := by
    intro c holder
    rw [attempt?, hd]
    rfl
  have hnext : bare.next (.load .own headerDocument "") = bare.replace headerAlone .own := by
    rw [next, perform_attempt (hload bare .own)]
    rfl
  have hrun : bare.run loadedOnce =
      (bare.replace headerAlone .own).next (.write "c" (some [0x7B])) := by
    rw [← hnext]
    rfl
  have hown : (bare.run loadedOnce).own = headerAlone := by
    have hfirst := loads_all_or_nothing .empty [] (.load .own headerDocument "")
    exact (hfirst.2.2.1 .own headerAlone (hload _ _)).2
  have hbad : (bare.run loadedOnce).attempt? (.loadFile .own "c") =
      some (.own, .error (.refused (.notJson "c" .noName ⟨1, 2, 1⟩))) := by
    rw [hrun]
    rfl
  have hfile := loads_all_or_nothing .empty loadedOnce (.loadFile .own "c")
  have hshared := loads_all_or_nothing .empty loadedOnce (.load .shared headerDocument "")
  refine ⟨hown, hfile.2.1 .own _ hbad, hshared.2.2.2.1.2.mpr ⟨_, hload _ _⟩, ?_⟩
  exact (hshared.2.2.2.2 .own (by decide)).trans hown

end Catalogues

end RequestCredentials
