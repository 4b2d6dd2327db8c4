import RequestCredentials.Proofs.Declaration.Accepted
import RequestCredentials.Proofs.Files.Written
import RequestCredentials.Proofs.Json.ShortIntegers
/-
  What a load comes to

  A load gives credentials, or a refusal, or the file is passed over: its path
  starts in a home directory that is not known, its path or its bytes are not
  text, or it holds a number with too many digits. As a file with such a number
  has no document, every document of a file can be written, and what its
  declaration is refused for can be told.

  What is proved:
    1. `load_passedOver` — a load without credentials and without a refusal is
       one of a file that is passed over (`Files.PassedOver`);
    2. `passedOver_written` — a file of other bytes than text is passed over,
       wherever it was written;
    3. `load_told` — what a file is refused for can be told;
    4. `load_declared` — a declaration without problems is loaded from where it
       was written.
-/

namespace RequestCredentials

/-! ## Files that are passed over -/

/-- The path starts in the home directory of a user that cannot be asked for or whose home is not
known. -/
def Files.StartsAstray (files : Files) (path : Text) : Prop :=
  ∃ owner, homeOwner? path = some owner ∧
    ((∃ fault, systemText owner = .error fault) ∨ files.homePath? owner = none)

/-- The content is not text, or its document holds an integer with too many digits before anything
that is wrong with it. -/
def Unreadable (content : Bytes) : Prop :=
  (∃ fault, Utf8.decode content = .error fault) ∨
    ∃ text count, Utf8.decode content = .ok text ∧
      Json.readFile (unifyLineEnds text) = .error (.tooManyDigits count)

/-- The home directory in which the path starts is not known, the path of the file is not text for
the system, or its content is not readable. -/
def Files.PassedOver (files : Files) (path : Text) : Prop :=
  files.StartsAstray path ∨ ∃ found, files.expandHome path = .ok found ∧
    ((∃ fault, systemText found = .error fault) ∨
      ∃ content, files.read found = .ok content ∧ Unreadable content)

/-- The fault is a refusal. -/
def LoadFault.isRefusal : LoadFault → Bool
  | .refused _ => true
  | _ => false

section
variable {files : Files} {path : Text} {content : Bytes} {fault : LoadFault}

theorem expandHome_eq_error (h : files.expandHome path = .error fault) :
    fault.isRefusal = false ∧ files.StartsAstray path := by
  rw [Files.expandHome] at h
  split at h
  · cases h
  · next owner howner =>
    rcases bind_eq_error.mp h with hsystem | ⟨bytes, -, hhome⟩
    · obtain ⟨cause, hcause, rfl⟩ := mapError_eq_error.mp hsystem
      exact ⟨rfl, owner, howner, .inl ⟨cause, hcause⟩⟩
    · split at hhome
      · next hnone =>
        cases hhome
        exact ⟨rfl, owner, howner, .inr hnone⟩
      · cases hhome

theorem not_startsAstray {found : Text} (h : files.expandHome path = .ok found) :
    ¬ files.StartsAstray path := by
  rintro ⟨owner, howner, ⟨cause, hsystem⟩ | hnone⟩
  · simp [Files.expandHome, howner, hsystem, mapError_error, bind, Except.bind] at h
  · simp only [Files.expandHome, howner, hnone, bind_eq_ok] at h
    obtain ⟨-, -, hthrow⟩ := h
    cases hthrow

theorem read_isRefusal (h : files.read path = .error fault) :
    fault.isRefusal = false ↔ ∃ cause, systemText path = .error cause := by
  cases hs : systemText path with
  | error cause =>
    simp only [Files.read, hs, mapError_error, bind, Except.bind, Except.error.injEq] at h
    simp [← h, LoadFault.isRefusal]
  | ok bytes =>
    simp only [Files.read, hs, mapError_ok, bind, Except.bind, mapError_eq_error] at h
    obtain ⟨cause, -, rfl⟩ := h
    simp [LoadFault.isRefusal]

theorem systemText_of_read (h : files.read path = .ok content) :
    ∃ name, systemText path = .ok name := by
  simp only [Files.read, bind_eq_ok, mapError_eq_ok] at h
  obtain ⟨name, hs, -⟩ := h
  exact ⟨name, hs⟩

/-- A document is missing without a refusal exactly when the content is not readable. -/
theorem documentIn_unreadable (path : Text) (content : Bytes) :
    (∃ fault, documentIn path content = .error fault ∧ fault.isRefusal = false) ↔
      Unreadable content := by
  rw [Unreadable]
  cases ht : Utf8.decode content with
  | error fault => simp [documentIn, ht, bind, Except.bind, mapError_error, LoadFault.isRefusal]
  | ok text =>
    cases hj : Json.readFile (unifyLineEnds text) with
    | ok document => simp [documentIn, ht, hj, bind, Except.bind, mapError_ok, pure, Except.pure]
    | error fault =>
      cases fault <;>
        simp [documentIn, ht, hj, bind, Except.bind, mapError_ok, throw, throwThe,
          MonadExceptOf.throw, LoadFault.isRefusal]

theorem declaredIn_isRefusal (h : declaredIn path content = .error fault) :
    fault.isRefusal = false ↔ Unreadable content := by
  rw [← documentIn_unreadable path]
  rw [declaredIn, bind_eq_error] at h
  rcases h with hd | ⟨document, hd, haccept⟩
  · simp [hd]
  · obtain ⟨refusal, -, rfl⟩ := mapError_eq_error.mp haccept
    simp [hd, LoadFault.isRefusal]

/-- A load has no credentials and no refusal exactly when the file is passed over. -/
theorem load_passedOver (h : files.load path = .error fault) :
    fault.isRefusal = false ↔ files.PassedOver path := by
  rw [Files.PassedOver]
  cases hf : files.expandHome path with
  | error fault' =>
    obtain ⟨hrefusal, hastray⟩ := expandHome_eq_error hf
    simp only [Files.load, hf, bind, Except.bind, Except.error.injEq] at h
    exact iff_of_true (h ▸ hrefusal) (.inl hastray)
  | ok found =>
    simp only [not_startsAstray hf, false_or, Except.ok.injEq, exists_eq_left']
    simp only [Files.load, hf, bind, Except.bind] at h
    cases hr : files.read found with
    | error fault' =>
      simp only [hr, Except.error.injEq] at h
      simp [← h, read_isRefusal hr]
    | ok content =>
      obtain ⟨name, hs⟩ := systemText_of_read hr
      simp only [hr] at h
      simp [hs, declaredIn_isRefusal h]

/-- A file of other bytes than text is passed over, wherever it was written. -/
theorem passedOver_written {found : Text} {cause : DecodeFault}
    (hfound : files.expandHome path = .ok found) (h : files.Takes found)
    (hcontent : Utf8.decode content = .error cause) :
    (files.write found (some content)).PassedOver path := by
  refine .inr ⟨found, ?_, .inr ⟨content, files.read_written h content, .inl ⟨cause, hcontent⟩⟩⟩
  rw [Files.expandHome_write, hfound]

/-- A home directory that is not known, and a byte that is not text in another directory. -/
example : Files.empty.PassedOver "~nobody/c" ∧
    (Files.empty.write "conf/c" (some [0xFF])).PassedOver "conf/c" :=
  ⟨.inl ⟨"nobody", rfl, .inr rfl⟩,
    passedOver_written rfl ⟨⟨_, rfl, by decide⟩, by decide, by decide, rfl⟩
      (rfl : Utf8.decode [0xFF] = .error ⟨.utf8, 0, ⟨1, 0xFF, .invalidStart⟩⟩)⟩

end

section
variable {files : Files} {path : Text} {content : Bytes} {document : Json} {refusal : Refusal}

/-! ## Refusals -/

theorem documentIn_isWritable (h : documentIn path content = .ok document) :
    document.IsWritable := by
  obtain ⟨text, -, hread⟩ := bind_eq_ok.mp h
  cases hj : Json.readFile (unifyLineEnds text) with
  | ok found =>
    rw [hj] at hread
    cases hread
    exact Json.readFile_isWritable hj
  | error fault =>
    rw [hj] at hread
    cases fault <;> cases hread

theorem documentIn_told (h : documentIn path content = .error (.refused refusal)) :
    ∃ told, refusal.errors = some told := by
  rcases bind_eq_error.mp h with hdecode | ⟨text, -, hread⟩
  · obtain ⟨cause, -, hcause⟩ := mapError_eq_error.mp hdecode
    cases hcause
  · cases hj : Json.readFile (unifyLineEnds text) with
    | ok found =>
      rw [hj] at hread
      cases hread
    | error fault =>
      rw [hj] at hread
      cases fault with
      | malformed cause place =>
        cases hread
        exact ⟨_, rfl⟩
      | tooManyDigits count => cases hread

theorem declaredIn_told (h : declaredIn path content = .error (.refused refusal)) :
    ∃ told, refusal.errors = some told := by
  rcases bind_eq_error.mp h with hdocument | ⟨document, hdocument, haccept⟩
  · exact documentIn_told hdocument
  · obtain ⟨cause, hcause, heq⟩ := mapError_eq_error.mp haccept
    cases heq
    exact errors_isSome (documentIn_isWritable hdocument) hcause

namespace Files

theorem read_told (h : files.read path = .error (.refused refusal)) :
    ∃ told, refusal.errors = some told := by
  rcases bind_eq_error.mp h with hsystem | ⟨bytes, -, hfound⟩
  · obtain ⟨cause, -, hcause⟩ := mapError_eq_error.mp hsystem
    cases hcause
  · obtain ⟨cause, -, hcause⟩ := mapError_eq_error.mp hfound
    cases hcause
    exact ⟨_, rfl⟩

theorem load_told (h : files.load path = .error (.refused refusal)) :
    ∃ told, refusal.errors = some told := by
  rcases bind_eq_error.mp h with hhome | ⟨found, -, hload⟩
  · cases (expandHome_eq_error hhome).1
  · rcases bind_eq_error.mp hload with hread | ⟨content, -, hdeclared⟩
    · exact read_told hread
    · exact declaredIn_told hdeclared

/-! ## Credentials -/

/-- A document without problems is loaded from where it was written. -/
theorem load_declared {found : Text} (hfound : files.expandHome path = .ok found)
    (h : files.Takes found) (hdocument : documentIn found content = .ok document)
    (hproblems : document.problems Check.declaration = []) {credentials : List Credential}
    (hdeclares : DeclaresCredentials document credentials) (hhopeful : AllHopeful credentials) :
    (files.write found (some content)).load path = .ok credentials := by
  have haccept : acceptCredentials (pathName found) document = .ok credentials :=
    acceptCredentials_eq_ok.mpr ⟨hproblems, hdeclares, hhopeful⟩
  rw [load_written hfound h, declaredIn, hdocument]
  simp only [bind, Except.bind, haccept, mapError_ok]

/-- A declaration of nothing is loaded from the home directory `/conf`, in which it was written. -/
example :
    let files : Files := ⟨[], fun _ => some "/conf", []⟩
    (files.write "/conf/c" (some (Utf8.encodeWithSurrogates
      (Text.ofString "\x7b\"credentials\":[]\x7d")))).load "~/c" = .ok [] := by
  intro files
  have hhome : files.expandHome "~/c" = .ok "/conf/c" := rfl
  have htakes : files.Takes "/conf/c" := ⟨⟨_, rfl, by decide⟩, by decide, by decide, rfl⟩
  have hdocument : documentIn "/conf/c" (Utf8.encodeWithSurrogates
      (Text.ofString "\x7b\"credentials\":[]\x7d")) = .ok (.obj [("credentials", .arr [])]) := by
    cbv
  exact load_declared hhome htakes hdocument (List.isEmpty_iff.mp (by decide +kernel))
    ⟨_, rfl, .nil⟩ (by simp [AllHopeful])

end Files

end

end RequestCredentials
