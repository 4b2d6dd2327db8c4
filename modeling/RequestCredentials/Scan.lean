/-
  Scans — reading items one after another from the front of a list

  A step looks at the first element and at all that follow it. It yields an
  item and says how many of the following elements belong to it, or it stops
  with a reason. `scan` repeats the step until the list ends or a step stops,
  and reports the items read so far and where the stop was met.

  The recursion is on the list itself: elements that belong to an item already
  read are passed over one at a time (`scanFrom_skip`).
-/

namespace RequestCredentials

/-- What a step finds at the front of a list. -/
inductive Step (α ε : Type) where
  /-- An item that takes up the first element and `extra` more. -/
  | item (a : α) (extra : Nat)
  | stop (reason : ε)

/-- The items of a scan, and where and why it stopped before the end. -/
structure Scan (α ε : Type) where
  items : List α
  stopped : Option (Nat × ε)

/-- Scans a list that starts at position `pos`, passing over its first `skip` elements. -/
def scanFrom {σ α ε : Type} (step : σ → List σ → Step α ε) :
    (skip pos : Nat) → List σ → Scan α ε
  | _, _, [] => ⟨[], none⟩
  | skip + 1, pos, _ :: rest => scanFrom step skip (pos + 1) rest
  | 0, pos, s :: rest =>
    match step s rest with
    | .item a extra =>
      let tail := scanFrom step extra (pos + 1) rest
      ⟨a :: tail.items, tail.stopped⟩
    | .stop reason => ⟨[], some (pos, reason)⟩

/-- Scans a list from its start. -/
def scan {σ α ε : Type} (step : σ → List σ → Step α ε) (s : List σ) : Scan α ε :=
  scanFrom step 0 0 s

theorem scanFrom_skip {σ α ε : Type} (step : σ → List σ → Step α ε) (skip pos : Nat)
    (s : List σ) (h : skip ≤ s.length) :
    scanFrom step skip pos s = scanFrom step 0 (pos + skip) (s.drop skip) := by
  induction skip generalizing pos s with
  | zero => rfl
  | succ skip ih =>
    cases s with
    | nil => simp at h
    | cons a rest =>
      simp only [List.length_cons, Nat.add_le_add_iff_right] at h
      rw [scanFrom, ih (pos + 1) rest h, List.drop_succ_cons]
      congr 1
      omega

end RequestCredentials
