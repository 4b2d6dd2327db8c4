import RequestCredentials.Files
import RequestCredentials.Proofs.Except
import Mathlib.Data.List.Infix
/-
  Written files

  A file that is written at a path is found when the path is followed: the
  directories on the way are there, and the file is at the end of it. So a
  declaration is loaded from where it was written, whether the path is a bare
  name, leads through directories, or starts with a slash or in a home directory.

  What is proved:
    1. `entryAt_write`, `entryAt_write_ancestor` — what is at a place and on the way
       to it after a write;
    2. `follow_eq_ok` — a path with directories on the way and a file at its end
       leads to the content of the file;
    3. `read_written`, `load_written` — the file is read, and what is loaded is
       what its content declares.
-/

namespace RequestCredentials

theorem Place.mem_ancestors {above place : Place} :
    above ∈ place.ancestors ↔ above <+: place ∧ above ≠ place := by
  simp only [Place.ancestors, List.mem_map, List.mem_range]
  constructor
  · rintro ⟨n, hn, rfl⟩
    refine ⟨List.take_prefix n place, fun h => ?_⟩
    have hlength := congrArg List.length h
    rw [List.length_take] at hlength
    omega
  · rintro ⟨hfront, hne⟩
    obtain ⟨names, rfl⟩ := hfront
    have hnames : names ≠ [] := by
      rintro rfl
      simp at hne
    exact ⟨above.length, by simp [List.length_pos_iff, hnames], by simp⟩

namespace Files

variable {files : Files} {path : Text} {content : Bytes}

/-! ## Places -/

theorem placeOf_eq (h : ∀ part ∈ pathParts path, part ≠ "..") :
    files.placeOf path = files.origin path ++ (pathParts path).map Utf8.unescape := by
  rw [placeOf]
  generalize files.origin path = directory
  generalize pathParts path = parts at h ⊢
  induction parts generalizing directory with
  | nil => simp
  | cons part rest ih =>
    obtain ⟨hpart, hrest⟩ := List.forall_mem_cons.mp h
    rw [List.foldl_cons, Place.next, if_neg hpart, ih _ hrest, List.map_cons, List.append_assoc,
      List.singleton_append]

/-! ## Entries after a write -/

theorem entryAt_write (hfree : files.isBlocked (files.placeOf path) = false) :
    (files.write path (some content)).entryAt? (files.placeOf path) = some (.file content) := by
  have hne : files.placeOf path ≠ [] := by
    intro hroot
    simp [isBlocked, entryAt?, hroot] at hfree
  simp [write, hfree, entryAt?, hne]

theorem find_directory {places : List Place} {above : Place} (h : above ∈ places) :
    (places.map fun directory => (directory, FileEntry.directory)).find? (·.1 = above) =
      some (above, .directory) := by
  induction places with
  | nil => cases h
  | cons place rest ih =>
    rw [List.map_cons]
    by_cases hplace : place = above
    · rw [List.find?_cons_of_pos (by simpa using hplace), hplace]
    · rw [List.find?_cons_of_neg (by simpa using hplace)]
      exact ih (List.mem_of_ne_of_mem (Ne.symm hplace) h)

/-- The directories on the way come before what was there, so they are what is found. -/
theorem entryAt_write_ancestor (hfree : files.isBlocked (files.placeOf path) = false) {above : Place}
    (h : above ∈ (files.placeOf path).ancestors) :
    (files.write path (some content)).entryAt? above = some .directory := by
  obtain ⟨-, hne⟩ := Place.mem_ancestors.mp h
  rw [entryAt?]
  split
  · rfl
  · simp only [write, hfree, Bool.false_eq_true, ↓reduceIte, List.cons_append]
    rw [List.find?_cons_of_neg (by simpa using Ne.symm hne), List.find?_append, find_directory h]
    rfl

/-! ## Following a path -/

/-- Where directories are on the way and a file is at the end, following leads to its content. -/
theorem follow_eq_ok {parts : List Text} {directory : Place} (hne : parts ≠ [])
    (hparts : ∀ part ∈ parts, part ≠ ".." ∧ (Utf8.unescape part).length ≤ nameLimit)
    (habove : ∀ above ∈ Place.ancestors (directory ++ parts.map Utf8.unescape),
      files.entryAt? above = some .directory)
    (hfile : files.entryAt? (directory ++ parts.map Utf8.unescape) = some (.file content)) :
    files.follow directory parts = .ok content := by
  induction parts generalizing directory with
  | nil => exact absurd rfl hne
  | cons part rest ih =>
    obtain ⟨⟨hdots, hlength⟩, hrest⟩ := List.forall_mem_cons.mp hparts
    rw [List.map_cons, List.append_cons] at habove hfile
    rw [follow, if_neg hdots]
    simp only [if_neg (Nat.not_lt.mpr hlength)]
    by_cases hlast : rest = []
    · rw [hlast, List.map_nil, List.append_nil] at hfile
      simp [hfile, hlast]
    · have hway : directory ++ [Utf8.unescape part] ∈ Place.ancestors
          (directory ++ [Utf8.unescape part] ++ rest.map Utf8.unescape) :=
        Place.mem_ancestors.mpr ⟨List.prefix_append _ _, by simpa using hlast⟩
      simp only [habove _ hway]
      exact ih hlast hrest habove hfile

/-! ## Reading and loading -/

/-- A file can be written at the path: the system takes it, it names a file without dots, and
neither a directory is there nor a file on the way. -/
structure Takes (files : Files) (path : Text) : Prop where
  system : ∃ bytes, systemText path = .ok bytes ∧ bytes.length < pathLimit
  parts_ne_nil : pathParts path ≠ []
  parts : ∀ part ∈ pathParts path, part ≠ ".." ∧ (Utf8.unescape part).length ≤ nameLimit
  free : files.isBlocked (files.placeOf path) = false

/-- A write changes neither where paths start nor where homes are. -/
theorem write_eq (files : Files) (path : Text) (content : Option Bytes) :
    ∃ entries, files.write path content = { files with entries := entries } := by
  by_cases h : files.isBlocked (files.placeOf path) = true
  · exact ⟨files.entries, if_pos h⟩
  · cases content with
    | none => exact ⟨_, if_neg h⟩
    | some bytes => exact ⟨_, if_neg h⟩

theorem read_written (h : files.Takes path) (content : Bytes) :
    (files.write path (some content)).read path = .ok content := by
  obtain ⟨bytes, hsystem, hlimit⟩ := h.system
  have hplace := files.placeOf_eq fun part hpart => (h.parts part hpart).1
  have horigin : (files.write path (some content)).origin path = files.origin path := by
    obtain ⟨entries, hwrite⟩ := files.write_eq path (some content)
    rw [hwrite]
    rfl
  have hfollow : (files.write path (some content)).follow (files.origin path) (pathParts path) =
      .ok content :=
    follow_eq_ok h.parts_ne_nil h.parts
      (hplace ▸ fun _ habove => entryAt_write_ancestor h.free habove) (hplace ▸ entryAt_write h.free)
  simp [read, hsystem, Nat.not_le.mpr hlimit, horigin, hfollow, mapError_ok, bind, Except.bind]

theorem expandHome_write (other : Text) (content : Option Bytes) :
    (files.write other content).expandHome path = files.expandHome path := by
  obtain ⟨entries, hwrite⟩ := files.write_eq other content
  rw [hwrite]
  rfl

theorem load_written {found : Text} (hfound : files.expandHome path = .ok found)
    (h : files.Takes found) (content : Bytes) :
    (files.write found (some content)).load path = declaredIn found content := by
  rw [load, expandHome_write, hfound]
  simp only [bind, Except.bind, read_written h]

end Files

end RequestCredentials
