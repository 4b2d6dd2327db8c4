import RequestCredentials.Format.Wire.Message
/-
  The order of entries

  A map keeps its entries in increasing order of names while they are added one
  by one. So the entries of distinct names come out sorted by name, whatever the
  order in which they were added.

  What is proved:
    1. `Text.le_iff` — the two ways to compare texts agree;
    2. `Increasing.setEntry`, `mem_setEntry_iff`, `setEntry_perm` — what adding
       one entry does;
    3. `mem_addEntries_iff` — the last entry of each name is kept;
    4. `addEntries_eq` — entries added in any order come out sorted.
-/

namespace RequestCredentials

theorem Text.le_iff {s t : Text} : s.le t = true ↔ ¬ t < s := by
  induction s generalizing t with
  | nil => exact iff_of_true rfl (List.not_lt_nil t)
  | cons a s ih =>
    cases t with
    | nil => exact iff_of_false Bool.false_ne_true fun h => h (List.nil_lt_cons a s)
    | cons b t =>
      rw [Text.le, dictionaryLe, ← Text.le, List.cons_lt_cons_iff]
      by_cases hab : a = b
      · rw [if_pos hab, ih]
        simp [hab]
      · rw [if_neg hab, decide_eq_true_eq, Fin.lt_def]
        simp only [Ne.symm hab, false_and, or_false]
        omega

namespace Wire

variable {α : Type} {name : Text} {a : α} {entries : List (Text × α)}

/-- The entries stand in increasing order of names. -/
def Increasing (entries : List (Text × α)) : Prop := entries.Pairwise fun e e' => e.1 < e'.1

/-! ## Adding one entry -/

theorem mem_setEntry {e : Text × α} (h : e ∈ setEntry name a entries) :
    e = (name, a) ∨ e ∈ entries := by
  induction entries with
  | nil => exact .inl (List.mem_singleton.mp h)
  | cons first entries ih =>
    obtain ⟨n, b⟩ := first
    rw [setEntry] at h
    split at h
    · exact List.mem_cons.mp h
    split at h
    · rcases List.mem_cons.mp h with rfl | h
      · exact .inr List.mem_cons_self
      · exact (ih h).imp_right (List.mem_cons_of_mem _)
    · exact (List.mem_cons.mp h).imp_right (List.mem_cons_of_mem _)

theorem Increasing.setEntry (h : Increasing entries) : Increasing (setEntry name a entries) := by
  induction entries with
  | nil => exact List.pairwise_singleton _ _
  | cons first entries ih =>
    obtain ⟨n, b⟩ := first
    obtain ⟨hfirst, hrest⟩ := List.pairwise_cons.mp h
    rw [Wire.setEntry]
    split
    · next hlt =>
      refine List.pairwise_cons.mpr ⟨?_, h⟩
      intro e he
      rcases List.mem_cons.mp he with rfl | he
      · exact hlt
      · exact List.lt_trans hlt (hfirst e he)
    split
    · next hlt =>
      refine List.pairwise_cons.mpr ⟨?_, ih hrest⟩
      intro e he
      rcases mem_setEntry he with rfl | he
      · exact hlt
      · exact hfirst e he
    · next hle hge =>
      have hname : name = n := List.le_antisymm (List.not_lt.mp hge) (List.not_lt.mp hle)
      rw [hname]
      exact List.pairwise_cons.mpr ⟨hfirst, hrest⟩

theorem mem_setEntry_iff (h : Increasing entries) {e : Text × α} :
    e ∈ setEntry name a entries ↔ e = (name, a) ∨ e ∈ entries ∧ e.1 ≠ name := by
  induction entries with
  | nil => simp [setEntry]
  | cons first entries ih =>
    obtain ⟨n, b⟩ := first
    obtain ⟨hfirst, hrest⟩ := List.pairwise_cons.mp h
    -- The names behind one that is not below the new name are all above it.
    have hbehind : ¬ n < name → ∀ e ∈ entries, e.1 ≠ name := by
      intro hle e he heq
      exact hle (heq ▸ hfirst e he)
    rw [setEntry]
    split
    · next hlt =>
      have hne : n ≠ name := fun heq => List.lt_irrefl n (heq ▸ hlt)
      have hnot : ¬ n < name := fun hgt => List.lt_irrefl n (List.lt_trans hgt hlt)
      simp only [List.mem_cons]
      constructor
      · rintro (rfl | rfl | he)
        · exact .inl rfl
        · exact .inr ⟨.inl rfl, hne⟩
        · exact .inr ⟨.inr he, hbehind hnot e he⟩
      · rintro (rfl | ⟨he, -⟩)
        · exact .inl rfl
        · exact .inr he
    split
    · next hlt =>
      have hne : n ≠ name := fun heq => List.lt_irrefl n (heq ▸ hlt)
      rw [List.mem_cons, ih hrest, List.mem_cons]
      constructor
      · rintro (rfl | rfl | ⟨he, hne'⟩)
        · exact .inr ⟨.inl rfl, hne⟩
        · exact .inl rfl
        · exact .inr ⟨.inr he, hne'⟩
      · rintro (rfl | ⟨rfl | he, hne'⟩)
        · exact .inr (.inl rfl)
        · exact .inl rfl
        · exact .inr (.inr ⟨he, hne'⟩)
    · next hle hge =>
      have hname : name = n := List.le_antisymm (List.not_lt.mp hge) (List.not_lt.mp hle)
      simp only [List.mem_cons]
      constructor
      · rintro (rfl | he)
        · exact .inl rfl
        · exact .inr ⟨.inr he, hbehind hge e he⟩
      · rintro (rfl | ⟨rfl | he, hne⟩)
        · exact .inl rfl
        · exact absurd hname.symm hne
        · exact .inr he

theorem setEntry_perm (h : name ∉ entries.map (·.1)) :
    (setEntry name a entries).Perm ((name, a) :: entries) := by
  induction entries with
  | nil => exact .refl _
  | cons first entries ih =>
    obtain ⟨n, b⟩ := first
    rw [List.map_cons, List.mem_cons, not_or] at h
    rw [setEntry]
    split
    · exact .refl _
    split
    · exact ((ih h.2).cons _).trans (.swap _ _ _)
    · next hle hge =>
      -- The name of the entry that would be replaced is not new.
      exact absurd (List.le_antisymm (List.not_lt.mp hge) (List.not_lt.mp hle)) h.1

/-! ## Adding all entries -/

/-- The map after entries are added one by one. -/
def addEntries (start : List (Text × α)) (added : List (Text × α)) : List (Text × α) :=
  added.foldl (fun m e => setEntry e.1 e.2 m) start

theorem addEntries_spec {start added : List (Text × α)} (hstart : Increasing start)
    (hnames : (start.map (·.1) ++ added.map (·.1)).Nodup) :
    Increasing (addEntries start added) ∧ (addEntries start added).Perm (start ++ added) := by
  induction added generalizing start with
  | nil => exact ⟨hstart, by rw [List.append_nil]; exact .refl _⟩
  | cons e added ih =>
    obtain ⟨n, b⟩ := e
    have hnew : n ∉ start.map (·.1) := fun hmem =>
      (List.nodup_append.mp hnames).2.2 n hmem n List.mem_cons_self rfl
    have hset : (setEntry n b start).Perm ((n, b) :: start) := setEntry_perm hnew
    have hmiddle : (setEntry n b start ++ added).Perm (start ++ (n, b) :: added) :=
      (hset.append_right added).trans List.perm_middle.symm
    have hnames' : ((setEntry n b start).map (·.1) ++ added.map (·.1)).Nodup := by
      rw [← List.map_append] at hnames ⊢
      exact (hmiddle.map _).nodup_iff.mpr hnames
    obtain ⟨hincreasing, hperm⟩ := ih hstart.setEntry hnames'
    exact ⟨hincreasing, hperm.trans hmiddle⟩

/-- An entry is kept if it was not replaced: it is the last one of its name. -/
theorem mem_addEntries_iff {start added : List (Text × α)} (hstart : Increasing start)
    {e : Text × α} : e ∈ addEntries start added ↔
      (e ∈ start ∧ ∀ e' ∈ added, e'.1 ≠ e.1) ∨
        ∃ front back, added = front ++ e :: back ∧ ∀ e' ∈ back, e'.1 ≠ e.1 := by
  induction added generalizing start with
  | nil => simp [addEntries]
  | cons first added ih =>
    have hrest : e ∈ addEntries start (first :: added) ↔ _ := ih hstart.setEntry
    rw [hrest, mem_setEntry_iff hstart]
    simp only [List.forall_mem_cons]
    constructor
    · rintro (⟨rfl | ⟨he, hne⟩, hlater⟩ | ⟨front, back, rfl, hlater⟩)
      · exact .inr ⟨[], added, rfl, hlater⟩
      · exact .inl ⟨he, hne.symm, hlater⟩
      · exact .inr ⟨first :: front, back, rfl, hlater⟩
    · rintro (⟨he, hne, hlater⟩ | ⟨front, back, hadded, hlater⟩)
      · exact .inl ⟨.inr ⟨he, hne.symm⟩, hlater⟩
      · rcases List.cons_eq_append_iff.mp hadded with ⟨rfl, hback⟩ | ⟨front, rfl, rfl⟩
        · obtain ⟨rfl, rfl⟩ := List.cons.inj hback
          exact .inl ⟨.inl rfl, hlater⟩
        · exact .inr ⟨front, back, rfl, hlater⟩

/-- The entries sorted by name. -/
def sortEntries (entries : List (Text × α)) : List (Text × α) :=
  entries.mergeSort fun e e' => e.1.le e'.1

theorem mem_sortEntries {e : Text × α} :
    e ∈ sortEntries entries ↔ e ∈ entries := (List.mergeSort_perm entries _).mem_iff

theorem sortEntries_map {β : Type} (f : α → β) (entries : List (Text × α)) :
    (sortEntries entries).map (fun e => (e.1, f e.2)) =
      sortEntries (entries.map fun e => (e.1, f e.2)) :=
  List.map_mergeSort fun _ _ _ _ => rfl

theorem sortEntries_increasing (hnames : (entries.map (·.1)).Nodup) :
    Increasing (sortEntries entries) := by
  have htrans : ∀ e e' e'' : Text × α, e.1.le e'.1 = true → e'.1.le e''.1 = true →
      e.1.le e''.1 = true := by
    intro e e' e'' h h'
    rw [Text.le_iff] at h h' ⊢
    exact List.not_lt.mpr (List.le_trans (List.not_lt.mp h) (List.not_lt.mp h'))
  have htotal : ∀ e e' : Text × α, (e.1.le e'.1 || e'.1.le e.1) = true := by
    intro e e'
    rw [Bool.or_eq_true, Text.le_iff, Text.le_iff]
    by_cases h : e'.1 < e.1
    · exact .inr fun h' => List.lt_irrefl e.1 (List.lt_trans h' h)
    · exact .inl h
  have hsorted := List.pairwise_mergeSort htrans htotal entries
  have hdistinct : (sortEntries entries).Pairwise fun e e' => e.1 ≠ e'.1 := by
    rw [← List.pairwise_map]
    exact ((List.mergeSort_perm entries _).map _).nodup_iff.mpr hnames
  apply hsorted.imp₂ _ hdistinct
  intro e e' hle hne
  have hle' := List.not_lt.mp (Text.le_iff.mp hle)
  exact Decidable.byContradiction fun hlt => hne (List.le_antisymm hle' (List.not_lt.mp hlt))

/-- Entries of distinct names come out sorted, whatever the order in which they are added. -/
theorem addEntries_eq {order : List (Text × α)} (hperm : order.Perm entries)
    (hnames : (entries.map (·.1)).Nodup) : addEntries [] order = sortEntries entries := by
  have hnames' : (([] : List (Text × α)).map (·.1) ++ order.map (·.1)).Nodup := by
    rw [List.map_nil, List.nil_append]
    exact (hperm.map _).nodup_iff.mpr hnames
  obtain ⟨hincreasing, hadded⟩ := addEntries_spec List.Pairwise.nil hnames'
  have hsame : (addEntries [] order).Perm (sortEntries entries) :=
    (hadded.trans hperm).trans (List.mergeSort_perm entries _).symm
  -- Two lists of the same entries in the same strict order are the same list.
  apply hsame.eq_of_pairwise _ hincreasing (sortEntries_increasing hnames)
  intro e e' _ _ hlt hgt
  exact absurd (List.lt_trans hlt hgt) (List.lt_irrefl e.1)

end Wire

end RequestCredentials
