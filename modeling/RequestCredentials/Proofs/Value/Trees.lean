import RequestCredentials.Value.Tree
/-
  Trees by their parts

  The value of a tree is made of the values of its parts: an item of a list has
  the place of its value, an entry of a mapping the name of its value. Setting
  an entry is seen under its own name only, and setting it again to the same
  tree changes nothing.

  What is proved:
    1. `asEntries_eq_map`, `asValues_eq_map`, `entry_asEntries` — the parts of
       the value of a tree;
    2. `entry_setEntry`, `entry_setEntry_ne`, `others_setEntry`,
       `setEntry_setEntry` — what setting an entry changes;
    3. `holdsLongInteger_entry`, `holdsLongInteger_item` — a tree without long
       integers has none in its parts.
-/

namespace RequestCredentials.Tree

/-! ## Values -/

theorem asEntries_eq_map (entries : List (Text × Tree)) :
    asEntries entries = entries.map fun e => (e.1, e.2.asValue) := by
  induction entries with
  | nil => rfl
  | cons e entries ih => rw [asEntries, ih, List.map_cons]

theorem asValues_eq_map (items : List Tree) : asValues items = items.map asValue := by
  induction items with
  | nil => rfl
  | cons tree items ih => rw [asValues, ih, List.map_cons]

/-- The entry of a name is the value of the tree of that name. -/
theorem entry_asEntries (name : Text) (entries : List (Text × Tree)) :
    Value.entry? name (asEntries entries) = (Tree.entry? name entries).map asValue := by
  unfold Value.entry? entry?
  rw [asEntries_eq_map, List.find?_map, Option.map_map, Option.map_map]
  rfl

theorem getElem?_asValues (items : List Tree) (n : Nat) :
    (asValues items)[n]? = items[n]?.map asValue := by
  rw [asValues_eq_map, List.getElem?_map]

/-! ## Entries that are set -/

theorem entry_cons (name n : Text) (t : Tree) (rest : List (Text × Tree)) :
    entry? name ((n, t) :: rest) = if n = name then some t else entry? name rest := by
  by_cases h : n = name <;> simp [Tree.entry?, h]

section
variable (name : Text) (tree : Tree) (entries : List (Text × Tree))

theorem entry_setEntry : entry? name (setEntry name tree entries) = some tree := by
  induction entries with
  | nil => simp [setEntry, entry?]
  | cons e rest ih =>
    obtain ⟨n, t⟩ := e
    by_cases h : n = name
    · simp [setEntry, entry?, h]
    · simpa [setEntry, entry?, h] using ih

/-- The entries of other names stay, in their order. -/
theorem others_setEntry :
    (setEntry name tree entries).filter (·.1 ≠ name) = entries.filter (·.1 ≠ name) := by
  induction entries with
  | nil => simp [setEntry]
  | cons e rest ih =>
    obtain ⟨n, t⟩ := e
    by_cases h : n = name
    · simp [setEntry, h]
    · simp only [setEntry, h, if_false, List.filter_cons, ih]

theorem setEntry_setEntry :
    setEntry name tree (setEntry name tree entries) = setEntry name tree entries := by
  induction entries with
  | nil => simp [setEntry]
  | cons e rest ih =>
    obtain ⟨n, t⟩ := e
    by_cases h : n = name
    · simp [setEntry, h]
    · simp only [setEntry, h, if_false, ih]

end

theorem entry_setEntry_ne {name other : Text} (h : other ≠ name) (tree : Tree)
    (entries : List (Text × Tree)) :
    entry? other (setEntry name tree entries) = entry? other entries := by
  induction entries with
  | nil => simp [setEntry, entry_cons, Ne.symm h]
  | cons e rest ih =>
    obtain ⟨n, t⟩ := e
    by_cases hn : n = name
    · rw [setEntry, if_pos hn, entry_cons, entry_cons, if_neg, if_neg]
      all_goals exact fun hother => h (hother.symm.trans hn)
    · rw [setEntry, if_neg hn, entry_cons, entry_cons, ih]

/-! ## Long integers -/

theorem anyLongInteger_eq_any (items : List Tree) :
    anyLongInteger items = items.any holdsLongInteger := by
  induction items with
  | nil => rfl
  | cons tree items ih => rw [anyLongInteger, ih, List.any_cons]

theorem anyLongIntegerIn_eq_any (entries : List (Text × Tree)) :
    anyLongIntegerIn entries = entries.any fun e => e.2.holdsLongInteger := by
  induction entries with
  | nil => rfl
  | cons e entries ih => rw [anyLongIntegerIn, ih, List.any_cons]

section
variable {tree : Tree}

theorem holdsLongInteger_item {items : List Tree} {n : Nat}
    (h : (Tree.list items).holdsLongInteger = false) (hitem : items[n]? = some tree) :
    tree.holdsLongInteger = false := by
  rw [holdsLongInteger, anyLongInteger_eq_any, List.any_eq_false] at h
  exact Bool.eq_false_iff.mpr (h tree (List.mem_of_getElem? hitem))

theorem holdsLongInteger_entry {entries : List (Text × Tree)} {name : Text}
    (h : (Tree.dict entries).holdsLongInteger = false) (hentry : entry? name entries = some tree) :
    tree.holdsLongInteger = false := by
  rw [holdsLongInteger, anyLongIntegerIn_eq_any, List.any_eq_false] at h
  obtain ⟨e, hfind, rfl⟩ := Option.map_eq_some_iff.mp hentry
  exact Bool.eq_false_iff.mpr (h e (List.mem_of_find?_eq_some hfind))

end

end RequestCredentials.Tree
