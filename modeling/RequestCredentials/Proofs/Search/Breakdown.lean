import RequestCredentials.Request.Search
import RequestCredentials.Proofs.Encoding.Encodable
/-
  Breakdowns — where a search has no answer

  A run never breaks down, but a search does more than run operations: it
  walks to a seed and looks up the accepted keys in the final value. This file
  says exactly when these steps have no answer.

  What is proved:
    1. `lookupKey_isError` — a lookup of a key breaks down when it has to
       compare the key with a text and one of the two has no bytes
       (`Value.Clashes`);
    2. `acceptedString_isError` — the accepted keys break down when one of them
       does and none before it selects a string (`KeysClash`);
    3. `seed_isError` — a seed breaks down only as a property: its path has too
       long a number in the place of a list position, or its tree holds too
       long an integer (`Request.SeedBreaksDown`);
    4. `yield_isError` — a location breaks down when its seed does, or when its
       operations succeed and the accepted keys break down on the result
       (`Probe.BreaksDown`).
-/

namespace RequestCredentials

/-! ## Stops in a list -/

/-- Going through the list, one passes some elements and then stops at one. -/
def StopsIn {α : Type} (passes stops : α → Prop) (l : List α) : Prop :=
  ∃ before a after, l = before ++ a :: after ∧ (∀ b ∈ before, passes b) ∧ stops a

section
variable {α : Type} {passes stops : α → Prop}

theorem not_stopsIn_nil : ¬ StopsIn passes stops ([] : List α) := by
  intro hyp
  obtain ⟨before, a, after, h, _⟩ := hyp
  simp at h

theorem stopsIn_cons {a : α} {rest : List α} :
    StopsIn passes stops (a :: rest) ↔ stops a ∨ passes a ∧ StopsIn passes stops rest := by
  constructor
  · intro hyp
    obtain ⟨before, b, after, h, hp, hs⟩ := hyp
    cases before with
    | nil =>
      obtain ⟨rfl, rfl⟩ := List.cons.inj h
      exact .inl hs
    | cons c before =>
      obtain ⟨rfl, rfl⟩ := List.cons.inj h
      exact .inr ⟨hp a List.mem_cons_self, before, b, after, rfl,
        fun x hx => hp x (List.mem_cons_of_mem _ hx), hs⟩
  · intro hyp
    rcases hyp with hs | ⟨hp, before, b, after, rfl, hps, hs⟩
    · exact ⟨[], a, rest, rfl, by simp, hs⟩
    · refine ⟨a :: before, b, after, rfl, ?_, hs⟩
      intro x hx
      rcases List.mem_cons.mp hx with rfl | hx
      · exact hp
      · exact hps x hx

end

/-! ## Keys -/

/-- A lookup of the key has to compare it with a text, and one of the two has no bytes. In a list
of texts the comparisons end at the first text that is the key. -/
def Value.Clashes (key : Text) : Value → Prop
  | .text c => ¬ (c.Encodable ∧ key.Encodable)
  | .list items => ∃ contents, Value.allText? items = some contents ∧
    StopsIn (fun c => c.spells key = .ok false) (fun c => ¬ (c.Encodable ∧ key.Encodable)) contents
  | .struct _ => False

theorem findSpelling_isError (name : Text) (contents : List Content) :
    (∃ fault, findSpelling name contents = .error fault) ↔
      StopsIn (fun c => c.spells name = .ok false) (fun c => ¬ (c.Encodable ∧ name.Encodable))
        contents := by
  induction contents with
  | nil => simp [findSpelling, not_stopsIn_nil]
  | cons c rest ih =>
    -- The first comparison stops the search, answers it, or leaves it to the rest.
    rw [stopsIn_cons, ← ih, ← spells_isOk, findSpelling]
    cases h : c.spells name with
    | error fault => simp [bind, Except.bind]
    | ok same => cases same <;> simp [bind, Except.bind, pure, Except.pure]

theorem lookupKey_isError {v : Value} {key : Text} :
    (∃ fault, v.lookupKey key = .error fault) ↔ v.Clashes key := by
  cases v with
  | text c =>
    rw [Value.Clashes, ← spells_isOk]
    simp only [Value.lookupKey]
    split <;> simp_all
  | list items =>
    simp only [Value.Clashes, Value.lookupKey, ← findSpelling_isError]
    split
    · next h => simp [h]
    · next contents h => split <;> simp_all
  | struct entries => simp [Value.Clashes, Value.lookupKey]

/-- The key selects no string in the value. -/
def Value.SelectsNoString (v : Value) (key : Text) : Prop :=
  ∃ result, v.lookupKey key = .ok result ∧ ∀ w, result = .ok w → w.strings = []

/-- A lookup of one of the keys breaks down, and none before it selects a string. -/
def KeysClash (keys : List Text) (v : Value) : Prop :=
  StopsIn v.SelectsNoString (fun key => v.Clashes key) keys

theorem keyedString_isError (v : Value) (keys : List Text) :
    (∃ fault, keyedString? v keys = .error fault) ↔ KeysClash keys v := by
  induction keys with
  | nil => simp [keyedString?, KeysClash, not_stopsIn_nil]
  | cons key rest ih =>
    rw [KeysClash, stopsIn_cons, ← KeysClash, ← ih, ← lookupKey_isError, keyedString?]
    cases h : v.lookupKey key with
    | error fault => simp [bind, Except.bind]
    | ok result =>
      cases result with
      | error failure => simp [bind, Except.bind, Value.SelectsNoString, h]
      | ok w => cases hw : w.strings <;>
          simp [bind, Except.bind, pure, Except.pure, Value.SelectsNoString, h, hw]

theorem acceptedString_isError {keys : List Text} {v : Value} :
    (∃ fault, acceptedString? keys v = .error fault) ↔ KeysClash keys v := by
  rw [← keyedString_isError, acceptedString?]
  split
  · next h => simp [h, keyedString?]
  · rfl

/-! ## Seeds -/

/-- The path leads to a list and goes on with a number of more digits than are read. -/
def Tree.PathTooLong (tree : Tree) (path : List Text) : Prop :=
  ∃ before segment after, path = before ++ segment :: after ∧
    (∃ items, tree.walk before = .ok (some (.list items))) ∧
    ∃ digits, segment.decimalDigits? = some digits ∧ digitLimit < digits.length

theorem segmentPosition_isError {segment : Text} :
    (∃ fault, segmentPosition? segment = .error fault) ↔
      ∃ digits, segment.decimalDigits? = some digits ∧ digitLimit < digits.length := by
  simp only [segmentPosition?]
  cases segment.decimalDigits? with
  | none => simp
  | some digits => by_cases h : digitLimit < digits.length <;> simp [h]

theorem not_pathTooLong_nil (tree : Tree) : ¬ tree.PathTooLong [] := by
  intro hyp
  obtain ⟨before, segment, after, h, _⟩ := hyp
  simp at h

/-- A path that starts at a mapping is too long where the rest of it is. -/
theorem pathTooLong_dict {entries : List (Text × Tree)} {segment : Text} {path : List Text} :
    (Tree.dict entries).PathTooLong (segment :: path) ↔
      ∃ tree, Tree.entry? segment entries = some tree ∧ tree.PathTooLong path := by
  constructor
  · intro hyp
    obtain ⟨before, s, after, h, ⟨items, hw⟩, hd⟩ := hyp
    cases before with
    | nil => simp [Tree.walk] at hw
    | cons b before =>
      obtain ⟨rfl, rfl⟩ := List.cons.inj h
      simp only [Tree.walk] at hw
      cases he : Tree.entry? segment entries with
      | none => simp [he] at hw
      | some tree => exact ⟨tree, rfl, before, s, after, rfl, ⟨items, by simpa [he] using hw⟩, hd⟩
  · intro hyp
    obtain ⟨tree, he, before, s, after, rfl, ⟨items, hw⟩, hd⟩ := hyp
    exact ⟨segment :: before, s, after, rfl, ⟨items, by simpa [Tree.walk, he] using hw⟩, hd⟩

/-- A path that starts at a list is too long when its first part is, or where the rest of it is. -/
theorem pathTooLong_list {items : List Tree} {segment : Text} {path : List Text} :
    (Tree.list items).PathTooLong (segment :: path) ↔
      (∃ fault, segmentPosition? segment = .error fault) ∨
        ∃ position tree, segmentPosition? segment = .ok (some position) ∧
          items[position]? = some tree ∧ tree.PathTooLong path := by
  rw [segmentPosition_isError]
  constructor
  · intro hyp
    obtain ⟨before, s, after, h, ⟨items', hw⟩, hd⟩ := hyp
    cases before with
    | nil =>
      obtain ⟨rfl, rfl⟩ := List.cons.inj h
      exact .inl hd
    | cons b before =>
      obtain ⟨rfl, rfl⟩ := List.cons.inj h
      simp only [Tree.walk, bind_eq_ok] at hw
      obtain ⟨place, hp, hw⟩ := hw
      cases place with
      | none => cases hw
      | some position =>
        cases hi : items[position]? with
        | none => simp [hi, pure, Except.pure] at hw
        | some tree =>
          exact .inr ⟨position, tree, hp, hi, before, s, after, rfl,
            ⟨items', by simpa [hi] using hw⟩, hd⟩
  · intro hyp
    rcases hyp with hd | ⟨position, tree, hp, hi, before, s, after, rfl, ⟨items', hw⟩, hd⟩
    · exact ⟨[], segment, path, rfl, ⟨items, rfl⟩, hd⟩
    · refine ⟨segment :: before, s, after, rfl, ⟨items', ?_⟩, hd⟩
      simpa [Tree.walk, hp, hi, bind, Except.bind] using hw

/-- A tree that no path leads into. -/
def Tree.isLeaf : Tree → Bool
  | .list _ => false
  | .dict _ => false
  | _ => true

theorem walk_leaf {tree : Tree} (h : tree.isLeaf) (segment : Text) (path : List Text) :
    tree.walk (segment :: path) = .ok none := by
  cases tree <;> simp_all [Tree.isLeaf, Tree.walk]

theorem not_pathTooLong_leaf {tree : Tree} (h : tree.isLeaf) (path : List Text) :
    ¬ tree.PathTooLong path := by
  intro hyp
  obtain ⟨before, segment, after, rfl, ⟨items, hw⟩, _⟩ := hyp
  cases before with
  | nil =>
    simp only [Tree.walk, Except.ok.injEq, Option.some.injEq] at hw
    simp [hw, Tree.isLeaf] at h
  | cons b before => simp [walk_leaf h] at hw

theorem walk_leaf_isError {tree : Tree} (h : tree.isLeaf) {segment : Text} {path : List Text} :
    (∃ fault, tree.walk (segment :: path) = .error fault) ↔ tree.PathTooLong (segment :: path) := by
  simp [walk_leaf h, not_pathTooLong_leaf h]

theorem walk_isError (path : List Text) (tree : Tree) :
    (∃ fault, tree.walk path = .error fault) ↔ tree.PathTooLong path := by
  induction path generalizing tree with
  | nil => simp [Tree.walk, not_pathTooLong_nil]
  | cons segment path ih =>
    cases tree with
    | dict entries =>
      simp only [Tree.walk, pathTooLong_dict]
      cases he : Tree.entry? segment entries with
      | none => simp
      | some tree => simpa using ih tree
    | list items =>
      -- Only the first part of the path is read as a number here; the rest is walked below it.
      simp only [Tree.walk, pathTooLong_list]
      cases hp : segmentPosition? segment with
      | error fault => simp [bind, Except.bind]
      | ok place =>
        cases place with
        | none => simp [bind, Except.bind, pure, Except.pure]
        | some position =>
          cases hi : items[position]? with
          | none => simp [bind, Except.bind, pure, Except.pure, hi]
          | some tree => simpa [bind, Except.bind, hi] using ih tree
    | _ => exact walk_leaf_isError rfl

/-- The seed is a property that cannot be walked to, or whose tree holds too long an integer. -/
def Request.SeedBreaksDown (r : Request) (l : Location) : Prop :=
  l.source = .property ∧ ((Tree.dict r.properties).PathTooLong l.args ∨
    ∃ tree, r.property? l.args = .ok (some tree) ∧ tree.holdsLongInteger)

theorem property_isError {r : Request} {path : List Text} :
    (∃ fault, r.property? path = .error fault) ↔ (Tree.dict r.properties).PathTooLong path := by
  rw [← walk_isError, Request.property?]
  cases (Tree.dict r.properties).walk path with
  | error fault => simp [bind, Except.bind]
  | ok found => cases found with
    | none => simp [bind, Except.bind, pure, Except.pure]
    | some tree => cases tree <;> simp [bind, Except.bind, pure, Except.pure]

theorem seed_isError {r : Request} {l : Location} :
    (∃ fault, r.seed? l.source l.args = .error fault) ↔ r.SeedBreaksDown l := by
  rw [Request.SeedBreaksDown, ← property_isError]
  cases l.source with
  | header => simp [Request.seed?]
  | query => simp [Request.seed?]
  | property =>
    simp only [Request.seed?, true_and]
    cases r.property? l.args with
    | error fault => simp [bind, Except.bind]
    | ok found => cases found with
      | none => simp [bind, Except.bind, pure, Except.pure]
      | some tree => cases h : tree.holdsLongInteger <;>
          simp [bind, Except.bind, pure, Except.pure, Request.propertyValue, h]

/-! ## Locations -/

/-- A location that is tried, and what it is tried for. -/
structure Probe where
  kind : Text
  keys : List Text
  location : Location

namespace Probe

/-- The string that the location yields. -/
def yield? (r : Request) (p : Probe) : Except Fault (Option Text) := do
  match ← r.seed? p.location.source p.location.args with
  | none => return none
  | some seed =>
    match p.location.unwrap seed with
    | .error _ => return none
    | .ok v => acceptedString? p.keys v

/-- The location has no answer: its seed breaks down, or it has a final value on which the accepted
keys do. -/
def BreaksDown (r : Request) (p : Probe) : Prop :=
  r.SeedBreaksDown p.location ∨
    ∃ seed v, r.seed? p.location.source p.location.args = .ok (some seed) ∧
      p.location.unwrap seed = .ok v ∧ KeysClash p.keys v

theorem yield_isError {r : Request} {p : Probe} :
    (∃ fault, p.yield? r = .error fault) ↔ p.BreaksDown r := by
  rw [BreaksDown, ← seed_isError, yield?]
  cases hs : r.seed? p.location.source p.location.args with
  | error fault => simp [bind, Except.bind]
  | ok found => cases found with
    | none => simp [bind, Except.bind, pure, Except.pure]
    | some seed =>
      cases hv : p.location.unwrap seed with
      | error failure => simp [bind, Except.bind, pure, Except.pure, hv]
      | ok v => simp [bind, Except.bind, hv, acceptedString_isError]

end Probe

end RequestCredentials
