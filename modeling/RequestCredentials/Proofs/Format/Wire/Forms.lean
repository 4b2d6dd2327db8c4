import RequestCredentials.Value.Tree
import RequestCredentials.Proofs.Format.Wire.Fields
import RequestCredentials.Proofs.Format.Wire.Order
/-
  Trees on the wire

  A tree of mappings, lists, texts, truth values and null is written as a struct
  by writing the entries of each mapping once each, in any order. In an entry the
  name may stand on either side of the value, and an empty name may be left out.
  Where there is a choice in how a number, a tag or a length is written, every
  form is allowed.

  Defined here: the tree with all its mappings sorted by name (`Tree.ordered`),
  the levels of messages that it takes (`Tree.levels`), and its messages
  (`ValueForm`, `StructForm`).
-/

namespace RequestCredentials

/-! ## Trees -/

namespace Tree

mutual

/-- The tree with the entries of every mapping sorted by name. -/
def ordered : Tree → Tree
  | .list items => .list (orderedItems items)
  | .dict entries => .dict (Wire.sortEntries (orderedEntries entries))
  | tree => tree

def orderedItems : List Tree → List Tree
  | [] => []
  | tree :: rest => tree.ordered :: orderedItems rest

def orderedEntries : List (Text × Tree) → List (Text × Tree)
  | [] => []
  | (name, tree) :: rest => (name, tree.ordered) :: orderedEntries rest

end

mutual

/-- How many levels of messages the tree takes inside the message of its value. -/
def levels : Tree → Nat
  | .list items => itemLevels items + 1
  | .dict entries => entryLevels entries + 1
  | _ => 0

/-- How many levels the items take inside the message of their list: one for the message of each,
and those inside it. -/
def itemLevels : List Tree → Nat
  | [] => 0
  | tree :: rest => max (tree.levels + 1) (itemLevels rest)

/-- How many levels the entries take inside the message of their struct: one for each entry, one for
its value, and those inside it. -/
def entryLevels : List (Text × Tree) → Nat
  | [] => 0
  | (_, tree) :: rest => max (tree.levels + 2) (entryLevels rest)

end

theorem entryLevels_le_iff {entries : List (Text × Tree)} {n : Nat} :
    entryLevels entries ≤ n ↔ ∀ e ∈ entries, e.2.levels + 2 ≤ n := by
  induction entries with
  | nil => simp [entryLevels]
  | cons e entries ih =>
    obtain ⟨name, tree⟩ := e
    rw [entryLevels, Nat.max_le, ih, List.forall_mem_cons]

/-- The levels do not depend on the order of the entries. -/
theorem entryLevels_le_of_perm {order entries : List (Text × Tree)} {n : Nat}
    (horder : order.Perm entries) (h : entryLevels entries ≤ n) : entryLevels order ≤ n := by
  rw [entryLevels_le_iff] at h ⊢
  exact fun e he => h e (horder.mem_iff.mp he)

theorem orderedEntries_eq_map (entries : List (Text × Tree)) :
    orderedEntries entries = entries.map fun e => (e.1, e.2.ordered) := by
  induction entries with
  | nil => rfl
  | cons e entries ih => rw [orderedEntries, ih, List.map_cons]

end Tree

namespace Wire

/-! ## Forms on the wire -/

/-- The number of the field that holds the value in an entry. -/
def entryValue : Nat := 2

/-- An entry of a map with a name and a value. -/
inductive EntryForm (name value : Bytes) : Bytes → Prop
  | nameFirst {n v : Bytes} (hname : DelimitedField entryName name n)
    (hvalue : DelimitedField entryValue value v) : EntryForm name value (n ++ v)
  | valueFirst {n v : Bytes} (hname : DelimitedField entryName name n)
    (hvalue : DelimitedField entryValue value v) : EntryForm name value (v ++ n)
  | unnamed {v : Bytes} (hname : name = []) (hvalue : DelimitedField entryValue value v) :
    EntryForm name value v

mutual

/-- The message of a value. -/
inductive ValueForm : Tree → Bytes → Prop
  | null {bytes : Bytes} (h : VarintField 1 0 bytes) : ValueForm .null bytes
  | bool {b : Bool} {bytes : Bytes} (h : VarintField 4 b.toNat bytes) : ValueForm (.bool b) bytes
  | text {s : Text} {payload bytes : Bytes} (hs : Utf8.encode s = .ok payload)
    (h : DelimitedField valueText payload bytes) : ValueForm (.text s) bytes
  | dict {entries order : List (Text × Tree)} {payload bytes : Bytes} (horder : order.Perm entries)
    (hnames : (entries.map (·.1)).Nodup) (hentries : EntriesForm order payload)
    (h : DelimitedField 5 payload bytes) : ValueForm (.dict entries) bytes
  | list {items : List Tree} {payload bytes : Bytes} (hitems : ItemsForm items payload)
    (h : DelimitedField 6 payload bytes) : ValueForm (.list items) bytes

/-- The entries of a struct one after another. -/
inductive EntriesForm : List (Text × Tree) → Bytes → Prop
  | nil : EntriesForm [] []
  | cons {name : Text} {tree : Tree} {entries : List (Text × Tree)}
    {key value entry field bytes : Bytes} (hname : Utf8.encode name = .ok key)
    (hvalue : ValueForm tree value) (hentry : EntryForm key value entry)
    (hfield : DelimitedField 1 entry field) (hrest : EntriesForm entries bytes) :
    EntriesForm ((name, tree) :: entries) (field ++ bytes)

/-- The items of a list one after another. -/
inductive ItemsForm : List Tree → Bytes → Prop
  | nil : ItemsForm [] []
  | cons {tree : Tree} {items : List Tree} {value field bytes : Bytes}
    (hvalue : ValueForm tree value) (hfield : DelimitedField 1 value field)
    (hrest : ItemsForm items bytes) : ItemsForm (tree :: items) (field ++ bytes)

end

/-- The message of a struct that has these entries, written once each in some order. -/
structure StructForm (entries : List (Text × Tree)) (bytes : Bytes) : Prop where
  names : (entries.map (·.1)).Nodup
  written : ∃ order : List (Text × Tree), order.Perm entries ∧ EntriesForm order bytes

end Wire

end RequestCredentials
