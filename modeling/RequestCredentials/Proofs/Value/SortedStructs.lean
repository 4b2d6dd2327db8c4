import RequestCredentials.Evaluation.Selection
import RequestCredentials.Proofs.Declaration.Positions
import RequestCredentials.Proofs.Format.Wire.Order
/-
  Sorted structs

  A struct may hold a name more than once, and its entries may stand in any
  order. Where they stand in increasing order of names, no name comes twice, and
  an entry has as many entries before it as there are lesser names. So a lookup
  by name and a lookup by that position select the same entry.

  What is proved:
    1. `Value.sorted_list_iff`, `Value.sorted_struct_iff` — a value is sorted if
       its parts are, and its own entries if it is a struct;
    2. `Increasing.find?_eq`, `Increasing.getElem?_rank` — what a name and its
       rank select among sorted entries;
    3. `lookup_sorted` — so the two lookups agree.
-/

namespace RequestCredentials

open Wire (Increasing)

/-! ## Parts of values -/

namespace Value

/-- The part is the value, or stands in it, however deep. -/
inductive Occurs (part : Value) : Value → Prop
  | here : Occurs part part
  | item {items : List Value} {v : Value} (member : v ∈ items) (deeper : Occurs part v) :
    Occurs part (.list items)
  | entry {entries : List (Text × Value)} {e : Text × Value} (member : e ∈ entries)
    (deeper : Occurs part e.2) : Occurs part (.struct entries)

/-- The entries of every struct in the value, however deep, stand in increasing order of names. -/
def Sorted (v : Value) : Prop := ∀ entries, Occurs (.struct entries) v → Increasing entries

theorem sorted_text (c : Content) : (text c).Sorted := by
  intro entries h
  cases h

theorem sorted_list_iff {items : List Value} : (list items).Sorted ↔ ∀ v ∈ items, v.Sorted := by
  constructor
  · intro h v hv entries hoccurs
    exact h entries (.item hv hoccurs)
  · intro h entries hoccurs
    cases hoccurs with
    | item member deeper => exact h _ member entries deeper

theorem sorted_struct_iff {entries : List (Text × Value)} :
    (struct entries).Sorted ↔ Increasing entries ∧ ∀ e ∈ entries, e.2.Sorted := by
  constructor
  · intro h
    refine ⟨h entries .here, ?_⟩
    intro e he entries' hoccurs
    exact h entries' (.entry he hoccurs)
  · rintro ⟨hnames, hvalues⟩ entries' hoccurs
    cases hoccurs with
    | here => exact hnames
    | entry member deeper => exact hvalues _ member entries' deeper

end Value

/-! ## Names and ranks -/

section
variable {α : Type} {entries : List (Text × α)}

/-- How many of the names are less than this one. -/
def rank (name : Text) (entries : List (Text × α)) : Nat :=
  (entries.map (·.1)).countP (· < name)

theorem rank_cons (name : Text) (first : Text × α) (entries : List (Text × α)) :
    rank name (first :: entries) = rank name entries + if first.1 < name then 1 else 0 := by
  simp only [rank, List.map_cons, List.countP_cons, decide_eq_true_eq]

theorem rank_eq_zero {name : Text} (h : ∀ e ∈ entries, name < e.1) : rank name entries = 0 := by
  refine List.countP_eq_zero.mpr ?_
  simp only [List.forall_mem_map, decide_eq_true_eq]
  exact fun e he hlt => List.lt_irrefl name (List.lt_trans (h e he) hlt)

/-- As many entries come before an entry as there are lesser names. -/
theorem Wire.Increasing.getElem?_rank (h : Increasing entries) {e : Text × α} (he : e ∈ entries) :
    entries[rank e.1 entries]? = some e := by
  induction entries with
  | nil => cases he
  | cons first entries ih =>
    obtain ⟨hfirst, hrest⟩ := List.pairwise_cons.mp h
    rw [rank_cons]
    rcases List.mem_cons.mp he with rfl | he
    · rw [rank_eq_zero hfirst, if_neg (List.lt_irrefl e.1)]
      rfl
    · rw [if_pos (hfirst e he), List.getElem?_cons_succ]
      exact ih hrest he

theorem Wire.Increasing.find?_eq (h : Increasing entries) {e : Text × α} (he : e ∈ entries) :
    entries.find? (·.1 = e.1) = some e := by
  induction entries with
  | nil => cases he
  | cons first entries ih =>
    obtain ⟨hfirst, hrest⟩ := List.pairwise_cons.mp h
    rcases List.mem_cons.mp he with rfl | he
    · exact List.find?_cons_of_pos (decide_eq_true rfl)
    · have hne : ¬ first.1 = e.1 := fun heq => List.lt_irrefl e.1 (heq ▸ hfirst e he)
      rw [List.find?_cons_of_neg (by simpa using hne)]
      exact ih hrest he

end

/-! ## Lookups -/

/-- In sorted entries a name and its rank select the same entry. -/
theorem lookup_sorted {entries : List (Text × Value)} (h : Increasing entries) {e : Text × Value}
    (he : e ∈ entries) :
    (Value.struct entries).lookup (.key e.1) = .ok (.ok e.2) ∧
      (Value.struct entries).lookup (.position (.int (rank e.1 entries))) = .ok (.ok e.2) := by
  constructor
  · rw [Value.lookup, Value.lookupKey, Value.entry?, h.find?_eq he]
    rfl
  · rw [Value.lookup, naming_eq_ok, lookupPosition_int, Value.part?, Value.parts,
      List.getElem?_map, h.getElem?_rank he]
    rfl

end RequestCredentials
