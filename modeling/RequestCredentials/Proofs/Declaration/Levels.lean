import RequestCredentials.Declaration.Grammar
import RequestCredentials.Proofs.Json.ShortIntegers
import Mathlib.Data.List.Nodup
/-
  Levels — how a check goes through a document

  A check goes through a document level by level: it finds problems of a part
  itself, and in each part inside it what another check finds there, below the
  name or position of that part (`Check.Composed`). A problem shows the part that
  it is a problem of, or nothing.

  What is proved:
    1. `Check.composed_array`, `Check.composed_object` — the levels of arrays and
       objects;
    2. `Check.structural_declaration` — every part of a declaration is checked
       level by level, below plain names and positions;
    3. `Check.Structural.isTold` — the problems of a document that can be written
       can be told.
-/

namespace RequestCredentials

/-- A part of a path that holds none of the signs that set off paths in messages. -/
def Text.Plain (s : Text) : Prop := ∀ c ∈ s, c ≠ '.' ∧ c ≠ ':' ∧ c ≠ '('

theorem Text.Plain.of_all {s : Text} (h : (s.all fun c => c ≠ '.' ∧ c ≠ ':' ∧ c ≠ '(') = true) :
    s.Plain := by
  simpa [Text.Plain] using h

theorem plain_ofNat (n : Nat) : (Text.ofNat n).Plain := by
  intro c hc
  have hdigit := Text.isDigit_of_mem_ofNat hc
  refine ⟨?_, ?_, ?_⟩ <;> rintro rfl <;> exact absurd hdigit (by decide)

theorem ofNat_injective : Function.Injective Text.ofNat := by
  intro m n h
  rw [← Text.decimalValue_ofNat m, h, Text.decimalValue_ofNat]

/-! ## Places -/

namespace Problem

/-- The problem of a part that stands at the place, which was found in the part alone. -/
def under (place : List Text) (p : Problem) : Problem := { p with path := place ++ p.path }

/-- The problem is one of the part at the place or of a part inside it. -/
def isWithin (place : List Text) (p : Problem) : Bool := place.isPrefixOf p.path

variable {place place' : List Text} {p : Problem}

theorem isWithin_iff : p.isWithin place = true ↔ place <+: p.path := List.isPrefixOf_iff_prefix

theorem under_nil (p : Problem) : p.under [] = p := rfl

theorem under_under (p : Problem) : (p.under place').under place = p.under (place ++ place') := by
  simp [under]

theorem isWithin_under : (p.under place).isWithin (place ++ place') = p.isWithin place' := by
  rw [Bool.eq_iff_iff, isWithin_iff, isWithin_iff, under, List.prefix_append_right_inj]

theorem isWithin_of_append (h : p.isWithin (place ++ place') = true) : p.isWithin place = true := by
  rw [isWithin_iff] at h ⊢
  exact (List.prefix_append place place').trans h

end Problem

namespace Check

/-! ## Levels -/

/-- A part inside another: its name or position there, and the check that it is held to. -/
structure Inner where
  name : Text
  check : Check
  part : Json

/-- What the check finds in the part: its own problems, and what other checks find in the parts
inside it, each below a name or position of its own. -/
structure Composed (check : Check) (part : Json) (own : List Problem) (inner : List Inner) :
    Prop where
  path_of_own : ∀ p ∈ own, p.path = []
  shown_of_own : ∀ p ∈ own, ∀ shown ∈ p.complaint.shown?, shown = part
  isWritable_inner : part.IsWritable → ∀ s ∈ inner, s.part.IsWritable
  nodup : (inner.map Inner.name).Nodup
  problems : ∀ path, check path part = own.map (Problem.under path) ++
    inner.flatMap fun s => s.check (path ++ [s.name]) s.part

/-- A part with one problem of its own. -/
theorem composed_single {check : Check} {part : Json} {complaint : Complaint}
    (hshown : ∀ shown ∈ complaint.shown?, shown = part)
    (h : ∀ path, check path part = [⟨path, complaint⟩]) :
    Composed check part [⟨[], complaint⟩] [] where
  path_of_own := by simp
  shown_of_own := List.forall_mem_singleton.mpr hshown
  isWritable_inner := by simp
  nodup := List.nodup_nil
  problems path := by simp [h path, Problem.under]

theorem composed_nil {check : Check} {part : Json} (h : ∀ path, check path part = []) :
    Composed check part [] [] where
  path_of_own := by simp
  shown_of_own := by simp
  isWritable_inner := by simp
  nodup := List.nodup_nil
  problems path := by simp [h path]

theorem composed_array (check : Check) (least : Bool) (items : List Json) :
    Composed (array least check) (.arr items)
      (if least ∧ items = [] then [⟨[], .tooShort (.arr items)⟩] else [])
      (items.zipIdx.map fun (item, i) => ⟨Text.ofNat i, check, item⟩) where
  path_of_own p hp := by
    split at hp
    · rw [List.mem_singleton.mp hp]
    · cases hp
  shown_of_own p hp shown hshown := by
    split at hp
    · rw [List.mem_singleton.mp hp] at hshown
      exact (Option.mem_some.mp hshown).symm
    · cases hp
  isWritable_inner h s hs := by
    obtain ⟨⟨item, i⟩, hitem, rfl⟩ := List.mem_map.mp hs
    exact Json.isWritable_arr.mp h item (List.mem_of_getElem? (List.mk_mem_zipIdx_iff_getElem?.mp hitem))
  nodup := by
    rw [List.map_map]
    have hindices : (items.zipIdx.map (Text.ofNat ∘ Prod.snd)) =
        (List.range' 0 items.length).map Text.ofNat := by
      rw [← List.map_map, List.zipIdx_map_snd]
    exact hindices ▸ List.Nodup.map ofNat_injective List.nodup_range'
  problems path := by
    rw [array, each, List.flatMap_map]
    split <;> simp [Problem.under]

/-- The problems of an object itself: members that it lacks, and members that are not known. -/
def ownProblems (required known : List Text) (members : List (Text × Json)) : List Problem :=
  ((required.filter fun name => (Json.member? name members).isNone).map
    fun name => ⟨[], .missing name⟩) ++
  if unknownNames known members = [] then [] else [⟨[], .additional (unknownNames known members)⟩]

/-- The known members that are there, each with its check. -/
def knownMembers (known : List (Text × Check)) (members : List (Text × Json)) : List Inner :=
  known.filterMap fun (name, check) => (Json.member? name members).map (⟨name, check, ·⟩)

section
variable {required : List Text} {known : List (Text × Check)} {members : List (Text × Json)}

theorem mem_knownMembers {s : Inner} :
    s ∈ knownMembers known members ↔
      (s.name, s.check) ∈ known ∧ Json.member? s.name members = some s.part := by
  obtain ⟨name, check, part⟩ := s
  simp only [knownMembers, List.mem_filterMap, Option.map_eq_some_iff, Inner.mk.injEq]
  constructor
  · intro hyp
    obtain ⟨_, hknown, _, hmember, rfl, rfl, rfl⟩ := hyp
    exact ⟨hknown, hmember⟩
  · intro hyp
    exact ⟨_, hyp.1, part, hyp.2, rfl, rfl, rfl⟩

theorem flatMap_knownMembers (path : List Text) :
    (knownMembers known members).flatMap (fun s => s.check (path ++ [s.name]) s.part) =
      known.flatMap fun (name, check) =>
        match Json.member? name members with
        | some member => check (path ++ [name]) member
        | none => [] := by
  induction known with
  | nil => rfl
  | cons entry known ih =>
    obtain ⟨name, check⟩ := entry
    rw [List.flatMap_cons, ← ih]
    cases hmember : Json.member? name members <;> simp [knownMembers, hmember]

theorem composed_object (hnames : (known.map (·.1)).Nodup) :
    Composed (object required known) (.obj members)
      (ownProblems required (known.map (·.1)) members) (knownMembers known members) where
  path_of_own p hp := by
    rcases List.mem_append.mp hp with hp | hp
    · obtain ⟨_, -, rfl⟩ := List.mem_map.mp hp
      rfl
    · split at hp
      · cases hp
      · rw [List.mem_singleton.mp hp]
  shown_of_own p hp := by
    rcases List.mem_append.mp hp with hp | hp
    · obtain ⟨_, -, rfl⟩ := List.mem_map.mp hp
      simp [Complaint.shown?]
    · split at hp
      · cases hp
      · simp [List.mem_singleton.mp hp, Complaint.shown?]
  isWritable_inner h s hs := by
    obtain ⟨member, hmember, heq⟩ := Option.map_eq_some_iff.mp (mem_knownMembers.mp hs).2
    exact heq ▸ Json.isWritable_obj.mp h member (List.mem_of_find?_eq_some hmember)
  nodup := by
    rw [List.Nodup, List.pairwise_map] at hnames ⊢
    rw [knownMembers, List.pairwise_filterMap]
    refine hnames.imp fun hne s hs t ht => ?_
    obtain ⟨_, -, rfl⟩ := Option.map_eq_some_iff.mp hs
    obtain ⟨_, -, rfl⟩ := Option.map_eq_some_iff.mp ht
    exact hne
  problems path := by
    rw [object, ownProblems, flatMap_knownMembers, List.map_append, List.map_map]
    congr 2
    · exact List.map_congr_left fun name _ => by simp [Problem.under]
    · split <;> simp [Problem.under]

end

/-- The check goes through a part level by level, below plain names and positions, and holds the
parts inside to checks that do so too. -/
inductive Structural : Check → Prop
  | intro {check : Check} (own : Json → List Problem) (inner : Json → List Inner)
      (composed : ∀ part, Composed check part (own part) (inner part))
      (plain : ∀ part, ∀ s ∈ inner part, s.name.Plain)
      (structural : ∀ part, ∀ s ∈ inner part, Structural s.check) : Structural check

theorem structural_of_composed {check : Check}
    (h : ∀ part, ∃ own inner, Composed check part own inner ∧
      ∀ s ∈ inner, s.name.Plain ∧ s.check.Structural) : check.Structural := by
  choose own inner hcomposed hinner using h
  exact .intro own inner hcomposed (fun part s hs => (hinner part s hs).1)
    (fun part s hs => (hinner part s hs).2)

/-- A check that finds at most one problem, of the part itself. -/
theorem structural_leaf {check : Check}
    (h : ∀ part, (∀ path, check path part = []) ∨
      ∃ complaint : Complaint, complaint.shown? = some part ∧
        ∀ path, check path part = [⟨path, complaint⟩]) : check.Structural := by
  refine structural_of_composed fun part => ?_
  rcases h part with hnone | ⟨complaint, hshown, hone⟩
  · exact ⟨_, _, composed_nil hnone, by simp⟩
  · exact ⟨_, _, composed_single (by simp [hshown]) hone, by simp⟩

theorem structural_operation : Structural operation := by
  refine structural_leaf fun part => ?_
  by_cases h : part.isOperation = true
  · exact .inl fun path => if_pos h
  · exact .inr ⟨.noForm part, rfl, fun path => if_neg h⟩

theorem structural_string (least : Bool) : Structural (string least) := by
  refine structural_leaf fun part => ?_
  cases part with
  | str s =>
    by_cases h : least = true ∧ s = []
    · exact .inr ⟨.tooShort (.str s), rfl, fun path => if_pos h⟩
    · exact .inl fun path => if_neg h
  | _ => exact .inr ⟨_, rfl, fun path => rfl⟩

theorem structural_oneOf (options : List Text) : Structural (oneOf options) := by
  refine structural_leaf fun part => ?_
  cases part with
  | str s =>
    by_cases h : options.contains s = true
    · exact .inl fun path => if_pos h
    · exact .inr ⟨.notOneOf (.str s) options, rfl, fun path => if_neg h⟩
  | _ => exact .inr ⟨_, rfl, fun path => rfl⟩

theorem Structural.array {check : Check} (h : check.Structural) (least : Bool) :
    Structural (array least check) := by
  refine structural_of_composed fun part => ?_
  cases part with
  | arr items =>
    refine ⟨_, _, composed_array check least items, fun s hs => ?_⟩
    obtain ⟨entry, -, rfl⟩ := List.mem_map.mp hs
    exact ⟨plain_ofNat entry.2, h⟩
  | _ => exact ⟨_, _, composed_single (by simp [Complaint.shown?]) fun path => rfl, by simp⟩

theorem structural_object {required : List Text} {known : List (Text × Check)}
    (hnames : (known.map (·.1)).Nodup)
    (h : ∀ entry ∈ known, entry.1.Plain ∧ entry.2.Structural) :
    Structural (object required known) := by
  refine structural_of_composed fun part => ?_
  cases part with
  | obj members =>
    exact ⟨_, _, composed_object hnames, fun s hs => h _ (mem_knownMembers.mp hs).1⟩
  | _ => exact ⟨_, _, composed_single (by simp [Complaint.shown?]) fun path => rfl, by simp⟩

theorem structural_location : Structural location := by
  refine structural_object (by decide) ?_
  simp only [List.forall_mem_cons]
  exact ⟨⟨.of_all rfl, structural_oneOf _⟩, ⟨.of_all rfl, (structural_string true).array true⟩,
    ⟨.of_all rfl, structural_operation.array false⟩, by simp⟩

theorem structural_credentialMembers : ∀ entry ∈
    [(("kind" : Text), string true), ("keys", array false (string false)),
      ("locations", array true location)], entry.1.Plain ∧ entry.2.Structural := by
  simp only [List.forall_mem_cons]
  exact ⟨⟨.of_all rfl, structural_string true⟩,
    ⟨.of_all rfl, (structural_string false).array false⟩,
    ⟨.of_all rfl, structural_location.array true⟩, by simp⟩

theorem structural_credential : Structural credential :=
  structural_object (by decide) structural_credentialMembers

theorem structural_declarationMembers : ∀ entry ∈
    [(("credentials" : Text), array false credential)], entry.1.Plain ∧ entry.2.Structural :=
  List.forall_mem_singleton.mpr ⟨.of_all rfl, structural_credential.array false⟩

theorem structural_declaration : Structural declaration :=
  structural_object (by decide) structural_declarationMembers

/-! ## Problems told -/

/-- A document that can be written has problems that can be told. -/
theorem Structural.isTold {check : Check} (h : check.Structural) {part : Json}
    (hpart : part.IsWritable) {path : List Text} :
    ∀ p ∈ check path part, p.complaint.isUntold = false := by
  induction h generalizing path part with
  | intro own inner composed _ _ ih =>
    intro p hp
    rw [(composed part).problems path] at hp
    rcases List.mem_append.mp hp with hp | hp
    · obtain ⟨q, hq, rfl⟩ := List.mem_map.mp hp
      rw [Complaint.isUntold, Option.any_eq_false]
      intro shown hshown
      rw [(composed part).shown_of_own q hq shown hshown]
      exact hpart
    · obtain ⟨s, hs, hp⟩ := List.mem_flatMap.mp hp
      exact ih part s hs ((composed part).isWritable_inner hpart s hs) p hp

end Check

namespace Problem

variable {document : Text} {problems : List Problem} {told : List Text}

theorem messages_eq_some :
    messages document problems = some told ↔
      (∀ p ∈ problems, p.complaint.isUntold = false) ∧
        told = (sort problems).map (message document) := by
  have hany : (problems.any fun p => p.complaint.isUntold) = true ↔
      ¬ ∀ p ∈ problems, p.complaint.isUntold = false := by
    simp
  rw [messages]
  by_cases h : ∀ p ∈ problems, p.complaint.isUntold = false
  · rw [if_neg fun hyp => hany.mp hyp h, Option.some.injEq, eq_comm]
    exact (and_iff_right h).symm
  · rw [if_pos (hany.mpr h)]
    exact iff_of_false nofun fun hyp => h hyp.1

end Problem

end RequestCredentials
