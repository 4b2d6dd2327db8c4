import RequestCredentials.Proofs.Declaration.Accepted
/-
  Placement — problems of a part inside a document

  A check goes through a document level by level. So where a part stands shows
  in the paths of its problems and in nothing else, and what is wrong around it
  has no part in them.

  What is proved:
    1. `Check.Structural.path_only` — the place of a part shows in paths only;
    2. `Check.reaches_location` — what a declaration has in it at or below a
       location is what the location has alone.
-/

namespace RequestCredentials

namespace Check

/-! ## Paths -/

section
variable {check : Check}

/-- Where a part stands shows in the paths of its problems only. -/
theorem Structural.path_only (h : check.Structural) (path : List Text) (part : Json) :
    check path part = (part.problems check).map (Problem.under path) := by
  -- The induction is on the levels of the check: the problems of inner parts are below the path in
  -- both readings, once behind the name and once in front of it.
  induction h generalizing path part with
  | intro own inner composed _ _ ih =>
    rw [Json.problems, (composed part).problems path, (composed part).problems [],
      List.map_append, List.map_map, List.map_flatMap]
    congr 1
    refine List.flatMap_congr fun s hs => ?_
    rw [ih part s hs, ih part s hs ([] ++ [s.name]), List.map_map]
    exact List.map_congr_left fun p _ => (Problem.under_under p).symm

theorem Structural.plain (h : check.Structural) (part : Json) :
    ∀ p ∈ part.problems check, ∀ s ∈ p.path, s.Plain := by
  induction h generalizing part with
  | intro own inner composed plain structural ih =>
    intro p hp t ht
    rw [Json.problems, (composed part).problems []] at hp
    rcases List.mem_append.mp hp with hp | hp
    · obtain ⟨q, hq, rfl⟩ := List.mem_map.mp hp
      rw [Problem.under_nil, (composed part).path_of_own q hq] at ht
      cases ht
    · obtain ⟨s, hs, hp⟩ := List.mem_flatMap.mp hp
      rw [(structural part s hs).path_only] at hp
      obtain ⟨q, hq, rfl⟩ := List.mem_map.mp hp
      rcases List.mem_cons.mp ht with rfl | ht
      · exact plain part s hs
      · exact ih part s hs s.part q hq t ht

end

/-! ## Problems below a place -/

/-- What the check finds in a part at the place or below it is what the inner check finds in the
inner part. -/
def Reaches (check : Check) (part : Json) (place : List Text) (inner : Check) (innerPart : Json) :
    Prop :=
  (part.problems check).filter (Problem.isWithin place) =
    (innerPart.problems inner).map (Problem.under place)

theorem Reaches.trans {check check' check'' : Check} {part part' part'' : Json}
    {place place' : List Text} (h : check.Reaches part place check' part')
    (h' : check'.Reaches part' place' check'' part'') :
    check.Reaches part (place ++ place') check'' part'' := by
  -- A problem at or below the longer place is one at or below the shorter, so the filter for the
  -- longer place may run behind that for the shorter.
  have hnarrow : ∀ p, (Problem.isWithin (place ++ place') p && Problem.isWithin place p) =
      Problem.isWithin (place ++ place') p := by
    intro p
    cases hp : Problem.isWithin (place ++ place') p with
    | false => rfl
    | true => rw [Problem.isWithin_of_append hp, Bool.and_self]
  have hinside : ∀ p, (Problem.isWithin (place ++ place') ∘ Problem.under place) p =
      Problem.isWithin place' p := fun p => Problem.isWithin_under
  calc (part.problems check).filter (Problem.isWithin (place ++ place'))
      = ((part.problems check).filter (Problem.isWithin place)).filter
          (Problem.isWithin (place ++ place')) := by
        rw [List.filter_filter, List.filter_congr fun p _ => hnarrow p]
    _ = ((part'.problems check').filter (Problem.isWithin place')).map (Problem.under place) := by
        rw [h, List.filter_map, List.filter_congr fun p _ => hinside p]
    _ = (part''.problems check'').map (Problem.under (place ++ place')) := by
        rw [h', List.map_map]
        exact List.map_congr_left fun p _ => Problem.under_under p

theorem filter_isWithin_under {s t : Text} (problems : List Problem) :
    (problems.map (Problem.under [s])).filter (Problem.isWithin [t]) =
      if s = t then problems.map (Problem.under [s]) else [] := by
  split
  · next h =>
    subst h
    refine List.filter_eq_self.mpr fun p hp => ?_
    obtain ⟨q, -, rfl⟩ := List.mem_map.mp hp
    simp [Problem.isWithin_iff, Problem.under]
  · next h =>
    refine List.filter_eq_nil_iff.mpr fun p hp => ?_
    obtain ⟨q, -, rfl⟩ := List.mem_map.mp hp
    simp [Problem.isWithin_iff, Problem.under, Ne.symm h]

theorem flatMap_eq_of_nodup {α β κ : Type} {key : α → κ} {f : α → List β} {l : List α} {a : α}
    (hkeys : (l.map key).Nodup) (ha : a ∈ l) (h : ∀ b ∈ l, key b ≠ key a → f b = []) :
    l.flatMap f = f a := by
  obtain ⟨before, after, rfl⟩ := List.append_of_mem ha
  rw [List.map_append, List.map_cons, List.nodup_middle, List.nodup_cons, ← List.map_append]
    at hkeys
  have hother : ∀ b ∈ before ++ after, f b = [] := by
    intro b hb
    have hmem : b ∈ before ++ a :: after := by
      rcases List.mem_append.mp hb with hb | hb <;> simp [hb]
    exact h b hmem fun hsame => hkeys.1 (hsame ▸ List.mem_map_of_mem hb)
  obtain ⟨hbefore, hafter⟩ := List.forall_mem_append.mp hother
  rw [List.flatMap_append, List.flatMap_cons, List.flatMap_eq_nil_iff.mpr hbefore,
    List.flatMap_eq_nil_iff.mpr hafter, List.nil_append, List.append_nil]

/-- Names and positions are distinct, so each part inside has its problems to itself. -/
theorem Composed.reaches {check : Check} {part : Json} {own : List Problem} {inner : List Inner}
    (h : Composed check part own inner) (hinner : ∀ s ∈ inner, s.check.Structural) {s : Inner}
    (hs : s ∈ inner) : check.Reaches part [s.name] s.check s.part := by
  have hown : (own.map (Problem.under [])).filter (Problem.isWithin [s.name]) = [] := by
    refine List.filter_eq_nil_iff.mpr fun p hp => ?_
    obtain ⟨q, hq, rfl⟩ := List.mem_map.mp hp
    simp [Problem.isWithin_iff, Problem.under_nil, h.path_of_own q hq]
  have hbelow : ∀ t ∈ inner, (t.check ([] ++ [t.name]) t.part).filter (Problem.isWithin [s.name]) =
      if t.name = s.name then (t.part.problems t.check).map (Problem.under [t.name]) else [] := by
    intro t ht
    rw [(hinner t ht).path_only, List.nil_append, filter_isWithin_under]
  rw [Reaches, Json.problems, h.problems, List.filter_append, hown, List.filter_flatMap,
    List.nil_append, List.flatMap_congr hbelow, flatMap_eq_of_nodup h.nodup hs]
  · exact if_pos rfl
  · exact fun t _ hne => if_neg hne

theorem reaches_item {check : Check} (h : check.Structural) {least : Bool} {items : List Json}
    {i : Nat} {item : Json} (hitem : items[i]? = some item) :
    (array least check).Reaches (.arr items) [Text.ofNat i] check item := by
  have hmem : (item, i) ∈ items.zipIdx := List.mem_zipIdx_iff_getElem?.mpr hitem
  refine (composed_array check least items).reaches (fun s hs => ?_) (List.mem_map_of_mem hmem)
  obtain ⟨entry, -, rfl⟩ := List.mem_map.mp hs
  exact h

theorem reaches_member {required : List Text} {known : List (Text × Check)}
    (hnames : (known.map (·.1)).Nodup)
    (h : ∀ entry ∈ known, entry.1.Plain ∧ entry.2.Structural) {name : Text} {check : Check}
    (hknown : (name, check) ∈ known) {part member : Json}
    (hmember : part.get? name = some member) :
    (object required known).Reaches part [name] check member := by
  cases part with
  | obj members =>
    have hmem : (⟨name, check, member⟩ : Inner) ∈ knownMembers known members :=
      mem_knownMembers.mpr ⟨hknown, hmember⟩
    exact (composed_object hnames).reaches (fun s hs => (h _ (mem_knownMembers.mp hs).1).2) hmem
  | _ => cases hmember

/-! ## Locations -/

theorem exists_items {part item : Json} {name : Text} {i : Nat}
    (h : (part.getOrEmpty name).items[i]? = some item) :
    ∃ items, part.get? name = some (.arr items) ∧ items[i]? = some item := by
  rw [Json.getOrEmpty] at h
  cases hget : part.get? name with
  | none => simp [hget, Json.items] at h
  | some member =>
    rw [hget, Option.getD_some] at h
    cases member with
    | arr items => exact ⟨items, rfl, h⟩
    | _ => simp [Json.items] at h

/-- The path of a location in a declaration. -/
def locationPath (i j : Nat) : List Text := ["credentials", Text.ofNat i, "locations", Text.ofNat j]

/-- What a declaration has in it at or below a location is what the location has alone. -/
theorem reaches_location {document part : Json} {i j : Nat}
    (h : document.locationPart? i j = some part) :
    declaration.Reaches document (locationPath i j) location part := by
  rw [Json.locationPart?, Option.bind_eq_bind, Option.bind_eq_some_iff] at h
  obtain ⟨item, hitem, hpart⟩ := h
  obtain ⟨items, hitems, hitem⟩ := exists_items hitem
  obtain ⟨parts, hparts, hpart⟩ := exists_items hpart
  have hcredentials : declaration.Reaches document ["credentials"] _ (.arr items) :=
    reaches_member (by decide) structural_declarationMembers List.mem_cons_self hitems
  have hlocations : credential.Reaches item ["locations"] (array true location) (.arr parts) :=
    reaches_member (by decide) structural_credentialMembers (by simp) hparts
  exact ((hcredentials.trans (reaches_item structural_credential hitem)).trans hlocations).trans
    (reaches_item structural_location hpart)

end Check

end RequestCredentials
