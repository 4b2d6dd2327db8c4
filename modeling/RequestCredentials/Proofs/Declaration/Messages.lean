import RequestCredentials.Proofs.Declaration.Placement
/-
  Messages — where the problems of a declaration are told

  A message starts with the path of its part, the names and positions set off by
  dots, and a colon behind it. No name or position of a declaration holds one of
  these signs, so a message tells its path back: those of a part and of the
  parts inside it are the ones that start with the path of the part and a colon
  or a dot.

  What is proved:
    1. `join_prefix_iff` — paths that are written out can be told apart;
    2. `Problem.isToldWithin_message`, `Problem.message_under` — the message of a
       problem in its place, and of the same problem found in the part alone;
    3. `location_messages` — the problems of a document that can be written are
       told, and what a declaration is told of a location is what the location
       is told alone.
-/

namespace RequestCredentials

/-! ## Paths -/

/-- Two texts that go on behind a sign which neither holds before it agree up to the sign. -/
theorem prefix_iff_of_not_mem {p : CodePoint → Prop} {s t u v : Text} {x y : CodePoint}
    (hs : ∀ c ∈ s, ¬ p c) (ht : ∀ c ∈ t, ¬ p c) (hx : p x) (hy : p y) :
    s ++ x :: u <+: t ++ y :: v ↔ s = t ∧ x = y ∧ u <+: v := by
  induction s generalizing t with
  | nil =>
    cases t with
    | nil => simp [List.cons_prefix_cons]
    | cons d t =>
      have hd : x ≠ d := fun h => ht d List.mem_cons_self (h ▸ hx)
      simp [List.cons_prefix_cons, hd]
  | cons c s ih =>
    obtain ⟨hc, hs⟩ := List.forall_mem_cons.mp hs
    cases t with
    | nil =>
      have hy : c ≠ y := fun h => hc (h ▸ hy)
      simp [List.cons_prefix_cons, hy]
    | cons d t =>
      obtain ⟨-, ht⟩ := List.forall_mem_cons.mp ht
      simp [List.cons_prefix_cons, ih hs ht, and_assoc]

/-- The signs that stand behind the parts of a path. -/
def EndsPart (c : CodePoint) : Prop := c = '.' ∨ c = ':'

theorem Text.Plain.not_endsPart {s : Text} (h : s.Plain) : ∀ c ∈ s, ¬ EndsPart c := by
  intro c hc hyp
  obtain ⟨hdot, hcolon, -⟩ := h c hc
  exact hyp.elim hdot hcolon

theorem join_cons_cons (a b : Text) (rest : List Text) :
    Text.join "." (a :: b :: rest) = a ++ (CodePoint.ofChar '.') :: Text.join "." (b :: rest) := by
  rw [Text.join, List.append_assoc]
  · rfl
  · simp

theorem join_singleton (a : Text) : Text.join "." [a] = a := rfl

/-- A path that is written out and set off goes on from a place, set off, exactly when it is the
place or leads on from it. -/
theorem join_prefix_iff {place path : List Text} (hplace : ∀ s ∈ place, s.Plain)
    (hpath : ∀ s ∈ path, s.Plain) (hne : place ≠ []) (hne' : path ≠ []) (rest : Text) :
    (Text.join "." place ++ [CodePoint.ofChar ':'] <+:
        Text.join "." path ++ CodePoint.ofChar ':' :: rest ∨
      Text.join "." place ++ [CodePoint.ofChar '.'] <+:
        Text.join "." path ++ CodePoint.ofChar ':' :: rest) ↔ place <+: path := by
  have hdot : EndsPart (CodePoint.ofChar '.') := .inl rfl
  have hcolon : EndsPart (CodePoint.ofChar ':') := .inr rfl
  have hdiffer : CodePoint.ofChar '.' ≠ CodePoint.ofChar ':' := by decide
  induction place generalizing path with
  | nil => exact absurd rfl hne
  | cons a place ih =>
    obtain ⟨ha, hplace⟩ := List.forall_mem_cons.mp hplace
    cases path with
    | nil => exact absurd rfl hne'
    | cons b path =>
      obtain ⟨hb, hpath⟩ := List.forall_mem_cons.mp hpath
      -- Neither first part holds a dot or a colon, so the texts agree up to the first sign only if
      -- the parts and the signs behind them do. A sign is a colon where its path ends, else a dot.
      have hcut := fun (x y : CodePoint) (u v : Text) => prefix_iff_of_not_mem (x := x) (y := y)
        (u := u) (v := v) ha.not_endsPart hb.not_endsPart
      rw [List.cons_prefix_cons]
      cases place with
      | nil =>
        cases path with
        | nil => simp [join_singleton, hcut, hdot, hcolon, hdiffer]
        | cons c path => simp [join_singleton, join_cons_cons, hcut, hdot, hcolon, hdiffer.symm]
      | cons a' place =>
        cases path with
        | nil => simp [join_singleton, join_cons_cons, hcut, hdot, hcolon, hdiffer]
        | cons c path =>
          simp only [join_cons_cons, List.append_assoc, List.cons_append, hcut _ _ _ _ hdot hdot,
            true_and, ← and_or_left]
          exact and_congr_right fun _ => ih hplace hpath (by simp) (by simp)

theorem join_append {place path : List Text} (hne : place ≠ []) (hne' : path ≠ []) :
    Text.join "." (place ++ path) =
      Text.join "." place ++ CodePoint.ofChar '.' :: Text.join "." path := by
  induction place with
  | nil => exact absurd rfl hne
  | cons a place ih =>
    cases place with
    | nil =>
      obtain ⟨b, path, rfl⟩ := List.exists_cons_of_ne_nil hne'
      rw [List.singleton_append, join_cons_cons, join_singleton]
    | cons b place =>
      rw [List.cons_append, List.cons_append, join_cons_cons, join_cons_cons, ← List.cons_append,
        ih (by simp), List.append_assoc, List.cons_append]

/-- What is written for a path of plain parts does not start as what is written for a whole
document. -/
theorem head_join {path : List Text} (h : ∀ s ∈ path, s.Plain) (hne : path ≠ []) {x : CodePoint}
    (hx : x ≠ CodePoint.ofChar '(') (rest : Text) :
    (Text.join "." path ++ x :: rest).head? ≠ some (CodePoint.ofChar '(') := by
  obtain ⟨a, path, rfl⟩ := List.exists_cons_of_ne_nil hne
  have ha := h a List.mem_cons_self
  cases a with
  | nil =>
    cases path with
    | nil => simpa [join_singleton] using hx
    | cons b path =>
      simp only [join_cons_cons, List.nil_append, List.cons_append, List.head?_cons]
      decide
  | cons c a =>
    have hc := (ha c List.mem_cons_self).2.2
    cases path with
    | nil => simpa [join_singleton] using hc
    | cons b path => simpa [join_cons_cons] using hc

/-! ## Problems told -/

namespace Problem

/-- The message is told of the part at the place or of a part inside it. -/
def isToldWithin (place message : Text) : Bool :=
  (place ++ [CodePoint.ofChar ':']).isPrefixOf message ||
    (place ++ [CodePoint.ofChar '.']).isPrefixOf message

/-- A message about a part that is read alone, as it is told where the part stands at a place. -/
def retold (place message : Text) : Text :=
  if ("(root)" : Text).isPrefixOf message then place ++ message.drop ("(root)" : Text).length
  else place ++ CodePoint.ofChar '.' :: message

theorem message_eq (p : Problem) :
    p.message [] =
      p.place ++ CodePoint.ofChar ':' :: CodePoint.ofChar ' ' :: p.complaint.message := by
  rw [message, if_pos rfl, List.nil_append, List.append_assoc]
  rfl

variable {p : Problem} {place : List Text}

theorem place_of_ne_nil (h : p.path ≠ []) : p.place = Text.join "." p.path := by
  rw [Problem.place]
  split
  · next hnil => exact absurd hnil h
  · rfl

theorem isToldWithin_message (hplace : ∀ s ∈ place, s.Plain) (hne : place ≠ [])
    (hp : ∀ s ∈ p.path, s.Plain) :
    isToldWithin (Text.join "." place) (p.message []) = p.isWithin place := by
  rw [Bool.eq_iff_iff, isToldWithin, Bool.or_eq_true, List.isPrefixOf_iff_prefix,
    List.isPrefixOf_iff_prefix, isWithin_iff, message_eq]
  by_cases hroot : p.path = []
  · -- The message starts with a bracket, and no place does.
    have hword : p.place = "(root)" := by rw [Problem.place, hroot]
    have hhead : ∀ x, x ≠ CodePoint.ofChar '(' → ¬ Text.join "." place ++ [x] <+:
        p.place ++ CodePoint.ofChar ':' :: CodePoint.ofChar ' ' :: p.complaint.message := by
      intro x hx hyp
      obtain ⟨rest, hrest⟩ := hyp
      apply head_join hplace hne hx rest
      rw [List.append_cons, hrest, hword]
      rfl
    rw [hroot, List.prefix_nil]
    exact iff_of_false (fun hyp => hyp.elim (hhead _ (by decide)) (hhead _ (by decide))) hne
  · rw [place_of_ne_nil hroot]
    exact join_prefix_iff hplace hp hne hroot _

theorem message_under (hp : ∀ s ∈ p.path, s.Plain) (hne : place ≠ []) :
    (p.under place).message [] = retold (Text.join "." place) (p.message []) := by
  have hplace : (p.under place).path ≠ [] := by simp [under, hne]
  rw [message_eq, place_of_ne_nil hplace, retold, message_eq]
  by_cases hroot : p.path = []
  · have hword : p.place = "(root)" := by rw [Problem.place, hroot]
    rw [if_pos, hword, List.drop_left, under, hroot, List.append_nil]
    rw [List.isPrefixOf_iff_prefix, hword]
    exact List.prefix_append _ _
  · rw [if_neg, place_of_ne_nil hroot, under, join_append hne hroot, List.append_assoc,
      List.cons_append]
    intro hyp
    obtain ⟨rest, hrest⟩ := List.isPrefixOf_iff_prefix.mp hyp
    apply head_join hp hroot (x := CodePoint.ofChar ':') (by decide)
    rw [← place_of_ne_nil hroot, ← hrest]
    rfl

end Problem

namespace Check

theorem plain_locationPath (i j : Nat) : ∀ s ∈ locationPath i j, s.Plain := by
  simp only [locationPath, List.forall_mem_cons]
  exact ⟨.of_all rfl, plain_ofNat i, .of_all rfl, plain_ofNat j, by simp⟩

end Check

theorem join_locationPath (i j : Nat) :
    Text.join "." (Check.locationPath i j) = locationPlace i j := by
  rw [locationPlace]
  simp only [Check.locationPath, join_cons_cons, join_singleton, List.append_assoc]
  rfl

theorem sort_perm (problems : List Problem) : (Problem.sort problems).Perm problems :=
  List.mergeSort_perm problems _

theorem map_message_perm {document part : Json} {i j : Nat}
    (h : document.locationPart? i j = some part) :
    (((Problem.sort (document.problems Check.declaration)).map (Problem.message [])).filter
      (Problem.isToldWithin (locationPlace i j))).Perm
        (((Problem.sort (part.problems Check.location)).map (Problem.message [])).map
          (Problem.retold (locationPlace i j))) := by
  have hne : Check.locationPath i j ≠ [] := List.cons_ne_nil _ _
  have htold : ∀ p ∈ Problem.sort (document.problems Check.declaration),
      (Problem.isToldWithin (locationPlace i j) ∘ Problem.message []) p =
        Problem.isWithin (Check.locationPath i j) p := by
    intro p hp
    have hplain := Check.structural_declaration.plain document p ((sort_perm _).mem_iff.mp hp)
    rw [← join_locationPath]
    exact Problem.isToldWithin_message (Check.plain_locationPath i j) hne hplain
  have hretold : ∀ q ∈ part.problems Check.location,
      (Problem.message [] ∘ Problem.under (Check.locationPath i j)) q =
        (Problem.retold (locationPlace i j) ∘ Problem.message []) q := by
    intro q hq
    rw [← join_locationPath]
    exact Problem.message_under (Check.structural_location.plain part q hq) hne
  have hreaches : (document.problems Check.declaration).filter
      (Problem.isWithin (Check.locationPath i j)) = _ := Check.reaches_location h
  -- Sorting rearranges messages and does nothing else, so on both sides the problems may be taken
  -- in the order in which they were found.
  calc ((Problem.sort (document.problems Check.declaration)).map (Problem.message [])).filter
        (Problem.isToldWithin (locationPlace i j))
      = ((Problem.sort (document.problems Check.declaration)).filter
          (Problem.isWithin (Check.locationPath i j))).map (Problem.message []) := by
        rw [List.filter_map, List.filter_congr htold]
    List.Perm _ (((document.problems Check.declaration).filter
          (Problem.isWithin (Check.locationPath i j))).map (Problem.message [])) :=
        ((sort_perm _).filter _).map _
    _ = (part.problems Check.location).map
          (Problem.retold (locationPlace i j) ∘ Problem.message []) := by
        rw [hreaches, List.map_map, List.map_congr_left hretold]
    List.Perm _ ((Problem.sort (part.problems Check.location)).map
          (Problem.retold (locationPlace i j) ∘ Problem.message [])) :=
        ((sort_perm _).map _).symm
    _ = ((Problem.sort (part.problems Check.location)).map (Problem.message [])).map
          (Problem.retold (locationPlace i j)) := by
        rw [List.map_map]

theorem isTold_locationPart {document part : Json} {i j : Nat}
    (h : document.locationPart? i j = some part)
    (hdocument : ∀ p ∈ document.problems Check.declaration, p.complaint.isUntold = false) :
    ∀ q ∈ part.problems Check.location, q.complaint.isUntold = false := by
  intro q hq
  have hreaches := Check.reaches_location h
  have hmem : q.under (Check.locationPath i j) ∈ (document.problems Check.declaration).filter
      (Problem.isWithin (Check.locationPath i j)) := by
    rw [hreaches]
    exact List.mem_map_of_mem hq
  exact hdocument (q.under (Check.locationPath i j)) (List.mem_filter.mp hmem).1

/-- **Problems of a location in a declaration.** A document that can be written gets its messages.
Whatever else is wrong with a declaration that gets them, those about a location and the parts
inside it are, in some order, the messages that the location gets alone, each told where the
location stands. So a declaration without problems has no location with one, and each message about
a location alone is told in the declaration. -/
theorem location_messages {document part : Json} {i j : Nat}
    (h : document.locationPart? i j = some part) :
    (document.IsWritable →
      ∃ told, Problem.messages [] (document.problems Check.declaration) = some told) ∧
    ∀ told, Problem.messages [] (document.problems Check.declaration) = some told →
      ∃ alone, Problem.messages [] (part.problems Check.location) = some alone ∧
        (told.filter (Problem.isToldWithin (locationPlace i j))).Perm
          (alone.map (Problem.retold (locationPlace i j))) ∧
        (told = [] → alone = []) ∧
        ∀ message ∈ alone, Problem.retold (locationPlace i j) message ∈ told := by
  refine ⟨fun hwritable => ⟨_, Problem.messages_eq_some.mpr
    ⟨Check.structural_declaration.isTold hwritable, rfl⟩⟩, ?_⟩
  intro told htold
  obtain ⟨huntold, rfl⟩ := Problem.messages_eq_some.mp htold
  have hperm := map_message_perm h
  refine ⟨_, Problem.messages_eq_some.mpr ⟨isTold_locationPart h huntold, rfl⟩, hperm, ?_, ?_⟩
  · intro hnone
    rw [hnone, List.filter_nil] at hperm
    exact List.map_eq_nil_iff.mp hperm.nil_eq.symm
  · intro message hmessage
    have hin := hperm.mem_iff.mpr (List.mem_map_of_mem hmessage)
    exact (List.mem_filter.mp hin).1

/-- A location that names a source which is none and has no arguments. -/
def cookieLocation : Json := .obj [("selector", .str "cookie")]

/-- A credential without a kind, and behind it one whose keys are no list, with the location. -/
def faultsAround : Json := .obj [("credentials", .arr [
  .obj [("locations", .arr [])],
  .obj [("kind", .str "letter"), ("keys", .null), ("locations", .arr [cookieLocation])]])]

theorem location_messages_cookie :
    faultsAround.locationPart? 1 0 = some cookieLocation ∧
    ∃ told, Problem.messages [] (faultsAround.problems Check.declaration) = some told ∧
      (told.filter (Problem.isToldWithin "credentials.1.locations.0")).Perm
        ["credentials.1.locations.0: 'args' is a required property",
          ("credentials.1.locations.0.selector: 'cookie' is not one of " : Text) ++
            "['header', 'query_string', 'property']"] := by
  have hpart : faultsAround.locationPart? 1 0 = some cookieLocation := rfl
  obtain ⟨hall, heach⟩ := location_messages hpart
  obtain ⟨told, htold⟩ := hall rfl
  obtain ⟨alone, halone, hperm, -⟩ := heach told htold
  obtain ⟨-, rfl⟩ := Problem.messages_eq_some.mp halone
  have hsorted : ((Problem.sort (cookieLocation.problems Check.location)).map
      (Problem.message [])).Perm ((cookieLocation.problems Check.location).map
        (Problem.message [])) := (sort_perm _).map _
  refine ⟨hpart, told, htold, hperm.trans ((hsorted.map _).trans (.of_eq ?_))⟩
  decide +kernel

end RequestCredentials
