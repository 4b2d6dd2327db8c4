import RequestCredentials.Evaluation.Run
import RequestCredentials.Proofs.Declaration.Positions
import RequestCredentials.Proofs.Evaluation.Success
import RequestCredentials.Proofs.Search.Breakdown
import RequestCredentials.Proofs.Value.Trees
/-
  Paths and lookups

  A property is reached by a path into the tree, and what is captured there is
  unwrapped by operations. A lookup by key goes where a segment of the path
  leads in a mapping, and a lookup by position where the number of a segment
  leads in a list. So the end of a path can be given as lookups instead: what
  is captured further up is taken down to the same value.

  What is proved:
    1. `walk_cons_eq_ok` — a walk takes one step for each segment (`Tree.Step`);
    2. `Tree.Step.apply` — a lookup takes the same step on the value of the
       tree;
    3. `walk_lookups`, `walk_append` — whole walks, and walks in two parts;
    4. `property_lookups` — a property is what the lookups along its path find
       in the value of all properties, and the path can be cut anywhere.
-/

namespace RequestCredentials

/-- The lookups along a path: by key where it leads into a mapping, and by position where it leads
into a list. There are none from where the path leads nowhere. -/
def Tree.lookupsAlong : Tree → List Text → List Operation
  | .dict entries, segment :: path =>
    match Tree.entry? segment entries with
    | some tree => .lookup (.key segment) :: tree.lookupsAlong path
    | none => []
  | .list items, segment :: path =>
    match segmentPosition? segment with
    | .ok (some n) =>
      match items[n]? with
      | some tree => .lookup (.position (.int n)) :: tree.lookupsAlong path
      | none => []
    | _ => []
  | _, _ => []

/-! ## Steps -/

/-- The segment leads from the tree to the one below it, where the selector leads too. -/
inductive Tree.Step : Tree → Text → Selector → Tree → Prop
  | entry {entries : List (Text × Tree)} {segment : Text} {tree : Tree}
    (there : Tree.entry? segment entries = some tree) :
    Step (.dict entries) segment (.key segment) tree
  | item {items : List Tree} {segment : Text} {n : Nat} {tree : Tree}
    (place : segmentPosition? segment = .ok (some n)) (there : items[n]? = some tree) :
    Step (.list items) segment (.position (.int n)) tree

section
variable {tree next node : Tree} {segment : Text} {selector : Selector} {path : List Text}

theorem walk_nil_eq_ok : tree.walk [] = .ok (some node) ↔ tree = node := by
  simp [Tree.walk]

theorem walk_cons_eq_ok :
    tree.walk (segment :: path) = .ok (some node) ↔
      ∃ selector next, tree.Step segment selector next ∧ next.walk path = .ok (some node) := by
  constructor
  · intro h
    cases tree with
    | dict entries =>
      rw [Tree.walk] at h
      cases hentry : Tree.entry? segment entries with
      | none =>
        rw [hentry] at h
        cases h
      | some next =>
        rw [hentry] at h
        exact ⟨_, next, .entry hentry, h⟩
    | list items =>
      rw [Tree.walk, bind_eq_ok] at h
      obtain ⟨place, hplace, h⟩ := h
      cases place with
      | none => cases h
      | some n =>
        dsimp only at h
        cases hitem : items[n]? with
        | none =>
          rw [hitem] at h
          cases h
        | some next =>
          rw [hitem] at h
          exact ⟨_, next, .item hplace hitem, h⟩
    | _ =>
      rw [walk_leaf rfl] at h
      cases h
  · intro hyp
    obtain ⟨selector, next, hstep, h⟩ := hyp
    cases hstep with
    | entry there => rw [Tree.walk, there, ← h]
    | item place there =>
      rw [Tree.walk, bind_eq_ok]
      refine ⟨_, place, ?_⟩
      dsimp only
      rw [there, ← h]

theorem Tree.Step.lookupsAlong (h : tree.Step segment selector next) (path : List Text) :
    tree.lookupsAlong (segment :: path) = .lookup selector :: next.lookupsAlong path := by
  cases h with
  | entry there => rw [Tree.lookupsAlong, there]
  | item place there => simp only [Tree.lookupsAlong, place, there]

theorem Tree.Step.apply (h : tree.Step segment selector next) :
    (Operation.lookup selector).apply tree.asValue = .ok next.asValue := by
  rw [Operation.apply, settle_eq_ok]
  cases h with
  | @entry entries _ _ there =>
    show Value.lookupKey (.struct (Tree.asEntries entries)) segment = _
    rw [Value.lookupKey, Tree.entry_asEntries, there]
    rfl
  | @item items _ n _ place there =>
    apply naming_eq_ok.mpr
    rw [lookupPosition_int]
    show Except.ok (foundOr _ (Tree.asValues items)[n]?) = _
    rw [Tree.getElem?_asValues, there]
    rfl

theorem Tree.Step.holdsLongInteger (h : tree.Step segment selector next)
    (hshort : tree.holdsLongInteger = false) : next.holdsLongInteger = false := by
  cases h with
  | entry there => exact Tree.holdsLongInteger_entry hshort there
  | item place there => exact Tree.holdsLongInteger_item hshort there

end

/-! ## Walks -/

section
variable {tree node : Tree} {path : List Text}

/-- The lookups along a path that leads somewhere are one for each segment, and they lead from the
value of the tree to the value of what is there. -/
theorem walk_lookups (h : tree.walk path = .ok (some node)) :
    (tree.lookupsAlong path).length = path.length ∧
      run tree.asValue (tree.lookupsAlong path) = .ok node.asValue := by
  induction path generalizing tree with
  | nil =>
    obtain rfl := walk_nil_eq_ok.mp h
    cases tree <;> exact ⟨rfl, rfl⟩
  | cons segment path ih =>
    obtain ⟨selector, next, hstep, hrest⟩ := walk_cons_eq_ok.mp h
    obtain ⟨hlength, hrun⟩ := ih hrest
    rw [hstep.lookupsAlong path, run, hstep.apply]
    exact ⟨congrArg (· + 1) hlength, hrun⟩

theorem walk_holdsLongInteger (h : tree.walk path = .ok (some node))
    (hshort : tree.holdsLongInteger = false) : node.holdsLongInteger = false := by
  induction path generalizing tree with
  | nil =>
    obtain rfl := walk_nil_eq_ok.mp h
    exact hshort
  | cons segment path ih =>
    obtain ⟨selector, next, hstep, hrest⟩ := walk_cons_eq_ok.mp h
    exact ih hrest (hstep.holdsLongInteger hshort)

/-- A path that leads somewhere can be cut in two: its first part leads somewhere, and the second
part leads on from there. -/
theorem walk_append {near far : List Text} (h : tree.walk (near ++ far) = .ok (some node)) :
    ∃ mid, tree.walk near = .ok (some mid) ∧ mid.walk far = .ok (some node) ∧
      tree.lookupsAlong (near ++ far) = tree.lookupsAlong near ++ mid.lookupsAlong far := by
  induction near generalizing tree with
  | nil =>
    refine ⟨tree, walk_nil_eq_ok.mpr rfl, h, ?_⟩
    cases tree <;> rfl
  | cons segment near ih =>
    obtain ⟨selector, next, hstep, hrest⟩ := walk_cons_eq_ok.mp h
    obtain ⟨mid, hnear, hfar, hlookups⟩ := ih hrest
    refine ⟨mid, walk_cons_eq_ok.mpr ⟨selector, next, hstep, hnear⟩, hfar, ?_⟩
    rw [List.cons_append, hstep.lookupsAlong, hstep.lookupsAlong, hlookups, List.cons_append]

theorem ne_null_of_walk (h : tree.walk path = .ok (some node)) (hnode : node ≠ .null) :
    tree ≠ .null := by
  rintro rfl
  cases path with
  | nil =>
    exact hnode (walk_nil_eq_ok.mp h).symm
  | cons segment path =>
    rw [walk_leaf rfl] at h
    cases h

end

/-! ## Properties -/

section
variable {r : Request} {path : List Text} {node : Tree}

theorem property_eq_some :
    r.property? path = .ok (some node) ↔
      (Tree.dict r.properties).walk path = .ok (some node) ∧ node ≠ .null := by
  rw [Request.property?, bind_eq_ok]
  constructor
  · intro hyp
    obtain ⟨found, hwalk, h⟩ := hyp
    split at h
    · cases h
    · next hnull =>
      cases h
      exact ⟨hwalk, fun hnode => hnull (congrArg some hnode)⟩
  · intro hyp
    obtain ⟨hwalk, hnode⟩ := hyp
    refine ⟨some node, hwalk, ?_⟩
    split
    · next h => exact absurd (Option.some.inj h) hnode
    · rfl

theorem seed_property (h : r.property? path = .ok (some node))
    (hshort : node.holdsLongInteger = false) :
    r.seed? .property path = .ok (some node.asValue) := by
  rw [Request.seed?, bind_eq_ok]
  refine ⟨some node, h, ?_⟩
  show (Request.propertyValue node >>= fun v => pure (some v)) = _
  rw [Request.propertyValue, hshort]
  rfl

end

/-- **Segments of a path are lookups.** Let no integer among the properties be too long to be
written, and let a path lead to a property. Then there is one lookup for each segment of the path,
and together they find the value of that property in the value of all properties. The path can be
cut anywhere: what its first part captures is taken by the lookups of the second part to the seed
that the whole path captures, so whatever comes behind them has the same result. -/
theorem property_lookups (r : Request) (path : List Text) (node : Tree)
    (hshort : (Tree.dict r.properties).holdsLongInteger = false)
    (hfound : r.property? path = .ok (some node)) :
    let lookups := (Tree.dict r.properties).lookupsAlong path
    r.seed? .property path = .ok (some node.asValue) ∧
    lookups.length = path.length ∧
    run (Tree.dict r.properties).asValue lookups = .ok node.asValue ∧
    ∀ near far, path = near ++ far → ∃ seed, r.seed? .property near = .ok (some seed) ∧
      ∀ ops, run seed (lookups.drop near.length ++ ops) = run node.asValue ops := by
  obtain ⟨hwalk, hnode⟩ := property_eq_some.mp hfound
  obtain ⟨hlength, hrun⟩ := walk_lookups hwalk
  refine ⟨seed_property hfound (walk_holdsLongInteger hwalk hshort), hlength, hrun, ?_⟩
  intro near far hpath
  subst hpath
  obtain ⟨mid, hnear, hfar, hlookups⟩ := walk_append hwalk
  have hmid : r.property? near = .ok (some mid) :=
    property_eq_some.mpr ⟨hnear, ne_null_of_walk hfar hnode⟩
  refine ⟨mid.asValue, seed_property hmid (walk_holdsLongInteger hnear hshort), ?_⟩
  intro ops
  -- Behind the lookups along the first part stand those along the second.
  rw [hlookups, ← (walk_lookups hnear).1, List.drop_left, run_append, (walk_lookups hfar).2]

/-- A list of two audiences, the second one nested. -/
def audiences : Request :=
  ⟨[], [], [("jwt", .list [.null, .dict [("aud", .bytes [0x61]), ("n", .int 7)]]), ("p", .bool true)]⟩

/-- The path leads to the second item of the list, which is named by an Arabic digit, and to its
audience. Cut behind the first segment, it captures the list and looks up in it by position. -/
theorem property_lookups_audiences :
    (Tree.dict audiences.properties).holdsLongInteger = false ∧
      audiences.property? ["jwt", "١", "aud"] = .ok (some (.bytes [0x61])) ∧
      run (Tree.dict audiences.properties).asValue
        [.lookup (.key "jwt"), .lookup (.position (.int 1)), .lookup (.key "aud")] =
          .ok (.text (.bytes [0x61])) ∧
      ∃ seed, audiences.seed? .property ["jwt"] = .ok (some seed) ∧
        run seed [.lookup (.position (.int 1)), .lookup (.key "aud"), .decode .text] =
          .ok (.text (.bytes [0x61])) := by
  have hshort : (Tree.dict audiences.properties).holdsLongInteger = false := by decide +kernel
  have hfound : audiences.property? ["jwt", "١", "aud"] = .ok (some (.bytes [0x61])) := rfl
  obtain ⟨-, -, hrun, hcut⟩ := property_lookups audiences _ _ hshort hfound
  obtain ⟨seed, hseed, hops⟩ := hcut ["jwt"] ["١", "aud"] rfl
  exact ⟨hshort, hfound, hrun, seed, hseed, hops [.decode .text]⟩

end RequestCredentials
