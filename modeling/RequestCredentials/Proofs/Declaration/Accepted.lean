import RequestCredentials.Declaration.Acceptance
import RequestCredentials.Proofs.Declaration.Levels
import RequestCredentials.Proofs.Declaration.Schema
import Mathlib.Data.List.Enum
/-
  Accepted declarations

  What a document declares is told by its members alone: a location has the
  source, the arguments and the operations that are written in it, and without
  a member for operations it has none; a credential has the kind and the keys
  written in it and one location for each item of its locations, in order
  (`DeclaresLocation`, `DeclaresCredential`, `DeclaresCredentials`). Where a
  part of a document stands makes no difference to whether it has problems.

  What is proved:
    1. `DeclaresCredentials.read` — what a document declares is what it is read
       as, so it declares one thing at most;
    2. `exists_declaresCredentials` — a document without problems declares
       something;
    3. `errors_isSome` — what a document that can be written is refused for can
       be told;
    4. `acceptCredentials_agrees` — a document is accepted exactly when it has
       no problem and no operation of any location can never succeed; what is
       accepted is what the document declares, and a refusal that can be told
       lists all problems of the one kind or of the other.
-/

namespace RequestCredentials

/-! ## What a document declares -/

/-- The part holds the source, the arguments and the operations of the location. -/
structure DeclaresLocation (part : Json) (l : Location) : Prop where
  source : part.get? "selector" = some (.str (Text.ofString l.source.name))
  args : part.get? "args" = some (.arr (l.args.map Json.str))
  ops : part.getOrEmpty "ops" = Json.ofOperations l.ops
  declarable : AllDeclarable l.ops

/-- The part holds the kind and the keys of the credential, and its locations in order. -/
structure DeclaresCredential (part : Json) (c : Credential) : Prop where
  kind : part.get? "kind" = some (.str c.kind)
  keys : part.getOrEmpty "keys" = .arr (c.keys.map Json.str)
  locations : ∃ items, part.get? "locations" = some (.arr items) ∧
    List.Forall₂ DeclaresLocation items c.locations

/-- The document holds the credentials in order. -/
def DeclaresCredentials (document : Json) (credentials : List Credential) : Prop :=
  ∃ items, document.get? "credentials" = some (.arr items) ∧
    List.Forall₂ DeclaresCredential items credentials

namespace Json

theorem getOrEmpty_of_get {name : Text} {part member : Json} (h : part.get? name = some member) :
    part.getOrEmpty name = member := by
  rw [getOrEmpty, h, Option.getD_some]

theorem texts_str (texts : List Text) : (Json.arr (texts.map Json.str)).texts = texts := by
  rw [Json.texts, Json.items, List.map_map]
  exact List.map_id' texts

end Json

theorem Source.ofName_name (source : Source) :
    Source.ofName? (Text.ofString source.name) = some source := by
  cases source <;> rfl

/-- The grammar names the sources that there are. -/
theorem mem_sourceNames {s : Text} :
    s ∈ sourceNames ↔ ∃ source : Source, Text.ofString source.name = s := by
  have hnames : sourceNames = Source.all.map fun source => Text.ofString source.name := rfl
  have hall : ∀ source, source ∈ Source.all := by
    intro source
    cases source <;> decide
  simp [hnames, hall]

theorem toSource_name (source : Source) :
    (Json.str (Text.ofString source.name)).toSource = .ok source := by
  rw [Json.toSource, Source.ofName_name]

theorem DeclaresLocation.read {part : Json} {l : Location} (h : DeclaresLocation part l) :
    part.toLocation = .ok l := by
  rw [Json.toLocation, Json.getOrEmpty_of_get h.source, Json.getOrEmpty_of_get h.args, h.ops,
    toSource_name, Json.toOperations_ofOperations h.declarable, Json.texts_str]
  rfl

theorem DeclaresCredential.read {part : Json} {c : Credential} (h : DeclaresCredential part c) :
    part.toCredential = .ok c := by
  obtain ⟨items, hitems, hall⟩ := h.locations
  have hlocations : items.mapM Json.toLocation = .ok c.locations :=
    mapM_eq_ok.mpr (hall.imp fun _ _ hlocation => hlocation.read)
  rw [Json.toCredential, Json.getOrEmpty_of_get hitems, Json.getOrEmpty_of_get h.kind, h.keys,
    Json.texts_str, Json.items, hlocations]
  rfl

theorem DeclaresCredentials.read {document : Json} {credentials : List Credential}
    (h : DeclaresCredentials document credentials) : document.toCredentials = .ok credentials := by
  obtain ⟨items, hitems, hall⟩ := h
  rw [Json.toCredentials, Json.getOrEmpty_of_get hitems]
  exact mapM_eq_ok.mpr (hall.imp fun _ _ hcredential => hcredential.read)

/-! ## Problems of a part -/

namespace Check

/-- Whether the check finds something does not depend on where the part stands. -/
def Uniform (check : Check) : Prop := ∀ path part, check path part = [] ↔ part.problems check = []

theorem uniform_operations : Uniform operations := by
  intro path part
  rw [Json.problems, operations_eq_nil, operations_eq_nil]

theorem uniform_string (least : Bool) : Uniform (string least) := by
  intro path part
  cases part with
  | str s => by_cases h : least = true ∧ s = [] <;> simp [Json.problems, string, h]
  | _ => simp [Json.problems, string]

theorem uniform_oneOf (options : List Text) : Uniform (oneOf options) := by
  intro path part
  cases part with
  | str s => simp [Json.problems, oneOf]
  | _ => simp [Json.problems, oneOf]

/-- An array has no problem when it is long enough and its items have none. -/
theorem Uniform.array_eq_nil {check : Check} (h : check.Uniform) {least : Bool}
    {path : List Text} {part : Json} :
    array least check path part = [] ↔
      ∃ items, part = .arr items ∧ (least = true → items ≠ []) ∧
        ∀ item ∈ items, item.problems check = [] := by
  cases part with
  | arr items =>
    simp only [array, List.append_eq_nil_iff, each_eq_nil h path items, Json.arr.injEq,
      exists_eq_left']
    simp
  | _ => simp [array]

theorem Uniform.array {check : Check} (h : check.Uniform) (least : Bool) :
    Uniform (array least check) := by
  intro path part
  rw [Json.problems, h.array_eq_nil, h.array_eq_nil]

/-- An object has no problem when its required members are there, all its members are known, and
the members that are there have none. -/
theorem object_eq_nil {required : List Text} {known : List (Text × Check)}
    (h : ∀ entry ∈ known, Uniform entry.2) {path : List Text} {part : Json} :
    object required known path part = [] ↔
      ∃ members, part = .obj members ∧ unknownNames (known.map (·.1)) members = [] ∧
        (∀ name ∈ required, ∃ member, part.get? name = some member) ∧
        ∀ entry ∈ known, ∀ member, part.get? entry.1 = some member →
          member.problems entry.2 = [] := by
  cases part with
  | obj members =>
    have hrequired : (required.filter fun name => (Json.member? name members).isNone) = [] ↔
        ∀ name ∈ required, ∃ member, (Json.obj members).get? name = some member := by
      simp [List.filter_eq_nil_iff, Json.get?, ← Option.isSome_iff_exists,
        Option.isSome_iff_ne_none]
    rw [object, List.append_eq_nil_iff, List.append_eq_nil_iff, List.map_eq_nil_iff, hrequired,
      List.flatMap_eq_nil_iff]
    constructor
    · intro hyp
      obtain ⟨⟨hmembers, hunknown⟩, hknown⟩ := hyp
      refine ⟨members, rfl, by_contra fun hne => by simp [hne] at hunknown, hmembers, ?_⟩
      intro entry hentry member hmember
      have hnil := hknown entry hentry
      rw [Json.get?] at hmember
      simp only [hmember] at hnil
      exact (h entry hentry _ member).mp hnil
    · intro hyp
      obtain ⟨_, hobj, hunknown, hmembers, hknown⟩ := hyp
      cases hobj
      refine ⟨⟨hmembers, if_pos hunknown⟩, ?_⟩
      intro entry hentry
      cases hmember : Json.member? entry.1 members with
      | none => simp only [hmember]
      | some member =>
        simp only [hmember]
        exact (h entry hentry _ member).mpr (hknown entry hentry member hmember)
  | _ => simp [object]

theorem uniform_object {required : List Text} {known : List (Text × Check)}
    (h : ∀ entry ∈ known, Uniform entry.2) : Uniform (object required known) := by
  intro path part
  rw [Json.problems, object_eq_nil h, object_eq_nil h]

theorem uniform_locationMembers : ∀ entry ∈
    [(("selector" : Text), oneOf sourceNames),
      ("args", array true (string true)), ("ops", operations)], Uniform entry.2 := by
  intro entry hentry
  simp only [List.mem_cons, List.not_mem_nil, or_false] at hentry
  rcases hentry with rfl | rfl | rfl
  · exact uniform_oneOf _
  · exact (uniform_string true).array true
  · exact uniform_operations

theorem uniform_location : Uniform location := uniform_object uniform_locationMembers

theorem uniform_credentialMembers : ∀ entry ∈
    [(("kind" : Text), string true), ("keys", array false (string false)),
      ("locations", array true location)], Uniform entry.2 := by
  intro entry hentry
  simp only [List.mem_cons, List.not_mem_nil, or_false] at hentry
  rcases hentry with rfl | rfl | rfl
  · exact uniform_string true
  · exact (uniform_string false).array false
  · exact uniform_location.array true

theorem uniform_credential : Uniform credential := uniform_object uniform_credentialMembers

theorem uniform_declarationMembers : ∀ entry ∈
    [(("credentials" : Text), array false credential)], Uniform entry.2 := by
  intro entry hentry
  obtain rfl := List.mem_singleton.mp hentry
  exact uniform_credential.array false

/-! ## Parts without problems -/

theorem exists_str {least : Bool} {part : Json} (h : part.problems (string least) = []) :
    ∃ s, part = .str s := by
  cases part with
  | str s => exact ⟨s, rfl⟩
  | _ => cases h

theorem exists_source {part : Json} (h : part.problems (oneOf sourceNames) = []) :
    ∃ source : Source, part = .str (Text.ofString source.name) := by
  cases part with
  | str s =>
    have hs : s ∈ sourceNames := by simpa [Json.problems, oneOf] using h
    obtain ⟨source, rfl⟩ := mem_sourceNames.mp hs
    exact ⟨source, rfl⟩
  | _ => cases h

theorem exists_texts {least least' : Bool} {part : Json}
    (h : part.problems (array least (string least')) = []) :
    ∃ texts : List Text, part = .arr (texts.map Json.str) := by
  obtain ⟨items, rfl, -, hitems⟩ := (uniform_string least').array_eq_nil.mp h
  have hstrings : ∀ item ∈ items, Json.str item.text = item := by
    intro item hitem
    have hnil := hitems item hitem
    cases item with
    | str s => rfl
    | _ => cases hnil
  have hback : items.map (Json.str ∘ Json.text) = items :=
    (List.map_congr_left hstrings).trans (List.map_id' items)
  exact ⟨items.map Json.text, by rw [List.map_map, hback]⟩

end Check

/-! ## Documents without problems -/

theorem exists_forall₂ {α β : Type} {R : α → β → Prop} {as : List α}
    (h : ∀ a ∈ as, ∃ b, R a b) : ∃ bs, List.Forall₂ R as bs := by
  induction as with
  | nil => exact ⟨[], .nil⟩
  | cons a as ih =>
    obtain ⟨⟨b, hb⟩, hrest⟩ := List.forall_mem_cons.mp h
    obtain ⟨bs, hbs⟩ := ih hrest
    exact ⟨b :: bs, .cons hb hbs⟩

/-- A member without problems, if it is there, or the empty array in its place. -/
theorem getOrEmpty_cases {name : Text} {part : Json} {check : Check}
    (h : ∀ member, part.get? name = some member → member.problems check = []) :
    (part.getOrEmpty name).problems check = [] ∨ part.getOrEmpty name = .arr [] := by
  rw [Json.getOrEmpty]
  cases hget : part.get? name with
  | none => exact .inr rfl
  | some member => exact .inl (h member hget)

theorem exists_declaresLocation {part : Json} (h : part.problems Check.location = []) :
    ∃ l, DeclaresLocation part l := by
  obtain ⟨members, rfl, -, hrequired, hknown⟩ :=
    (Check.object_eq_nil Check.uniform_locationMembers).mp h
  simp only [List.forall_mem_cons] at hrequired hknown
  obtain ⟨⟨selector, hselector⟩, ⟨args, hargs⟩, -⟩ := hrequired
  obtain ⟨hsource, htexts, hsequence, -⟩ := hknown
  obtain ⟨source, rfl⟩ := Check.exists_source (hsource selector hselector)
  obtain ⟨texts, rfl⟩ := Check.exists_texts (htexts args hargs)
  have hops : ∃ ops, AllDeclarable ops ∧
      Json.ofOperations ops = (Json.obj members).getOrEmpty "ops" := by
    rcases getOrEmpty_cases hsequence with hnil | hempty
    · exact Json.isOperations_iff.mp (Check.operations_eq_nil.mp hnil)
    · exact ⟨[], trivial, hempty.symm⟩
  obtain ⟨ops, hdeclarable, hops⟩ := hops
  exact ⟨⟨source, texts, ops⟩, hselector, hargs, hops.symm, hdeclarable⟩

theorem exists_locations {part : Json} (h : part.problems Check.credential = []) :
    ∃ items, part.get? "locations" = some (.arr items) ∧
      ∀ item ∈ items, item.problems Check.location = [] := by
  obtain ⟨members, rfl, -, hrequired, hknown⟩ :=
    (Check.object_eq_nil Check.uniform_credentialMembers).mp h
  simp only [List.forall_mem_cons] at hrequired hknown
  obtain ⟨-, ⟨locations, hlocations⟩, -⟩ := hrequired
  obtain ⟨-, -, hparts, -⟩ := hknown
  obtain ⟨items, rfl, -, hitems⟩ :=
    Check.uniform_location.array_eq_nil.mp (hparts locations hlocations)
  exact ⟨items, hlocations, hitems⟩

theorem exists_declaresCredential {part : Json} (h : part.problems Check.credential = []) :
    ∃ c, DeclaresCredential part c := by
  obtain ⟨items, hlocations, hitems⟩ := exists_locations h
  obtain ⟨ls, hls⟩ := exists_forall₂ fun item hitem => exists_declaresLocation (hitems item hitem)
  obtain ⟨members, rfl, -, hrequired, hknown⟩ :=
    (Check.object_eq_nil Check.uniform_credentialMembers).mp h
  simp only [List.forall_mem_cons] at hrequired hknown
  obtain ⟨⟨kind, hkind⟩, -⟩ := hrequired
  obtain ⟨hname, htexts, -⟩ := hknown
  obtain ⟨kind, rfl⟩ := Check.exists_str (hname kind hkind)
  have hkeys : ∃ keys : List Text,
      (Json.obj members).getOrEmpty "keys" = .arr (keys.map Json.str) := by
    rcases getOrEmpty_cases htexts with hnil | hempty
    · exact Check.exists_texts hnil
    · exact ⟨[], hempty⟩
  obtain ⟨keys, hkeys⟩ := hkeys
  exact ⟨⟨kind, keys, ls⟩, hkind, hkeys, items, hlocations, hls⟩

theorem exists_credentials {document : Json} (h : document.problems Check.declaration = []) :
    ∃ items, document.get? "credentials" = some (.arr items) ∧
      ∀ item ∈ items, item.problems Check.credential = [] := by
  obtain ⟨members, rfl, -, hrequired, hknown⟩ :=
    (Check.object_eq_nil Check.uniform_declarationMembers).mp h
  simp only [List.forall_mem_cons] at hrequired hknown
  obtain ⟨⟨credentials, hcredentials⟩, -⟩ := hrequired
  obtain ⟨hparts, -⟩ := hknown
  obtain ⟨items, rfl, -, hitems⟩ :=
    Check.uniform_credential.array_eq_nil.mp (hparts credentials hcredentials)
  exact ⟨items, hcredentials, hitems⟩

theorem exists_declaresCredentials {document : Json}
    (h : document.problems Check.declaration = []) :
    ∃ credentials, DeclaresCredentials document credentials := by
  obtain ⟨items, hcredentials, hitems⟩ := exists_credentials h
  obtain ⟨cs, hcs⟩ := exists_forall₂ fun item hitem => exists_declaresCredential (hitems item hitem)
  exact ⟨cs, items, hcredentials, hcs⟩

/-- A document declares one thing at most. -/
theorem DeclaresCredentials.unique {document : Json} {credentials credentials' : List Credential}
    (h : DeclaresCredentials document credentials)
    (h' : DeclaresCredentials document credentials') : credentials = credentials' := by
  have hread := h.read
  rw [h'.read, Except.ok.injEq] at hread
  exact hread.symm

/-! ## Places -/

/-- The part that declares the location number `j` of the credential number `i`. -/
def Json.locationPart? (document : Json) (i j : Nat) : Option Json := do
  let credential ← (document.getOrEmpty "credentials").items[i]?
  (credential.getOrEmpty "locations").items[j]?

theorem forall₂_getElem? {α β : Type} {R : α → β → Prop} {as : List α} {bs : List β}
    (h : List.Forall₂ R as bs) (i : Nat) : Option.Rel R as[i]? bs[i]? := by
  induction h generalizing i with
  | nil => exact .none
  | cons hab _ ih =>
    cases i with
    | zero => exact .some hab
    | succ i => exact ih i

theorem DeclaresCredentials.location {document : Json} {credentials : List Credential}
    (h : DeclaresCredentials document credentials) {i : Nat} {c : Credential}
    (hc : credentials[i]? = some c) (j : Nat) :
    Option.Rel DeclaresLocation (document.locationPart? i j) c.locations[j]? := by
  obtain ⟨items, hitems, hall⟩ := h
  have hcredential := forall₂_getElem? hall i
  rw [hc] at hcredential
  cases hitem : items[i]? with
  | none =>
    rw [hitem] at hcredential
    cases hcredential
  | some item =>
    rw [hitem] at hcredential
    cases hcredential with
    | some hdeclares =>
      obtain ⟨parts, hparts, hlocations⟩ := hdeclares.locations
      have hplace : document.locationPart? i j = parts[j]? := by
        rw [Json.locationPart?, Json.getOrEmpty_of_get hitems, Json.items, hitem]
        rw [Option.bind_eq_bind, Option.bind_some, Json.getOrEmpty_of_get hparts, Json.items]
      rw [hplace]
      exact forall₂_getElem? hlocations j

theorem problems_locationPart {document part : Json} {i j : Nat}
    (h : document.problems Check.declaration = [])
    (hpart : document.locationPart? i j = some part) : part.problems Check.location = [] := by
  obtain ⟨items, hitems, hcredentials⟩ := exists_credentials h
  rw [Json.locationPart?, Json.getOrEmpty_of_get hitems, Json.items, Option.bind_eq_bind,
    Option.bind_eq_some_iff] at hpart
  obtain ⟨item, hitem, hpart⟩ := hpart
  obtain ⟨parts, hparts, hlocations⟩ :=
    exists_locations (hcredentials item (List.mem_of_getElem? hitem))
  rw [Json.getOrEmpty_of_get hparts, Json.items] at hpart
  exact hlocations part (List.mem_of_getElem? hpart)

theorem DeclaresLocation.args_ne_nil {part : Json} {l : Location} (h : DeclaresLocation part l)
    (hproblems : part.problems Check.location = []) : l.args ≠ [] := by
  obtain ⟨members, rfl, -, -, hknown⟩ :=
    (Check.object_eq_nil Check.uniform_locationMembers).mp hproblems
  simp only [List.forall_mem_cons] at hknown
  obtain ⟨items, hitems, hleast, -⟩ :=
    (Check.uniform_string true).array_eq_nil.mp (hknown.2.1 _ h.args)
  obtain rfl := Json.arr.inj hitems
  intro hargs
  apply hleast rfl
  rw [hargs, List.map_nil]

/-- The locations of a document without problems all name something. -/
theorem DeclaresCredentials.args_ne_nil {document : Json} {credentials : List Credential}
    (h : DeclaresCredentials document credentials)
    (hproblems : document.problems Check.declaration = []) :
    ∀ c ∈ credentials, ∀ l ∈ c.locations, l.args ≠ [] := by
  intro c hc l hl
  obtain ⟨i, hi⟩ := List.getElem?_of_mem hc
  obtain ⟨j, hj⟩ := List.getElem?_of_mem hl
  have hplace := h.location hi j
  rw [hj] at hplace
  generalize hpart : document.locationPart? i j = part at hplace
  cases hplace with
  | some hlocation => exact hlocation.args_ne_nil (problems_locationPart hproblems hpart)

/-! ## Acceptance -/

section
variable {α : Type} {subject : Subject} {name : Text} {check : Check}
  {read : Json → Except ReadingFault α} {document : Json}

theorem readChecked_eq_ok {a : α} (h : document.problems check = [])
    (hread : read document = .ok a) :
    readChecked subject name check read document = .ok a := by
  rw [readChecked, h]
  simp only [hread, mapError_ok]

theorem readChecked_eq_error (h : document.problems check ≠ []) :
    readChecked subject name check read document =
      .error (.ungrammatical subject name (document.problems check)) := by
  rw [readChecked]
  split
  · next hnil => exact absurd hnil h
  · rfl

end

/-- What is wrong with each location, told with its place, in the order of the locations. -/
def shapeErrors (credentials : List Credential) : List Text :=
  credentials.zipIdx.flatMap fun (c, i) => c.locations.zipIdx.flatMap fun (l, j) =>
    (shapeReport c.keys l.source.yields l.ops).problems.map
      (ShapeProblem.message (locationPlace i j ++ ".ops"))

/-- No operation of any location can never succeed, where the credential's keys are accepted. -/
def AllHopeful (credentials : List Credential) : Prop :=
  ∀ c ∈ credentials, ∀ l ∈ c.locations, (shapeReport c.keys l.source.yields l.ops).problems = []

theorem forall_mem_zipIdx_fst {α : Type} {P : α → Prop} {as : List α} :
    (∀ x ∈ as.zipIdx, P x.1) ↔ ∀ a ∈ as, P a := by
  rw [List.forall_mem_zipIdx']
  exact List.forall_mem_iff_getElem.symm

theorem Location.hopeless_eq_nil {place : Text} {keys : List Text} {l : Location} :
    l.hopeless place keys = [] ↔ (shapeReport keys l.source.yields l.ops).problems = [] :=
  List.map_eq_nil_iff

/-- Nothing is wrong with any location exactly when no operation of any is hopeless. -/
theorem hopeless_eq_nil {credentials : List Credential} :
    (credentials.zipIdx.flatMap fun (c, i) => c.hopeless i) = [] ↔ AllHopeful credentials := by
  simp only [List.flatMap_eq_nil_iff, Credential.hopeless, Location.hopeless_eq_nil]
  rw [forall_mem_zipIdx_fst (P := fun c : Credential => ∀ x ∈ c.locations.zipIdx,
    (shapeReport c.keys x.1.source.yields x.1.ops).problems = [])]
  apply forall₂_congr
  intro c _
  exact forall_mem_zipIdx_fst
    (P := fun l : Location => (shapeReport c.keys l.source.yields l.ops).problems = [])

theorem hopeless_messages (credentials : List Credential) :
    (credentials.zipIdx.flatMap fun (c, i) => c.hopeless i).map
      (fun (place, p) => p.message place) = shapeErrors credentials := by
  simp only [shapeErrors, List.map_flatMap, Credential.hopeless, Location.hopeless, hopelessAt,
    List.map_map]
  rfl

theorem shapeErrors_eq_nil {credentials : List Credential} :
    shapeErrors credentials = [] ↔ AllHopeful credentials := by
  rw [← hopeless_messages, List.map_eq_nil_iff, hopeless_eq_nil]

theorem ne_nil_of_messages {name : Text} {problems : List Problem} {told : List Text}
    (h : Problem.messages name problems = some told) (hne : problems ≠ []) : told ≠ [] := by
  rw [(Problem.messages_eq_some.mp h).2, Problem.sort, Ne, List.map_eq_nil_iff,
    ← List.length_eq_zero_iff, List.length_mergeSort, List.length_eq_zero_iff]
  exact hne

theorem errors_ungrammatical {subject : Subject} {name : Text} {problems : List Problem}
    (hne : problems ≠ []) :
    (Refusal.ungrammatical subject name problems).errors = Problem.messages name problems := by
  rw [Refusal.errors, Refusal.details]
  cases h : Problem.messages name problems with
  | none => rfl
  | some told => rw [Option.map_some, if_neg (ne_nil_of_messages h hne)]

section
variable {name : Text} {document : Json} {credentials : List Credential}

theorem acceptCredentials_of_problems (h : document.problems Check.declaration ≠ []) :
    acceptCredentials name document =
      .error (.ungrammatical .credentials name (document.problems Check.declaration)) := by
  rw [acceptCredentials, readChecked_eq_error h]
  rfl

theorem acceptCredentials_of_declares (h : document.problems Check.declaration = [])
    (hdeclares : DeclaresCredentials document credentials) :
    acceptCredentials name document = unlessHopeless .credentials
      (credentials.zipIdx.flatMap fun (c, i) => c.hopeless i) credentials := by
  rw [acceptCredentials, readChecked_eq_ok h hdeclares.read]
  rfl

theorem acceptCredentials_eq_ok :
    acceptCredentials name document = .ok credentials ↔
      document.problems Check.declaration = [] ∧ DeclaresCredentials document credentials ∧
        AllHopeful credentials := by
  by_cases h : document.problems Check.declaration = []
  · obtain ⟨declared, hdeclared⟩ := exists_declaresCredentials h
    rw [acceptCredentials_of_declares h hdeclared, unlessHopeless]
    constructor
    · intro hok
      split at hok
      · next hnil =>
        cases hok
        exact ⟨h, hdeclared, hopeless_eq_nil.mp hnil⟩
      · cases hok
    · intro hyp
      obtain ⟨-, hdeclares, hhopeful⟩ := hyp
      obtain rfl := hdeclares.unique hdeclared
      rw [if_pos (hopeless_eq_nil.mpr hhopeful)]
  · rw [acceptCredentials_of_problems h]
    simp [h]

/-- A refusal lists the problems of the document, or what is wrong with what it declares. -/
theorem acceptCredentials_eq_error {refusal : Refusal}
    (h : acceptCredentials name document = .error refusal) :
    refusal.headline = "Invalid credentials config" ∧
      ((document.problems Check.declaration ≠ [] ∧
          refusal.errors = Problem.messages name (document.problems Check.declaration)) ∨
        (document.problems Check.declaration = [] ∧ ∃ credentials,
          DeclaresCredentials document credentials ∧ ¬ AllHopeful credentials ∧
            refusal.errors = some (shapeErrors credentials))) := by
  by_cases hproblems : document.problems Check.declaration = []
  · obtain ⟨declared, hdeclared⟩ := exists_declaresCredentials hproblems
    rw [acceptCredentials_of_declares hproblems hdeclared, unlessHopeless] at h
    split at h
    · cases h
    · next hhopeless =>
      cases h
      have hnot : ¬ AllHopeful declared := fun hall => hhopeless (hopeless_eq_nil.mpr hall)
      refine ⟨rfl, .inr ⟨hproblems, declared, hdeclared, hnot, ?_⟩⟩
      rw [Refusal.errors, Refusal.details, hopeless_messages, Option.map_some, if_neg]
      exact fun hnil => hnot (shapeErrors_eq_nil.mp hnil)
  · rw [acceptCredentials_of_problems hproblems] at h
    cases h
    exact ⟨rfl, .inl ⟨hproblems, errors_ungrammatical hproblems⟩⟩

/-- A refusal of a document that can be written can be told. -/
theorem errors_isSome (hdocument : document.IsWritable) {refusal : Refusal}
    (h : acceptCredentials name document = .error refusal) :
    ∃ told, refusal.errors = some told := by
  rcases (acceptCredentials_eq_error h).2 with ⟨-, herrors⟩ | ⟨-, credentials, -, -, herrors⟩
  · exact ⟨_, herrors.trans (Problem.messages_eq_some.mpr
      ⟨Check.structural_declaration.isTold hdocument, rfl⟩)⟩
  · exact ⟨_, herrors⟩

theorem acceptLocation_eq_ok {part : Json} {l : Location} (h : part.problems Check.location = [])
    (hdeclares : DeclaresLocation part l)
    (hhopeful : (shapeReport [] l.source.yields l.ops).problems = []) :
    acceptLocation part = .ok l := by
  rw [acceptLocation, readChecked_eq_ok h hdeclares.read]
  exact if_pos (Location.hopeless_eq_nil.mpr hhopeful)

/-- A location of an accepted credential without keys is accepted alone, at every place. -/
theorem acceptLocation_of_accepted (h : acceptCredentials name document = .ok credentials)
    {i : Nat} {c : Credential} (hc : credentials[i]? = some c) (hkeys : c.keys = []) (j : Nat) :
    (document.locationPart? i j).map acceptLocation = c.locations[j]?.map Except.ok := by
  obtain ⟨hproblems, hdeclares, hhopeful⟩ := acceptCredentials_eq_ok.mp h
  have hplace := hdeclares.location hc j
  cases hpart : document.locationPart? i j with
  | none =>
    rw [hpart] at hplace
    generalize c.locations[j]? = l at hplace
    cases hplace
    rfl
  | some part =>
    rw [hpart] at hplace
    cases hl : c.locations[j]? with
    | none =>
      rw [hl] at hplace
      cases hplace
    | some l =>
      rw [hl] at hplace
      cases hplace with
      | some hlocation =>
        have hclean := hhopeful c (List.mem_of_getElem? hc) l (List.mem_of_getElem? hl)
        rw [hkeys] at hclean
        rw [Option.map_some, Option.map_some,
          acceptLocation_eq_ok (problems_locationPart hproblems hpart) hlocation hclean]

end

/-- **Acceptance loses and misplaces nothing.** A document is accepted exactly when it has no
problem and no operation of any of its locations can never succeed; a document without problems
declares one list of credentials, and that is what is accepted. A location of a credential without
keys is what is accepted for it alone. A refusal carries the problems of the document, or else what
is wrong with all locations in order; it can be told if the document can be written. -/
theorem acceptCredentials_agrees (name : Text) (document : Json) :
    (∀ credentials, acceptCredentials name document = .ok credentials ↔
      document.problems Check.declaration = [] ∧ DeclaresCredentials document credentials ∧
        AllHopeful credentials) ∧
    (document.problems Check.declaration = [] →
      ∃! credentials, DeclaresCredentials document credentials) ∧
    (∀ credentials, acceptCredentials name document = .ok credentials →
      ∀ (i : Nat) (c : Credential), credentials[i]? = some c → c.keys = [] →
        ∀ j, (document.locationPart? i j).map acceptLocation = c.locations[j]?.map Except.ok) ∧
    ∀ refusal, acceptCredentials name document = .error refusal →
      refusal.headline = "Invalid credentials config" ∧
      ((document.problems Check.declaration ≠ [] ∧
          refusal.errors = Problem.messages name (document.problems Check.declaration)) ∨
        (document.problems Check.declaration = [] ∧ ∃ credentials,
          DeclaresCredentials document credentials ∧ ¬ AllHopeful credentials ∧
            refusal.errors = some (shapeErrors credentials))) ∧
      (document.IsWritable → ∃ told, refusal.errors = some told) := by
  refine ⟨fun credentials => acceptCredentials_eq_ok, ?_, ?_, ?_⟩
  · intro h
    obtain ⟨credentials, hdeclares⟩ := exists_declaresCredentials h
    exact ⟨credentials, hdeclares, fun _ hother => hother.unique hdeclares⟩
  · intro credentials h i c hc hkeys j
    exact acceptLocation_of_accepted h hc hkeys j
  · intro refusal h
    obtain ⟨hheadline, herrors⟩ := acceptCredentials_eq_error h
    exact ⟨hheadline, herrors, fun hdocument => errors_isSome hdocument h⟩

/-- A letter under a key, and anything at a property, its members in another order. -/
def twoKinds : Json := .obj [("credentials", .arr [
  .obj [("kind", .str "letter"), ("keys", .arr [.str "a"]), ("locations", .arr [
    .obj [("selector", .str "header"), ("args", .arr [.str "k"]),
      ("ops", .arr [.obj [("lookup", .obj [("key", .str "a")])]])]])],
  .obj [("locations", .arr [.obj [("args", .arr [.str "p"]), ("selector", .str "property")]]),
    ("kind", .str "any")]])]

/-- A key that is not accepted, and a decoding that no text reaches. -/
def twoFaults : Json := .obj [("credentials", .arr [
  .obj [("kind", .str "letter"), ("keys", .arr [.str "a"]), ("locations", .arr [
    .obj [("selector", .str "header"), ("args", .arr [.str "k"]),
      ("ops", .arr [.obj [("lookup", .obj [("key", .str "b")])]])],
    .obj [("selector", .str "header"), ("args", .arr [.str "k"]),
      ("ops", .arr [.obj [("decode", .str "pairs")], .obj [("decode", .str "text")]])]])]])]

/-- What `twoKinds` declares. -/
def twoKindsDeclared : List Credential :=
  [⟨"letter", ["a"], [⟨.header, ["k"], [.lookup (.key "a")]⟩]⟩,
    ⟨"any", [], [⟨.property, ["p"], []⟩]⟩]

/-- What `twoFaults` declares. -/
def twoFaultsDeclared : List Credential :=
  [⟨"letter", ["a"], [⟨.header, ["k"], [.lookup (.key "b")]⟩,
    ⟨.header, ["k"], [.decode .pairs, .decode .text]⟩]⟩]

theorem acceptCredentials_agrees_two :
    acceptCredentials [] twoKinds = .ok twoKindsDeclared ∧
    (twoKinds.locationPart? 1 0).map acceptLocation = some (.ok ⟨.property, ["p"], []⟩) ∧
    ∃ refusal, acceptCredentials [] twoFaults = .error refusal ∧ refusal.errors = some
      [("credentials.0.locations.0.ops.0: lookup key 'b' on text can never match " : Text) ++
          "the declared keys ['a']",
        "credentials.0.locations.1.ops.1: decode text can only receive struct, never text"] := by
  have hkinds : DeclaresCredentials twoKinds twoKindsDeclared :=
    ⟨_, rfl, .cons ⟨rfl, rfl, _, rfl, .cons ⟨rfl, rfl, rfl, trivial, trivial⟩ .nil⟩
      (.cons ⟨rfl, rfl, _, rfl, .cons ⟨rfl, rfl, rfl, trivial⟩ .nil⟩ .nil)⟩
  have hfaults : DeclaresCredentials twoFaults twoFaultsDeclared :=
    ⟨_, rfl, .cons ⟨rfl, rfl, _, rfl, .cons ⟨rfl, rfl, rfl, trivial, trivial⟩
      (.cons ⟨rfl, rfl, rfl, trivial, trivial, trivial⟩ .nil)⟩ .nil⟩
  have hhopeful : AllHopeful twoKindsDeclared := by
    simp only [AllHopeful, twoKindsDeclared, List.forall_mem_cons]
    exact ⟨⟨rfl, by simp⟩, ⟨rfl, by simp⟩, by simp⟩
  obtain ⟨hok, -, hplaces, -⟩ := acceptCredentials_agrees [] twoKinds
  have haccept := (hok _).mpr ⟨List.isEmpty_iff.mp (by decide +kernel), hkinds, hhopeful⟩
  refine ⟨haccept, hplaces _ haccept 1 _ rfl rfl 0, ?_⟩
  obtain ⟨hok, -, -, hrefused⟩ := acceptCredentials_agrees [] twoFaults
  have herrors : shapeErrors twoFaultsDeclared ≠ [] := by decide +kernel
  cases hresult : acceptCredentials [] twoFaults with
  | ok credentials =>
    obtain ⟨-, hdeclares, hall⟩ := (hok credentials).mp hresult
    rw [hdeclares.unique hfaults] at hall
    exact absurd (shapeErrors_eq_nil.mpr hall) herrors
  | error refusal =>
    refine ⟨refusal, rfl, ?_⟩
    have hnone : (twoFaults.problems Check.declaration).isEmpty := by decide +kernel
    rcases (hrefused refusal hresult).2.1 with ⟨hproblems, -⟩ | ⟨-, credentials, hdeclares, -, htold⟩
    · exact absurd (List.isEmpty_iff.mp hnone) hproblems
    · rw [htold, hdeclares.unique hfaults, Option.some.injEq]
      decide +kernel

end RequestCredentials
