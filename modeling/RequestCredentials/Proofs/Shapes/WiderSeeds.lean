import RequestCredentials.Proofs.Declaration.Accepted
import RequestCredentials.Proofs.Shapes.Soundness
/-
  Wider seeds

  One step of the analysis does not keep inclusion between sets of shapes: from
  no shape a lookup is thought to yield anything, from text only text, and a key
  that is not accepted is noticed only where nothing but text can come. Both are
  harmless as long as the analysis finds no problem. Then a set that is not
  empty never becomes empty, so that a set included in text alone is text alone,
  and what was found clean on the narrower set is clean on the wider one.

  What is proved:
    1. `Operation.report_widens`, `sequenceReport_widens`, `branchReports_widens`
       — what the analysis of one operation, a sequence and branches keeps;
    2. `acceptLocation_iff` — when a location that is declared alone is accepted;
    3. `acceptance_widens` — what is found clean on some shapes is clean on more;
       so an accepted location stays accepted when its seed is a property.
-/

namespace RequestCredentials

/-! ## Inclusion -/

namespace Shapes

/-- Every shape of the first set is one of the second. -/
def Included (s t : Shapes) : Prop := ∀ x, s.has x → t.has x

variable {s s' t t' : Shapes}

theorem included_any (s : Shapes) : s.Included .any := fun x _ => has_any x

theorem Included.union (h : s.Included t) (h' : s'.Included t') :
    (s.union s').Included (t.union t') := by
  intro x hx
  rw [has_union, Bool.or_eq_true] at hx ⊢
  exact hx.imp (h x) (h' x)

theorem ne_empty_iff : s ≠ .empty ↔ ∃ x, s.has x := by
  constructor
  · intro h
    by_contra hnone
    push Not at hnone
    have htext := hnone .text
    have hlist := hnone .list
    have hstruct := hnone .struct
    obtain ⟨text, list, struct⟩ := s
    simp_all [has, empty]
  · intro hyp he
    obtain ⟨x, hx⟩ := hyp
    exact not_has_empty x (he ▸ hx)

theorem Included.ne_empty (h : s.Included t) (hs : s ≠ .empty) : t ≠ .empty := by
  obtain ⟨x, hx⟩ := ne_empty_iff.mp hs
  exact ne_empty_iff.mpr ⟨x, h x hx⟩

theorem union_ne_empty (hs : s ≠ .empty) : s.union s' ≠ .empty := by
  obtain ⟨x, hx⟩ := ne_empty_iff.mp hs
  exact ne_empty_iff.mpr ⟨x, by rw [has_union, hx, Bool.true_or]⟩

theorem Included.eq_onlyText (h : s.Included .onlyText) (hs : s ≠ .empty) : s = .onlyText := by
  obtain ⟨x, hx⟩ := ne_empty_iff.mp hs
  obtain rfl := Shapes.eq_onlyText rfl (h x hx)
  have htext : s.text = true := hx
  have hlist : s.list = false := Bool.eq_false_iff.mpr fun hl => absurd (h .list hl) (by decide)
  have hstruct : s.struct = false :=
    Bool.eq_false_iff.mpr fun hl => absurd (h .struct hl) (by decide)
  obtain ⟨text, list, struct⟩ := s
  simp_all [onlyText]

end Shapes

/-! ## Single operations -/

/-- The second report has no problem, and something can come out of the first that can all come out
of the second. -/
structure ShapeReport.Widens (r r' : ShapeReport) : Prop where
  clean : r'.problems = []
  inhabited : r.shapes ≠ .empty
  included : r.shapes.Included r'.shapes

/-- The analysis goes on after the operation on both sets, and widely on the second. -/
def Operation.Widens (keys : List Text) (path : List PathStep) (s t : Shapes) (op : Operation) :
    Prop :=
  ∃ r r', op.report keys path s = (r, true) ∧ op.report keys path t = (r', true) ∧ r.Widens r'

section
variable {keys : List Text} {s t : Shapes}

theorem decode_widens (hst : s.Included t) (path : List PathStep) (kind : DecodeKind)
    (h : ((Operation.decode kind).report keys path s).1.problems = []) :
    (Operation.decode kind).Widens keys path s t := by
  have htext : s.text = true := by
    by_contra hno
    simp [Operation.report, hno] at h
  have htext' : t.text = true := hst .text htext
  refine ⟨⟨[], kind.yields⟩, ⟨[], kind.yields⟩, ?_, ?_, rfl, ?_, fun x hx => hx⟩
  · rw [Operation.report, if_pos htext]
  · rw [Operation.report, if_pos htext']
  · cases kind <;> decide

/-- A key that is not accepted is noticed on the narrower set if it is noticed on the wider one. -/
theorem missesKeys_of_included (hs : s ≠ .empty) (hst : s.Included t) {selector : Selector}
    (h : missesKeys keys t selector = true) :
    missesKeys keys s selector = true := by
  have ht : t = .onlyText := by cases selector <;> simp_all [missesKeys]
  have hsame : s = t := ht ▸ (ht ▸ hst).eq_onlyText hs
  rwa [hsame]

theorem lookup_widens (hs : s ≠ .empty) (hst : s.Included t) (path : List PathStep)
    (selector : Selector)
    (h : ((Operation.lookup selector).report keys path s).1.problems = []) :
    (Operation.lookup selector).Widens keys path s t := by
  have hm : ¬ missesKeys keys s selector = true := by
    intro hm
    simp [Operation.report, hm] at h
  have hm' : ¬ missesKeys keys t selector = true := fun hm' =>
    hm (missesKeys_of_included hs hst hm')
  refine ⟨_, _, by rw [Operation.report, if_neg hm], by rw [Operation.report, if_neg hm'], rfl,
    ?_, ?_⟩
  · split <;> decide
  · -- Text alone on the wider side is text alone on the narrower one.
    by_cases ht : t = .onlyText
    · have hsame : s = t := ht ▸ (ht ▸ hst).eq_onlyText hs
      rw [hsame]
      exact fun x hx => hx
    · simp only [if_neg ht]
      exact Shapes.included_any _

end

/-! ## Sequences and branches -/

mutual

theorem Operation.report_widens (keys : List Text) : ∀ (op : Operation) (path : List PathStep)
    {s t : Shapes}, s ≠ .empty → s.Included t → (op.report keys path s).1.problems = [] →
    op.Widens keys path s t
  | .decode kind, path, _, _, _, hst, h => decode_widens hst path kind h
  | .lookup selector, path, _, _, hs, hst, h => lookup_widens hs hst path selector h
  | .alternation [], path, s, t, hs, hst, h => by cases h
  | .alternation (branch :: rest), path, s, t, hs, hst, h => by
    obtain ⟨hclean, hincluded, hinhabited⟩ :=
      branchReports_widens keys (branch :: rest) path 0 hs hst h
    exact ⟨_, _, rfl, rfl, hclean, hinhabited (List.cons_ne_nil _ _), hincluded⟩

theorem sequenceReport_widens (keys : List Text) : ∀ (ops : List Operation)
    (path : List PathStep) (index : Nat) {s t : Shapes}, s ≠ .empty → s.Included t →
    (sequenceReport keys path s index ops).problems = [] →
    (sequenceReport keys path s index ops).Widens (sequenceReport keys path t index ops)
  | [], path, index, s, t, hs, hst, h => ⟨rfl, hs, hst⟩
  | op :: rest, path, index, s, t, hs, hst, h => by
    have hop : (op.report keys (path ++ [.index index]) s).1.problems = [] := by
      rw [sequenceReport] at h
      split at h
      · next hr => rw [hr]; exact (List.append_eq_nil_iff.mp h).1
      · next hr => rw [hr]; exact h
    obtain ⟨r, r', hr, hr', hwide⟩ := op.report_widens keys _ hs hst hop
    simp only [sequenceReport, hr, hr'] at h ⊢
    -- What comes out of the operation is not empty, so the rest starts like the whole.
    have hrest := sequenceReport_widens keys rest path (index + 1) hwide.inhabited hwide.included
      (List.append_eq_nil_iff.mp h).2
    exact ⟨by rw [hwide.clean, hrest.clean]; rfl, hrest.inhabited, hrest.included⟩

/-- Branches that are all found clean are found clean on a wider set, and something can come out of
them if there are any. -/
theorem branchReports_widens (keys : List Text) : ∀ (branches : List (List Operation))
    (path : List PathStep) (number : Nat) {s t : Shapes}, s ≠ .empty → s.Included t →
    (branchReports keys path s number branches).problems = [] →
    (branchReports keys path t number branches).problems = [] ∧
      (branchReports keys path s number branches).shapes.Included
        (branchReports keys path t number branches).shapes ∧
      (branches ≠ [] → (branchReports keys path s number branches).shapes ≠ .empty)
  | [], path, number, s, t, hs, hst, h => ⟨rfl, fun x hx => hx, fun hne => absurd rfl hne⟩
  | branch :: rest, path, number, s, t, hs, hst, h => by
    rw [branchReports] at h ⊢
    rw [branchReports]
    obtain ⟨hfirst, hlater⟩ := List.append_eq_nil_iff.mp h
    have hbranch := sequenceReport_widens keys branch _ 0 hs hst hfirst
    obtain ⟨hclean, hincluded, -⟩ :=
      branchReports_widens keys rest path (number + 1) hs hst hlater
    exact ⟨List.append_eq_nil_iff.mpr ⟨hbranch.clean, hclean⟩, hbranch.included.union hincluded,
      fun _ => Shapes.union_ne_empty hbranch.inhabited⟩

end

/-! ## Locations that are captured at properties -/

/-- The location with a property as its source, and all else as it is. -/
def Location.atProperty (l : Location) : Location := { l with source := .property }

theorem Source.yields_ne_empty (source : Source) : source.yields ≠ .empty := by
  cases source <;> decide

theorem problems_atProperty {keys : List Text} {l : Location}
    (h : (shapeReport keys l.source.yields l.ops).problems = []) :
    (shapeReport keys l.atProperty.source.yields l.atProperty.ops).problems = [] :=
  (sequenceReport_widens keys l.ops [] 0 l.source.yields_ne_empty (Shapes.included_any _) h).clean

/-- A location that is declared alone is accepted when the document has no problems and declares
it, and none of its operations is hopeless. -/
theorem acceptLocation_iff {document : Json} {l : Location} :
    acceptLocation document = .ok l ↔
      document.problems Check.location = [] ∧ DeclaresLocation document l ∧
        (shapeReport [] l.source.yields l.ops).problems = [] := by
  constructor
  · intro h
    obtain ⟨read, hread, hcheck⟩ := bind_eq_ok.mp h
    have hproblems : document.problems Check.location = [] := by
      by_contra hne
      rw [readChecked_eq_error hne] at hread
      cases hread
    obtain ⟨declared, hdeclares⟩ := exists_declaresLocation hproblems
    rw [readChecked_eq_ok hproblems hdeclares.read] at hread
    cases hread
    rw [unlessHopeless] at hcheck
    split at hcheck
    · next hnil =>
      cases hcheck
      exact ⟨hproblems, hdeclares, Location.hopeless_eq_nil.mp hnil⟩
    · cases hcheck
  · intro hyp
    obtain ⟨hproblems, hdeclares, hhopeful⟩ := hyp
    exact acceptLocation_eq_ok hproblems hdeclares hhopeful

namespace Json

/-- The members with another part under a name that they have. -/
def replaceIn (name : Text) (part : Json) (members : List (Text × Json)) : List (Text × Json) :=
  members.map fun m => if m.1 = name then (name, part) else m

/-- The document with another part under a name that it has. -/
def replaceMember (document : Json) (name : Text) (part : Json) : Json :=
  match document with
  | .obj members => .obj (replaceIn name part members)
  | _ => document

theorem names_replaceIn (name : Text) (part : Json) (members : List (Text × Json)) :
    (replaceIn name part members).map (·.1) = members.map (·.1) := by
  rw [replaceIn, List.map_map]
  apply List.map_congr_left
  intro m _
  by_cases hm : m.1 = name
  · simp [hm]
  · simp [hm]

theorem member_replaceIn (name : Text) (part : Json) (members : List (Text × Json)) (other : Text) :
    member? other (replaceIn name part members) =
      if other = name then (member? name members).map fun _ => part
      else member? other members := by
  induction members with
  | nil => by_cases h : other = name <;> simp [replaceIn, member?, h]
  | cons m members ih =>
    simp only [member?, replaceIn, List.map_cons, List.find?_cons] at ih ⊢
    by_cases hm : m.1 = name
    · by_cases ho : other = name
      · simp [hm, ho]
      · simpa [hm, ho, Ne.symm ho] using ih
    · by_cases ho : other = name
      · simpa [hm, ho] using ih
      · by_cases hmo : m.1 = other
        · simp [ho, hmo]
        · simpa [hm, ho, hmo] using ih

theorem get_replaceMember (document : Json) (name : Text) (part : Json) (other : Text) :
    (document.replaceMember name part).get? other =
      if other = name then (document.get? name).map fun _ => part else document.get? other := by
  cases document with
  | obj members => exact member_replaceIn name part members other
  | _ => by_cases h : other = name <;> simp [replaceMember, get?, h]

/-- The document with a property as the source of what it declares. -/
def atProperty (document : Json) : Json := document.replaceMember "selector" (.str "property")

end Json

theorem DeclaresLocation.atProperty {document : Json} {l : Location}
    (h : DeclaresLocation document l) : DeclaresLocation document.atProperty l.atProperty := by
  refine ⟨?_, ?_, ?_, h.declarable⟩
  · rw [Json.atProperty, Json.get_replaceMember, if_pos rfl, h.source]
    rfl
  · rw [Json.atProperty, Json.get_replaceMember, if_neg (by decide)]
    exact h.args
  · rw [Json.getOrEmpty, Json.atProperty, Json.get_replaceMember, if_neg (by decide)]
    exact h.ops

theorem problems_atProperty_document {document : Json}
    (h : document.problems Check.location = []) :
    document.atProperty.problems Check.location = [] := by
  obtain ⟨members, rfl, hnames, hrequired, hknown⟩ :=
    (Check.object_eq_nil Check.uniform_locationMembers).mp h
  rw [Json.problems, Check.location, Check.object_eq_nil Check.uniform_locationMembers]
  refine ⟨_, rfl, ?_, ?_, ?_⟩
  · rwa [Check.unknownNames, Json.names_replaceIn]
  · intro name hname
    obtain ⟨member, hmember⟩ := hrequired name hname
    rw [Json.atProperty, Json.get_replaceMember]
    split
    · next hsame => exact ⟨_, by rw [← hsame, hmember]; rfl⟩
    · exact ⟨member, hmember⟩
  · simp only [List.forall_mem_cons] at hknown ⊢
    obtain ⟨-, hargs, hops, hnone⟩ := hknown
    refine ⟨?_, ?_, ?_, by simp⟩
    · intro member hmember
      rw [Json.atProperty, Json.get_replaceMember, if_pos rfl] at hmember
      obtain ⟨_, -, rfl⟩ := Option.map_eq_some_iff.mp hmember
      rfl
    · intro member hmember
      rw [Json.atProperty, Json.get_replaceMember, if_neg (by decide)] at hmember
      exact hargs member hmember
    · intro member hmember
      rw [Json.atProperty, Json.get_replaceMember, if_neg (by decide)] at hmember
      exact hops member hmember

/-- The second credential is the first with some of its locations captured at properties. -/
structure Credential.Rebased (c c' : Credential) : Prop where
  kind : c'.kind = c.kind
  keys : c'.keys = c.keys
  locations : List.Forall₂ (fun l l' => l' = l ∨ l' = l.atProperty) c.locations c'.locations

theorem forall_mem_of_forall₂ {α β : Type} {R : α → β → Prop} {P : α → Prop} {Q : β → Prop}
    {as : List α} {bs : List β} (h : List.Forall₂ R as bs) (hpass : ∀ a b, R a b → P a → Q b)
    (hall : ∀ a ∈ as, P a) : ∀ b ∈ bs, Q b := by
  induction h with
  | nil => simp
  | cons hab _ ih =>
    rw [List.forall_mem_cons] at hall ⊢
    exact ⟨hpass _ _ hab hall.1, ih hall.2⟩

theorem AllHopeful.rebased {credentials credentials' : List Credential} (h : AllHopeful credentials)
    (hrebased : List.Forall₂ Credential.Rebased credentials credentials') :
    AllHopeful credentials' := by
  refine forall_mem_of_forall₂ hrebased ?_ h
  intro c c' hc hclean
  rw [hc.keys]
  refine forall_mem_of_forall₂ hc.locations ?_ hclean
  intro l l' hl hl'
  rcases hl with rfl | rfl
  · exact hl'
  · exact problems_atProperty hl'

/-- **Acceptance grows with the seeds.** Operations that are found clean on some shapes, at least
one, are found clean on all sets of shapes that hold them; something can come out of both analyses,
and all that can come out of the first can come out of the second. So an accepted location is
accepted unchanged when it is captured at a property instead, alone or among accepted
credentials. -/
theorem acceptance_widens :
    (∀ (keys : List Text) (ops : List Operation) (s t : Shapes), s ≠ .empty → s.Included t →
      (shapeReport keys s ops).problems = [] →
      (shapeReport keys t ops).problems = [] ∧ (shapeReport keys s ops).shapes ≠ .empty ∧
        (shapeReport keys t ops).shapes ≠ .empty ∧
        (shapeReport keys s ops).shapes.Included (shapeReport keys t ops).shapes) ∧
    (∀ (document : Json) (l : Location), acceptLocation document = .ok l →
      acceptLocation document.atProperty = .ok l.atProperty) ∧
    ∀ (name name' : Text) (document document' : Json) (credentials credentials' : List Credential),
      acceptCredentials name document = .ok credentials →
      List.Forall₂ Credential.Rebased credentials credentials' →
      document'.problems Check.declaration = [] →
      DeclaresCredentials document' credentials' →
      acceptCredentials name' document' = .ok credentials' := by
  refine ⟨?_, ?_, ?_⟩
  · intro keys ops s t hs hst h
    have hwide := sequenceReport_widens keys ops [] 0 hs hst h
    exact ⟨hwide.clean, hwide.inhabited, hwide.included.ne_empty hwide.inhabited, hwide.included⟩
  · intro document l h
    obtain ⟨hproblems, hdeclares, hhopeful⟩ := acceptLocation_iff.mp h
    exact acceptLocation_iff.mpr ⟨problems_atProperty_document hproblems, hdeclares.atProperty,
      problems_atProperty hhopeful⟩
  · intro name name' document document' credentials credentials' h hrebased hproblems hdeclares
    obtain ⟨-, -, hhopeful⟩ := acceptCredentials_eq_ok.mp h
    exact acceptCredentials_eq_ok.mpr ⟨hproblems, hdeclares, hhopeful.rebased hrebased⟩

/-- A token as it is or encoded, and then its audience, which is a text or the first of a list. -/
def audienceOfAnyToken : List Operation :=
  [.alternation [[.decode .base64url, .decode .json], [.decode .json]], .lookup (.key "aud"),
    .alternation [[.lookup (.position (.int 0))], [.decode .text]]]

/-- A location that takes the audience from a token in a header. -/
def headerAudience : Json := .obj [("selector", .str "header"), ("args", .arr [.str "token"]),
  ("ops", Json.ofOperations audienceOfAnyToken)]

/-- The credential of an audience in a header. -/
def audienceIn (source : Source) : Credential :=
  ⟨"audience", ["a"], [⟨source, ["token"], [.lookup (.key "a")]⟩]⟩

/-- A declaration of it. -/
def declaresAudience (source : Text) : Json := .obj [("credentials", .arr [
  .obj [("kind", .str "audience"), ("keys", .arr [.str "a"]), ("locations", .arr [
    .obj [("selector", .str source), ("args", .arr [.str "token"]),
      ("ops", .arr [.obj [("lookup", .obj [("key", .str "a")])]])]])]])]

theorem acceptance_widens_audience :
    (shapeReport ["a"] .onlyText audienceOfAnyToken).problems = [] ∧
    (shapeReport ["a"] .any audienceOfAnyToken).problems = [] ∧
    acceptLocation headerAudience = .ok ⟨.header, ["token"], audienceOfAnyToken⟩ ∧
    acceptLocation headerAudience.atProperty = .ok ⟨.property, ["token"], audienceOfAnyToken⟩ ∧
    acceptCredentials [] (declaresAudience "query_string") = .ok [audienceIn .query] ∧
    acceptCredentials [] (declaresAudience "property") = .ok [audienceIn .property] := by
  obtain ⟨hshapes, hlocation, hcredentials⟩ := acceptance_widens
  have hclean : (shapeReport ["a"] .onlyText audienceOfAnyToken).problems = [] := rfl
  obtain ⟨hwide, -⟩ := hshapes ["a"] audienceOfAnyToken .onlyText .any (by decide)
    (Shapes.included_any _) hclean
  have hdeclarable : AllDeclarable audienceOfAnyToken := by
    simp [audienceOfAnyToken, AllDeclarable, AllDeclarableIn, Operation.Declarable,
      Selector.Declarable, Index.Declarable]
  have halone : acceptLocation headerAudience = .ok ⟨.header, ["token"], audienceOfAnyToken⟩ :=
    acceptLocation_iff.mpr ⟨List.isEmpty_iff.mp (by decide +kernel), ⟨rfl, rfl, rfl, hdeclarable⟩,
      rfl⟩
  have hdeclares : ∀ source : Source, DeclaresCredentials
      (declaresAudience (Text.ofString source.name)) [audienceIn source] := fun source =>
    ⟨_, rfl, .cons ⟨rfl, rfl, _, rfl, .cons ⟨rfl, rfl, rfl, trivial, trivial⟩ .nil⟩ .nil⟩
  have hquery : acceptCredentials [] (declaresAudience "query_string") = .ok [audienceIn .query] :=
    acceptCredentials_eq_ok.mpr ⟨List.isEmpty_iff.mp (by decide +kernel), hdeclares .query, by
      simp only [AllHopeful, audienceIn, List.forall_mem_singleton]
      rfl⟩
  have hrebased : (audienceIn .query).Rebased (audienceIn .property) :=
    ⟨rfl, rfl, .cons (.inr rfl) .nil⟩
  exact ⟨hclean, hwide, halone, hlocation _ _ halone, hquery,
    hcredentials [] [] _ _ _ _ hquery (.cons hrebased .nil)
      (List.isEmpty_iff.mp (by decide +kernel)) (hdeclares .property)⟩

end RequestCredentials
