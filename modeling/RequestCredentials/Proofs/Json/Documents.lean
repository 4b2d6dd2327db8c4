import RequestCredentials.Evaluation.Decoding
import RequestCredentials.Request.Basic
import RequestCredentials.Proofs.Encoding.Ascii
import RequestCredentials.Proofs.Json.ReadBack
/-
  Decoding keeps the whole document

  Every form of a document is ASCII, so its bytes are taken for UTF-8 and read
  back as the form, and the form is read back as the document. The value of the
  document keeps its members in order, repeated names included. Without repeated
  names it is also the value of the plain tree of mappings and lists that the
  document holds.

  What is proved:
    1. `SpelledPart.ascii` — forms are ASCII;
    2. `propertyValue_asTree` — the value of the plain tree;
    3. `decode_json_document` — a document is decoded from any of its forms.
-/

namespace RequestCredentials

namespace Json

/-! ## Forms are ASCII -/

theorem HexDigit.isAscii {n : Nat} {c : CodePoint} (h : HexDigit n c) : c.isAscii = true := by
  have hlower : Text.Ascii "0123456789abcdef" := .of_all (by decide)
  have hupper : Text.Ascii "0123456789ABCDEF" := .of_all (by decide)
  rcases h with h | h
  · exact hlower c (List.mem_of_getElem? h)
  · exact hupper c (List.mem_of_getElem? h)

section
variable {c : CodePoint} {s t : Text}

theorem UnitForm.ascii (h : UnitForm c t) : t.Ascii := by
  cases h with
  | digits hx hy hz hw =>
    exact .cons hx.isAscii (.cons hy.isAscii (.cons hz.isAscii (.cons hw.isAscii (.of_all rfl))))

theorem PointForm.ascii (h : PointForm c t) : t.Ascii := by
  cases h with
  | literal hrange =>
    have hc : c.isAscii = true := by
      rw [CodePoint.isAscii, Bool.and_eq_true, decide_eq_true_eq, decide_eq_true_eq]
      omega
    exact .cons hc (.of_all rfl)
  | letter h =>
    have hletters : letterEscapes.all (·.1.isAscii) = true := by decide
    exact .cons rfl (.cons (List.all_eq_true.mp hletters _ h) (.of_all rfl))
  | unit h => exact .cons rfl (.cons rfl h.ascii)
  | pair _ _ h h' => exact .cons rfl (.cons rfl (h.ascii.append (.cons rfl (.cons rfl h'.ascii))))

theorem TextForm.ascii (h : TextForm s t) : t.Ascii := by
  induction h with
  | nil => exact .of_all rfl
  | cons hc _ ih => exact hc.ascii.append ih

theorem Blank.ascii (h : Blank t) : t.Ascii := by
  have hblanks : Text.Ascii " \t\n\r" := .of_all (by decide)
  exact fun c hc => hblanks c (h c hc)

theorem NameForm.ascii (h : NameForm s t) : t.Ascii := by
  cases h with
  | mk hbefore hname hbetween =>
    exact hbefore.ascii.append (.cons rfl (hname.ascii.append
      (.cons rfl (hbetween.ascii.append (.of_all rfl)))))

end

theorem ascii_ofInt (n : Int) : Text.Ascii (Text.ofInt n) := by
  have hdigits : ∀ m, Text.Ascii (Text.ofNat m) := by
    intro m c hc
    have hdigit := Text.isDigit_of_mem_ofNat hc
    simp only [CodePoint.isDigit, CodePoint.isAscii, Bool.and_eq_true, decide_eq_true_eq]
      at hdigit ⊢
    omega
  cases n with
  | ofNat n => exact hdigits n
  | negSucc n => exact .cons rfl (hdigits (n + 1))

mutual

theorem Spelled.ascii : ∀ {v : Json} {t : Text}, Spelled v t → t.Ascii
  | _, _, .null => .of_all (by decide)
  | _, _, .true => .of_all (by decide)
  | _, _, .false => .of_all (by decide)
  | _, _, .int n => ascii_ofInt n
  | _, _, .str h => .cons rfl (h.ascii.append (.of_all rfl))
  | _, _, .emptyArray h => .cons rfl (h.ascii.append (.of_all rfl))
  | _, _, .array h => .cons rfl h.ascii
  | _, _, .emptyObject h => .cons rfl (h.ascii.append (.of_all rfl))
  | _, _, .object h => .cons rfl h.ascii

theorem SpelledPart.ascii : ∀ {v : Json} {t : Text}, SpelledPart v t → t.Ascii
  | _, _, .mk hbefore h hafter => hbefore.ascii.append (h.ascii.append hafter.ascii)

theorem SpelledItems.ascii : ∀ {items : List Json} {t : Text}, SpelledItems items t → t.Ascii
  | _, _, .last h => h.ascii.append (.of_all rfl)
  | _, _, .more h hrest => h.ascii.append (.cons rfl hrest.ascii)

theorem SpelledMembers.ascii : ∀ {members : List (Text × Json)} {t : Text},
    SpelledMembers members t → t.Ascii
  | _, _, .last hname h => hname.ascii.append (h.ascii.append (.of_all rfl))
  | _, _, .more hname h hrest => hname.ascii.append (h.ascii.append (.cons rfl hrest.ascii))

end

/-! ## Plain trees -/

mutual

/-- The plain tree that a document holds: arrays become lists and objects mappings, in which a
repeated name stands for its last member. -/
def asTree : Json → Tree
  | .null => .null
  | .bool b => .bool b
  | .int n => .int n
  | .float x => .float x
  | .str s => .text s
  | .arr items => .list (asTrees items)
  | .obj members => .dict (addTrees [] members)

def asTrees : List Json → List Tree
  | [] => []
  | item :: rest => item.asTree :: asTrees rest

/-- The members added one by one to the entries before them. -/
def addTrees (before : List (Text × Tree)) : List (Text × Json) → List (Text × Tree)
  | [] => before
  | (name, value) :: rest => addTrees (Tree.setEntry name value.asTree before) rest

end

mutual

/-- No object holds two members of one name. -/
def NoRepeats : Json → Prop
  | .arr items => NoneRepeats items
  | .obj members => (members.map (·.1)).Nodup ∧ NoMemberRepeats members
  | _ => True

def NoneRepeats : List Json → Prop
  | [] => True
  | item :: rest => item.NoRepeats ∧ NoneRepeats rest

def NoMemberRepeats : List (Text × Json) → Prop
  | [] => True
  | (_, value) :: rest => value.NoRepeats ∧ NoMemberRepeats rest

end

theorem setEntry_of_not_mem {name : Text} {tree : Tree} {entries : List (Text × Tree)}
    (h : name ∉ entries.map (·.1)) :
    Tree.setEntry name tree entries = entries ++ [(name, tree)] := by
  induction entries with
  | nil => rfl
  | cons entry entries ih =>
    rw [List.map_cons, List.mem_cons, not_or] at h
    rw [Tree.setEntry, if_neg (Ne.symm h.1), ih h.2, List.cons_append]

theorem asEntries_append (entries entries' : List (Text × Tree)) :
    Tree.asEntries (entries ++ entries') = Tree.asEntries entries ++ Tree.asEntries entries' := by
  induction entries with
  | nil => rfl
  | cons entry entries ih =>
    obtain ⟨name, tree⟩ := entry
    rw [List.cons_append, Tree.asEntries, Tree.asEntries, ih, List.cons_append]

theorem anyLongIntegerIn_append (entries entries' : List (Text × Tree)) :
    Tree.anyLongIntegerIn (entries ++ entries') =
      (Tree.anyLongIntegerIn entries || Tree.anyLongIntegerIn entries') := by
  induction entries with
  | nil => rfl
  | cons entry entries ih =>
    obtain ⟨name, tree⟩ := entry
    rw [List.cons_append, Tree.anyLongIntegerIn, Tree.anyLongIntegerIn, ih, Bool.or_assoc]

mutual

/-- The plain tree has the value of the document. -/
theorem asTree_spec : ∀ {v : Json}, v.Writable → v.NoRepeats →
    v.asTree.asValue = v.asValue ∧ v.asTree.holdsLongInteger = false
  | .null, _, _ => ⟨rfl, rfl⟩
  | .bool _, _, _ => ⟨rfl, rfl⟩
  | .int _, h, _ => ⟨rfl, h⟩
  | .float _, h, _ => h.elim
  | .str _, _, _ => ⟨rfl, rfl⟩
  | .arr items, h, hitems => by
    obtain ⟨hvalues, hlong⟩ : Tree.asValues (asTrees items) = asValues items ∧ _ :=
      asTrees_spec h hitems
    exact ⟨congrArg Value.list hvalues, hlong⟩
  | .obj members, h, hmembers => by
    obtain ⟨hentries, hlong⟩ : Tree.asEntries (addTrees [] members) = asEntries members ∧ _ :=
      addTrees_spec h hmembers.2 hmembers.1 rfl
    exact ⟨congrArg Value.struct hentries, hlong⟩

theorem asTrees_spec : ∀ {items : List Json}, AllWritable items → NoneRepeats items →
    Tree.asValues (asTrees items) = asValues items ∧ Tree.anyLongInteger (asTrees items) = false
  | [], _, _ => ⟨rfl, rfl⟩
  | item :: items, h, hitems => by
    obtain ⟨hvalue, hitem⟩ := asTree_spec h.1 hitems.1
    obtain ⟨hvalues, hrest⟩ := asTrees_spec h.2 hitems.2
    rw [asTrees, Tree.asValues, Tree.anyLongInteger, asValues, hvalue, hitem, hvalues, hrest]
    exact ⟨rfl, rfl⟩

/-- Members of new names are added behind the entries that are there. -/
theorem addTrees_spec : ∀ {members : List (Text × Json)} {before : List (Text × Tree)},
    MembersWritable members → NoMemberRepeats members →
    (before.map (·.1) ++ members.map (·.1)).Nodup → Tree.anyLongIntegerIn before = false →
    Tree.asEntries (addTrees before members) = Tree.asEntries before ++ asEntries members ∧
      Tree.anyLongIntegerIn (addTrees before members) = false
  | [], before, _, _, _, hlong => ⟨(List.append_nil _).symm, hlong⟩
  | (name, value) :: members, before, h, hmembers, hnames, hlong => by
    obtain ⟨hvalue, hitem⟩ := asTree_spec h.2.1 hmembers.1
    have hnew : name ∉ before.map (·.1) := fun hmem =>
      (List.nodup_append.mp hnames).2.2 name hmem name List.mem_cons_self rfl
    have hnames' : ((before ++ [(name, value.asTree)]).map (·.1) ++ members.map (·.1)).Nodup := by
      simpa using hnames
    have hlong' : Tree.anyLongIntegerIn (before ++ [(name, value.asTree)]) = false := by
      simp only [anyLongIntegerIn_append, Tree.anyLongIntegerIn, hlong, hitem, Bool.or_false]
    obtain ⟨hentries, hrest⟩ := addTrees_spec h.2.2 hmembers.2 hnames' hlong'
    -- An entry of a new name is added at the end.
    rw [addTrees, setEntry_of_not_mem hnew]
    refine ⟨?_, hrest⟩
    rw [hentries, asEntries_append, Tree.asEntries, Tree.asEntries, asEntries, hvalue,
      List.append_assoc, List.singleton_append]

end

/-- Without repeated names a document has the value of its plain tree. -/
theorem propertyValue_asTree {v : Json} (hv : v.Writable) (hnames : v.NoRepeats) :
    Request.propertyValue v.asTree = .ok v.asValue := by
  obtain ⟨hvalue, hlong⟩ := asTree_spec hv hnames
  rw [Request.propertyValue, if_neg (by simp [hlong]), hvalue]

end Json

/-! ## Decoding -/

section
open Json

/-- A document that is no scalar is decoded from any of its forms, held as code points or as bytes,
to a value of the same structure. Without repeated names it is the value of the plain tree. -/
theorem decode_json_document {document : Json} {t : Text} (h : SpelledPart document t)
    (hdocument : document.Writable) (htop : document.type.isScalar = false) {c : Content}
    (hc : c.toBytes = Utf8.encode t) :
    ∃ v, (Value.text c).decode .json = .ok (.ok v) ∧ Image document v ∧
      (document.NoRepeats → Request.propertyValue document.asTree = .ok v) := by
  have hbytes : c.toBytes = .ok (t.map fun c => UInt8.ofNat c.val) := by
    rw [hc, h.ascii.encode_eq]
  have hjson : decodeJson (t.map fun c => UInt8.ofNat c.val) = .ok document.asValue := by
    rw [decodeJson, h.ascii.decodeDocument_eq]
    simp only [mapError_ok, bind, Except.bind, read_eq h hdocument, htop]
    rfl
  refine ⟨document.asValue, ?_, image_asValue hdocument, propertyValue_asTree hdocument⟩
  simp only [Value.decode, hbytes, decodeBytes, hjson, mapError_ok]

/-- A number and a word. -/
def sampleItems : Json := .arr [.int (-7), .null]

/-- A name that occurs once. -/
def namedOnce : Json := .obj [("k", sampleItems)]

/-- A name that occurs twice, the first time for half of a surrogate pair. -/
def namedTwice : Json := .obj [("k", .str [CodePoint.ofNat 0xD800]), ("k", sampleItems)]

theorem blank_nil : Blank [] := by decide

theorem nameForm_k : NameForm "k" "\"k\":" :=
  .mk blank_nil (.cons (.literal (by decide) (by decide) (by decide)) .nil) blank_nil

theorem sampleItems_spelled : SpelledPart sampleItems "[-7 ,null]" := by
  have hint : SpelledPart (.int (-7)) "-7 " := .mk blank_nil (.int (-7)) (by decide : Blank " ")
  have hnull : SpelledPart .null "null" := .mk blank_nil .null blank_nil
  have hitems : SpelledItems [.int (-7), .null] "-7 ,null]" := .more hint (.last hnull)
  exact .mk blank_nil (.array hitems) blank_nil

theorem namedOnce_spelled : SpelledPart namedOnce "\x7b\"k\":[-7 ,null]\x7d" :=
  .mk blank_nil (.object (.last nameForm_k sampleItems_spelled)) blank_nil

theorem namedTwice_spelled :
    SpelledPart namedTwice "\x7b\"k\": \"\\ud800\",\"k\":[-7 ,null]\x7d" := by
  have hunit : UnitForm 0xD800 "d800" :=
    .digits (m := 0xD) (n := 8) (p := 0) (q := 0) (.inl rfl) (.inl rfl) (.inl rfl) (.inl rfl) rfl
  have hhalf : SpelledPart (.str [0xD800]) " \"\\ud800\"" :=
    .mk (by decide : Blank " ") (.str (.cons (.unit hunit) .nil)) blank_nil
  exact .mk blank_nil (.object (.more nameForm_k hhalf (.last nameForm_k sampleItems_spelled)))
    blank_nil

theorem sampleItems_writable : sampleItems.Writable :=
  ⟨(by decide : isLongInteger (-7) = false), trivial, trivial⟩

theorem decode_json_document_namedTwice :
    (∃ v, (Value.text (.chars "\x7b\"k\":[-7 ,null]\x7d")).decode .json = .ok (.ok v) ∧
      Request.propertyValue (.dict [("k", .list [.int (-7), .null])]) = .ok v) ∧
    ∃ v, (Value.text (.chars "\x7b\"k\": \"\\ud800\",\"k\":[-7 ,null]\x7d")).decode .json =
      .ok (.ok v) ∧ Image namedTwice v := by
  constructor
  · have hwritable : namedOnce.Writable := ⟨.singleton _, sampleItems_writable, trivial⟩
    obtain ⟨v, hdecode, -, hplain⟩ := decode_json_document namedOnce_spelled hwritable rfl
      (c := .chars "\x7b\"k\":[-7 ,null]\x7d") rfl
    exact ⟨v, hdecode, hplain ⟨by simp, ⟨trivial, trivial, trivial⟩, trivial⟩⟩
  · have hwritable : namedTwice.Writable :=
      ⟨.singleton _, .singleton _, .singleton _, sampleItems_writable, trivial⟩
    obtain ⟨v, hdecode, himage, -⟩ := decode_json_document namedTwice_spelled hwritable rfl
      (c := .chars "\x7b\"k\": \"\\ud800\",\"k\":[-7 ,null]\x7d") rfl
    exact ⟨v, hdecode, himage⟩

end

end RequestCredentials
