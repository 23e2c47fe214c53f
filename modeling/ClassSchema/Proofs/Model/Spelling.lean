import ClassSchema.Model.Subsystem
import ClassSchema.Proofs.Json.Spelling
import Mathlib.Data.List.Nodup

/-
# Subsystems are read however they are spelled

A subsystem record has many texts.  The members of an object may come in any order, and others that
nobody asks for may stand among them.  A member with its default may be left out, or be `null` if it
is optional.  A membership without its flag may be a number or a pair.  And each value has its own
forms, from the escapes in a string to the exponent of a number.  `SubsystemRecord.SpelledBy` says
of a text that it is one of these, and `spelling_immaterial` that all of them lead to the same
subsystem, or to the same complaint.

The spelling of each record is put together from those of its members, as its decoder is put
together from theirs, so the one reads the other as soon as this is so of the members.  Only an
ordering is kept as it stands, with its members in the order of the text.  Their order is shown not
to matter afterwards: of an ordering nothing is used but the text under one name.
-/

namespace ClassSchema

open Json Outcome

/-! ### Values in which members change places -/

namespace Json.Value

/-- The second value is the first with the members of its objects in any order.  Only members of
different names may change places. -/
inductive Rearranged : Value → Value → Prop
  | refl (v : Value) : Rearranged v v
  | array {items : List (Value × Value)} (h : ∀ i ∈ items, Rearranged i.1 i.2) :
      Rearranged (.array (items.map (·.1))) (.array (items.map (·.2)))
  | object {members : List (String × Value × Value)} {others : List (String × Value)}
      (hnames : (members.map (·.1)).Nodup) (h : ∀ m ∈ members, Rearranged m.2.1 m.2.2)
      (hperm : others.Perm (members.map fun m => (m.1, m.2.2))) :
      Rearranged (.object (members.map fun m => (m.1, m.2.1))) (.object others)

/-- Under a name that no other member has, the member of this name is found. -/
lemma member?_eq_some_iff {members : List (String × Value)} {name : String} {v : Value}
    (hnames : (members.map (·.1)).Nodup) :
    (object members).member? name = some v ↔ (name, v) ∈ members := by
  rw [member?, Option.map_eq_some_iff]
  constructor
  · rintro ⟨m, hm, rfl⟩
    obtain rfl : m.1 = name := by simpa using List.find?_some hm
    exact List.mem_reverse.1 (List.mem_of_find?_eq_some hm)
  · intro hmem
    have hfound : (members.reverse.find? fun m => m.1 == name).isSome = true := by
      rw [List.find?_isSome]
      exact ⟨(name, v), List.mem_reverse.2 hmem, by simp⟩
    obtain ⟨m, hm⟩ := Option.isSome_iff_exists.1 hfound
    have hname : m.1 = name := by simpa using List.find?_some hm
    have hmem' := List.mem_reverse.1 (List.mem_of_find?_eq_some hm)
    obtain rfl := List.inj_on_of_nodup_map hnames hmem' hmem hname
    exact ⟨_, hm, rfl⟩

namespace Rearranged

variable {v w : Value}

lemma string?_eq (h : v.Rearranged w) : w.string? = v.string? := by
  cases h <;> rfl

/-- A text that is a member is still there under its name. -/
lemma member?_bind_string?_eq (h : v.Rearranged w) (name : String) :
    (w.member? name).bind string? = (v.member? name).bind string? := by
  cases h with
  | refl => rfl
  | array _ => rfl
  | @object members others hnames h hperm =>
    have hbefore : ((members.map fun m => (m.1, m.2.1)).map (·.1)).Nodup := by
      rwa [List.map_map]
    have hafter : (others.map (·.1)).Nodup := by
      refine (hperm.map (·.1)).nodup_iff.2 ?_
      rwa [List.map_map]
    refine Option.ext fun s => ?_
    simp only [Option.bind_eq_some_iff, member?_eq_some_iff hbefore, member?_eq_some_iff hafter,
      hperm.mem_iff, List.mem_map, Prod.mk.injEq]
    constructor
    · rintro ⟨x, ⟨m, hm, rfl, rfl⟩, hs⟩
      exact ⟨_, ⟨m, hm, rfl, rfl⟩, (h m hm).string?_eq ▸ hs⟩
    · rintro ⟨x, ⟨m, hm, rfl, rfl⟩, hs⟩
      exact ⟨_, ⟨m, hm, rfl, rfl⟩, (h m hm).string?_eq.trans hs⟩

end Rearranged

end Json.Value

namespace Model

/-- The second record is the first, up to the order of members in its ordering. -/
structure RelationshipRecord.Rearranged (r s : RelationshipRecord) : Prop where
  eq : s = { r with ascend := s.ascend }
  ascend : Option.Rel Value.Rearranged r.ascend s.ascend

/-- The second record is the first, up to the order of members in its orderings. -/
structure SubsystemRecord.Rearranged (r s : SubsystemRecord) : Prop where
  eq : s = { r with relationships := s.relationships }
  relationships : List.Forall₂ RelationshipRecord.Rearranged r.relationships s.relationships

/-- Classification does not look at the order of the members in an ordering. -/
lemma RelationshipRecord.Rearranged.classify_eq {r s : RelationshipRecord} (h : r.Rearranged s) :
    s.classify = r.classify := by
  obtain ⟨heq, hascend⟩ := h
  rw [heq]
  generalize s.ascend = a at hascend
  obtain ⟨number, t, p, ref1, ref2, associationClass, superclass, subclasses, genrefs, ascend⟩ := r
  cases hascend with
  | none => rfl
  | some hv =>
    have hordered := hv.member?_bind_string?_eq "cname"
    simp only [classify, kind, markerCount, asOrdinal, Option.isSome_some]
    cases superclass with
    | none =>
      simp only [hordered]
      rfl
    | some c => rfl

lemma classifyAll_eq_of_rearranged {rs ss : List RelationshipRecord}
    (h : List.Forall₂ RelationshipRecord.Rearranged rs ss) : classifyAll ss = classifyAll rs := by
  induction h with
  | nil => rfl
  | cons hfirst _ ih => rw [classifyAll, classifyAll, hfirst.classify_eq, ih]

/-- A subsystem does not depend on the order of the members in its orderings. -/
lemma SubsystemRecord.Rearranged.subsystem_eq {r s : SubsystemRecord} (h : r.Rearranged s)
    (fallback : String) : s.subsystem fallback = r.subsystem fallback := by
  obtain ⟨heq, hrelationships⟩ := h
  rw [heq]
  simp only [SubsystemRecord.subsystem, classifyAll_eq_of_rearranged hrelationships]

/-! ### Spellings of records -/

def Multiplicity.spelling : Spelling Multiplicity := fun t m => Spelling.text t m.tag

def Side.spelling : Spelling Side :=
  Spelling.record
    (.cons "cname" Spelling.text none <| .cons "mult" Multiplicity.spelling none <|
      .cons "phrase" Spelling.text.optional (some none) .nil)
    fun s => (s.className, s.multiplicity, s.phrase, ())

def PathEnd.spelling : Spelling PathEnd :=
  Spelling.record
    (.cons "class" Spelling.text none <| .cons "attrs" Spelling.text.list none .nil)
    fun e => (e.className, e.attributes, ())

def ReferencePath.spelling : Spelling ReferencePath :=
  Spelling.record
    (.cons "source" PathEnd.spelling none <| .cons "target" PathEnd.spelling none .nil)
    fun p => (p.source, p.target, ())

/-- Of the 127 levels that are kept of a text, a subsystem, its list of relationships and the record
take three, which leaves 124 for the ordering. -/
def RelationshipRecord.spelling : Spelling RelationshipRecord :=
  Spelling.record
    (.cons "rnum" Spelling.text none <|
      .cons "t_side" Side.spelling.optional (some none) <|
      .cons "p_side" Side.spelling.optional (some none) <|
      .cons "ref1" ReferencePath.spelling.optional (some none) <|
      .cons "ref2" ReferencePath.spelling.optional (some none) <|
      .cons "assoc_cname" Spelling.text.optional (some none) <|
      .cons "superclass" Spelling.text.optional (some none) <|
      .cons "subclasses" Spelling.text.list (some []) <|
      .cons "genrefs" ReferencePath.spelling.list (some []) <|
      .cons "ascend" (Spelling.kept 124).optional (some none) .nil)
    fun r => (r.number, r.tSide, r.pSide, r.ref1, r.ref2, r.associationClass, r.superclass,
      r.subclasses, r.genrefs, r.ascend, ())

/-- A membership is spelled by its group and its flag, or by its group alone if the flag is not
set. -/
inductive Membership.spelling : Spelling Membership
  | number {t : Tree} {g : UInt32} (h : Spelling.group t g) : spelling t ⟨g, false⟩
  | flagged {t : Tree} {g : UInt32} (h : Spelling.group t g) (superkey : Bool) :
      spelling (.array [t, .bool superkey] .closed) ⟨g, superkey⟩

def Attribute.spelling : Spelling Attribute :=
  Spelling.record
    (.cons "name" Spelling.text none <| .cons "type" Spelling.text.optional (some none) <|
      .cons "I" (Spelling.list Membership.spelling) (some []) .nil)
    fun a => (a.name, a.type, a.memberships, ())

def Class.spelling : Spelling Class :=
  Spelling.record
    (.cons "name" Spelling.text none <| .cons "import" Spelling.text.optional (some none) <|
      .cons "attributes" Attribute.spelling.list (some []) .nil)
    fun c => (c.name, c.importedFrom, c.attributes, ())

def SubsystemRecord.spelling : Spelling SubsystemRecord :=
  Spelling.record
    (.cons "name" Spelling.text.optional (some none) <| .cons "domain" Spelling.text (some "") <|
      .cons "classes" Class.spelling.list (some []) <|
      .cons "rels" RelationshipRecord.spelling.list (some []) .nil)
    fun r => (r.name, r.domain, r.classes, r.relationships, ())

/-- The text is a way to write the record down: it spells the record, or the same record with the
members of its orderings in another order. -/
def SubsystemRecord.SpelledBy (r : SubsystemRecord) (text : String) : Prop :=
  ∃ s t, r.Rearranged s ∧ SubsystemRecord.spelling t s ∧ t.IsText text.toList

/-! ### Reading -/

section

open Spelling

variable {room : Nat}

/-- No record is written as `null`. -/
lemma not_record_null {α : Type} {τs : List Type} {layout : Layout τs} {row : α → Row τs} (x : α) :
    ¬ Spelling.record layout row .null x := by
  rintro ⟨_, _, _, ht, -⟩
  cases ht

lemma not_text_null (s : String) : ¬ Spelling.text .null s := by
  rintro ⟨_, ht⟩
  cases ht

lemma readBy_optionalText : text.optional.ReadBy (Decoder.optional Decoder.text) room :=
  readBy_optional readBy_text not_text_null

lemma readBy_texts : text.list.ReadBy (Decoder.list Decoder.text) room := readBy_list readBy_text

lemma readBy_multiplicityTag : Multiplicity.spelling.ReadBy multiplicityTag room := by
  rintro t m ⟨written, rfl⟩ - src -
  cases m <;> rfl

lemma readBy_readSide : Side.spelling.ReadBy readSide room :=
  readBy_record (.cons readBy_text <| .cons readBy_multiplicityTag <|
    .cons readBy_optionalText .nil) (by decide) fun _ => rfl

lemma readBy_readPathEnd : PathEnd.spelling.ReadBy readPathEnd room :=
  readBy_record (.cons readBy_text <| .cons readBy_texts .nil) (by decide) fun _ => rfl

lemma readBy_readPath : ReferencePath.spelling.ReadBy readPath room :=
  readBy_record (.cons readBy_readPathEnd <| .cons readBy_readPathEnd .nil) (by decide)
    fun _ => rfl

lemma readBy_optionalPath :
    ReferencePath.spelling.optional.ReadBy (Decoder.optional readPath) room :=
  readBy_optional readBy_readPath not_record_null

lemma readBy_optionalSide : Side.spelling.optional.ReadBy (Decoder.optional readSide) room :=
  readBy_optional readBy_readSide not_record_null

lemma readBy_readRelationship (hroom : 126 ≤ room) :
    RelationshipRecord.spelling.ReadBy readRelationship room := by
  have hascend : (kept 124).optional.ReadBy (Decoder.optional Decoder.anything) (room - 1) :=
    readBy_optional (readBy_kept (by omega)) not_kept_null
  exact readBy_record (.cons readBy_text <| .cons readBy_optionalSide <|
    .cons readBy_optionalSide <| .cons readBy_optionalPath <| .cons readBy_optionalPath <|
    .cons readBy_optionalText <| .cons readBy_optionalText <| .cons readBy_texts <|
    .cons (readBy_list readBy_readPath) <| .cons hascend .nil) (by decide) fun _ => rfl

lemma readBy_readMembership (hroom : 2 ≤ room) :
    Spelling.ReadBy Membership.spelling readMembership room := by
  have hvalue : ∀ (g : UInt32) (n : Nat),
      Tree.value n (.number ⟨false, g.toNat, 0, 0, true⟩) = .ok (.integer g.toNat) := by
    intro g n
    have hg : g.toNat < UInt64.size := Nat.lt_trans g.toNat_lt (by decide)
    rw [Tree.value, Numeral.value, if_pos ⟨rfl, Bool.false_ne_true, hg⟩]
  have hrange : ∀ g : UInt32, (0 : Int) ≤ g.toNat ∧ (g.toNat : Int) < UInt32.size :=
    fun g => ⟨Int.natCast_nonneg _, Int.ofNat_lt.2 g.toNat_lt⟩
  have hgroup : ∀ g : UInt32, UInt32.ofNat (g.toNat : Int).toNat = g := by simp
  rintro t m hm - src hsrc
  cases hm with
  | @number t g h =>
    obtain rfl : t = .number ⟨false, g.toNat, 0, 0, true⟩ := h
    rw [readMembership, hvalue, ok_bind, Membership.ofValue?, if_pos (hrange g), hgroup]
  | @flagged t g h superkey =>
    obtain rfl : t = .number ⟨false, g.toNat, 0, 0, true⟩ := h
    have harray : Tree.value src.room (.array [.number ⟨false, g.toNat, 0, 0, true⟩,
        .bool superkey] .closed) = .ok (.array [.integer g.toNat, .bool superkey]) := by
      rw [Tree.value, if_neg (by omega), Tree.values, hvalue, ok_bind]
      rfl
    rw [readMembership, harray, ok_bind, Membership.ofValue?, if_pos (hrange g), hgroup]

lemma readBy_readAttribute (hroom : 4 ≤ room) : Attribute.spelling.ReadBy readAttribute room :=
  readBy_record (.cons readBy_text <| .cons readBy_optionalText <|
    .cons (readBy_list (readBy_readMembership (by omega))) .nil) (by decide) fun _ => rfl

lemma readBy_readClass (hroom : 6 ≤ room) : Class.spelling.ReadBy readClass room :=
  readBy_record (.cons readBy_text <| .cons readBy_optionalText <|
    .cons (readBy_list (readBy_readAttribute (by omega))) .nil) (by decide) fun _ => rfl

lemma readBy_readSubsystem : SubsystemRecord.spelling.ReadBy readSubsystem 128 :=
  readBy_record (.cons readBy_optionalText <| .cons readBy_text <|
    .cons (readBy_list (readBy_readClass (by decide))) <|
    .cons (readBy_list (readBy_readRelationship (by decide))) .nil) (by decide) fun _ => rfl

end

/-- **Spelling is immaterial**: a text that spells a record is read as the subsystem of the record,
and if there is none, it is refused for the same reason. -/
theorem spelling_immaterial {r : SubsystemRecord} {text : String} (h : r.SpelledBy text)
    (path fallback : String) : Subsystem.ofText path fallback text = r.subsystem fallback := by
  obtain ⟨s, t, hrearranged, hspelling, htext⟩ := h
  have hread : readSubsystem ⟨128, false⟩ t = .ok s :=
    readBy_readSubsystem t s hspelling htext.intact _ (Nat.le_refl 128)
  have hdocument : Decoder.document readSubsystem text = .ok s := by
    rw [Decoder.document, htext.ofText_eq, hread]
    rfl
  rw [Subsystem.ofText, hdocument]
  exact hrearranged.subsystem_eq fallback

namespace Books

/-- A subsystem with one class, whose instances are ordered. -/
def books : SubsystemRecord where
  name := none
  domain := "Books"
  classes := [⟨"Book", none, [⟨"isbn", none, [⟨1, false⟩, ⟨2, false⟩]⟩]⟩]
  relationships := [⟨"R1", none, none, none, none, none, none, [], [],
    some (.object [("by", .null), ("cname", .string "Book")])⟩]

/-- In this text all members stand in reverse.  One is of no use and beyond all numbers, one has
been escaped, one is `null`, and many have been left out. -/
def booksText : String :=
  "\x7b\"rels\": [\x7b\"note\":1e999,\"ascend\":\x7b\"cname\":\"Book\",\"by\":null\x7d," ++
  "\"rnum\":\"R1\"\x7d],\"classes\":[\x7b\"attributes\":[\x7b\"I\":[1,[2,false]]," ++
  "\"name\":\"isbn\"\x7d],\"name\":\"Book\"\x7d],\"domain\":\"\\u0042ooks\",\"name\":null\x7d\n"

def digit (d : Char) (h : d.isDigit = true) : Written :=
  .number (n := ⟨false, decimal [d], 0, 0, true⟩) (.mk (isWhole_digit h) .absent .absent)

def isbn : Written :=
  .object [("I", .array [digit '1' rfl, .array [digit '2' rfl, ⟨_, _, .falseWord⟩]]),
    ("name", .string "isbn")]

def book : Written := .object [("attributes", .array [isbn]), ("name", .string "Book")]

lemma exponent_note : IsExponent ['e', '9', '9', '9'] 999 :=
  .unsigned (.inl rfl) ⟨List.cons_ne_nil _ _, List.all_eq_true.1 rfl⟩

def note : Written :=
  .number (n := ⟨false, decimal ['1'], 0, 999, false⟩)
    (.mk (isWhole_digit rfl) .absent exponent_note)

def ordering : Written := .object [("cname", .string "Book"), ("by", ⟨_, _, .nullWord⟩)]

def relationship : Written :=
  .object [("note", note), ("ascend", ordering), ("rnum", .string "R1")]

def domain : Written :=
  .escaped (.unit (c := 'B') (.mk (a := '0') (b := '0') (c := '4') (d := '2') rfl rfl rfl rfl)
    (means_writtenChars ['o', 'o', 'k', 's']))

/-- The whole text, put together from its parts. -/
def document : Written :=
  .spaced [] (.object [("rels", .spaced [' '] (.array [relationship]) [] (by decide) (by decide)),
    ("classes", .array [book]), ("domain", domain), ("name", ⟨_, _, .nullWord⟩)]) ['\n']
    (by decide) (by decide)

lemma booksText_eq : booksText = String.ofList document.text := by decide +kernel

lemma isbn_spelling :
    Attribute.spelling isbn.tree ⟨"isbn", none, [⟨1, false⟩, ⟨2, false⟩]⟩ :=
  ⟨_, [(_, _), (_, _)], [], rfl, .swap _ _ _,
    .given rfl ⟨_, rfl⟩ <| .omitted <|
      .given rfl ⟨_, rfl, .cons (.number rfl) (.cons (.flagged (g := 2) rfl false) .nil)⟩ .nil,
    by simp⟩

lemma book_spelling :
    Class.spelling book.tree ⟨"Book", none, [⟨"isbn", none, [⟨1, false⟩, ⟨2, false⟩]⟩]⟩ :=
  ⟨_, [(_, _), (_, _)], [], rfl, .swap _ _ _,
    .given rfl ⟨_, rfl⟩ <| .omitted <|
      .given rfl ⟨_, rfl, .cons isbn_spelling .nil⟩ .nil,
    by simp⟩

lemma ordering_denotes :
    ordering.tree.Denotes (.object [("cname", .string "Book"), ("by", .null)]) := by
  have hkeys : ∀ m ∈ [(Key.of "cname", Tree.string (.of "Book"), "cname", Value.string "Book"),
      (.of "by", .null, "by", .null)], m.1.text = some m.2.2.1 := by
    simp [Key.of]
  exact .object hkeys (List.forall_mem_cons.2 ⟨.string _ _, List.forall_mem_singleton.2 .null⟩)

lemma relationship_spelling : RelationshipRecord.spelling relationship.tree
    ⟨"R1", none, none, none, none, none, none, [], [],
      some (.object [("cname", .string "Book"), ("by", .null)])⟩ :=
  ⟨_, [(_, _), (_, _)], [(_, _)], rfl, List.reverse_perm [_, _, _],
    .given rfl ⟨_, rfl⟩ <| .omitted <| .omitted <| .omitted <| .omitted <| .omitted <| .omitted <|
      .omitted <| .omitted <| .given rfl ⟨ordering_denotes, by simp, by decide⟩ .nil,
    List.forall_mem_singleton.2 ⟨"note", by decide, rfl⟩⟩

lemma books_rearranged : books.Rearranged { books with
    relationships := [⟨"R1", none, none, none, none, none, none, [], [],
      some (.object [("cname", .string "Book"), ("by", .null)])⟩] } := by
  have hnames : ([("by", Value.null, Value.null), ("cname", .string "Book", .string "Book")].map
      (·.1)).Nodup := by
    decide
  have hordering := Value.Rearranged.object hnames
    (List.forall_mem_cons.2 ⟨.refl _, List.forall_mem_singleton.2 (.refl _)⟩) (.swap _ _ _)
  exact ⟨rfl, .cons ⟨rfl, .some hordering⟩ .nil⟩

lemma books_spelledBy : books.SpelledBy booksText := by
  have htext : document.tree.IsText booksText.toList := by
    rw [booksText_eq, String.toList_ofList]
    exact document.isText
  refine ⟨_, document.tree, books_rearranged, ?_, htext⟩
  -- every member is given, the name as `null`
  exact ⟨_, [(_, _), (_, _), (_, _), (_, _)], [], rfl, List.reverse_perm [_, _, _, _],
    .given rfl rfl <| .given rfl ⟨_, rfl⟩ <| .given rfl ⟨_, rfl, .cons book_spelling .nil⟩ <|
      .given rfl ⟨_, rfl, .cons relationship_spelling .nil⟩ .nil,
    by simp⟩

theorem spelling_immaterial_books : books.SpelledBy booksText ∧
    Subsystem.ofText "books.json" "books" booksText = .ok ⟨"books", "Books",
      [⟨"Book", none, [⟨"isbn", none, [⟨1, false⟩, ⟨2, false⟩]⟩]⟩],
      [.ordinal ⟨"R1", some "Book"⟩]⟩ :=
  ⟨books_spelledBy, (spelling_immaterial books_spelledBy _ _).trans rfl⟩

end Books

end Model

end ClassSchema
