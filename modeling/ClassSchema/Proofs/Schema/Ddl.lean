import ClassSchema.Proofs.Schema.Columns
import ClassSchema.Proofs.Store.Session
import ClassSchema.Schema.Ddl
import ClassSchema.Store.Catalog

/-
# Statements can be read back

The statement that creates a relation is a text in which names stand as they are, with whatever
spaces, colons, commas, braces or arrows they have.  Nothing is lost all the same, if only no name
has a line break: then a statement can be taken apart line by line, and in each line what belongs
to the statement stands at the two ends, so all that is between is the name (`readStatement`).
What is read is the name of the relation and its columns, as the database stores them
(`readStatement_ddl`), so the statement tells these and nothing else
(`ddl_determines_relation`).
-/

namespace ClassSchema

open Schema OrderedMap Outcome

/-! ### Reading -/

namespace Schema

/-- What stands before the name of a column. -/
def margin : List Char := [' ', ' ', ' ', ' ']

/-- What stands after the name of a column. -/
def typeEnding (type : DataType) : List Char := (": " ++ type.columnType).toList

/-- The line between the columns of the key and the others. -/
def arrow : List Char := margin ++ ['=', '>']

def columnTypes : List DataType := [.string, .int, .float, .bool]

/-- Reads the line of a column. -/
def readColumn (line : List Char) : Option Attribute := do
  let rest ← line.dropPrefix? margin
  columnTypes.findSome? fun type =>
    (rest.dropSuffix? (typeEnding type)).map fun name => ⟨String.ofList name, type⟩

/-- Reads the lines of some columns; all but the last end in a comma. -/
def readColumns : List (List Char) → Option (List Attribute)
  | [] => none
  | [line] => do
    let column ← readColumn line
    some [column]
  | line :: next :: rest => do
    let column ← readColumn (← line.dropSuffix? [','])
    let columns ← readColumns (next :: rest)
    some (column :: columns)

/-- Reads one of the two parts between the braces; a part without columns is an empty line. -/
def readPart (lines : List (List Char)) : Option (List Attribute) :=
  if lines = [[]] then some [] else readColumns lines

/-- Reads the lines between the braces: the key and, if there is an arrow, the rest. -/
def readParts (lines : List (List Char)) : Option StoredRelation :=
  match lines.splitOn arrow with
  | [key] => do
    let key ← readPart key
    some ⟨key, []⟩
  | [key, rest] => do
    let key ← readPart key
    let rest ← readPart rest
    some ⟨key, rest⟩
  | _ => none

/-- Reads the statement that creates a relation: the name of the relation and its columns. -/
def readStatement (text : String) : Option (String × StoredRelation) :=
  match text.toList.splitOn '\n' with
  | [] => none
  | first :: lines => do
    let name ← (← first.dropPrefix? ":create ".toList).dropSuffix? " \x7b".toList
    let stored ← readParts (← lines.dropSuffix? [['\x7d']])
    some (String.ofList name, stored)

/-! ### Columns -/

lemma dropPrefix?_append {α : Type} [BEq α] [LawfulBEq α] (xs ys : List α) :
    (xs ++ ys).dropPrefix? xs = some ys :=
  List.dropPrefix?_append_of_beq ys BEq.rfl

lemma dropSuffix?_append {α : Type} [BEq α] [LawfulBEq α] (xs ys : List α) :
    (xs ++ ys).dropSuffix? ys = some xs :=
  List.dropSuffix?_eq_some_iff.2 ⟨ys, rfl, BEq.rfl⟩

/-- No two types have endings of which one ends in the other. -/
lemma eq_of_typeEnding_suffix {type type' : DataType} (h : typeEnding type <:+ typeEnding type') :
    type = type' := by
  cases type <;> cases type' <;> first | rfl | exact absurd h (by decide)

lemma dropSuffix?_typeEnding (name : List Char) (type type' : DataType) :
    (name ++ typeEnding type).dropSuffix? (typeEnding type') =
      if type' = type then some name else none := by
  by_cases htype : type' = type
  · rw [if_pos htype, htype, dropSuffix?_append]
  · rw [if_neg htype, Option.eq_none_iff_forall_ne_some]
    intro p hp
    obtain ⟨ending, heq, hending⟩ := List.dropSuffix?_eq_some_iff.1 hp
    obtain rfl := eq_of_beq hending
    have hown : typeEnding type <:+ name ++ typeEnding type := List.suffix_append ..
    have hother : typeEnding type' <:+ name ++ typeEnding type := heq ▸ List.suffix_append ..
    -- of two endings of one text one ends in the other
    rcases List.suffix_or_suffix_of_suffix hown hother with h | h
    · exact htype (eq_of_typeEnding_suffix h).symm
    · exact htype (eq_of_typeEnding_suffix h)

namespace Attribute

/-- The line of a column, without a comma. -/
def line (a : Attribute) : List Char := margin ++ (a.name.toList ++ typeEnding a.type)

lemma toList_column (a : Attribute) : a.column.toList = a.line := by
  simp [column, line, margin, typeEnding]

lemma readColumn_line (a : Attribute) : readColumn a.line = some a := by
  have hread : readColumn a.line = columnTypes.findSome? fun type =>
      (if type = a.type then some a.name.toList else none).map
        fun name => ⟨String.ofList name, type⟩ := by
    simp only [readColumn, line, dropPrefix?_append, Option.bind_eq_bind, Option.bind_some,
      dropSuffix?_typeEnding]
  rw [hread]
  obtain ⟨name, type⟩ := a
  cases type <;> simp [columnTypes]

end Attribute

/-! ### Lines -/

/-- The lines of some columns. -/
def partLines : List Attribute → List (List Char)
  | [] => [[]]
  | [a] => [a.line]
  | a :: b :: rest => (a.line ++ [',']) :: partLines (b :: rest)

lemma partLines_ne_nil (as : List Attribute) : partLines as ≠ [] := by
  rcases as with - | ⟨a, - | ⟨b, rest⟩⟩ <;> simp [partLines]

lemma mem_partLines {as : List Attribute} {l : List Char} (h : l ∈ partLines as) :
    l = [] ∨ ∃ a ∈ as, l = a.line ∨ l = a.line ++ [','] := by
  induction as with
  | nil => exact .inl (List.mem_singleton.1 h)
  | cons a rest ih =>
    cases rest with
    | nil => exact .inr ⟨a, List.mem_cons_self, .inl (List.mem_singleton.1 h)⟩
    | cons b rest =>
      rw [partLines, List.mem_cons] at h
      rcases h with rfl | h
      · exact .inr ⟨a, List.mem_cons_self, .inr rfl⟩
      · refine (ih h).imp_right ?_
        rintro ⟨c, hc, hl⟩
        exact ⟨c, List.mem_cons_of_mem a hc, hl⟩

lemma toList_columnLines (as : List Attribute) :
    (columnLines as).toList = ['\n'].intercalate (partLines as) := by
  have hseparator : ",\n".toList = [',', '\n'] := rfl
  rw [columnLines, String.toList_intercalate, List.map_map, hseparator]
  induction as with
  | nil => rfl
  | cons a rest ih =>
    cases rest with
    | nil => simp [partLines, Attribute.toList_column]
    | cons b rest =>
      rw [List.map_cons] at ih ⊢
      rw [partLines, List.intercalate_cons_of_ne_nil (partLines_ne_nil _), ← ih,
        List.map_cons, List.intercalate_cons_cons, Function.comp_apply, Attribute.toList_column]
      simp

lemma readColumns_partLines {as : List Attribute} (h : as ≠ []) :
    readColumns (partLines as) = some as := by
  induction as with
  | nil => exact absurd rfl h
  | cons a rest ih =>
    cases rest with
    | nil => simp [partLines, readColumns, Attribute.readColumn_line]
    | cons b rest =>
      have hrest := ih (List.cons_ne_nil _ _)
      obtain ⟨l, ls, hl⟩ := List.exists_cons_of_ne_nil (partLines_ne_nil (b :: rest))
      rw [partLines, hl]
      rw [hl] at hrest
      simp [readColumns, dropSuffix?_append, Attribute.readColumn_line, hrest]

lemma readPart_partLines (as : List Attribute) : readPart (partLines as) = some as := by
  by_cases has : as = []
  · rw [has]
    rfl
  · have hne : partLines as ≠ [[]] := by
      intro heq
      have hnone : readColumns (partLines as) = none := heq ▸ rfl
      rw [readColumns_partLines has] at hnone
      cases hnone
    rw [readPart, if_neg hne, readColumns_partLines has]

lemma arrow_not_mem_partLines (as : List Attribute) : arrow ∉ partLines as := by
  intro h
  rcases mem_partLines h with hl | ⟨a, -, hl | hl⟩
  · cases hl
  · have hending : typeEnding a.type <:+ arrow :=
      hl ▸ (List.suffix_append ..).trans (List.suffix_append ..)
    generalize a.type = type at hending
    cases type <;> exact absurd hending (by decide)
  · have hending : [','] <:+ arrow := hl ▸ List.suffix_append ..
    exact absurd hending (by decide)

/-! ### Statements -/

lemma intercalate_append {α : Type} {separator : List α} {xs ys : List (List α)} (hxs : xs ≠ [])
    (hys : ys ≠ []) : separator.intercalate (xs ++ ys) =
      separator.intercalate xs ++ separator ++ separator.intercalate ys := by
  induction xs with
  | nil => exact absurd rfl hxs
  | cons x rest ih =>
    rw [List.cons_append, List.intercalate_cons_of_ne_nil (by simp [hys])]
    by_cases hrest : rest = []
    · rw [hrest, List.nil_append, List.intercalate_singleton]
    · rw [ih hrest, List.intercalate_cons_of_ne_nil hrest]
      simp only [List.append_assoc]

namespace Relation

variable {r : Relation}

/-- No name has a line break. -/
def OneLine (r : Relation) : Prop :=
  '\n' ∉ r.name.toList ∧ ∀ a ∈ r.attributes, '\n' ∉ a.name.toList

instance : Decidable r.OneLine := inferInstanceAs (Decidable (_ ∧ _))

/-- The parts between the braces, each with its lines. -/
def parts (r : Relation) : List (List (List Char)) :=
  partLines r.keyAttributes ::
    if r.valueAttributes = [] then [] else [partLines r.valueAttributes]

/-- The lines of the statement. -/
def lines (r : Relation) : List (List Char) :=
  (":create ".toList ++ (r.name.toList ++ " \x7b".toList)) ::
    ([arrow].intercalate r.parts ++ [['\x7d']])

lemma toList_ddl (r : Relation) : r.ddl.toList = ['\n'].intercalate r.lines := by
  have hkey := partLines_ne_nil r.keyAttributes
  rw [ddl, createStatement, lines, parts]
  by_cases h : r.valueAttributes = []
  · rw [if_pos h, List.intercalate_singleton, List.intercalate_cons_of_ne_nil (by simp),
      intercalate_append hkey (List.cons_ne_nil _ _), ← toList_columnLines]
    simp [h]
  · rw [if_neg h, List.intercalate_cons_cons, List.intercalate_singleton,
      List.intercalate_cons_of_ne_nil (by simp),
      intercalate_append (by simp) (List.cons_ne_nil _ _),
      intercalate_append (by simp) (partLines_ne_nil _),
      intercalate_append hkey (List.cons_ne_nil _ _), ← toList_columnLines, ← toList_columnLines]
    simp [h, arrow, margin]

lemma readParts_parts (r : Relation) :
    readParts ([arrow].intercalate r.parts) = some ⟨r.keyAttributes, r.valueAttributes⟩ := by
  have hsplit : ([arrow].intercalate r.parts).splitOn arrow = r.parts := by
    refine List.splitOn_intercalate arrow (fun part hpart => ?_) (List.cons_ne_nil _ _)
    rw [parts] at hpart
    rcases List.mem_cons.1 hpart with rfl | hpart
    · exact arrow_not_mem_partLines _
    · split at hpart
      · cases hpart
      · rw [List.mem_singleton.1 hpart]
        exact arrow_not_mem_partLines _
  rw [readParts, hsplit, parts]
  by_cases h : r.valueAttributes = []
  · simp [h, readPart_partLines]
  · simp [h, readPart_partLines]

lemma newline_not_mem_partLines {as : List Attribute}
    (has : ∀ a ∈ as, '\n' ∉ a.name.toList) {l : List Char} (hl : l ∈ partLines as) :
    '\n' ∉ l := by
  have hmargin : '\n' ∉ margin := by decide
  have hending (type : DataType) : '\n' ∉ typeEnding type := by cases type <;> decide
  have hline : ∀ a ∈ as, '\n' ∉ a.line := by
    intro a ha
    rw [Attribute.line, List.mem_append, List.mem_append]
    rintro (h | h | h)
    · exact hmargin h
    · exact has a ha h
    · exact hending a.type h
  rcases mem_partLines hl with rfl | ⟨a, ha, rfl | rfl⟩
  · exact List.not_mem_nil
  · exact hline a ha
  · simpa using hline a ha

lemma OneLine.newline_not_mem_lines (h : r.OneLine) {l : List Char} (hl : l ∈ r.lines) :
    '\n' ∉ l := by
  have hkey : ∀ l ∈ partLines r.keyAttributes, '\n' ∉ l := fun l =>
    newline_not_mem_partLines fun a ha => h.2 a (mem_attributes_of_mem_key ha)
  have hvalue : ∀ l ∈ partLines r.valueAttributes, '\n' ∉ l := fun l =>
    newline_not_mem_partLines fun a ha => h.2 a (mem_attributes_of_mem_value ha)
  rw [lines, List.mem_cons, List.mem_append] at hl
  rcases hl with rfl | hl | hl
  · have hname := h.1
    simp [hname]
  · rw [parts] at hl
    split at hl
    · rw [List.intercalate_singleton] at hl
      exact hkey l hl
    · rw [List.intercalate_cons_cons, List.intercalate_singleton, List.mem_append,
        List.mem_append] at hl
      rcases hl with (hl | hl) | hl
      · exact hkey l hl
      · obtain rfl := List.mem_singleton.1 hl
        decide
      · exact hvalue l hl
  · obtain rfl := List.mem_singleton.1 hl
    decide

/-- Of a relation whose names have no line breaks, the statement tells the name and the columns. -/
theorem readStatement_ddl (h : r.OneLine) :
    readStatement r.ddl = some (r.name, ⟨r.keyAttributes, r.valueAttributes⟩) := by
  have hlines : r.ddl.toList.splitOn '\n' = r.lines := by
    rw [toList_ddl]
    exact List.splitOn_intercalate '\n' (fun l => h.newline_not_mem_lines) (List.cons_ne_nil _ _)
  simp only [readStatement, hlines, lines, dropPrefix?_append, dropSuffix?_append,
    readParts_parts, Option.bind_eq_bind, Option.bind_some, String.ofList_toList]

/-! ### What the statement tells -/

/-- Some store, of whatever kind, has accepted the relation. -/
def Accepted (r : Relation) : Prop :=
  ∃ (σ : Type) (_ : Store σ) (s : σ), Store.answer s (.relation r) = .ok ()

lemma Accepted.wellFormed (h : r.Accepted) : r.WellFormed := by
  obtain ⟨σ, _, s, hs⟩ := h
  exact (View.checkRelation_eq_ok_iff.1 (Store.check_of_answer_ok hs)).2

/-- A relation is stored with these columns: those of the key first, in the order of the first
identifier, then the others in the order of declaration; every attribute is one column. -/
structure StoredAs (r : Relation) (stored : StoredRelation) : Prop where
  key_names : stored.key.map (·.name) = r.identifiers.values.head?.getD r.columns
  rest_sublist : stored.rest.Sublist r.attributes
  attributes_perm : (stored.key ++ stored.rest).Perm r.attributes
  columns_nodup : stored.columns.Nodup

lemma WellFormed.storedAs (h : r.WellFormed) :
    r.StoredAs ⟨r.keyAttributes, r.valueAttributes⟩ where
  key_names := by
    rw [keyAttributes]
    cases hvalues : r.identifiers.values with
    | nil => rfl
    | cons group rest =>
      obtain ⟨e, he, rfl⟩ := List.mem_map.1 (hvalues ▸ List.mem_cons_self)
      exact map_name_filterMap_attribute? (h.identifier_mem _ _ (mem_entries_iff.1 he))
  rest_sublist := List.filter_sublist
  columns_nodup := h.columns_perm.nodup h.columns_nodup
  attributes_perm := by
    have hcolumns : ((r.keyAttributes ++ r.valueAttributes).map (·.name)).Nodup := by
      rw [List.map_append]
      exact h.columns_perm.nodup h.columns_nodup
    refine (List.perm_ext_iff_of_nodup hcolumns.of_map h.columns_nodup.of_map).2 fun a => ?_
    rw [List.mem_append]
    constructor
    · rintro (ha | ha)
      · exact mem_attributes_of_mem_key ha
      · exact mem_attributes_of_mem_value ha
    · intro ha
      by_cases hname : a.name ∈ r.keyAttributes.map (·.name)
      · obtain ⟨b, hb, hba⟩ := List.mem_map.1 hname
        -- attributes with one name are one attribute
        have hab : b = a :=
          List.inj_on_of_nodup_map h.columns_nodup (mem_attributes_of_mem_key hb) ha hba
        exact .inl (hab ▸ hb)
      · exact .inr (List.mem_filter.2 ⟨ha, decide_eq_true hname⟩)

/-- **The statement determines the stored relation.**  Out of the statement for a relation that was
accepted and has no line breaks in its names, the name of the relation and its columns can be read
back line by line, the columns of the key in their order and the others in theirs, and each
attribute of the relation is one of these columns.  So two relations have one statement just when
they agree in the name and in both lists of columns. -/
theorem ddl_determines_relation (r : Relation) (hr : r.Accepted) (hline : r.OneLine) :
    readStatement r.ddl = some (r.name, ⟨r.keyAttributes, r.valueAttributes⟩) ∧
    r.StoredAs ⟨r.keyAttributes, r.valueAttributes⟩ ∧
    ∀ r' : Relation, r'.Accepted → r'.OneLine → (r'.ddl = r.ddl ↔ r'.name = r.name ∧
      r'.keyAttributes = r.keyAttributes ∧ r'.valueAttributes = r.valueAttributes) := by
  refine ⟨readStatement_ddl hline, hr.wellFormed.storedAs, fun r' _ hline' => ⟨fun h => ?_, ?_⟩⟩
  · have hread := readStatement_ddl hline'
    rw [h, readStatement_ddl hline] at hread
    obtain ⟨hname, hstored⟩ := Prod.mk.inj (Option.some.inj hread)
    obtain ⟨hkey, hvalue⟩ := StoredRelation.mk.inj hstored
    exact ⟨hname.symm, hkey.symm, hvalue.symm⟩
  · rintro ⟨hname, hkey, hvalue⟩
    rw [ddl, ddl, hname, hkey, hvalue]

/-- A relation with names that look like parts of a statement, and with an identifier without
attributes for its key. -/
def crooked : Relation where
  name := "a: \x7b, =>"
  attributes := [⟨"", .int⟩, ⟨"    =>", .bool⟩, ⟨"k: String,", .float⟩]
  identifiers := .ofList [(0, []), (1, ["k: String,"])]

/-- Nothing of it is lost; under its other identifier it would have another statement. -/
theorem ddl_determines_relation_crooked :
    crooked.Accepted ∧ crooked.OneLine ∧
      readStatement crooked.ddl = some ("a: \x7b, =>", ⟨[], crooked.attributes⟩) ∧
      { crooked with identifiers := .ofList [(1, ["k: String,"])] }.ddl ≠ crooked.ddl := by
  have hr : crooked.Accepted := ⟨Catalog, inferInstance, .empty, by decide +kernel⟩
  have hline : crooked.OneLine := by decide
  have hr' : Accepted { crooked with identifiers := .ofList [(1, ["k: String,"])] } :=
    ⟨Catalog, inferInstance, .empty, by decide +kernel⟩
  obtain ⟨hread, -, hsame⟩ := ddl_determines_relation crooked hr hline
  refine ⟨hr, hline, hread.trans (by decide +kernel), fun h => ?_⟩
  obtain ⟨-, hkey, -⟩ := (hsame _ hr' hline).1 h
  exact absurd hkey (by decide +kernel)

end Relation

end Schema

end ClassSchema
