import ClassSchema.Proofs.Store.Database
import ClassSchema.Store.Tables

/-
# The engine of the program is lawful

What is documented of an engine can be had: it is true of `Tables`, with the identifiers of the
language for names.  All that there is to show is that this engine reads statements as they are
meant.  The statement for a relation is put together from names that may be anything, so it is taken
apart at the parts that no word goes over (`tokensAfter_part`).  However strange the names, it
creates some relation or none (`read_createStatement`); if the name of the relation is an
identifier, it creates one of this name, and if those of the columns are too, just that relation.
-/

namespace ClassSchema

open Schema OrderedMap

namespace Statement

/-! ### Tokens -/

lemma tokensAfter_nil : tokensAfter [] [] = [] := rfl

/-- No word goes over a character that is not for words. -/
lemma tokensAfter_append_cons (w cs : List Char) {c : Char} (h : Text.isIdentifierRest c = false)
    (rest : List Char) :
    tokensAfter w (cs ++ c :: rest) = tokensAfter w cs ++ tokensAfter [] (c :: rest) := by
  induction cs generalizing w with
  | nil =>
    rw [List.nil_append, tokensAfter, tokensAfter, tokensAfter, h]
    simp only [Bool.false_eq_true, if_false]
    split <;> rfl
  | cons d cs ih =>
    rw [List.cons_append, tokensAfter, tokensAfter]
    split
    · exact ih _
    · split
      · rw [ih, List.append_assoc]
      · rw [ih, List.append_assoc, List.cons_append]

lemma tokensAfter_concat_append (w cs : List Char) {c : Char} (h : Text.isIdentifierRest c = false)
    (rest : List Char) :
    tokensAfter w (cs ++ [c] ++ rest) = tokensAfter w (cs ++ [c]) ++ tokensAfter [] rest := by
  have hone : tokensAfter [] (c :: rest) = tokensAfter [] [c] ++ tokensAfter [] rest := by
    rw [tokensAfter, tokensAfter, h]
    simp only [Bool.false_eq_true, if_false]
    split <;> rfl
  rw [List.append_assoc, List.singleton_append, tokensAfter_append_cons _ _ h, hone,
    tokensAfter_append_cons _ _ h, List.append_assoc]

lemma tokensAfter_word (w : List Char) {cs : List Char}
    (h : ∀ c ∈ cs, Text.isIdentifierRest c = true) : tokensAfter w cs = closeWord (w ++ cs) := by
  induction cs generalizing w with
  | nil => rw [tokensAfter, List.append_nil]
  | cons c cs ih =>
    rw [List.forall_mem_cons] at h
    rw [tokensAfter, if_pos h.1, ih _ h.2, List.append_assoc, List.singleton_append]

/-- The parts of statements that are the same for all names, with their tokens. -/
def parts : List (String × List Token) :=
  [("\n", []), ("    ", []), (": ", [.symbol ':']), (",\n", [.symbol ',']),
    ("\n    =>\n", [.symbol '=', .symbol '>']), (" \x7b\n", [.symbol '\x7b']),
    ("\n\x7d", [.symbol '\x7d']), (":create ", [.symbol ':', .word "create".toList]),
    ("::columns ", [.symbol ':', .symbol ':', .word "columns".toList])]

/-- They begin and end with characters that are not for words. -/
lemma parts_apart : ∀ e ∈ parts, (e.1.toList.head?.any fun c => !Text.isIdentifierRest c) = true ∧
    (e.1.toList.getLast?.any fun c => !Text.isIdentifierRest c) = true ∧
      tokensAfter [] e.1.toList = e.2 := by
  decide +kernel

/-- A text is cut into tokens on either side of such a part. -/
lemma tokensAfter_part {part : String} {ts : List Token} (h : (part, ts) ∈ parts)
    (cs ds : List Char) : tokensAfter [] (cs ++ (part.toList ++ ds)) =
      tokensAfter [] cs ++ (ts ++ tokensAfter [] ds) := by
  obtain ⟨hhead, hlast, htokens⟩ := parts_apart _ h
  simp only [Option.any_eq_true, Bool.not_eq_true'] at hhead hlast
  obtain ⟨c, hhead, hc⟩ := hhead
  obtain ⟨d, hlast, hd⟩ := hlast
  obtain ⟨init, hinit⟩ := List.getLast?_eq_some_iff.1 hlast
  have hafter : tokensAfter [] (part.toList ++ ds) = ts ++ tokensAfter [] ds := by
    rw [hinit, tokensAfter_concat_append _ _ hd, ← hinit, htokens]
  obtain ⟨rest, hrest⟩ := List.head?_eq_some_iff.1 hhead
  rw [← hafter, hrest, List.cons_append, tokensAfter_append_cons _ _ hc]

/-- A line break before a text and one after it do not matter. -/
lemma tokens_framed (text : String) : tokens ("\n" ++ text ++ "\n") = tokens text := by
  have hbreak : ("\n", []) ∈ parts := by simp [parts]
  have hlist : ("\n" ++ text ++ "\n").toList =
      [] ++ ("\n".toList ++ (text.toList ++ ("\n".toList ++ []))) := by simp
  rw [tokens, hlist, tokensAfter_part hbreak, tokensAfter_part hbreak, tokens]
  simp [tokensAfter_nil]

/-! ### Identifiers -/

lemma isIdentifierRest_of_isIdentifierStart {c : Char} (h : Text.isIdentifierStart c = true) :
    Text.isIdentifierRest c = true := by
  rw [Text.isIdentifierStart] at h
  rw [Text.isIdentifierRest]
  split at h
  next hascii => rw [if_pos hascii, Char.isAlphanum, h, Bool.true_or, Bool.true_or]
  next hascii => rw [if_neg hascii, h, Bool.true_or]

lemma isIdentifierRest_of_mem {n : String} (h : Text.isIdentifier n = true) :
    ∀ c ∈ n.toList, Text.isIdentifierRest c = true := by
  rw [Text.isIdentifier] at h
  split at h
  · cases h
  next c rest heq =>
    obtain ⟨hstart, hrest⟩ := Bool.and_eq_true_iff.1 h
    rw [heq, List.forall_mem_cons]
    exact ⟨isIdentifierRest_of_isIdentifierStart hstart, List.all_eq_true.1 hrest⟩

/-- An identifier is one token. -/
lemma tokensAfter_identifier {n : String} (h : Text.isIdentifier n = true) :
    tokensAfter [] n.toList = [.word n.toList] := by
  have hne : n.toList ≠ [] := by
    intro hnil
    simp [Text.isIdentifier, hnil] at h
  rw [tokensAfter_word [] (isIdentifierRest_of_mem h), List.nil_append, closeWord, if_neg hne]

/-! ### Columns -/

lemma isIdentifier_columnType (type : DataType) :
    Text.isIdentifier type.columnType = true := by
  cases type <;> rfl

/-- The tokens of a column. -/
def columnTokens (a : Attribute) : List Token :=
  [.word a.name.toList, .symbol ':', .word a.type.columnType.toList]

/-- The tokens of some columns. -/
def columnsTokens : List Attribute → List Token
  | [] => []
  | [a] => columnTokens a
  | a :: b :: rest => columnTokens a ++ .symbol ',' :: columnsTokens (b :: rest)

lemma tokensAfter_column {a : Attribute} (h : Text.isIdentifier a.name = true) :
    tokensAfter [] a.column.toList = columnTokens a := by
  have hmargin : ("    ", []) ∈ parts := by simp [parts]
  have hcolon : (": ", [.symbol ':']) ∈ parts := by simp [parts]
  have htype : Text.isIdentifier a.type.columnType = true := isIdentifier_columnType a.type
  have hlist : a.column.toList =
      [] ++ ("    ".toList ++ (a.name.toList ++ (": ".toList ++ a.type.columnType.toList))) := by
    simp [Attribute.column]
  rw [hlist, tokensAfter_part hmargin, tokensAfter_part hcolon, tokensAfter_identifier h,
    tokensAfter_identifier htype]
  rfl

lemma tokensAfter_columnLines {as : List Attribute}
    (h : ∀ a ∈ as, Text.isIdentifier a.name = true) :
    tokensAfter [] (columnLines as).toList = columnsTokens as := by
  induction as with
  | nil => rfl
  | cons a rest ih =>
    rw [List.forall_mem_cons] at h
    cases rest with
    | nil => simpa [columnLines, columnsTokens] using tokensAfter_column h.1
    | cons b rest =>
      have hcomma : (",\n", [.symbol ',']) ∈ parts := by simp [parts]
      have hlist : (columnLines (a :: b :: rest)).toList =
          a.column.toList ++ (",\n".toList ++ (columnLines (b :: rest)).toList) := by
        simp [columnLines, String.toList_intercalate]
      rw [hlist, tokensAfter_part hcomma, tokensAfter_column h.1, ih h.2]
      rfl

lemma typeOf?_columnType (type : DataType) : typeOf? type.columnType.toList = some type := by
  cases type <;> rfl

/-- Columns are read up to something else than a comma. -/
lemma readColumns_columnsTokens {as : List Attribute} (has : as ≠ []) {ts : List Token}
    (hts : ts.head? ≠ some (.symbol ',')) :
    readColumns (columnsTokens as ++ ts) = some (as, ts) := by
  induction as with
  | nil => exact absurd rfl has
  | cons a rest ih =>
    cases rest with
    | nil =>
      simp only [columnsTokens, columnTokens, List.cons_append, List.nil_append, readColumns,
        typeOf?_columnType, Option.bind_eq_bind, Option.bind_some, String.ofList_toList]
      split
      · exact absurd rfl hts
      · rfl
    | cons b rest =>
      have hrest := ih (List.cons_ne_nil _ _)
      simp only [columnsTokens, columnTokens, List.cons_append, List.nil_append, readColumns,
        typeOf?_columnType, Option.bind_eq_bind, Option.bind_some, String.ofList_toList, hrest]

/-! ### Fixed statements -/

/-- The fixed statements are read as what they are. -/
lemma read_fixed : ∀ e ∈ fixed, read e.1 = some e.2 := by
  decide +kernel

lemma front?_fixed : ∀ e ∈ fixed, e.1.front? = some '?' ∨ e.1 = relationsQuery := by
  decide +kernel

/-- A text that is none of these statements, as it begins otherwise, is read by its tokens. -/
lemma read_eq_readTokens {text : String} {c c' : Char} {i : Nat} (hfirst : text.toList[0]? = some c)
    (hc : c ≠ '?') (hother : text.toList[i]? = some c')
    (hc' : "::relations".toList[i]? ≠ some c') : read text = readTokens (tokens text) := by
  have hfixed : (fixed.find? fun e => e.1 = text) = none := by
    rw [List.find?_eq_none]
    intro e he heq
    obtain rfl := of_decide_eq_true heq
    -- all but one of the fixed statements begin with a question mark
    rcases front?_fixed e he with hfront | hquery
    · rw [String.front?_eq, List.head?_eq_getElem?, hfirst, Option.some.injEq] at hfront
      exact hc hfront
    · rw [hquery] at hother
      exact hc' hother
  rw [read, hfixed]

/-- A query for columns names the relation. -/
lemma read_columnsQuery {n : String} (hn : Text.isIdentifier n = true) :
    read (columnsQuery n) = some (.columns n) := by
  have hcolumns : ("::columns ", [.symbol ':', .symbol ':', .word "columns".toList]) ∈ parts := by
    simp [parts]
  have hlist : (columnsQuery n).toList = [] ++ ("::columns ".toList ++ n.toList) := by
    simp [columnsQuery]
  have hread : read (columnsQuery n) = readTokens (tokens (columnsQuery n)) :=
    read_eq_readTokens (i := 2) (by rw [hlist]; rfl) (by decide) (by rw [hlist]; rfl) (by decide)
  rw [hread, tokens, hlist, tokensAfter_part hcolumns, tokensAfter_nil, tokensAfter_identifier hn]
  simp [readTokens]

/-! ### The statement that creates a relation -/

/-- What stands between the opening brace and the end of the statement. -/
def inner (key rest : List Attribute) : List Char :=
  (columnLines key).toList ++
    if rest = [] then "\n\x7d".toList
    else "\n    =>\n".toList ++ ((columnLines rest).toList ++ "\n\x7d".toList)

section

variable {n : String} {key rest : List Attribute}

lemma toList_createStatement : (createStatement n key rest).toList =
    ":create ".toList ++ (n.toList ++ (" \x7b\n".toList ++ inner key rest)) := by
  rw [createStatement, inner]
  by_cases h : rest = [] <;> simp [h]

lemma read_createStatement_eq_readTokens : read (createStatement n key rest) =
    readTokens (tokens (createStatement n key rest)) :=
  read_eq_readTokens (i := 1) (by rw [toList_createStatement]; rfl) (by decide)
    (by rw [toList_createStatement]; rfl) (by decide)

/-- Whatever names there are in the statement, it creates a relation if it can be read. -/
lemma read_createStatement : read (createStatement n key rest) =
    readCreate (tokensAfter [] (n.toList ++ (" \x7b\n".toList ++ inner key rest))) := by
  have hcreate : (":create ", [.symbol ':', .word "create".toList]) ∈ parts := by simp [parts]
  rw [read_createStatement_eq_readTokens, tokens, toList_createStatement,
    ← List.nil_append (":create ".toList ++ _), tokensAfter_part hcreate, tokensAfter_nil,
    List.nil_append, List.cons_append, List.singleton_append, readTokens, if_pos rfl]

/-- It may stand between line breaks. -/
lemma read_framed : read ("\n" ++ createStatement n key rest ++ "\n") =
    read (createStatement n key rest) := by
  have hlist : ("\n" ++ createStatement n key rest ++ "\n").toList =
      '\n' :: ((createStatement n key rest).toList ++ ['\n']) := by simp
  have hframed : read ("\n" ++ createStatement n key rest ++ "\n") =
      readTokens (tokens ("\n" ++ createStatement n key rest ++ "\n")) :=
    read_eq_readTokens (i := 0) (by rw [hlist]; rfl) (by decide) (by rw [hlist]; rfl) (by decide)
  rw [hframed, read_createStatement_eq_readTokens, tokens_framed]

lemma exists_of_readCreate {ts : List Token} {s : Statement} (h : readCreate ts = some s) :
    ∃ n r, s = .create n r := by
  unfold readCreate at h
  split at h
  · obtain ⟨r, -, rfl⟩ := Option.map_eq_some_iff.1 h
    exact ⟨_, r, rfl⟩
  · cases h

/-- If the name of the relation is an identifier, it is read as this name. -/
lemma read_createStatement_of_name (hn : Text.isIdentifier n = true) :
    read (createStatement n key rest) =
      (readBody (tokensAfter [] (inner key rest))).map (.create n) := by
  have hbrace : (" \x7b\n", [.symbol '\x7b']) ∈ parts := by simp [parts]
  rw [read_createStatement, tokensAfter_part hbrace, tokensAfter_identifier hn,
    List.singleton_append, List.singleton_append, readCreate, String.ofList_toList]

/-- The tokens of the columns, if their names are identifiers. -/
lemma tokensAfter_inner (hcolumns : ∀ a ∈ key ++ rest, Text.isIdentifier a.name = true) :
    tokensAfter [] (inner key rest) = columnsTokens key ++
      if rest = [] then [.symbol '\x7d']
      else .symbol '=' :: .symbol '>' :: (columnsTokens rest ++ [.symbol '\x7d']) := by
  have hend : ("\n\x7d", [.symbol '\x7d']) ∈ parts := by simp [parts]
  have harrow : ("\n    =>\n", [.symbol '=', .symbol '>']) ∈ parts := by simp [parts]
  obtain ⟨hkey, hrest⟩ := List.forall_mem_append.1 hcolumns
  rw [inner, ← List.append_nil "\n\x7d".toList]
  by_cases h : rest = []
  · rw [if_pos h, if_pos h, tokensAfter_part hend, tokensAfter_columnLines hkey]
    rfl
  · rw [if_neg h, if_neg h, tokensAfter_part harrow, tokensAfter_part hend,
      tokensAfter_columnLines hkey, tokensAfter_columnLines hrest]
    rfl

/-- If all names are identifiers, the statement is read as it was meant; only a relation without a
key cannot be created. -/
lemma read_createStatement_of_names (hn : Text.isIdentifier n = true)
    (hcolumns : ∀ a ∈ key ++ rest, Text.isIdentifier a.name = true) :
    read (createStatement n key rest) =
      if key = [] then none else some (.create n ⟨key, rest⟩) := by
  rw [read_createStatement_of_name hn, tokensAfter_inner hcolumns, readBody]
  by_cases hkey : key = []
  · rw [if_pos hkey, hkey]
    by_cases hrest : rest = [] <;> simp [hrest, columnsTokens, readColumns]
  · rw [if_neg hkey]
    by_cases hrest : rest = []
    · rw [if_pos hrest, readColumns_columnsTokens hkey (by simp), hrest]
      rfl
    · rw [if_neg hrest, readColumns_columnsTokens hkey (by simp)]
      simp only [Option.bind_eq_bind, Option.bind_some]
      rw [readColumns_columnsTokens hrest (by simp)]
      rfl

end

end Statement

/-! ### Names -/

lemma toNat_lt_of_isAlphanum {c : Char} (h : c.isAlphanum = true) : c.toNat < 0x80 := by
  delta Char.isAlphanum Char.isAlpha Char.isUpper Char.isLower Char.isDigit at h
  simp only [Bool.or_eq_true, Bool.and_eq_true, decide_eq_true_eq, UInt32.le_iff_toNat_le] at h
  change c.val.toNat < 0x80
  have hbounds : 'Z'.val.toNat < 0x80 ∧ 'z'.val.toNat < 0x80 ∧ '9'.val.toNat < 0x80 := by decide
  omega

lemma isIdentifierStart_of_isAlpha {c : Char} (h : c.isAlpha = true) :
    Text.isIdentifierStart c = true := by
  have hascii : c.toNat < 0x80 := toNat_lt_of_isAlphanum (by rw [Char.isAlphanum, h, Bool.true_or])
  rw [Text.isIdentifierStart, if_pos hascii, h]

lemma isIdentifierRest_of_isAlphanum {c : Char} (h : c.isAlphanum = true ∨ c = '_') :
    Text.isIdentifierRest c = true := by
  have hascii : c.toNat < 0x80 := by
    rcases h with h | rfl
    · exact toNat_lt_of_isAlphanum h
    · decide
  rw [Text.isIdentifierRest, if_pos hascii]
  simpa using h

lemma isIdentifier_of_isWord {n : String} (h : isWord n = true) : Text.isIdentifier n = true := by
  rw [isWord] at h
  rw [Text.isIdentifier]
  generalize n.toList = cs at h ⊢
  cases cs with
  | nil => cases h
  | cons c rest =>
    obtain ⟨hstart, hrest⟩ := Bool.and_eq_true_iff.1 h
    refine Bool.and_eq_true_iff.2 ⟨isIdentifierStart_of_isAlpha hstart, ?_⟩
    rw [List.all_eq_true] at hrest ⊢
    exact fun c hc => isIdentifierRest_of_isAlphanum (by simpa using hrest c hc)

lemma isIdentifier_eq_false_of_underscore {n : String} (h : n.toList.head? = some '_') :
    Text.isIdentifier n = false := by
  obtain ⟨rest, hrest⟩ := List.head?_eq_some_iff.1 h
  have hstart : Text.isIdentifierStart '_' = false := rfl
  rw [Text.isIdentifier, hrest]
  simp [hstart]

namespace Tables

open Engine Statement

variable {t t' : Tables} {s : Script} {rows : List ResultRow} {n : String} {r : StoredRelation}

/-! ### Running scripts -/

lemma run_eq (t : Tables) (s : Script) : run t s =
    match t.run? s with
    | some (rows, t') => (some rows, t')
    | none => (none, t) := rfl

lemma run_of_run? (h : t.run? s = some (rows, t')) : run t s = (some rows, t') := by
  rw [run_eq, h]

/-- A script that is not refused has run. -/
lemma exists_run?_of_takes (h : Takes t s) : ∃ rows, t.run? s = some (rows, next t s) := by
  cases hrun : t.run? s with
  | none =>
    refine absurd ?_ h
    rw [run_eq, hrun]
  | some x =>
    obtain ⟨rows, t'⟩ := x
    rw [next, run_of_run? hrun]
    exact ⟨rows, rfl⟩

lemma next_of_not_takes (h : ¬ Takes t s) : next t s = t := by
  cases hrun : t.run? s with
  | none => rw [next, run_eq, hrun]
  | some x =>
    refine absurd ?_ h
    rw [Takes, run_of_run? hrun]
    simp

lemma run?_of_read {text : String} {st : Statement} (h : read text = some st)
    (parameters : List (String × Cell)) : t.run? ⟨text, parameters⟩ =
      if (catalog? st).all t.stored.contains then t.carryOut st parameters else none := by
  rw [run?, h]
  rfl

/-! ### Creating a relation -/

/-- Only a name that is free can be created; if it is an identifier the relation is stored, else
nothing changes. -/
lemma create_cases (h : t.create n r = some t') : t.stored.contains n = false ∧
    ((Text.isIdentifier n = true ∧
        t'.toContents = { t.toContents with stored := t.stored.insert n r }) ∨
      Text.isIdentifier n = false ∧ t' = t) := by
  rw [create] at h
  split at h
  · cases h
  next hvalid =>
    simp only [Bool.or_eq_true, not_or, Bool.not_eq_true] at hvalid
    refine ⟨hvalid.1.1.1, ?_⟩
    split at h
    next hname => exact .inl ⟨hname, (Option.some.inj h) ▸ rfl⟩
    next hname =>
      split at h
      · exact .inr ⟨Bool.eq_false_iff.2 hname, (Option.some.inj h).symm⟩
      · cases h

section

variable {key rest : List Attribute} (h : Takes t ⟨createStatement n key rest, []⟩)

include h

/-- The statement for a relation creates some relation if it is not refused. -/
lemma exists_create_of_takes : ∃ m r, read (createStatement n key rest) = some (.create m r) ∧
    t.create m r = some (next t ⟨createStatement n key rest, []⟩) := by
  obtain ⟨rows, hrun⟩ := exists_run?_of_takes h
  cases hread : read (createStatement n key rest) with
  | none =>
    rw [run?, hread] at hrun
    cases hrun
  | some st =>
    obtain ⟨m, r, rfl⟩ := exists_of_readCreate (read_createStatement.symm.trans hread)
    rw [run?_of_read hread] at hrun
    obtain ⟨t', ht', hpair⟩ := Option.map_eq_some_iff.1 hrun
    exact ⟨m, r, rfl, (Prod.mk.inj hpair).2 ▸ ht'⟩

lemma exists_create_of_takes_of_name (hn : Text.isIdentifier n = true) :
    ∃ r, t.create n r = some (next t ⟨createStatement n key rest, []⟩) := by
  obtain ⟨m, r, hread, hcreate⟩ := exists_create_of_takes h
  rw [read_createStatement_of_name hn] at hread
  obtain ⟨r', -, heq⟩ := Option.map_eq_some_iff.1 hread
  obtain ⟨rfl, rfl⟩ := Statement.create.inj heq
  exact ⟨r', hcreate⟩

lemma create_of_takes_of_names (hn : Text.isIdentifier n = true)
    (hcolumns : ∀ a ∈ key ++ rest, Text.isIdentifier a.name = true) :
    t.create n ⟨key, rest⟩ = some (next t ⟨createStatement n key rest, []⟩) := by
  obtain ⟨m, r, hread, hcreate⟩ := exists_create_of_takes h
  rw [read_createStatement_of_names hn hcolumns] at hread
  split at hread
  · cases hread
  · obtain ⟨rfl, rfl⟩ := Statement.create.inj (Option.some.inj hread)
    exact hcreate

end

/-- Whatever names there are in the statement, it leaves the rows and what is stored. -/
lemma contents_next_create (t : Tables) (n : String) (key rest : List Attribute) :
    ∃ stored, (next t ⟨createStatement n key rest, []⟩).toContents =
        { t.toContents with stored := stored } ∧
      ∀ m, t.stored.contains m = true → stored.contains m = true := by
  by_cases h : Takes t ⟨createStatement n key rest, []⟩
  · obtain ⟨m, r, -, hcreate⟩ := exists_create_of_takes h
    obtain ⟨-, ⟨-, hstored⟩ | ⟨-, hsame⟩⟩ := create_cases hcreate
    · exact ⟨_, hstored, fun _ hm => contains_insert_iff.2 (.inr hm)⟩
    · exact ⟨_, congrArg toContents hsame, fun _ hm => hm⟩
  · exact ⟨_, congrArg toContents (next_of_not_takes h), fun _ hm => hm⟩

/-! ### Rows -/

lemma mapM_identifierRow? (rows : List (IdentifierPlace × String)) :
    (rows.map Database.identifierCell).mapM identifierRow? = some rows := by
  induction rows with
  | nil => rfl
  | cons row rest ih =>
    rw [List.map_cons, List.mapM_cons, ih]
    rfl

lemma carryOut_identifierScript (t : Tables) (rows : List (IdentifierPlace × String)) :
    t.carryOut .putIdentifiers (Database.identifierScript rows).parameters =
      some ([], ⟨t.toContents.putIdentifiers rows, t.named⟩) := by
  change (((rows.map Database.identifierCell).mapM identifierRow?).bind _).map _ = _
  rw [mapM_identifierRow?]
  rfl

lemma carryOut_constraintScript (t : Tables) (name kind definition : String) :
    t.carryOut .putConstraint (Database.constraintScript name kind definition).parameters =
      some ([], ⟨t.toContents.putConstraint name ⟨kind, definition⟩, t.named⟩) := by
  rfl

lemma firstColumn_map_text {α : Type} (xs : List α) (f : α → String) :
    Database.firstColumn (xs.map fun x => [.text (f x)]) = xs.map f := by
  rw [Database.firstColumn, List.filterMap_map]
  exact congrFun List.filterMap_eq_map xs

/-- What has been carried out is what the statement asks for. -/
lemma carryOut_of_takes {text : String} {st : Statement} (hread : read text = some st)
    {parameters : List (String × Cell)} (h : Takes t ⟨text, parameters⟩) :
    ∃ rows, t.carryOut st parameters = some (rows, next t ⟨text, parameters⟩) := by
  obtain ⟨rows, hrun⟩ := exists_run?_of_takes h
  rw [run?_of_read hread] at hrun
  split at hrun
  · exact ⟨rows, hrun⟩
  · cases hrun

/-- A statement that is taken leads to what carrying it out leads to. -/
lemma next_of_carryOut {text : String} {st : Statement} (hread : read text = some st)
    {parameters : List (String × Cell)} (hcarried : t.carryOut st parameters = some (rows, t'))
    (h : Takes t ⟨text, parameters⟩) : next t ⟨text, parameters⟩ = t' := by
  obtain ⟨rows', hnext⟩ := carryOut_of_takes hread h
  exact (Prod.mk.inj (Option.some.inj (hnext.symm.trans hcarried))).2

/-- A query gives the rows that it asks for, if the catalog that it is about is there. -/
lemma run_of_query {text : String} {st : Statement} (hread : read text = some st)
    (hcatalog : (catalog? st).all t.stored.contains = true) {parameters : List (String × Cell)}
    (h : t.carryOut st parameters = some (rows, t')) :
    (run t ⟨text, parameters⟩).1 = some rows := by
  rw [run_of_run? ((run?_of_read hread parameters).trans ((if_pos hcatalog).trans h))]

instance : LawfulEngine Tables where
  contents := toContents
  IsName n := Text.isIdentifier n = true
  isName_of_isWord h := isIdentifier_of_isWord h
  not_isName_of_underscore h := by simp [isIdentifier_eq_false_of_underscore h]
  isName_of_stored {t n} h := t.named n (mem_keys_iff.2 h)
  refused h := congrArg toContents (next_of_not_takes h)
  run_framed t n key rest := by
    rw [run_eq, run_eq, run?, run?, read_framed]
  create_of_stored {t n} key rest h htakes := by
    -- what is stored has an identifier for its name, so the statement is about this name
    obtain ⟨r, hcreate⟩ := exists_create_of_takes_of_name htakes (t.named n (mem_keys_iff.2 h))
    cases h.symm.trans (create_cases hcreate).1
  create_keeps t n key rest m h := by
    obtain ⟨stored, hstored, hkeeps⟩ := contents_next_create t n key rest
    rw [hstored]
    exact hkeeps m h
  create_identifierRows t n key rest := by
    obtain ⟨stored, hstored, -⟩ := contents_next_create t n key rest
    rw [hstored]
  create_constraintRows t n key rest := by
    obtain ⟨stored, hstored, -⟩ := contents_next_create t n key rest
    rw [hstored]
  create_stores {t n key rest} hn h := by
    obtain ⟨r, hcreate⟩ := exists_create_of_takes_of_name h hn
    obtain ⟨-, ⟨-, hstored⟩ | ⟨hnot, -⟩⟩ := create_cases hcreate
    · rw [hstored]
      exact contains_insert_iff.2 (.inl rfl)
    · cases hn.symm.trans hnot
  create_columns {t n key rest} hn hcolumns h := by
    obtain ⟨-, ⟨-, hstored⟩ | ⟨hnot, -⟩⟩ :=
      create_cases (create_of_takes_of_names h hn hcolumns)
    · rw [hstored]
    · cases hn.symm.trans hnot
  put_identifiers {t rows} h := by
    have hread : read identifierInsert = some .putIdentifiers :=
      read_fixed (identifierInsert, .putIdentifiers) (by simp [fixed])
    exact congrArg toContents (next_of_carryOut hread (carryOut_identifierScript t rows) h)
  put_constraint {t name kind definition} h := by
    have hread : read constraintInsert = some .putConstraint :=
      read_fixed (constraintInsert, .putConstraint) (by simp [fixed])
    exact congrArg toContents
      (next_of_carryOut hread (carryOut_constraintScript t name kind definition) h)
  relations t := by
    have hread : read relationsQuery = some .relations :=
      read_fixed (relationsQuery, .relations) (by simp [fixed])
    refine ⟨_, run_of_query hread rfl rfl, ?_⟩
    rw [firstColumn_map_text _ fun n => n, List.map_id']
  columns {t n r} h := by
    have hread := read_columnsQuery (t.named n (mem_keys_iff.2 (contains_iff.2 ⟨r, h⟩)))
    refine ⟨_, run_of_query hread rfl (by rw [carryOut, h]; rfl), ?_⟩
    rw [firstColumn_map_text _ fun n => n, List.map_id']
  identifiers {t} h n := by
    have hread : read identifiersQuery = some .identifiers :=
      read_fixed (identifiersQuery, .identifiers) (by simp [fixed])
    exact run_of_query hread h rfl
  constraintNames {t} h := by
    have hread : read Schema.constraintNames = some .constraintNames :=
      read_fixed (Schema.constraintNames, .constraintNames) (by simp [fixed])
    refine ⟨_, run_of_query hread h rfl, ?_⟩
    rw [firstColumn_map_text _ fun n => n, List.map_id']
  constraintLookup {t} h n := by
    have hread : read Schema.constraintLookup = some .constraintLookup :=
      read_fixed (Schema.constraintLookup, .constraintLookup) (by simp [fixed])
    refine ⟨_, run_of_query hread h rfl, ?_⟩
    simp [contains]
  constraintDefinition {t} h n := by
    have hread : read Schema.constraintDefinition = some .constraintDefinition :=
      read_fixed (Schema.constraintDefinition, .constraintDefinition) (by simp [fixed])
    exact ⟨_, run_of_query hread h rfl, firstColumn_map_text _ _⟩

/-! ### A new database -/

/-- A relation can be created whose names are identifiers, if it has a key and no column twice and
if its name is free. -/
lemma run_createStatement {key rest : List Attribute} (hn : Text.isIdentifier n = true)
    (hcolumns : ∀ a ∈ key ++ rest, Text.isIdentifier a.name = true) (hkey : key ≠ [])
    (hnodup : ((key ++ rest).map (·.name)).Nodup) (hfree : t.stored.contains n = false) :
    run t ⟨createStatement n key rest, []⟩ = (some [], { t with
      stored := t.stored.insert n ⟨key, rest⟩
      named := named_insert t.named hn ⟨key, rest⟩ }) := by
  have hread := read_createStatement_of_names hn hcolumns
  rw [if_neg hkey] at hread
  rw [List.map_append] at hnodup
  refine run_of_run? ?_
  rw [run?_of_read hread]
  simpa [catalog?, carryOut, create, hfree, hkey, StoredRelation.columns, hnodup, hn] using
    List.forall_mem_append.1 hcolumns

/-- The statements for relations of this kind are taken one after the other. -/
lemma exists_runAll_creations {es : List (String × StoredRelation)} (medium : Medium)
    (hwords : ∀ e ∈ es, isWord e.1 = true ∧ ∀ a ∈ e.2.key ++ e.2.rest, isWord a.name = true)
    (hkeys : ∀ e ∈ es, e.2.key ≠ [] ∧ ((e.2.key ++ e.2.rest).map (·.name)).Nodup)
    (hnames : (es.map (·.1)).Nodup) (hfree : ∀ e ∈ es, t.stored.contains e.1 = false) :
    ∃ t', Database.runAll ⟨medium, t⟩ (es.map Database.creation) = (.ok (), ⟨medium, t'⟩) := by
  induction es generalizing t with
  | nil => exact ⟨t, rfl⟩
  | cons e rest ih =>
    rw [List.forall_mem_cons] at hwords hkeys hfree
    rw [List.map_cons, List.nodup_cons] at hnames
    obtain ⟨⟨hname, hcolumns⟩, hwords⟩ := hwords
    have hrun : run t (Database.creation e) = _ :=
      (LawfulEngine.run_framed ..).trans (run_createStatement (isIdentifier_of_isWord hname)
        (fun a ha => isIdentifier_of_isWord (hcolumns a ha)) hkeys.1.1 hkeys.1.2 hfree.1)
    rw [List.map_cons, Database.runAll, hrun]
    -- the names differ, so the others are still free
    refine ih hwords hkeys.2 hnames.2 fun e' he' => ?_
    rw [Bool.eq_false_iff]
    intro hthere
    rcases contains_insert_iff.1 hthere with heq | hthere
    · exact hnames.1 (heq ▸ List.mem_map_of_mem he')
    · cases hthere.symm.trans (hfree.2 e' he')

/-- What the engine holds for a new database: the catalogs. -/
def fresh : Tables := ⟨⟨.ofList Database.catalogRelations, .empty, .empty⟩, by decide +kernel⟩

/-- A new database of this engine can be had. -/
lemma connect_empty : Database.connect .memory Tables.empty = .ok ⟨.memory, fresh⟩ := by
  have hkeys : ∀ e ∈ Database.catalogRelations,
      e.2.key ≠ [] ∧ ((e.2.key ++ e.2.rest).map (·.name)).Nodup := by
    decide
  have habsent : Database.missingCatalogs ⟨.memory, Tables.empty⟩ =
      Database.catalogRelations.map Database.creation := by
    rw [Database.missingCatalogs_eq]
    rfl
  obtain ⟨t, ht⟩ := exists_runAll_creations (t := Tables.empty) .memory
    Database.isWord_catalogRelations hkeys (by decide) fun _ _ => rfl
  have hconnect : Database.connect .memory Tables.empty = .ok ⟨.memory, t⟩ := by
    rw [Database.connect, habsent, ht]
  have hcontents : t.toContents = fresh.toContents := Database.contents_of_connect hconnect
  have hsame : t = fresh := by
    obtain ⟨contents, named⟩ := t
    obtain rfl : contents = fresh.toContents := hcontents
    rfl
  rw [hconnect, hsame]

end Tables

end ClassSchema
